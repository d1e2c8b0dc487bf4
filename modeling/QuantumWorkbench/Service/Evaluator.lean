import QuantumWorkbench.Service.Client

/-!
# The service as an evaluator

## Contents
- `RemoteEvaluator`: simulates on the service, or executes on the machines of a provider if there is
  one; `RemoteEvaluator.health` asks whether the service is well.
- `Client.generator`: the service as a generator of circuits.
-/

namespace QuantumWorkbench

/-- A client with the way in which circuits are evaluated. -/
structure RemoteEvaluator where
  client : Client
  provider : Option String := none
  shots : UInt32 := 1024
  backendName : Option String := none
deriving DecidableEq, Repr

namespace RemoteEvaluator

/-- The evaluator that settings describe. -/
def ofSettings (s : Settings) : RemoteEvaluator :=
  { client := .ofSettings s
    provider := s.provider
    shots := s.shots
    backendName := s.backendName }

def withProvider (e : RemoteEvaluator) (provider : String) (shots : UInt32) : RemoteEvaluator :=
  { e with provider := some provider, shots }

def name (e : RemoteEvaluator) : String :=
  if e.provider.isSome then "http-execute" else "http-simulate"

/-- The answer of the service to a circuit. -/
def evaluate (e : RemoteEvaluator) (service : Service) (circuit : Circuit) : Exchange Answer := do
  let answer ← match e.provider with
    | some provider =>
      e.client.execute service { circuit, provider, shots := e.shots, backendName := e.backendName }
    | none => e.client.simulate service circuit
  return answer.mapError ServiceError.toEvaluatorError

def evaluator (e : RemoteEvaluator) (service : Service) : Evaluator Exchange where
  name := e.name
  evaluate := e.evaluate service

/-- Whether the service is there and well. -/
def health (e : RemoteEvaluator) (service : Service) : Exchange (Except EvaluatorError Unit) := do
  match ← e.client.health service with
  | .error error => return .error (.unavailable error.message)
  | .ok status =>
    if isHealthy status then return .ok ()
    else return .error (ServiceError.unhealthy s!"service status: {status}").toEvaluatorError

end RemoteEvaluator

namespace Client

/-- The name of the generator that a client is. -/
def generatorName : String := "http-generate"

/-- Why no circuit was made. A refusal is one of generation and not of evaluation. -/
def generationError : ServiceError → EvaluatorError
  | .refused status reason => .notGenerated s!"{reason} ({status})"
  | e => e.toEvaluatorError

def generator (c : Client) (service : Service) : Generator Exchange where
  generate prompt := (·.mapError generationError) <$> c.generate service prompt

end Client

end QuantumWorkbench
