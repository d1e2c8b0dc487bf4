import QuantumWorkbench.Circuit.Wire
import QuantumWorkbench.Evaluation.Evaluator
import QuantumWorkbench.Evaluation.Wire
import QuantumWorkbench.Json.Printer
import QuantumWorkbench.Service.Exchange
import QuantumWorkbench.Settings.Basic

/-!
# The client of the service

## Contents
- `ServiceError`: why a call failed, and `ServiceError.toEvaluatorError`, the same to those who only
  know evaluators.
- `Client`: an address and a credential.
- `Client.simulate`, `Client.execute`, `Client.generate`, `Client.health`: the calls. Each sends one
  request and reads its response; `Client.generate` alone sends the credential, and without one it
  sends nothing.
-/

namespace QuantumWorkbench

/-! ## Errors -/

/-- Why a call to the service failed. -/
inductive ServiceError where
  | exchange (cause : ExchangeFault)
  /-- Data could not be written or read. -/
  | unreadable (reason : String)
  /-- The credential was not accepted. -/
  | unauthorized (reason : String)
  | missingToken
  /-- The service turned the request down. -/
  | refused (status : Nat) (reason : String)
  | unhealthy (reason : String)
  /-- The service made a circuit that is none. -/
  | invalidCircuit (fault : Fault)
deriving DecidableEq, Repr

namespace ServiceError

def message : ServiceError → String
  | exchange cause => s!"HTTP error: {cause.message}"
  | unreadable reason => s!"JSON error: {reason}"
  | unauthorized reason => s!"Authentication failed: {reason}"
  | missingToken => "Authentication required (set QSTEP_TOKEN)"
  | refused status reason => s!"API error ({status}): {reason}"
  | unhealthy reason => s!"Service unhealthy: {reason}"
  | invalidCircuit fault => s!"Generated circuit rejected: {fault.message}"

/-- The error as an evaluator reports it. -/
def toEvaluatorError : ServiceError → EvaluatorError
  | exchange cause => .broken cause.message
  | unreadable reason => .unreadable reason
  | e@(unauthorized _) | e@missingToken => .unauthorized e.message
  | refused status reason => .refused status reason
  | unhealthy reason => .unavailable reason
  | invalidCircuit fault => .invalidCircuit fault

end ServiceError

/-! ## Responses -/

def detailField : Field (Option String) :=
  { name := "detail", read := Json.readOption Json.readString, missing? := some none }

/-- The text that the body of a refusal gives as its reason. -/
def detail? (body : String) : Option String := do
  let v ← Json.read? body
  let read := Json.readRecord "ErrorBody" [detailField.toCheck] detailField.get
  (← (read v).toOption)

/-- The reason of a refusal: what its body says, or else the phrase of its status. -/
def Response.reason (r : Response) : String :=
  (detail? r.body).getD ((reasonPhrase? r.status).getD "Unknown error")

/-- The content of a response, or why it was refused. -/
def Response.content {α : Type} (r : Response) (read? : String → Option α) :
    Except ServiceError α :=
  if r.isSuccess then
    match read? r.body with
    | some a => .ok a
    | none => .error (.exchange .undecodable)
  else if r.status = 401 ∨ r.status = 403 then .error (.unauthorized r.reason)
  else .error (.refused r.status r.reason)

def healthStatusField : Field String := { name := "status", read := Json.readString }

/-- What the service says of its own state. -/
def healthStatus? (body : String) : Option String := do
  let v ← Json.read? body
  (Json.readRecord "HealthResponse" [healthStatusField.toCheck] healthStatusField.get v).toOption

/-- A service is well only if it says so in this word. -/
def isHealthy (status : String) : Bool := status = "healthy"

/-! ## Clients -/

/-- Where the service is, and the credential for it. -/
structure Client where
  /-- The address, which does not end in a slash. -/
  baseUrl : String
  token : Option String := none
deriving DecidableEq, Repr

/-- An order to execute a circuit on the machine of a provider. -/
structure Execution where
  circuit : Circuit
  provider : String
  shots : UInt32
  backendName : Option String
deriving DecidableEq, Repr

def Execution.toJson (e : Execution) : Json :=
  .obj <|
    [("circuit", e.circuit.toJson), ("provider", .str e.provider), ("shots", .int e.shots.toNat)]
    ++ (e.backendName.map fun name => ("backend_name", Json.str name)).toList

namespace Client

/-- An address without the slashes at its end. -/
def trimSlashes (url : String) : String :=
  String.ofList (url.toList.reverse.dropWhile (· = '/')).reverse

def withBaseUrl (c : Client) (url : String) : Client := { c with baseUrl := trimSlashes url }

def withToken (c : Client) (token : String) : Client := { c with token := some token }

/-- The client that settings describe. -/
def ofSettings (s : Settings) : Client :=
  { baseUrl := trimSlashes s.endpoint, token := s.token }

/-- The client on one line, with the token hidden. -/
def describe (c : Client) : String :=
  "SimulatorClient \x7b base_url: " ++ literalText c.baseUrl ++ ", token: "
    ++ optionText (Settings.hiddenToken c.token) ++ " \x7d"

/-- Sends a request and reads its response. -/
def call {α : Type} (service : Service) (r : Request) (read? : String → Option α) :
    Exchange (Except ServiceError α) := do
  match ← service.send r with
  | .ok response => return response.content read?
  | .error fault => return .error (.exchange fault)

/-- Has a circuit simulated. -/
def simulate (c : Client) (service : Service) (circuit : Circuit) :
    Exchange (Except ServiceError Evaluation) :=
  call service
    { method := .post, url := c.baseUrl ++ "/api/simulate", body := some circuit.toJson.compact }
    Evaluation.parse?

/-- Has a circuit executed. -/
def execute (c : Client) (service : Service) (order : Execution) :
    Exchange (Except ServiceError Evaluation) :=
  call service
    { method := .post, url := c.baseUrl ++ "/api/execute", body := some order.toJson.compact }
    Evaluation.parse?

/-- Asks how the service is. -/
def health (c : Client) (service : Service) : Exchange (Except ServiceError String) :=
  call service { method := .get, url := c.baseUrl ++ "/api/health" } healthStatus?

/-- The request for a circuit that fits a description. -/
def generationRequest (c : Client) (token prompt : String) : Request where
  method := .post
  url := c.baseUrl ++ "/api/chat/generate"
  authorization := some (headerValue ("Bearer " ++ token))
  body := some (Json.obj [("prompt", .str prompt)]).compact

/-- Asks for a circuit that fits a description. It is read as strictly as any other
untrusted value. -/
def generate (c : Client) (service : Service) (prompt : String) :
    Exchange (Except ServiceError Circuit) := do
  match c.token with
  | none => return .error .missingToken
  | some token =>
    if isHeaderValue token then
      let made ← call service (c.generationRequest token prompt) Json.parse?
      return made.bind fun v => (Circuit.ofJson v).mapError .invalidCircuit
    else return .error (.exchange .unwritable)

end Client

end QuantumWorkbench
