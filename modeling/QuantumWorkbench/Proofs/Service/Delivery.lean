import Mathlib.Data.List.Forall2
import QuantumWorkbench.Proofs.Circuit.FirstSteps
import QuantumWorkbench.Proofs.Circuit.RoundTrip
import QuantumWorkbench.Proofs.Debugger.Course
import QuantumWorkbench.Service.Evaluator

/-!
# What goes over the wire

An evaluator that asks a service sends one request for each question, and answers with what the response
says. A service that is as strict with circuits as the loader accepts every question about the first steps
of a valid circuit.

## Contents
- `RemoteEvaluator.request`, `RemoteEvaluator.evaluate_run`: a question is one request, and the reply to it.
- `WithoutSlashes`: an address and the same address less the slashes at its end.
- `Brings`: a reply is a success that can be read; `answerTo_eq_ok_iff`: exactly those are answers.
- `Execution.Writes`: an order as it is read on the other side.
- `Circuit.ofJson_upTo`: the first steps of a valid circuit are accepted by the loader.
- `Carries`, `RemoteEvaluator.carries_request`: what a request brings, and where.
- `Debugger.delivery`: the requests of an evaluator, its answers, and what a session makes of them.
-/

namespace QuantumWorkbench

/-! ## Addresses -/

/-- The first text is the second one with slashes behind it, and the second one does not end in a slash. -/
def WithoutSlashes (url address : String) : Prop :=
  (∃ n, url.toList = address.toList ++ List.replicate n '/') ∧ address.toList.getLast? ≠ some '/'

theorem Client.withoutSlashes_trimSlashes (url : String) : WithoutSlashes url (trimSlashes url) := by
  let slashes := url.toList.reverse.takeWhile (· = '/')
  let others := url.toList.reverse.dropWhile (· = '/')
  have kept : (trimSlashes url).toList = others.reverse := by
    rw [trimSlashes, String.toList_ofList]
  have dropped : slashes = List.replicate slashes.length '/' :=
    List.eq_replicate_iff.mpr ⟨rfl, fun c hc => by simpa using List.mem_takeWhile_imp hc⟩
  constructor
  · refine ⟨slashes.length, ?_⟩
    calc url.toList = (slashes ++ others).reverse := by
          rw [List.takeWhile_append_dropWhile, List.reverse_reverse]
      _ = others.reverse ++ slashes.reverse := List.reverse_append
      _ = (trimSlashes url).toList ++ List.replicate slashes.length '/' := by
          rw [kept, ← List.reverse_replicate, ← dropped]
  · rw [kept, List.getLast?_reverse]
    intro slash
    have stops := List.head?_dropWhile_not (· = '/') url.toList.reverse
    rw [show others.head? = some '/' from slash] at stops
    cases stops

/-! ## Answers -/

/-- What is answered, by the reply to the request. -/
def answerTo : Except String Response → Answer
  | .ok response => (response.content Evaluation.parse?).mapError ServiceError.toEvaluatorError
  | .error reason => .error (.broken reason)

/-- The reply is a success, and its body reads as the evaluation. -/
def Brings (reply : Except String Response) (a : Evaluation) : Prop :=
  ∃ response, reply = .ok response ∧ (200 ≤ response.status ∧ response.status ≤ 299) ∧
    Evaluation.parse? response.body = some a

theorem Response.isSuccess_iff {r : Response} : r.isSuccess = true ↔ 200 ≤ r.status ∧ r.status ≤ 299 := by
  rw [isSuccess, Bool.and_eq_true, decide_eq_true_eq, decide_eq_true_eq, Nat.lt_succ_iff]

theorem Response.content_eq_ok_iff {α : Type} {r : Response} {read? : String → Option α} {a : α} :
    r.content read? = .ok a ↔ r.isSuccess = true ∧ read? r.body = some a := by
  unfold content
  split
  · rename_i success
    cases read? r.body <;> simp [success]
  · rename_i failure
    refine iff_of_false ?_ fun both => failure both.1
    split <;> exact nofun

/-- **An answer is a success exactly if the response is one and can be read.** -/
theorem answerTo_eq_ok_iff {reply : Except String Response} {a : Evaluation} :
    answerTo reply = .ok a ↔ Brings reply a := by
  cases reply with
  | error reason =>
      refine iff_of_false nofun ?_
      rintro ⟨_, ⟨⟩, -⟩
  | ok response =>
      rw [answerTo, mapError_eq_ok_iff, Response.content_eq_ok_iff, Response.isSuccess_iff]
      constructor
      · rintro ⟨success, read⟩
        exact ⟨response, rfl, success, read⟩
      · rintro ⟨_, ⟨⟩, success, read⟩
        exact ⟨success, read⟩

theorem isOk_answerTo_iff {reply : Except String Response} :
    (answerTo reply).isOk = true ↔ ∃ a, Brings reply a :=
  isOk_iff.trans (exists_congr fun _ => answerTo_eq_ok_iff)

/-! ## Requests -/

namespace RemoteEvaluator

/-- The request that asks about a circuit. -/
def request (e : RemoteEvaluator) (c : Circuit) : Request :=
  match e.provider with
  | none => { method := .post, url := e.client.baseUrl ++ "/api/simulate", body := some c.toJson.compact }
  | some provider =>
    let order : Execution := { circuit := c, provider, shots := e.shots, backendName := e.backendName }
    { method := .post, url := e.client.baseUrl ++ "/api/execute", body := some order.toJson.compact }

variable {e : RemoteEvaluator} {service : Service} {c : Circuit}

/-- **A question is one request, and the reply to it.** -/
theorem evaluate_run (sent : List Request) : e.evaluate service c sent =
    (answerTo (service.reply sent.length (e.request c)), sent ++ [e.request c]) := by
  -- The calls for the two routes differ in nothing but the request.
  have called : ∀ r : Request, (do
      let answer ← Client.call service r Evaluation.parse?
      return answer.mapError ServiceError.toEvaluatorError : Exchange Answer) sent =
        (answerTo (service.reply sent.length r), sent ++ [r]) := by
    intro r
    cases replied : service.reply sent.length r <;>
      simp only [Client.call, Service.send, bind, StateT.bind, replied] <;> rfl
  unfold evaluate request
  cases e.provider with
  | none => exact called _
  | some provider => exact called _

theorem evaluateUpTo_run (k : Index) (sent : List Request) : (e.evaluator service).evaluateUpTo c k sent =
    (answerTo (service.reply sent.length (e.request (c.upTo k))), sent ++ [e.request (c.upTo k)]) :=
  evaluate_run sent

/-- **Several questions are several requests**, in order, and each is answered by the reply to its own. -/
theorem mapM_evaluateUpTo (limits : List Index) (sent : List Request) :
    limits.mapM ((e.evaluator service).evaluateUpTo c) sent =
      (((limits.map fun k => e.request (c.upTo k)).zipIdx sent.length).map fun q => answerTo (service.reply q.2 q.1),
        sent ++ limits.map fun k => e.request (c.upTo k)) := by
  induction limits generalizing sent with
  | nil => rw [List.map_nil, List.append_nil]; rfl
  | cons k limits ih =>
      have behind := ih (sent ++ [e.request (c.upTo k)])
      rw [List.length_append, List.length_singleton, List.append_assoc] at behind
      rw [Debugger.mapM_cons_of (evaluateUpTo_run k sent) behind]
      rfl

end RemoteEvaluator

/-! ## Orders -/

/-- The value writes the order. -/
structure Execution.Writes (order : Execution) (v : Json) : Prop where
  record : v.IsRecord
  circuit : ∃ w, v.field? "circuit" = some w ∧ order.circuit.Writes w
  provider : v.field? "provider" = some (.str order.provider)
  shots : v.field? "shots" = some (.int order.shots.toNat)
  backendName : v.field? "backend_name" = order.backendName.map .str

namespace Execution

theorem writes_toJson (order : Execution) : order.Writes order.toJson := by
  have new : "backend_name" ∉ ["circuit", "provider", "shots"] := by decide
  have nodup : ["circuit", "provider", "shots"].Nodup := by decide
  constructor
  · refine ⟨_, rfl, ?_⟩
    apply Keyed.nodup_optional
    · exact nodup
    · exact new
  · exact ⟨_, rfl, order.circuit.writes_toJson⟩
  · rfl
  · rfl
  · apply Keyed.lookup_optional
    exact new

theorem Writes.canonical {order : Execution} {v : Json} (h : order.Writes v) : order.Writes v.canonical := by
  refine ⟨h.record.canonical, ?_, ?_, ?_, ?_⟩
  · obtain ⟨w, found, writes⟩ := h.circuit
    refine ⟨w.canonical, ?_, writes.canonical⟩
    rw [Json.field?_canonical h.record, found, Option.map_some]
  · rw [Json.field?_canonical h.record, h.provider, Option.map_some, Json.canonical_str]
  · rw [Json.field?_canonical h.record, h.shots, Option.map_some, Json.canonical_int]
  · rw [Json.field?_canonical h.record, h.backendName, Option.map_map]
    rfl

/-- An order is written with one container more open than its circuit. -/
theorem fits_toJson (order : Execution) (room : Nat) : order.toJson.Fits (room + 5) := by
  refine .obj fun e he => ?_
  rcases List.mem_append.mp he with always | optional
  · simp only [List.mem_cons, List.not_mem_nil, or_false] at always
    rcases always with rfl | rfl | rfl
    · exact order.circuit.fits_toJson room
    · exact .str _
    · exact Circuit.fits_index _ _
  · obtain ⟨name, -, rfl⟩ := Option.map_eq_some_iff.mp (Option.mem_toList.mp optional)
    exact .str _

end Execution

/-- **The first steps of a valid circuit are accepted** wherever they are written: the steps that are declared are
those of the gates that remain. -/
theorem Circuit.ofJson_upTo {c : Circuit} (valid : c.validate = .ok ()) {k : Index} {v : Json}
    (writes : (c.upTo k).Writes v) : ofJson v = .ok (c.upTo k) := by
  rw [ofJson_of_writes writes]
  exact reload_eq_ok_iff.mpr ⟨⟨validate_upTo valid k, spanned_upTo c k⟩, rfl⟩

/-! ## Requests as they arrive -/

/-- The request brings the circuit where the settings say: to be simulated, or to be executed by the provider with
the shots and on the machine that are set. What is brought is read by the loader. -/
inductive Carries (s : Settings) (c : Circuit) : Request → Prop where
  | simulate {address body : String} {v : Json} (unprovided : s.provider = none)
      (trimmed : WithoutSlashes s.endpoint address) (read : Json.parse? body = some v)
      (accepted : Circuit.ofJson v = .ok c) :
      Carries s c { method := .post, url := address ++ "/api/simulate", body := some body }
  | execute {address body provider : String} {v w : Json} (provided : s.provider = some provider)
      (trimmed : WithoutSlashes s.endpoint address) (read : Json.parse? body = some v)
      (names : v.field? "provider" = some (.str provider)) (shots : v.field? "shots" = some (.int s.shots.toNat))
      (machine : v.field? "backend_name" = s.backendName.map .str) (holds : v.field? "circuit" = some w)
      (accepted : Circuit.ofJson w = .ok c) :
      Carries s c { method := .post, url := address ++ "/api/execute", body := some body }

theorem RemoteEvaluator.carries_request (s : Settings) {c : Circuit} (valid : c.validate = .ok ()) (k : Index) :
    Carries s (c.upTo k) ((ofSettings s).request (c.upTo k)) := by
  have trimmed := Client.withoutSlashes_trimSlashes s.endpoint
  unfold request ofSettings
  cases provided : s.provider with
  | none =>
      exact .simulate provided trimmed (Json.parse?_compact ((c.upTo k).fits_toJson 123))
        (Circuit.ofJson_upTo valid (c.upTo k).writes_toJson.canonical)
  | some provider =>
      let order : Execution := { circuit := c.upTo k, provider, shots := s.shots, backendName := s.backendName }
      have writes := order.writes_toJson.canonical
      obtain ⟨w, holds, circuit⟩ := writes.circuit
      exact .execute provided trimmed (Json.parse?_compact (order.fits_toJson 122)) writes.provider writes.shots
        writes.backendName holds (Circuit.ofJson_upTo valid circuit)

namespace Debugger

/-! ## Sessions over a service -/

/-- The question about the first steps of a circuit, after the requests `sent`: it is one request that carries it,
and a success is exactly what the reply brings. -/
def DeliversQuestion (s : Settings) (service : Service) (c : Circuit) (limit : Index) (sent : List Request) : Prop :=
  ∃ request answer, Carries s (c.upTo limit) request ∧
    ((RemoteEvaluator.ofSettings s).evaluator service).evaluateUpTo c limit sent = (answer, sent ++ [request]) ∧
    ∀ a, answer = .ok a ↔ Brings (service.reply sent.length request) a

/-- A single step, after the requests `sent`: it is one request, which carries one step more than were made. If the
reply brings something, then the session advances by that step and shows it, and otherwise the session stays where it
is. -/
def DeliversStep (s : Settings) (service : Service) (k : Controller) (σ : Session) (sent : List Request) : Prop :=
  ∃ request outcome k', Carries s (σ.circuit.upTo (σ.cursor + 1)) request ∧
    k.step ((RemoteEvaluator.ofSettings s).evaluator service) sent = (.ok (.step outcome, k'), sent ++ [request]) ∧
    (∀ a, Brings (service.reply sent.length request) a → outcome = .advanced (σ.cursor + 1) ∧
      k'.session? = some { σ.advance (σ.cursor + 1) a with inFlight := false }) ∧
    ((¬ ∃ a, Brings (service.reply sent.length request) a) → ∃ fault, outcome = .failed fault ∧
      k'.session? = some { σ.fail fault with inFlight := false })

/-- A run of steps, after the requests `sent`: each request carries one step more than the one before it, and those
up to the number of steps taken are the ones whose replies bring something. -/
def DeliversRun (s : Settings) (service : Service) (k : Controller) (σ : Session) (sent : List Request) : Prop :=
  ∃ requests taken reason k' σ',
    k.continueToBreakpoint ((RemoteEvaluator.ofSettings s).evaluator service) sent =
      (.ok (.run taken reason, k'), sent ++ requests) ∧
    List.Forall₂ (fun limit request => Carries s (σ.circuit.upTo limit) request)
      (limitsBehind σ.cursor requests.length) requests ∧
    taken.toNat ≤ requests.length ∧
    (∀ i request, requests[i]? = some request →
      (i < taken.toNat ↔ ∃ a, Brings (service.reply (sent.length + i) request) a)) ∧
    k'.session? = some σ' ∧ σ'.circuit = σ.circuit ∧ σ'.cursor.toNat = σ.cursor.toNat + taken.toNat

section Sessions

variable (s : Settings) (service : Service) {c : Circuit} {k : Controller} {σ : Session}

theorem deliversQuestion (valid : c.validate = .ok ()) (limit : Index) (sent : List Request) :
    DeliversQuestion s service c limit sent :=
  ⟨_, _, RemoteEvaluator.carries_request s valid limit, RemoteEvaluator.evaluateUpTo_run limit sent,
    fun _ => answerTo_eq_ok_iff⟩

theorem deliversStep (valid : σ.circuit.validate = .ok ()) (running : k.session? = some σ)
    (free : σ.inFlight = false) (within : σ.cursor < σ.circuit.stepCount) (sent : List Request) :
    DeliversStep s service k σ sent := by
  obtain ⟨request, answer, carries, asked, brings⟩ := deliversQuestion s service valid (σ.cursor + 1) sent
  cases answer with
  | error error =>
      obtain ⟨k', stepped, shown⟩ := step_failed running free within asked
      refine ⟨request, _, k', carries, stepped, ?_, fun _ => ⟨_, rfl, shown⟩⟩
      intro a brought
      cases (brings a).mpr brought
  | ok a =>
      obtain ⟨k', stepped, shown⟩ := step_advanced running free within asked
      refine ⟨request, _, k', carries, stepped, ?_, fun nothing => absurd ⟨a, (brings a).mp rfl⟩ nothing⟩
      intro a' brought
      cases (brings a').mpr brought
      exact ⟨rfl, shown⟩

theorem deliversRun (valid : σ.circuit.validate = .ok ()) (running : k.session? = some σ)
    (free : σ.inFlight = false) (sent : List Request) : DeliversRun s service k σ sent := by
  obtain ⟨answers, reason, σ', w', course⟩ := Course.exists_course
    ((RemoteEvaluator.ofSettings s).evaluator service) { σ with inFlight := true } sent
  obtain ⟨taken, k', continued, counted, shown⟩ := course.continueToBreakpoint running free
  let requests := (limitsBehind σ.cursor answers.length).map fun limit =>
    (RemoteEvaluator.ofSettings s).request (σ.circuit.upTo limit)
  -- The questions of the course are its requests, and its answers are what the replies come to.
  obtain ⟨told, rfl⟩ : (requests.zipIdx sent.length).map (fun q => answerTo (service.reply q.2 q.1)) = answers ∧
      sent ++ requests = w' := Prod.mk.inj ((RemoteEvaluator.mapM_evaluateUpTo _ _).symm.trans course.asked)
  have length : requests.length = answers.length := by
    rw [List.length_map, limitsBehind, List.length_map, List.length_range']
  refine ⟨requests, taken, reason, k', _, continued, ?_, ?_, ?_, shown, ?_, ?_⟩
  · rw [length, List.forall₂_map_right_iff, List.forall₂_same]
    intro limit _
    exact RemoteEvaluator.carries_request s valid limit
  · rw [counted, length]
    exact List.countP_le_length
  · intro i request place
    have answered : answers[i]? = some (answerTo (service.reply (sent.length + i) request)) := by
      rw [← told, List.getElem?_map, List.getElem?_zipIdx, place]
      rfl
    rw [counted, ← course.isOk_iff_lt answered, isOk_answerTo_iff]
  · exact congrArg Prod.fst course.same
  · rw [counted]
    exact course.cursor

/-- **What goes over the wire is the question that was asked**, of a valid circuit and with any settings. Each question
is one request. It goes to the address that is set, and its body is read by the loader as the very first steps that
were asked for. An answer is a success exactly if the response is one and can be read, and it is by such responses
that a session over the service advances, one step each. -/
theorem delivery (valid : c.validate = .ok ()) :
    (∀ limit sent, DeliversQuestion s service c limit sent) ∧
    ∀ k σ sent, k.session? = some σ → σ.circuit = c → σ.inFlight = false →
      (σ.cursor < c.stepCount → DeliversStep s service k σ sent) ∧ DeliversRun s service k σ sent := by
  refine ⟨deliversQuestion s service valid, ?_⟩
  rintro k σ sent running rfl free
  exact ⟨fun within => deliversStep s service valid running free within sent,
    deliversRun s service valid running free sent⟩

end Sessions

/-- A session on a circuit whose first steps are empty. -/
def onGapped : Session := { circuit := .gapped, generation := 1, states := [] }

def underway : Controller := { session? := some onGapped, generation := 1 }

/-- An address with slashes at its end, and a provider. -/
def viaProvider : Settings := { endpoint := "http://localhost//", provider := some "ibm" }

/-- A success that can be read, and then a refusal. -/
def fickle : Service := .scripted [{ status := 200, body := "\x7b\x7d" }, { status := 503, body := "" }]

theorem delivery_gapped :
    Circuit.gapped.validate = .ok () ∧ onGapped.inFlight = false ∧ 0 < Circuit.gapped.stepCount ∧
    DeliversRun viaProvider fickle underway onGapped [] ∧
    ∃ request k', Carries viaProvider (Circuit.gapped.upTo 1) request ∧
      underway.step ((RemoteEvaluator.ofSettings viaProvider).evaluator fickle) [] =
        (.ok (.step (.advanced 1), k'), [request]) := by
  have valid : Circuit.gapped.validate = .ok () := rfl
  have within : 0 < Circuit.gapped.stepCount := by decide
  obtain ⟨step, run⟩ := (delivery viaProvider fickle valid).2 underway onGapped [] rfl rfl rfl
  obtain ⟨request, outcome, k', carries, stepped, advances, -⟩ := step within
  have brought : Brings (fickle.reply 0 request) { measurements := .empty, states := [] } :=
    ⟨_, rfl, by decide, rfl⟩
  obtain ⟨rfl, -⟩ := advances _ brought
  exact ⟨valid, rfl, within, run, request, k', carries, stepped⟩

end Debugger

end QuantumWorkbench
