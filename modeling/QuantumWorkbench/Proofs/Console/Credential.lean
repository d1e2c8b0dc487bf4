import Mathlib.Data.List.Forall2
import QuantumWorkbench.Console.Program
import QuantumWorkbench.Proofs.Console.Sending
import QuantumWorkbench.Proofs.Service.Delivery
import QuantumWorkbench.Proofs.Settings.Token

/-!
# What can be seen of a token

Nothing, except in one header of one request. Two runs of the program that differ in the token alone look the same
from outside, and they send the same requests but for that header.

## Contents
- `bearer`, `Request.Twins`: a header that presents a token, and the same request under two tokens.
- `Surroundings.SameButToken`: surroundings of a command that differ in the token alone.
- `ProgramRun.Twins`: runs that look the same from outside.
- `Surroundings.SameButToken.run_eq`: a command that makes no circuits does the same under both tokens.
- `Client.generateValidated_run`: a circuit is made by one request, and by the reply to it.
- `Command.sent_generate`: under a token, a command for a circuit sends one request.
- `credential_hidden`: two runs under two tokens, a run under one, and a run without a token.
-/

namespace QuantumWorkbench

/-! ## Requests -/

/-- The path of the call that has a circuit made. -/
def generationPath : String := "/api/chat/generate"

/-- The value of the header that presents a token, as it arrives. -/
def bearer (token : String) : String := headerValue ("Bearer " ++ token)

example : bearer "alpha" = "Bearer alpha" := by decide +kernel

/-- The request is for something else than a circuit to be made, and presents no token. -/
structure Request.Bare (r : Request) : Prop where
  unauthorized : r.authorization = none
  elsewhere : ∀ address, r.url ≠ address ++ generationPath

/-- The same request in two runs, the first one under the token `a` and the second one under `b`. -/
inductive Request.Twins (a b : String) : Request → Request → Prop where
  | bare {r : Request} (bare : r.Bare) : Twins a b r r
  | generation (address : String) (body : Option String) : Twins a b
      { method := .post, url := address ++ generationPath, authorization := some (bearer a), body }
      { method := .post, url := address ++ generationPath, authorization := some (bearer b), body }

/-- The replies of the service do not depend on what a request presents. -/
def Service.IgnoresCredentials (service : Service) : Prop :=
  ∀ k r, service.reply k r = service.reply k { r with authorization := none }

theorem Service.scripted_ignoresCredentials (responses : List Response) : (scripted responses).IgnoresCredentials :=
  fun _ _ => rfl

/-- An address with a short route behind it does not end in the path of the call, unless this path ends in the route. -/
theorem append_route_ne {route : String} (other : ¬ route.toList <:+ generationPath.toList)
    (short : route.toList.length ≤ generationPath.toList.length) (base address : String) :
    base ++ route ≠ address ++ generationPath := by
  intro same
  have chars : base.toList ++ route.toList = address.toList ++ generationPath.toList := by
    rw [← String.toList_append, ← String.toList_append, same]
  have behind : route.toList <:+ address.toList ++ generationPath.toList := ⟨base.toList, chars⟩
  exact other (List.suffix_of_suffix_length_le behind (List.suffix_append _ _) short)

theorem RemoteEvaluator.bare_request (e : RemoteEvaluator) (c : Circuit) : (e.request c).Bare := by
  unfold request
  cases e.provider with
  | none => exact ⟨rfl, append_route_ne (by decide) (by decide) _⟩
  | some provider => exact ⟨rfl, append_route_ne (by decide) (by decide) _⟩

/-- Evaluators send nothing but bare requests. -/
theorem Surroundings.keeps_evaluator (s : Surroundings) (settings : Settings) :
    (s.evaluator settings).Keeps fun sent => ∀ r ∈ sent, r.Bare := by
  unfold evaluator
  cases settings.evaluator with
  | simulator => exact ⟨fun _ => .pure _, fun _ _ => .pure _⟩
  | service =>
      have one : ∀ c, Keeps (fun sent => ∀ r ∈ sent, r.Bare)
          ((RemoteEvaluator.ofSettings settings).evaluate s.service c) := by
        intro c sent held
        rw [RemoteEvaluator.evaluate_run, List.forall_mem_append, List.forall_mem_singleton]
        exact ⟨held, RemoteEvaluator.bare_request _ c⟩
      exact ⟨one, fun c limit => one (c.upTo limit)⟩

/-! ## Runs -/

/-- The input file of a command. -/
def Command.input? : Command → Option String
  | parse input _ | render input _ _ | validate input | simulate input _ _ | debug input _ _ _ => some input
  | generate _ _ _ _ | version => none

/-- The settings file that a command names. -/
def Command.config? : Command → Option String
  | simulate _ config _ | debug _ config _ _ | generate _ _ _ config => config
  | parse _ _ | render _ _ _ | validate _ | version => none

/-- The surroundings differ for a command in nothing but the token, which is `a` in the first ones and `b` in the
second ones. It comes from a variable or from a settings file, and not necessarily from the same place. -/
structure Surroundings.SameButToken (a b : String) (c : Command) (s t : Surroundings) : Prop where
  typed : s.input = t.input
  draws : s.draws = t.draws
  service : s.service = t.service
  writable : s.files.isWritable = t.files.isWritable
  read : ∀ path, c.input? = some path → s.files.read path = t.files.read path
  env : ∀ name, name ≠ Settings.tokenVariable → s.env name = t.env name
  settings : FileView.SameButToken (s.files.settingsText c.config?) (t.files.settingsText c.config?)
  first : s.files.token? s.env c.config? = some a
  second : t.files.token? t.env c.config? = some b

/-- The runs look the same from outside, and sent the same requests under two tokens. -/
structure ProgramRun.Twins (a b : String) (x y : ProgramRun) : Prop where
  code : x.code = y.code
  out : x.console.out = y.console.out
  err : x.console.err = y.console.err
  written : x.console.written = y.console.written
  sent : List.Forall₂ (Request.Twins a b) x.console.sent y.console.sent

section Runs

variable {a b : String} {c : Command} {s t : Surroundings}

theorem ProgramRun.twins_ofResult (result : Except CommandError Unit) (console : Console) {sent sent' : List Request}
    (twins : List.Forall₂ (Request.Twins a b) sent sent') :
    Twins a b (ofResult result { console with sent }) (ofResult result { console with sent := sent' }) := by
  cases result with
  | error => exact ⟨rfl, rfl, rfl, rfl, twins⟩
  | ok => exact ⟨rfl, rfl, rfl, rfl, twins⟩

theorem ProgramRun.twins_ofHalt (halt : Halt) : Twins a b (ofHalt halt) (ofHalt halt) := by
  have nothing : (ofHalt halt).console.sent = [] := by cases halt <;> rfl
  refine ⟨rfl, rfl, rfl, rfl, ?_⟩
  rw [nothing]
  exact .nil

theorem ProgramRun.sent_ofResult (result : Except CommandError Unit) (console : Console) :
    (ofResult result console).console.sent = console.sent := by
  cases result <;> rfl

namespace Surroundings.SameButToken

/-- **Settings are loaded alike**: both times they are not for the same reason, or they are the same but for the
tokens that were given. -/
theorem loadSettings (same : s.SameButToken a b c t) (evaluator : Option EvaluatorKind) :
    (∃ error, s.files.loadSettings s.env c.config? evaluator = .error error ∧
      t.files.loadSettings t.env c.config? evaluator = .error error) ∨
    ∃ u : Settings, s.files.loadSettings s.env c.config? evaluator = .ok (u.withToken (some a)) ∧
      t.files.loadSettings t.env c.config? evaluator = .ok (u.withToken (some b)) := by
  have agree : FileView.Agree (s.files.loadSettings s.env c.config? evaluator)
      (t.files.loadSettings t.env c.config? evaluator) := FileView.agree_loadSettings same.env same.settings
  generalize loaded : s.files.loadSettings s.env c.config? evaluator = x at agree
  generalize loaded' : t.files.loadSettings t.env c.config? evaluator = y at agree
  cases agree with
  | error error => exact .inl ⟨error, rfl, rfl⟩
  | @ok u u' alike =>
      have first : u.token = some a := (FileView.token_loadSettings loaded).trans same.first
      have second : u'.token = some b := (FileView.token_loadSettings loaded').trans same.second
      refine .inr ⟨u, ?_, ?_⟩
      · rw [← first, Settings.withToken_self]
      · rw [alike.withToken, ← second, Settings.withToken_self]

theorem input (same : s.SameButToken a b c t) {path : String} (named : c.input? = some path) :
    s.files.input path = t.files.input path := by
  rw [FileView.input, FileView.input, same.read path named]

theorem loadCircuit (same : s.SameButToken a b c t) {path : String} (named : c.input? = some path) :
    s.files.loadCircuit path = t.files.loadCircuit path := by
  rw [FileView.loadCircuit, FileView.loadCircuit, same.input named]

theorem write (same : s.SameButToken a b c t) (path text : String) :
    CommandM.write s.files path text = CommandM.write t.files path text := by
  rw [CommandM.write, CommandM.write, same.writable]

/-- Evaluators do not depend on the token. -/
theorem evaluator (same : s.SameButToken a b c t) (u : Settings) :
    s.evaluator (u.withToken (some a)) = t.evaluator (u.withToken (some b)) := by
  have kind : ∀ token, (u.withToken token).evaluator = u.evaluator := fun _ => rfl
  rw [Surroundings.evaluator, Surroundings.evaluator, kind, kind, same.service, same.draws]
  cases u.evaluator <;> rfl

/-- A command goes on alike from settings that differ in the token if what it does with them is the same. -/
theorem bind_loadSettings {α : Type} (same : s.SameButToken a b c t) (evaluator : Option EvaluatorKind)
    {f g : Settings → CommandM α} (alike : ∀ u : Settings, f (u.withToken (some a)) = g (u.withToken (some b))) :
    (liftM (s.files.loadSettings s.env c.config? evaluator) >>= f : CommandM α) =
      liftM (t.files.loadSettings t.env c.config? evaluator) >>= g := by
  rcases same.loadSettings evaluator with ⟨error, loaded, loaded'⟩ | ⟨u, loaded, loaded'⟩
  · rw [loaded, loaded', CommandM.lift_error_bind, CommandM.lift_error_bind]
  · rw [loaded, loaded', CommandM.lift_ok_bind, CommandM.lift_ok_bind, alike]

/-- **A command that makes no circuits does the same under both tokens.** -/
theorem run_eq (same : s.SameButToken a b c t) (other : ¬ c.IsGeneration) : c.run s = c.run t := by
  cases c with
  | parse path format => simp only [Command.run, Command.runParse, same.input rfl]
  | render path dialect output =>
      simp only [Command.run, Command.runRender, same.loadCircuit rfl, same.write]
  | validate path => simp only [Command.run, Command.runValidate, same.input rfl]
  | simulate path config evaluator =>
      refine same.bind_loadSettings evaluator fun u => ?_
      simp only [same.evaluator u, same.loadCircuit rfl]
  | debug path config evaluator breakpoints =>
      simp only [Command.run, Command.runDebug, Command.openPrompt, bind_assoc, pure_bind]
      refine same.bind_loadSettings evaluator fun u => ?_
      simp only [same.evaluator u, same.loadCircuit rfl, same.typed]
  | generate prompt dialect output config => exact absurd ⟨prompt, dialect, output, config, rfl⟩ other
  | version => rfl

end Surroundings.SameButToken

/-- **A command that makes no circuits cannot be told apart by the token**, and sends nothing but bare requests. -/
theorem ProgramRun.twins_of_other (same : s.SameButToken a b c t) (other : ¬ c.IsGeneration) :
    Twins a b (.ofResult (c.execute s []).1 (c.execute s []).2) (.ofResult (c.execute t []).1 (c.execute t []).2) := by
  have bare : ∀ r ∈ (c.execute t []).2.sent, r.Bare :=
    Command.keeps_run t.keeps_evaluator other { sent := [] } (List.forall_mem_nil _)
  rw [Command.execute, same.run_eq other]
  exact twins_ofResult _ (c.execute t []).2 (List.forall₂_same.mpr fun r sent => .bare (bare r sent))

/-! ## Generation -/

namespace Client

/-- What comes of the reply to a request for a circuit. -/
def made : Except String Response → Except ServiceError Circuit
  | .error reason => .error (.exchange (.undelivered reason))
  | .ok response => do
    let v ← response.content Json.parse?
    (Circuit.ofJson v).mapError .invalidCircuit

/-- What is told of a circuit that was made, or was not. It has to pass validation. -/
def checked (made : Except ServiceError Circuit) : Except EvaluatorError Circuit := do
  let c ← made.mapError generationError
  c.validate.mapError .invalidCircuit
  return c

variable {client : Client}

/-- **A circuit is made by one request, and by the reply to it.** -/
theorem generateValidated_run {token : String} (given : client.token = some token) (valid : isHeaderValue token = true)
    (service : Service) (prompt : String) (sent : List Request) :
    (client.generator service).generateValidated prompt sent =
      (checked (made (service.reply sent.length (client.generationRequest token prompt))),
        sent ++ [client.generationRequest token prompt]) := by
  let request := client.generationRequest token prompt
  have asked : client.generate service prompt sent =
      (made (service.reply sent.length request), sent ++ [request]) := by
    simp only [generate, given, valid, if_true]
    cases replied : service.reply sent.length request <;>
      simp only [call, Service.send, bind, StateT.bind, replied, request] <;> rfl
  exact congrArg (Prod.map checked id) asked

/-- Without a token nothing is sent. -/
theorem generateValidated_without (missing : client.token = none) (service : Service) (prompt : String)
    (sent : List Request) :
    (client.generator service).generateValidated prompt sent = (checked (.error .missingToken), sent) := by
  have refused : client.generate service prompt sent = (.error .missingToken, sent) := by
    rw [generate, missing]
    rfl
  exact congrArg (Prod.map checked id) refused

end Client

namespace Command

/-- What becomes of a circuit that was made, or was not. -/
def deliver (files : FileView) (dialect : Dialect) (output : Option String) :
    Except EvaluatorError Circuit → CommandM Unit
  | .error error => throw (.notGenerated error)
  | .ok c => do
    CommandM.note s!"✓ Generated {c.name} ({c.sizeText})"
    let text := c.toScript dialect
    match output with
    | some path =>
      CommandM.write files path text
      CommandM.note s!"  Written to {path}"
    | none => CommandM.print text

theorem runGenerate_eq (s : Surroundings) (prompt : String) (dialect : Dialect) (output config : Option String) :
    runGenerate s prompt dialect output config = (do
      let settings ← s.files.loadSettings s.env config none
      let generator := (Client.ofSettings settings).generator s.service
      deliver s.files dialect output (← CommandM.exchange (generator.generateValidated prompt))) := rfl

/-- What becomes of a circuit does not depend on what was sent for it. -/
theorem deliver_run (files : FileView) (dialect : Dialect) (output : Option String)
    (made : Except EvaluatorError Circuit) (sent : List Request) :
    (deliver files dialect output made).run.run { sent } =
      (((deliver files dialect output made).run.run {}).1,
        { ((deliver files dialect output made).run.run {}).2 with sent }) := by
  cases made with
  | error => rfl
  | ok c =>
      cases output with
      | none => rfl
      | some path =>
          simp only [deliver, CommandM.write]
          cases files.isWritable path <;> rfl

section

variable {prompt : String} {dialect : Dialect} {output config : Option String}

theorem execute_generate_of_error {error : CommandError}
    (loaded : s.files.loadSettings s.env config none = .error error) (sent : List Request) :
    (generate prompt dialect output config).execute s sent = (.error error, { sent }) := by
  rw [execute, run, runGenerate_eq, loaded, CommandM.lift_error_bind]
  rfl

/-- **What a command for a circuit does**: one exchange, and what becomes of its result. -/
theorem execute_generate {settings : Settings} (loaded : s.files.loadSettings s.env config none = .ok settings)
    {sent sent' : List Request} {made : Except EvaluatorError Circuit}
    (asked : ((Client.ofSettings settings).generator s.service).generateValidated prompt sent = (made, sent')) :
    (generate prompt dialect output config).execute s sent =
      (((deliver s.files dialect output made).run.run {}).1,
        { ((deliver s.files dialect output made).run.run {}).2 with sent := sent' }) := by
  let asking := ((Client.ofSettings settings).generator s.service).generateValidated prompt
  rw [← deliver_run, execute, run, runGenerate_eq, loaded, CommandM.lift_ok_bind]
  show (deliver s.files dialect output (asking sent).1).run.run { sent := (asking sent).2 } = _
  rw [show asking sent = _ from asked]

/-- **Under a token, a command for a circuit sends one request.** -/
theorem sent_generate {settings : Settings} (loaded : s.files.loadSettings s.env config none = .ok settings)
    (given : settings.token = some a) (valid : isHeaderValue a = true) (sent : List Request) :
    ((generate prompt dialect output config).execute s sent).2.sent =
      sent ++ [(Client.ofSettings settings).generationRequest a prompt] := by
  rw [execute_generate loaded (Client.generateValidated_run given valid _ _ sent)]

/-- **Without a token, a command for a circuit sends nothing.** -/
theorem sent_generate_without (missing : s.files.token? s.env config = none) (sent : List Request) :
    ((generate prompt dialect output config).execute s sent).2.sent = sent := by
  cases loaded : s.files.loadSettings s.env config none with
  | error => rw [execute_generate_of_error loaded]
  | ok settings =>
      have without : (Client.ofSettings settings).token = none := (FileView.token_loadSettings loaded).trans missing
      rw [execute_generate loaded (Client.generateValidated_without without _ _ sent)]

end

end Command

theorem Surroundings.SameButToken.deliver (same : s.SameButToken a b c t) (dialect : Dialect)
    (output : Option String) (made : Except EvaluatorError Circuit) :
    Command.deliver s.files dialect output made = Command.deliver t.files dialect output made := by
  cases made with
  | error => rfl
  | ok => simp only [Command.deliver, same.write]

/-- **Two commands for a circuit differ in the header that presents the token.** -/
theorem ProgramRun.twins_of_generation (valid : isHeaderValue a = true) (valid' : isHeaderValue b = true)
    (same : s.SameButToken a b c t) (ignores : s.service.IgnoresCredentials) (generation : c.IsGeneration) :
    Twins a b (.ofResult (c.execute s []).1 (c.execute s []).2) (.ofResult (c.execute t []).1 (c.execute t []).2) := by
  obtain ⟨prompt, dialect, output, config, rfl⟩ := generation
  rcases same.loadSettings none with ⟨error, loaded, loaded'⟩ | ⟨u, loaded, loaded'⟩
  all_goals rw [Command.config?] at loaded loaded'
  · rw [Command.execute_generate_of_error loaded, Command.execute_generate_of_error loaded']
    exact twins_ofResult (.error error) {} .nil
  · let client := Client.ofSettings u
    let made := Client.checked (Client.made (s.service.reply 0 (client.generationRequest a prompt)))
    have replied : t.service.reply 0 (client.generationRequest b prompt) =
        s.service.reply 0 (client.generationRequest a prompt) := by
      rw [← same.service, ignores, ignores 0 (client.generationRequest a prompt)]
      rfl
    have asked : ((Client.ofSettings (u.withToken (some a))).generator s.service).generateValidated prompt [] =
        (made, [client.generationRequest a prompt]) := Client.generateValidated_run rfl valid _ _ []
    have asked' : ((Client.ofSettings (u.withToken (some b))).generator t.service).generateValidated prompt [] =
        (made, [client.generationRequest b prompt]) :=
      (Client.generateValidated_run rfl valid' _ _ []).trans
        (congrArg (fun reply => (Client.checked (Client.made reply), [client.generationRequest b prompt])) replied)
    rw [Command.execute_generate loaded asked, Command.execute_generate loaded' asked', same.deliver]
    exact twins_ofResult _ _ (.cons (.generation client.baseUrl _) .nil)

end Runs

/-- **A token cannot be seen**, except in one header. Take any two tokens that a header can hold.
* What is written of settings, and of the client that they describe, is the same under both.
* Any command line prints the same under both, on either side, leaves the same files and ends with the same code.
  The requests are the same too, and present no token, except those for a circuit: these differ in the header that
  presents the token. The service may reply to what it likes, the token apart.
* A command for a circuit whose settings load with a token sends one request: the description, posted to the address
  that the settings name, with the token in its header.
* A command for a circuit that is given no token sends nothing. -/
theorem credential_hidden {a b : String} (valid : isHeaderValue a = true) (valid' : isHeaderValue b = true) :
    (∀ u : Settings, (u.withToken (some a)).toJson = (u.withToken (some b)).toJson ∧
      (u.withToken (some a)).describe = (u.withToken (some b)).describe ∧
      (Client.ofSettings (u.withToken (some a))).describe = (Client.ofSettings (u.withToken (some b))).describe) ∧
    (∀ words s t, (∀ c, Command.ofArguments words = .ok c → Surroundings.SameButToken a b c s t) →
      s.service.IgnoresCredentials → ProgramRun.Twins a b (runProgram words s) (runProgram words t)) ∧
    (∀ words prompt dialect output config s u,
      Command.ofArguments words = .ok (.generate prompt dialect output config) →
      s.files.loadSettings s.env config none = .ok u → u.token = some a → (runProgram words s).console.sent =
        [{ method := .post
           url := Client.trimSlashes u.endpoint ++ generationPath
           authorization := some (bearer a)
           body := some (Json.obj [("prompt", .str prompt)]).compact }]) ∧
    ∀ words prompt dialect output config s, Command.ofArguments words = .ok (.generate prompt dialect output config) →
      s.files.token? s.env config = none → (runProgram words s).console.sent = [] := by
  refine ⟨fun u => ⟨rfl, rfl, rfl⟩, ?_, ?_, ?_⟩
  · intro words s t same ignores
    cases read : Command.ofArguments words with
    | error halt =>
        simp only [runProgram, read]
        exact ProgramRun.twins_ofHalt halt
    | ok c =>
        simp only [runProgram, read]
        by_cases generation : c.IsGeneration
        · exact ProgramRun.twins_of_generation valid valid' (same c read) ignores generation
        · exact ProgramRun.twins_of_other (same c read) generation
  · intro words prompt dialect output config s u read loaded given
    simp only [runProgram, read, ProgramRun.sent_ofResult]
    exact Command.sent_generate loaded given valid []
  · intro words prompt dialect output config s read missing
    simp only [runProgram, read, ProgramRun.sent_ofResult]
    exact Command.sent_generate_without missing []

/-- Surroundings with nothing in them but a service that refuses everything. -/
def bareSurroundings : Surroundings where
  files := { read := fun _ => .error .missing, isWritable := fun _ => false }
  env _ := none
  service := .scripted []
  draws := .ofSeed 0

/-- The same, with a token in its variable. -/
def tokenInVariable : Surroundings :=
  { bareSurroundings with env := fun name => if name = "QSTEP_TOKEN" then some "alpha" else none }

/-- The same, with a token in the settings of the user. -/
def tokenInFile : Surroundings :=
  { bareSurroundings with files := { bareSurroundings.files with userSettings := some "token: beta\n" } }

theorem read_tokenInFile : Settings.ofText (some "token: beta\n") = .ok { token := some "beta" } :=
  toOption_eq_some_iff.mp (by decide +kernel)

theorem loadSettings_tokenInVariable :
    tokenInVariable.files.loadSettings tokenInVariable.env none none = .ok { token := some "alpha" } :=
  toOption_eq_some_iff.mp (by decide +kernel)

theorem loadSettings_tokenInFile :
    tokenInFile.files.loadSettings tokenInFile.env none none = .ok { token := some "beta" } :=
  toOption_eq_some_iff.mp (by decide +kernel)

/-- The words for a circuit to be made. -/
def bellWords : List String := ["generate", "-p", "bell"]

/-- The request for it, under a token. -/
def bellRequest (token : String) : Request where
  method := .post
  url := "http://localhost:8000/api/chat/generate"
  authorization := some ("Bearer " ++ token)
  body := some "\x7b\"prompt\":\"bell\"\x7d"

theorem ofArguments_bellWords : Command.ofArguments bellWords = .ok (.generate "bell" .qiskit none none) :=
  toOption_eq_some_iff.mp (by decide +kernel)

theorem credential_hidden_bell :
    isHeaderValue "alpha" = true ∧ isHeaderValue "beta" = true ∧
    Command.ofArguments bellWords = .ok (.generate "bell" .qiskit none none) ∧
    ProgramRun.Twins "alpha" "beta" (runProgram bellWords tokenInVariable) (runProgram bellWords tokenInFile) ∧
    (runProgram bellWords tokenInVariable).console.sent = [bellRequest "alpha"] ∧
    (runProgram bellWords tokenInFile).console.sent = [bellRequest "beta"] ∧
    (runProgram bellWords bareSurroundings).console.sent = [] := by
  have valid : isHeaderValue "alpha" = true := by simp [isHeaderValue]
  have valid' : isHeaderValue "beta" = true := by simp [isHeaderValue]
  obtain ⟨-, twins, sent, without⟩ := credential_hidden valid valid'
  obtain ⟨-, -, sent', -⟩ := credential_hidden valid' valid
  refine ⟨valid, valid', ofArguments_bellWords, twins _ _ _ ?_ ?_, ?_, ?_, ?_⟩
  · intro c read
    cases ofArguments_bellWords.symm.trans read
    refine ⟨rfl, rfl, rfl, rfl, fun _ => nofun, ?_, ?_, rfl, ?_⟩
    · intro name other
      exact if_neg other
    · exact .apart rfl rfl rfl read_tokenInFile rfl
    · show (do (← (Settings.ofText (some "token: beta\n")).toOption).token) = some "beta"
      rw [read_tokenInFile]
      rfl
  · exact Service.scripted_ignoresCredentials []
  · rw [sent _ _ _ _ _ _ _ ofArguments_bellWords loadSettings_tokenInVariable rfl]
    decide +kernel
  · rw [sent' _ _ _ _ _ _ _ ofArguments_bellWords loadSettings_tokenInFile rfl]
    decide +kernel
  · exact without _ _ _ _ _ _ ofArguments_bellWords rfl

end QuantumWorkbench
