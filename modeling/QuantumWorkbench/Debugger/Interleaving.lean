import QuantumWorkbench.Debugger.Call

/-!
# Interleavings

A controller with the calls that are under way. Calls go on one section at a time and in any order,
answers arrive at any time or never, and calls may be dropped.

## Contents
- `Debugger`: the controller and its calls, each under a number of its own.
- `Debugger.Event`, `Debugger.step`: one section of one call, or one operation. An event that cannot
  happen changes nothing.
- `Debugger.Reply`: what the event reports to whoever caused it.
- `Debugger.run`: the debugger after some events.
-/

namespace QuantumWorkbench

/-- A controller and the calls under way. -/
structure Debugger where
  controller : Controller := {}
  calls : List (Nat × Call) := []
  /-- The number of the next call. -/
  nextCall : Nat := 0
deriving DecidableEq, Repr

namespace Debugger

inductive Event where
  | start (circuit : Circuit)
  | toggleBreakpoint (step : Index)
  | stop
  | begin (kind : CallKind)
  /-- The call decides what to do next. -/
  | decide (call : Nat)
  /-- The evaluator answers the call. -/
  | answer (call : Nat) (answer : Answer)
  /-- The call returns its outcome. -/
  | finish (call : Nat)
  /-- The call is dropped, wherever it stands. -/
  | drop (call : Nat)

inductive Reply where
  | refused (error : DebugError)
  | started (session : Nat)
  | toggled (isSet : Bool)
  | stopped (wasRunning : Bool)
  | begun (call : Nat)
  /-- The call goes on. -/
  | went
  | finished (outcome : Outcome)
  | dropped
  /-- There was nothing to happen. -/
  | ignored
deriving DecidableEq, Repr

def call? (s : Debugger) (number : Nat) : Option Call := s.calls.lookup number

/-- Replaces a call. -/
def withCall (s : Debugger) (number : Nat) (call : Call) : Debugger :=
  { s with calls := s.calls.map fun (n, c) => if n = number then (n, call) else (n, c) }

/-- Takes a call out. -/
def without (s : Debugger) (number : Nat) : Debugger :=
  { s with calls := s.calls.filter (·.1 ≠ number) }

/-- The outcome of an operation on the controller. -/
def respond {α : Type} (s : Debugger) (reply : α → Reply) :
    Except DebugError (α × Controller) → Reply × Debugger
  | .error error => (.refused error, s)
  | .ok (a, controller) => (reply a, { s with controller })

/-- Begins a call. -/
def beginCall (s : Debugger) (kind : CallKind) : Reply × Debugger :=
  match Call.begin kind s.controller with
  | .error error => (.refused error, s)
  | .ok (call, controller) =>
    (.begun s.nextCall,
      { controller, calls := s.calls ++ [(s.nextCall, call)], nextCall := s.nextCall + 1 })

/-- What happens to a call under way. -/
def onCall (s : Debugger) (number : Nat) (act : Call → Reply × Debugger) : Reply × Debugger :=
  match s.call? number with
  | some call => act call
  | none => (.ignored, s)

def decideCall (s : Debugger) (number : Nat) : Reply × Debugger :=
  s.onCall number fun call =>
    match call.stage with
    | .deciding => (.went, s.withCall number (call.decide s.controller))
    | _ => (.ignored, s)

def answerCall (s : Debugger) (number : Nat) (answer : Answer) : Reply × Debugger :=
  s.onCall number fun call =>
    match call.stage with
    | .awaiting _ cursor =>
      let (call, controller) := call.settle cursor answer s.controller
      (.went, { s with controller }.withCall number call)
    | _ => (.ignored, s)

def finishCall (s : Debugger) (number : Nat) : Reply × Debugger :=
  s.onCall number fun call =>
    match call.stage with
    | .finishing outcome =>
      (.finished outcome, { s with controller := call.finish s.controller }.without number)
    | _ => (.ignored, s)

def dropCall (s : Debugger) (number : Nat) : Reply × Debugger :=
  s.onCall number fun call =>
    (.dropped, { s with controller := call.finish s.controller }.without number)

/-- One event. -/
def step (s : Debugger) : Event → Reply × Debugger
  | .start circuit => s.respond .started (s.controller.start circuit)
  | .toggleBreakpoint step => s.respond .toggled (s.controller.toggleBreakpoint step)
  | .stop =>
    let (wasRunning, controller) := s.controller.stop
    (.stopped wasRunning, { s with controller })
  | .begin kind => s.beginCall kind
  | .decide n => s.decideCall n
  | .answer n answer => s.answerCall n answer
  | .finish n => s.finishCall n
  | .drop n => s.dropCall n

/-- The debugger after some events. -/
def run (s : Debugger) (events : List Event) : Debugger :=
  events.foldl (fun s event => (s.step event).2) s

end Debugger

end QuantumWorkbench
