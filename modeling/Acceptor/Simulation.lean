import Acceptor.Automaton
import Acceptor.Trace

/-! Running an automaton on a word. A run stops at the first symbol that is foreign, finds
no row or no target, or leads into a trap; a trap is visited before the run stops in it. -/
namespace Acceptor

/-- What a run adds to the state in which it begins. -/
structure Scan where
  steps : List Step
  finalState : State
  rejection : Option Rejection
  deriving DecidableEq

namespace Automaton

/-- A target that is no state counts as missing. -/
def move (a : Automaton) (s : State) (c : Char) (position : Nat) : Except Rejection State :=
  if ¬ a.hasSymbol c then .error (.invalidSymbol c position)
  else match a.row? s with
    | none => .error (.noTransition s position)
    | some row =>
      match (row.find? c).filter a.hasState with
      | none => .error (.invalidTarget s c position)
      | some t => .ok t

/-- Only entering a trap stops a run; starting in one does not. -/
def scan (a : Automaton) (s : State) (position : Nat) : List Char → Scan
  | [] => ⟨[], s, none⟩
  | c :: w =>
    match a.move s c position with
    | .error r => ⟨[.halt r.halt], s, some r⟩
    | .ok t =>
      if a.isTrap t then
        ⟨[.state t, .halt .trapState], t, some (.trapState t c position)⟩
      else
        let rest := a.scan t (position + 1) w
        ⟨.state t :: rest.steps, rest.finalState, rest.rejection⟩

def simulate (a : Automaton) (input : String) : Trace :=
  let run := a.scan a.startState 0 input.toList
  { input
    finalState := run.finalState
    accepted := run.rejection.isNone && a.isFinal run.finalState
    steps := .state a.startState :: run.steps
    rejection := run.rejection }

def accepts (a : Automaton) (input : String) : Bool := (a.simulate input).accepted

end Automaton

end Acceptor
