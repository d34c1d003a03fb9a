import Acceptor.Definition

/-! The record of one run: the states that were visited, and why the run stopped early
if it did. A rejection is an outcome of a run and not a failure of it. -/
namespace Acceptor

/-- Closes the steps of a run that stopped early. -/
inductive Halt where
  | invalidSymbol
  | noTransition
  | invalidTarget
  | trapState
  deriving DecidableEq

namespace Halt

def all : List Halt := [invalidSymbol, noTransition, invalidTarget, trapState]

def name : Halt → String
  | invalidSymbol => "REJECT_STATE_INVALID_SYMBOL"
  | noTransition => "REJECT_STATE_NO_TRANSITION"
  | invalidTarget => "REJECT_STATE_INVALID_TARGET"
  | trapState => "REJECT_STATE_TRAP_STATE"

def ofName? (s : String) : Option Halt := all.find? fun h => h.name = s

@[simp] theorem ofName?_name (h : Halt) : ofName? h.name = some h := by
  cases h <;> decide

end Halt

inductive Step where
  | state (s : State)
  | halt (h : Halt)
  deriving DecidableEq

namespace Step

def state? : Step → Option State
  | state s => some s
  | halt _ => none

end Step

/-- Positions count the characters of the input from zero. -/
inductive Rejection where
  | invalidSymbol (symbol : Char) (position : Nat)
  | noTransition (state : State) (position : Nat)
  | invalidTarget (state : State) (symbol : Char) (position : Nat)
  | trapState (state : State) (symbol : Char) (position : Nat)
  deriving DecidableEq

namespace Rejection

def halt : Rejection → Halt
  | invalidSymbol .. => .invalidSymbol
  | noTransition .. => .noTransition
  | invalidTarget .. => .invalidTarget
  | trapState .. => .trapState

def position : Rejection → Nat
  | invalidSymbol _ i => i
  | noTransition _ i => i
  | invalidTarget _ _ i => i
  | trapState _ _ i => i

def message : Rejection → String
  | invalidSymbol c i => s!"Symbol '{c}' at position {i} is not in the alphabet"
  | noTransition s i => s!"State '{s}' has no defined transitions (symbol at position {i})"
  | invalidTarget s c i =>
    s!"State '{s}' has no transition on symbol '{c}' at position {i}"
  | trapState s c i => s!"Symbol '{c}' at position {i} leads to trap state '{s}'"

end Rejection

structure Trace where
  input : String
  finalState : State
  accepted : Bool
  steps : List Step
  rejection : Option Rejection
  deriving DecidableEq

namespace Trace

def visited (t : Trace) : List State := t.steps.filterMap Step.state?

/-- The start state is visited before any symbol is read. -/
def consumed (t : Trace) : Nat := t.visited.length - 1

def halt? (t : Trace) : Option Halt :=
  match t.steps.getLast? with
  | some (.halt h) => some h
  | _ => none

def stoppedEarly (t : Trace) : Bool := t.rejection.isSome

def errorMessage? (t : Trace) : Option String := t.rejection.map Rejection.message

end Trace

end Acceptor
