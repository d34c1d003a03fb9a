import Acceptor.Validation

/-! Compiled automata. `Definition.build` is the only way from a definition to an
automaton: it compiles nothing that breaks a rule, so symbols are characters here. -/
namespace Acceptor

structure Automaton where
  states : SortedSet State
  alphabet : SortedSet Char
  transitions : SortedMap State (SortedMap Char State)
  startState : State
  finalStates : SortedSet State
  trapStates : SortedSet State
  deriving DecidableEq

namespace Definition

/-- Entries whose symbol is not one character have no place in a compiled row. -/
def compileRow (row : SortedMap String State) : SortedMap Char State :=
  .ofList (row.entries.filterMap fun e => (symbol? e.1).map fun c => (c, e.2))

def compile (d : Definition) : Automaton where
  states := d.states
  alphabet := .ofList (d.alphabet.toList.filterMap symbol?)
  transitions := d.transitions.mapValues compileRow
  startState := d.startState
  finalStates := d.finalStates
  trapStates := d.trapStates

def build (d : Definition) : Except BuildError Automaton :=
  match d.firstViolation? with
  | some e => .error e
  | none => .ok d.compile

theorem build_eq_ok_iff (d : Definition) (a : Automaton) :
    d.build = .ok a ↔ d.violations = [] ∧ a = d.compile := by
  unfold build
  rw [firstViolation?_eq_head?]
  cases h : d.violations with
  | nil => simp [eq_comm]
  | cons e rest => simp

theorem build_eq_error_iff (d : Definition) (e : BuildError) :
    d.build = .error e ↔ d.violations.head? = some e := by
  unfold build
  rw [firstViolation?_eq_head?]
  cases d.violations.head? <;> simp

end Definition

namespace Automaton

def spellRow (row : SortedMap Char State) : SortedMap String State :=
  .ofList (row.entries.map fun e => (String.singleton e.1, e.2))

def toDefinition (a : Automaton) : Definition where
  states := a.states
  alphabet := .ofList (a.alphabet.toList.map String.singleton)
  transitions := a.transitions.mapValues spellRow
  startState := a.startState
  finalStates := a.finalStates
  trapStates := a.trapStates

/-- Only a final state of a built automaton can be without a row. -/
def row? (a : Automaton) (s : State) : Option (SortedMap Char State) :=
  a.transitions.find? s

def next? (a : Automaton) (s : State) (c : Char) : Option State :=
  (a.row? s).bind (·.find? c)

def hasState (a : Automaton) (s : State) : Bool := s ∈ a.states

def hasSymbol (a : Automaton) (c : Char) : Bool := c ∈ a.alphabet

def isFinal (a : Automaton) (s : State) : Bool := s ∈ a.finalStates

def isTrap (a : Automaton) (s : State) : Bool := s ∈ a.trapStates

section

variable {a : Automaton} {s : State} {c : Char}

@[simp] theorem hasState_iff : a.hasState s = true ↔ s ∈ a.states := decide_eq_true_iff

@[simp] theorem hasSymbol_iff : a.hasSymbol c = true ↔ c ∈ a.alphabet := decide_eq_true_iff

@[simp] theorem isFinal_iff : a.isFinal s = true ↔ s ∈ a.finalStates := decide_eq_true_iff

@[simp] theorem isTrap_iff : a.isTrap s = true ↔ s ∈ a.trapStates := decide_eq_true_iff

end

end Automaton

end Acceptor
