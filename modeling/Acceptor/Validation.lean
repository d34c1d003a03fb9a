import Acceptor.BuildError
import Acceptor.Symbol

/-! The rules that a definition must keep to be an automaton, and three readings of them:
the first violation, all violations, and an audit that sums up checks. All report in one
order: rule by rule, and within a rule ascending by state, then by symbol. -/
namespace Acceptor

namespace Definition

open BuildError

def statesNonEmpty (d : Definition) : List BuildError :=
  if d.states.isEmpty then [emptyStates] else []

def startKnown (d : Definition) : List BuildError :=
  if d.startState ∈ d.states then [] else [unknownStartState d.startState]

def finalsKnown (d : Definition) : List BuildError :=
  (d.finalStates.without d.states).toList.map unknownFinalState

def trapsKnown (d : Definition) : List BuildError :=
  (d.trapStates.without d.states).toList.map unknownTrapState

def alphabetWellFormed (d : Definition) : List BuildError :=
  if d.alphabet.isEmpty then [emptyAlphabet]
  else (d.alphabet.toList.filter fun x => (symbol? x).isNone).map malformedSymbol

/-- An entry with a malformed symbol is reported for that alone. -/
def entryViolations (d : Definition) (s : State) (x : String) (t : State) : List BuildError :=
  match symbol? x with
  | none => [malformedSymbol x]
  | some c =>
    (if x ∈ d.alphabet then [] else [unknownSymbol s c]) ++
      if t ∈ d.states then [] else [unknownTargetState s c t]

def rowViolations (d : Definition) (s : State) (row : SortedMap String State) :
    List BuildError :=
  (if s ∈ d.states then [] else [unknownSourceState s]) ++
    row.entries.flatMap fun e => d.entryViolations s e.1 e.2

def tableWellFormed (d : Definition) : List BuildError :=
  d.transitions.entries.flatMap fun e => d.rowViolations e.1 e.2

/-- Only a final state may lack a transition; malformed symbols ask for none. -/
def missingAt (d : Definition) (s : State) (x : String) : Option BuildError :=
  match symbol? x with
  | none => none
  | some c => if (d.target? s x).isNone then some (missingTransition s c) else none

def tableTotal (d : Definition) : List BuildError :=
  (d.states.without d.finalStates).toList.flatMap fun s =>
    d.alphabet.toList.filterMap (d.missingAt s)

def escapeOf (p : State) (x : String) (t : State) : Option BuildError :=
  if t = p then none else (symbol? x).map fun c => trapEscape p c t

/-- A trap without a row has no way out; only a final trap passes the other rules so. -/
def trapsClosed (d : Definition) : List BuildError :=
  d.trapStates.toList.flatMap fun p =>
    match d.row? p with
    | none => []
    | some row => row.entries.filterMap fun e => escapeOf p e.1 e.2

def rules : List (Definition → List BuildError) :=
  [statesNonEmpty, startKnown, finalsKnown, trapsKnown, alphabetWellFormed, tableWellFormed,
    tableTotal, trapsClosed]

/-- The first violation of the first rule that is broken; later rules are not looked at. -/
def firstViolation? (d : Definition) : Option BuildError :=
  rules.findSome? fun rule => (rule d).head?

def violations (d : Definition) : List BuildError :=
  rules.flatMap fun rule => rule d

theorem firstViolation?_eq_head? (d : Definition) :
    d.firstViolation? = d.violations.head? := by
  unfold firstViolation? violations
  induction rules with
  | nil => rfl
  | cons rule rest ih =>
    rw [List.findSome?_cons, List.flatMap_cons, List.head?_append, ih]
    cases (rule d).head? <;> rfl

end Definition

/-- What a check found: nothing, or at least one violation. -/
inductive Audit where
  | passed
  | failed (first : BuildError) (rest : List BuildError)
  deriving DecidableEq

namespace Audit

def errors : Audit → List BuildError
  | passed => []
  | failed first rest => first :: rest

/-- Both checks are reported, the left one first. -/
def both : Audit → Audit → Audit
  | passed, b => b
  | failed first rest, b => failed first (rest ++ b.errors)

@[simp] theorem errors_both (a b : Audit) : (a.both b).errors = a.errors ++ b.errors := by
  cases a <;> rfl

def all (checks : List Audit) : Audit := checks.foldr both passed

@[simp] theorem errors_all (checks : List Audit) :
    (all checks).errors = checks.flatMap errors := by
  induction checks with
  | nil => rfl
  | cons a checks ih => exact (errors_both ..).trans (congrArg (a.errors ++ ·) ih)

end Audit

def Definition.audit (d : Definition) : Audit :=
  .all (d.violations.map fun e => .failed e [])

@[simp] theorem Definition.errors_audit (d : Definition) : d.audit.errors = d.violations := by
  rw [audit, Audit.errors_all, List.flatMap_map]
  exact List.flatMap_singleton' d.violations

end Acceptor
