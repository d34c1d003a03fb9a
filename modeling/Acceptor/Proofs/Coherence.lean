import Acceptor.Proofs.Run

/-! A trace holds the same facts more than once: its steps end with a halt, its rejection has a
position, and four readings compute from the one or the other. For every automaton and word all
of these agree with each other and with the word (`simulate_coherent`). -/
namespace Acceptor

/-- What the parts and readings of a trace of `w` have to do with each other. -/
structure Trace.Coherent (a : Automaton) (w : String) (t : Trace) : Prop where
  steps : t.steps = t.visited.map .state ++ (t.rejection.map fun r => .halt r.halt).toList
  halted : t.halt? = t.rejection.map Rejection.halt
  stopped : t.stoppedEarly = t.halt?.isSome
  first : t.visited.head? = some a.startState
  last : t.visited.getLast? = some t.finalState
  length : t.steps.length = 1 + t.consumed + if t.stoppedEarly then 1 else 0
  consumed : t.consumed = match t.rejection with
    | none => w.length
    | some (.trapState _ _ i) => i + 1
    | some r => r.position
  position : ∀ r, t.rejection = some r → r.position < w.length
  symbol : ∀ r c, t.rejection = some r → r.carried? = some c → w.toList[r.position]? = some c
  trapped : (∃ k p, 1 ≤ k ∧ t.visited[k]? = some p ∧ p ∈ a.trapStates) ↔
    ∃ p c i, t.rejection = some (.trapState p c i)
  lastTrap : ∀ k p, 1 ≤ k → t.visited[k]? = some p → p ∈ a.trapStates →
    k + 1 = t.visited.length ∧ ∃ c i, t.rejection = some (.trapState p c i)

/-- Nothing is behind the halt that a rejection leaves. -/
theorem Trace.halt?_of_steps {t : Trace} (qs : List State) (r : Option Rejection)
    (nonempty : qs ≠ [])
    (steps : t.steps = qs.map .state ++ (r.map fun r => .halt r.halt).toList) :
    t.halt? = r.map Rejection.halt := by
  unfold halt?
  rw [steps]
  cases r with
  | none =>
    obtain ⟨qs, q, rfl⟩ := List.eq_nil_or_concat qs |>.resolve_left nonempty
    simp
  | some r => simp

namespace Automaton

variable (a : Automaton) (w : String)

theorem visited_simulate :
    (a.simulate w).visited = a.startState :: (a.scan a.startState 0 w.toList).entered :=
  rfl

theorem consumed_simulate :
    (a.simulate w).consumed = (a.scan a.startState 0 w.toList).entered.length :=
  rfl

theorem steps_simulate :
    (a.simulate w).steps = (a.simulate w).visited.map .state ++
      ((a.simulate w).rejection.map fun r => .halt r.halt).toList :=
  congrArg (Step.state a.startState :: ·) (a.scan_run a.startState 0 w.toList).steps_eq

variable {a w}

theorem consumed_of_whole (whole : (a.simulate w).rejection = none) :
    (a.simulate w).consumed = w.length := by
  have run := a.scan_run a.startState 0 w.toList
  rw [consumed_simulate, run.length_entered_of_whole whole, String.length_toList]

/-- The symbol that stops a run, and how far the run has come by then. -/
theorem exists_stopping_symbol {r : Rejection} (rejected : (a.simulate w).rejection = some r) :
    ∃ c, w.toList[r.position]? = some c ∧ (∀ d, r.carried? = some d → d = c) ∧
      (a.simulate w).consumed = r.position + r.moves := by
  obtain ⟨k, c, atIndex, position, length, symbol⟩ :=
    (a.scan_run a.startState 0 w.toList).stopped rejected
  rw [Nat.zero_add] at position
  subst position
  exact ⟨c, atIndex, symbol, length⟩

/-- The start state is visited before any symbol, so a trap at a later index was entered. -/
theorem visited_trap {k : Nat} {p : State} (later : 1 ≤ k)
    (visited : (a.simulate w).visited[k]? = some p) (trap : p ∈ a.trapStates) :
    k + 1 = (a.simulate w).visited.length ∧
      ∃ c i, (a.simulate w).rejection = some (.trapState p c i) := by
  obtain ⟨k, rfl⟩ := Nat.exists_eq_add_of_le' later
  obtain ⟨last, cause⟩ := (a.scan_run a.startState 0 w.toList).entered_trap visited trap
  exact ⟨congrArg (· + 1) last, cause⟩

theorem trap_visited {p : State} {c : Char} {i : Nat}
    (rejected : (a.simulate w).rejection = some (.trapState p c i)) :
    ∃ k, 1 ≤ k ∧ (a.simulate w).visited[k]? = some p ∧ p ∈ a.trapStates := by
  obtain ⟨trap, last⟩ := (a.scan_run a.startState 0 w.toList).trap_entered rejected
  rw [List.getLast?_eq_getElem?] at last
  exact ⟨_ + 1, Nat.le_add_left .., last, trap⟩

variable (a w)

/-- A start state that is a trap is visited at index `0` and stops nothing, so it is none of
the traps that are looked for. -/
theorem simulate_coherent : (a.simulate w).Coherent a w := by
  have nonempty : (a.simulate w).visited ≠ [] := by simp [visited_simulate]
  have halted := Trace.halt?_of_steps _ _ nonempty (a.steps_simulate w)
  constructor
  case steps => exact a.steps_simulate w
  case halted => exact halted
  case stopped => rw [halted, Option.isSome_map, Trace.stoppedEarly]
  case first => rfl
  case last => exact (a.scan_run a.startState 0 w.toList).getLast?_entered
  case length =>
    rw [steps_simulate, Trace.stoppedEarly, visited_simulate, consumed_simulate]
    cases (a.simulate w).rejection <;> simp [Nat.add_comm]
  case consumed =>
    cases rejected : (a.simulate w).rejection with
    | none => exact consumed_of_whole rejected
    | some r =>
      obtain ⟨c, -, -, length⟩ := exists_stopping_symbol rejected
      rw [length]
      cases r <;> rfl
  case position =>
    intro r rejected
    obtain ⟨c, atIndex, -, -⟩ := exists_stopping_symbol rejected
    rw [← String.length_toList]
    exact (List.getElem?_eq_some_iff.1 atIndex).1
  case symbol =>
    intro r d rejected carried
    obtain ⟨c, atIndex, symbol, -⟩ := exists_stopping_symbol rejected
    rw [symbol d carried]
    exact atIndex
  case trapped =>
    constructor
    · rintro ⟨k, p, later, visited, trap⟩
      exact ⟨p, (visited_trap later visited trap).2⟩
    · rintro ⟨p, c, i, rejected⟩
      obtain ⟨k, entered⟩ := trap_visited rejected
      exact ⟨k, p, entered⟩
  case lastTrap => exact fun k p => visited_trap

end Automaton

end Acceptor
