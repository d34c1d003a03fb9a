import Acceptor.Simulation

/-! What one symbol and a whole word can do to an automaton. A symbol is refused for one of
three reasons (`Refuses`), and a scan is a chain of moves that ends with the word, at a refusal
or in a trap (`Run`). Facts about scans are proved by induction on that chain. -/
namespace Acceptor

namespace Scan

/-- The states that a scan enters, without the one in which it begins. -/
def entered (run : Scan) : List State := run.steps.filterMap Step.state?

variable {steps : List Step} {f : State} {r : Option Rejection}

@[simp] theorem entered_nil : (mk [] f r).entered = [] := rfl

@[simp] theorem entered_state (t : State) :
    (mk (.state t :: steps) f r).entered = t :: (mk steps f r).entered := rfl

@[simp] theorem entered_halt (h : Halt) :
    (mk (.halt h :: steps) f r).entered = (mk steps f r).entered := rfl

end Scan

namespace Rejection

/-- The symbol that a rejection carries beside its position. -/
def carried? : Rejection → Option Char
  | invalidSymbol c _ => some c
  | noTransition .. => none
  | invalidTarget _ c _ => some c
  | trapState _ c _ => some c

/-- How many states are entered at the symbol that stops a run: a trap is, before it does. -/
def moves : Rejection → Nat
  | trapState .. => 1
  | _ => 0

end Rejection

namespace Automaton

variable (a : Automaton)

/-- The symbol `c`, read at position `i` in the state `s`, is refused, and why. -/
inductive Refuses (s : State) (c : Char) (i : Nat) : Rejection → Prop
  | foreign (outside : c ∉ a.alphabet) : Refuses s c i (.invalidSymbol c i)
  | rowless (symbol : c ∈ a.alphabet) (noRow : a.row? s = none) :
    Refuses s c i (.noTransition s i)
  | targetless {row : SortedMap Char State} (symbol : c ∈ a.alphabet)
    (atRow : a.row? s = some row) (noTarget : (row.find? c).filter a.hasState = none) :
    Refuses s c i (.invalidTarget s c i)

variable {a} {s : State} {c : Char} {i : Nat} {r : Rejection}

theorem refuses_of_move (refused : a.move s c i = .error r) : a.Refuses s c i r := by
  unfold move at refused
  split at refused
  next outside =>
    cases refused
    exact .foreign (mt hasSymbol_iff.2 outside)
  next symbol =>
    have symbol := hasSymbol_iff.1 (Classical.not_not.1 symbol)
    cases atRow : a.row? s with
    | none =>
      rw [atRow] at refused
      cases refused
      exact .rowless symbol atRow
    | some row =>
      simp only [atRow] at refused
      split at refused
      next noTarget =>
        cases refused
        exact .targetless symbol atRow noTarget
      next => contradiction

theorem Refuses.position_eq (refused : a.Refuses s c i r) : r.position = i := by
  cases refused <;> rfl

theorem Refuses.moves_eq (refused : a.Refuses s c i r) : r.moves = 0 := by
  cases refused <;> rfl

theorem Refuses.symbol_eq (refused : a.Refuses s c i r) {d : Char} (carried : r.carried? = some d) :
    d = c := by
  cases refused <;> cases carried <;> rfl

variable (a)

/-- The scan of a word from a state, whose first symbol has position `i`. -/
inductive Run : State → Nat → List Char → Scan → Prop
  | done {s : State} {i : Nat} : Run s i [] ⟨[], s, none⟩
  | refused {s : State} {i : Nat} {c : Char} {w : List Char} {r : Rejection}
    (refusal : a.Refuses s c i r) : Run s i (c :: w) ⟨[.halt r.halt], s, some r⟩
  | trapped {s t : State} {i : Nat} {c : Char} {w : List Char}
    (moved : a.move s c i = .ok t) (trap : t ∈ a.trapStates) :
    Run s i (c :: w) ⟨[.state t, .halt .trapState], t, some (.trapState t c i)⟩
  | moved {s t : State} {i : Nat} {c : Char} {w : List Char} {run : Scan}
    (moved : a.move s c i = .ok t) (free : t ∉ a.trapStates) (rest : Run t (i + 1) w run) :
    Run s i (c :: w) ⟨.state t :: run.steps, run.finalState, run.rejection⟩

theorem scan_run (s : State) (i : Nat) (w : List Char) : a.Run s i w (a.scan s i w) := by
  induction w generalizing s i with
  | nil => exact .done
  | cons c w ih =>
    rw [scan]
    cases step : a.move s c i with
    | error r => exact .refused (refuses_of_move step)
    | ok t =>
      dsimp only
      split
      next trap => exact .trapped step (isTrap_iff.1 trap)
      next free => exact .moved step (mt isTrap_iff.2 free) (ih t (i + 1))

namespace Run

variable {a} {w : List Char} {scan : Scan}

/-- A halt stands at the end of the steps, and only behind a rejection. -/
theorem steps_eq (run : a.Run s i w scan) :
    scan.steps = scan.entered.map .state ++ (scan.rejection.map fun r => .halt r.halt).toList := by
  induction run with
  | done => rfl
  | refused => rfl
  | trapped => rfl
  | moved _ _ _ ih => simpa using ih

theorem getLast?_entered (run : a.Run s i w scan) :
    (s :: scan.entered).getLast? = some scan.finalState := by
  induction run with
  | done => rfl
  | refused => rfl
  | trapped => rfl
  | moved _ _ _ ih => exact ih

theorem length_entered_of_whole (run : a.Run s i w scan) (whole : scan.rejection = none) :
    scan.entered.length = w.length := by
  induction run with
  | done => rfl
  | refused => contradiction
  | trapped => contradiction
  | moved _ _ _ ih => exact congrArg (· + 1) (ih whole)

/-- A scan that is stopped at the symbol with index `k` has entered a state for every symbol
before it. -/
theorem stopped (run : a.Run s i w scan) {r : Rejection} (rejected : scan.rejection = some r) :
    ∃ k c, w[k]? = some c ∧ r.position = i + k ∧ scan.entered.length = k + r.moves ∧
      ∀ d, r.carried? = some d → d = c := by
  induction run with
  | done => contradiction
  | refused refusal =>
    cases rejected
    refine ⟨0, _, rfl, refusal.position_eq, ?_, fun _ => refusal.symbol_eq⟩
    rw [refusal.moves_eq]
    rfl
  | trapped =>
    cases rejected
    exact ⟨0, _, rfl, rfl, rfl, fun _ carried => (Option.some.inj carried).symm⟩
  | moved _ _ _ ih =>
    obtain ⟨k, c, atIndex, position, length, symbol⟩ := ih rejected
    refine ⟨k + 1, c, atIndex, by omega, ?_, symbol⟩
    rw [Scan.entered_state, List.length_cons, length]
    omega

/-- A trap that is entered is the last state and the cause of the rejection. -/
theorem entered_trap (run : a.Run s i w scan) {k : Nat} {p : State}
    (entered : scan.entered[k]? = some p) (trap : p ∈ a.trapStates) :
    k + 1 = scan.entered.length ∧ ∃ c j, scan.rejection = some (.trapState p c j) := by
  induction run generalizing k with
  | done => contradiction
  | refused => contradiction
  | trapped =>
    cases k with
    | zero =>
      cases entered
      exact ⟨rfl, _, _, rfl⟩
    | succ k => contradiction
  | moved _ free _ ih =>
    cases k with
    | zero =>
      cases entered
      exact absurd trap free
    | succ k =>
      obtain ⟨last, cause⟩ := ih entered
      exact ⟨congrArg (· + 1) last, cause⟩

theorem trap_entered (run : a.Run s i w scan) {p : State} {c : Char} {j : Nat}
    (rejected : scan.rejection = some (.trapState p c j)) :
    p ∈ a.trapStates ∧ scan.entered.getLast? = some p := by
  induction run with
  | done => contradiction
  | refused refusal =>
    cases rejected
    contradiction
  | trapped _ trap =>
    cases rejected
    exact ⟨trap, rfl⟩
  | moved _ _ _ ih =>
    obtain ⟨trap, last⟩ := ih rejected
    refine ⟨trap, ?_⟩
    rw [Scan.entered_state, List.getLast?_cons, last]
    rfl

end Run

end Automaton

end Acceptor
