import Acceptor.Catalog
import Acceptor.Proofs.Compilation

/-! The trace of a word, said of a definition's own table: which states `q_0, q_1, …` the
table leads through, at which position the first obstacle stands, and what the trace is then.
A run of the compiled automaton is that trace for every definition that builds. -/
namespace Acceptor.Definition

variable (d : Definition)

/-- `q_0` is `s`, and `q_(k+1)` is what the row of `q_k` holds for the symbol at `k`. -/
def stateAt? (s : State) (w : List Char) : Nat → Option State
  | 0 => some s
  | k + 1 =>
    (stateAt? s w k).bind fun q => w[k]?.bind fun c => d.target? q (String.singleton c)

/-- Why reading `c` in `s` ends a run; the four obstacles are looked for in this order. -/
def stop? (s : State) (c : Char) (position : Nat) : Option Rejection :=
  if String.singleton c ∉ d.alphabet then some (.invalidSymbol c position)
  else match d.row? s with
    | none => some (.noTransition s position)
    | some row =>
      match row.find? (String.singleton c) with
      | none => some (.invalidTarget s c position)
      | some t => if t ∈ d.trapStates then some (.trapState t c position) else none

/-- The obstacle at the symbol with index `k`, where the first symbol has position `i`. -/
def stopAt? (s : State) (i : Nat) (w : List Char) (k : Nat) : Option Rejection :=
  (d.stateAt? s w k).bind fun q => w[k]?.bind fun c => d.stop? q c (k + i)

/-- `qs` is `q_0, …, q_k`, and the table leads to all of these. -/
def Visits (s : State) (w : List Char) (k : Nat) (qs : List State) : Prop :=
  qs.map some = (List.range (k + 1)).map (d.stateAt? s w)

/-- The trap that stops a run is visited; no other obstacle moves the run. -/
def lastVisit (k : Nat) (r : Rejection) : Nat := if r.halt = .trapState then k + 1 else k

/-- `t` is the trace of `w` by the table: without an obstacle it holds `q_0, …, q_n` alone,
else it ends at the first obstacle. -/
structure TableTrace (w : String) (t : Trace) : Prop where
  input : t.input = w
  whole : (∀ k, d.stopAt? d.startState 0 w.toList k = none) →
    t.rejection = none ∧
    (∃ qs, d.Visits d.startState w.toList w.toList.length qs ∧ t.steps = qs.map .state) ∧
    d.stateAt? d.startState w.toList w.toList.length = some t.finalState ∧
    (t.accepted = true ↔ t.finalState ∈ d.finalStates)
  stopped : ∀ k r, (∀ j < k, d.stopAt? d.startState 0 w.toList j = none) →
    d.stopAt? d.startState 0 w.toList k = some r →
    t.rejection = some r ∧
    (∃ qs, d.Visits d.startState w.toList (lastVisit k r) qs ∧
      t.steps = qs.map .state ++ [.halt r.halt]) ∧
    d.stateAt? d.startState w.toList (lastVisit k r) = some t.finalState ∧
    t.accepted = false

/-- The same of a run that begins anywhere, which is what an induction on the word needs. -/
structure Reading (s : State) (i : Nat) (w : List Char) (run : Scan) : Prop where
  whole : (∀ k, d.stopAt? s i w k = none) →
    run.rejection = none ∧
    (∃ qs, d.Visits s w w.length (s :: qs) ∧ run.steps = qs.map .state) ∧
    d.stateAt? s w w.length = some run.finalState
  stopped : ∀ k r, (∀ j < k, d.stopAt? s i w j = none) → d.stopAt? s i w k = some r →
    run.rejection = some r ∧
    (∃ qs, d.Visits s w (lastVisit k r) (s :: qs) ∧
      run.steps = qs.map .state ++ [.halt r.halt]) ∧
    d.stateAt? s w (lastVisit k r) = some run.finalState

section Shift

variable {d} {s t : State} {c : Char}

/-- Behind its first symbol a word is read from the target of that symbol. -/
theorem stateAt?_cons (found : d.target? s (String.singleton c) = some t) (w : List Char)
    (k : Nat) : d.stateAt? s (c :: w) (k + 1) = d.stateAt? t w k := by
  induction k with
  | zero => simp [stateAt?, found]
  | succ k ih =>
    rw [stateAt?, ih, List.getElem?_cons_succ]
    rfl

theorem stopAt?_cons (found : d.target? s (String.singleton c) = some t) (i : Nat)
    (w : List Char) (k : Nat) :
    d.stopAt? s i (c :: w) (k + 1) = d.stopAt? t (i + 1) w k := by
  have position : k + 1 + i = k + (i + 1) := by omega
  rw [stopAt?, stopAt?, stateAt?_cons found, List.getElem?_cons_succ, position]

theorem stopAt?_zero (i : Nat) (w : List Char) :
    d.stopAt? s i (c :: w) 0 = d.stop? s c i := by
  simp [stopAt?, stateAt?]

theorem visits_zero (w : List Char) : d.Visits s w 0 [s] := rfl

theorem visits_cons (found : d.target? s (String.singleton c) = some t) {w : List Char}
    {k : Nat} {qs : List State} (rest : d.Visits t w k qs) :
    d.Visits s (c :: w) (k + 1) (s :: qs) := by
  unfold Visits at rest ⊢
  rw [List.range_succ_eq_map, List.map_cons, List.map_cons, rest, List.map_map]
  congr 1
  apply List.map_congr_left
  intro j _
  exact (stateAt?_cons found w j).symm

end Shift

/-- Entering a trap is the only obstacle that does not keep the table from moving on. -/
theorem stop?_eq (s : State) (c : Char) (i : Nat) :
    d.stop? s c i =
      match d.move s c i with
      | .error r => some r
      | .ok t => if t ∈ d.trapStates then some (.trapState t c i) else none := by
  unfold stop? move
  split
  · rfl
  cases d.row? s with
  | none => rfl
  | some row =>
    dsimp only
    cases row.find? (String.singleton c) <;> rfl

theorem halt_of_move_error {s : State} {c : Char} {i : Nat} {r : Rejection}
    (refused : d.move s c i = .error r) : r.halt ≠ .trapState := by
  unfold move at refused
  split at refused
  · cases refused; simp [Rejection.halt]
  split at refused
  · cases refused; simp [Rejection.halt]
  split at refused
  · cases refused; simp [Rejection.halt]
  · contradiction

variable {d}

/-- An obstacle at the first symbol is the first obstacle. -/
theorem first_stop {s : State} {i : Nat} {w : List Char} {k : Nat} {r₀ r : Rejection}
    (atStart : d.stopAt? s i w 0 = some r₀) (none_before : ∀ j < k, d.stopAt? s i w j = none)
    (found : d.stopAt? s i w k = some r) : k = 0 ∧ r = r₀ := by
  cases k with
  | zero => exact ⟨rfl, Option.some.inj (found.symm.trans atStart)⟩
  | succ k => simp [none_before 0 (by omega)] at atStart

theorem reading_refused {s : State} {c : Char} {i : Nat} {r : Rejection}
    (refused : d.move s c i = .error r) (w : List Char) :
    d.Reading s i (c :: w) ⟨[.halt r.halt], s, some r⟩ := by
  have atStart : d.stopAt? s i (c :: w) 0 = some r := by
    rw [stopAt?_zero, stop?_eq, refused]
  constructor
  · intro free
    simp [free 0] at atStart
  · intro k r' before found
    obtain ⟨rfl, rfl⟩ := first_stop atStart before found
    have last : lastVisit 0 r' = 0 := if_neg (d.halt_of_move_error refused)
    rw [last]
    exact ⟨rfl, ⟨[], visits_zero _, rfl⟩, rfl⟩

theorem reading_trapped {s t : State} {c : Char}
    (found : d.target? s (String.singleton c) = some t) {i : Nat} {r : Rejection}
    (atStart : d.stopAt? s i (c :: w) 0 = some r) (trapped : r.halt = .trapState) :
    d.Reading s i (c :: w) ⟨[.state t, .halt .trapState], t, some r⟩ := by
  constructor
  · intro free
    simp [free 0] at atStart
  · intro k r' before stop
    obtain ⟨rfl, rfl⟩ := first_stop atStart before stop
    have last : lastVisit 0 r' = 0 + 1 := if_pos trapped
    rw [last, trapped]
    refine ⟨rfl, ⟨[t], visits_cons found (visits_zero w), rfl⟩, ?_⟩
    rw [stateAt?_cons found]
    rfl

/-- One symbol that is no obstacle moves the run, the table and every later obstacle alike. -/
theorem reading_moved {s t : State} {c : Char} {i : Nat} {w : List Char} {run : Scan}
    (found : d.target? s (String.singleton c) = some t)
    (free : d.stopAt? s i (c :: w) 0 = none) (rest : d.Reading t (i + 1) w run) :
    d.Reading s i (c :: w) ⟨.state t :: run.steps, run.finalState, run.rejection⟩ := by
  constructor
  · intro none_anywhere
    have later (k : Nat) : d.stopAt? t (i + 1) w k = none := by
      rw [← stopAt?_cons found]
      exact none_anywhere (k + 1)
    obtain ⟨rejection, ⟨qs, visits, steps⟩, final⟩ := rest.whole later
    refine ⟨rejection, ⟨t :: qs, visits_cons found visits, ?_⟩, ?_⟩
    · simp [steps]
    · rw [List.length_cons, stateAt?_cons found]
      exact final
  · intro k r before stop
    cases k with
    | zero => simp [free] at stop
    | succ k =>
      rw [stopAt?_cons found] at stop
      have later : ∀ j < k, d.stopAt? t (i + 1) w j = none := by
        intro j lt
        rw [← stopAt?_cons found]
        exact before (j + 1) (by omega)
      obtain ⟨rejection, ⟨qs, visits, steps⟩, final⟩ := rest.stopped k r later stop
      have last : lastVisit (k + 1) r = lastVisit k r + 1 := by
        unfold lastVisit
        split <;> rfl
      rw [last]
      refine ⟨rejection, ⟨t :: qs, visits_cons found visits, ?_⟩, ?_⟩
      · simp [steps]
      · rw [stateAt?_cons found]
        exact final

/-- The induction is on the word; the state, the position and the table's path move along. -/
theorem scan_reading (valid : d.Valid) (w : List Char) (s : State) (i : Nat) :
    d.Reading s i w (d.compile.scan s i w) := by
  induction w generalizing s i with
  | nil =>
    constructor
    · intro _
      exact ⟨rfl, ⟨[], visits_zero [], rfl⟩, rfl⟩
    · intro k r _ stop
      simp [stopAt?] at stop
  | cons c w ih =>
    rw [Automaton.scan, move_compile valid]
    cases moved : d.move s c i with
    | error r => exact reading_refused moved w
    | ok t =>
      have found := (move_eq_ok_iff valid s c i t).1 moved
      have atStart := d.stop?_eq s c i
      rw [moved, ← stopAt?_zero i w] at atStart
      by_cases trap : t ∈ d.trapStates
      · simp only [trap, if_true] at atStart
        simp only [Automaton.isTrap_iff, mem_trapStates_compile, trap, if_true]
        exact reading_trapped found atStart rfl
      · simp only [trap, if_false] at atStart
        simp only [Automaton.isTrap_iff, mem_trapStates_compile, trap, if_false]
        exact reading_moved found atStart (ih t (i + 1))

end Acceptor.Definition
