import Acceptor.Catalog
import Acceptor.Proofs.Compilation

/-! Reading one word behind another. A scan of both is the scan of the first, followed, unless
this has stopped, by a scan of the second from where the first ended (`scan_append`). The second
scan is also a run of its own, of the automaton that starts in that state; only its positions
are counted from the second word on. -/
namespace Acceptor

/-- The same obstacle, met `n` symbols later. -/
def Rejection.delay (n : Nat) : Rejection → Rejection
  | invalidSymbol c i => invalidSymbol c (i + n)
  | noTransition s i => noTransition s (i + n)
  | invalidTarget s c i => invalidTarget s c (i + n)
  | trapState s c i => trapState s c (i + n)

@[simp] theorem Rejection.halt_delay (n : Nat) (r : Rejection) : (r.delay n).halt = r.halt := by
  cases r <;> rfl

@[simp] theorem Rejection.position_delay (n : Nat) (r : Rejection) :
    (r.delay n).position = r.position + n := by
  cases r <;> rfl

namespace Scan

def delay (n : Nat) (run : Scan) : Scan :=
  { run with rejection := run.rejection.map (.delay n) }

/-- A scan that has stopped does not go on. -/
def andThen (first second : Scan) : Scan :=
  match first.rejection with
  | none => { second with steps := first.steps ++ second.steps }
  | some _ => first

theorem andThen_of_whole {first : Scan} (whole : first.rejection = none) (second : Scan) :
    first.andThen second = { second with steps := first.steps ++ second.steps } := by
  rw [andThen, whole]

theorem andThen_of_stopped {first : Scan} {r : Rejection} (stopped : first.rejection = some r)
    (second : Scan) : first.andThen second = first := by
  rw [andThen, stopped]

end Scan

namespace Automaton

variable (a : Automaton)

/-- Where a symbol leads does not depend on how many were read before it. -/
theorem move_delay (s : State) (c : Char) (i n : Nat) :
    a.move s c (i + n) = match a.move s c i with
      | .error r => .error (r.delay n)
      | .ok t => .ok t := by
  unfold move
  split
  · rfl
  cases a.row? s with
  | none => rfl
  | some row =>
    dsimp only
    cases (row.find? c).filter a.hasState <;> rfl

theorem scan_delay (s : State) (i n : Nat) (w : List Char) :
    a.scan s (i + n) w = (a.scan s i w).delay n := by
  induction w generalizing s i with
  | nil => rfl
  | cons c w ih =>
    rw [scan, scan, move_delay]
    cases a.move s c i with
    | error r => simp [Scan.delay]
    | ok t =>
      dsimp only
      split
      · rfl
      · rw [Nat.add_right_comm, ih]
        rfl

/-- The induction is on the first word; the second is read where its scan has ended. -/
theorem scan_append (s : State) (i : Nat) (u v : List Char) :
    a.scan s i (u ++ v) =
      (a.scan s i u).andThen (a.scan (a.scan s i u).finalState (i + u.length) v) := by
  induction u generalizing s i with
  | nil => rfl
  | cons c u ih =>
    rw [List.cons_append, scan, scan]
    cases a.move s c i with
    | error r => rfl
    | ok t =>
      dsimp only
      split
      · rfl
      have count : i + (c :: u).length = i + 1 + u.length := by
        rw [List.length_cons]
        omega
      rw [ih, count]
      cases ended : (a.scan t (i + 1) u).rejection with
      | none => simp [Scan.andThen, ended]
      | some r => simp [Scan.andThen, ended]

theorem move_mem {s t : State} {c : Char} {i : Nat} (moved : a.move s c i = .ok t) :
    t ∈ a.states := by
  unfold move at moved
  split at moved
  · contradiction
  split at moved
  · contradiction
  split at moved
  · contradiction
  next found =>
    cases moved
    have known := (Option.filter_eq_some_iff.1 found).2
    exact hasState_iff.1 known

theorem scan_finalState_mem {s : State} (known : s ∈ a.states) (i : Nat) (w : List Char) :
    (a.scan s i w).finalState ∈ a.states := by
  induction w generalizing s i with
  | nil => exact known
  | cons c w ih =>
    rw [scan]
    cases moved : a.move s c i with
    | error r => exact known
    | ok t =>
      have entered := a.move_mem moved
      dsimp only
      split
      · exact entered
      · exact ih entered (i + 1)

/-- A scan is told where it begins and never asks for the start state. -/
theorem scan_startState (q s : State) (i : Nat) (w : List Char) :
    { a with startState := q }.scan s i w = a.scan s i w := by
  induction w generalizing s i with
  | nil => rfl
  | cons c w ih =>
    rw [scan, scan]
    simp only [ih]
    rfl

variable {a} {u : String}

theorem accepted_of_stopped (stopped : (a.simulate u).stoppedEarly = true) :
    (a.simulate u).accepted = false := by
  obtain ⟨r, rejected⟩ := Option.isSome_iff_exists.1 stopped
  have accepted : (a.simulate u).accepted =
    ((a.simulate u).rejection.isNone && a.isFinal (a.simulate u).finalState) := rfl
  rw [accepted, rejected]
  rfl

theorem simulate_append_of_stopped (stopped : (a.simulate u).stoppedEarly = true) (v : String) :
    a.simulate (u ++ v) = { a.simulate u with input := u ++ v } := by
  obtain ⟨r, rejected⟩ := Option.isSome_iff_exists.1 stopped
  have joined : a.scan a.startState 0 (u ++ v).toList = a.scan a.startState 0 u.toList := by
    rw [String.toList_append, scan_append]
    exact Scan.andThen_of_stopped rejected _
  simp only [simulate, joined]

theorem simulate_append_of_whole (whole : (a.simulate u).stoppedEarly = false) (v : String) :
    let second := { a with startState := (a.simulate u).finalState }.simulate v
    a.simulate (u ++ v) =
      { input := u ++ v
        finalState := second.finalState
        accepted := second.accepted
        steps := (a.simulate u).steps ++ second.steps.tail
        rejection := second.rejection.map (.delay u.length) } := by
  have unrejected : (a.scan a.startState 0 u.toList).rejection = none :=
    Option.isNone_iff_eq_none.1 (Option.isSome_eq_false_iff.1 whole)
  have joined := a.scan_append a.startState 0 u.toList v.toList
  rw [Scan.andThen_of_whole unrejected, scan_delay, ← String.toList_append,
    String.length_toList] at joined
  simp only [simulate, joined, scan_startState, Scan.delay, Option.isNone_map, List.tail_cons,
    List.cons_append]
  rfl

end Automaton

namespace Definition

/-- Only one rule looks at the start state. -/
theorem Valid.restart {d : Definition} (valid : d.Valid) {q : State} (known : q ∈ d.states) :
    { d with startState := q }.Valid :=
  { valid with start := known }

/-- The trace of two words, one behind the other. A run that stops in the first word never sees
the second; otherwise the second is run by the automaton that starts where the first has ended,
which builds as well. The state in which it starts is visited once. -/
theorem simulate_append {d : Definition} {a : Automaton} (built : d.build = .ok a)
    (u v : String) :
    let first := a.simulate u
    let both := a.simulate (u ++ v)
    (first.stoppedEarly = true →
      both.steps = first.steps ∧ both.finalState = first.finalState ∧
      (first.accepted = false ∧ both.accepted = false) ∧ both.rejection = first.rejection) ∧
    (first.stoppedEarly = false →
      ∃ b, { d with startState := first.finalState }.build = .ok b ∧
        let second := b.simulate v
        both.steps = first.steps ++ second.steps.tail ∧
        both.finalState = second.finalState ∧ both.accepted = second.accepted ∧
        both.rejection = second.rejection.map (.delay u.length)) := by
  obtain ⟨valid, rfl⟩ := (build_eq_ok_iff_valid d a).1 built
  constructor
  · intro stopped
    have silent := Automaton.accepted_of_stopped stopped
    rw [Automaton.simulate_append_of_stopped stopped]
    exact ⟨rfl, rfl, ⟨silent, silent⟩, rfl⟩
  · intro whole
    have known := d.compile.scan_finalState_mem valid.start 0 u.toList
    refine ⟨_, (build_eq_ok_iff_valid _ _).2 ⟨valid.restart known, rfl⟩, ?_⟩
    rw [Automaton.simulate_append_of_whole whole]
    exact ⟨rfl, rfl, rfl, rfl⟩

/-- Behind `ab`, which `bets` reads whole, the first symbol of `ba` leads into a trap; behind
`abb`, which leads into that trap, nothing is read. -/
theorem bets_simulate_append :
    Catalog.bets.definition.build = .ok Catalog.bets.definition.compile ∧
    (Catalog.bets.definition.compile.simulate "abb").stoppedEarly = true ∧
    (Catalog.bets.definition.compile.simulate ("abb" ++ "a")).rejection =
      (Catalog.bets.definition.compile.simulate "abb").rejection ∧
    (Catalog.bets.definition.compile.simulate "ab").stoppedEarly = false ∧
    ∃ b, { Catalog.bets.definition with
        startState := (Catalog.bets.definition.compile.simulate "ab").finalState }.build = .ok b ∧
      (Catalog.bets.definition.compile.simulate ("ab" ++ "ba")).rejection =
        (b.simulate "ba").rejection.map (.delay 2) := by
  have built : Catalog.bets.definition.build = .ok Catalog.bets.definition.compile :=
    (build_eq_ok_iff _ _).2 ⟨by decide +kernel, rfl⟩
  have stopped : (Catalog.bets.definition.compile.simulate "abb").stoppedEarly = true := by
    decide +kernel
  have whole : (Catalog.bets.definition.compile.simulate "ab").stoppedEarly = false := by
    decide +kernel
  obtain ⟨-, -, -, same⟩ := (simulate_append built "abb" "a").1 stopped
  obtain ⟨b, rebuilt, -, -, -, later⟩ := (simulate_append built "ab" "ba").2 whole
  exact ⟨built, stopped, same, whole, b, rebuilt, later⟩

end Definition

end Acceptor
