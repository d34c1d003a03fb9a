import Acceptor.Proofs.Validity
import Acceptor.Simulation

/-! What compiling keeps. Every lookup of a compiled automaton is a lookup of its definition
with the symbol spelled out; entries that do not spell a symbol are never asked for. The
reading of one symbol is then a matter of the definition's table alone (`move_compile`). -/
namespace Acceptor.Definition

theorem mem_compileRow_iff (row : SortedMap String State) (c : Char) (t : State) :
    (c, t) ∈ (row.entries.filterMap fun e => (symbol? e.1).map fun c => (c, e.2)) ↔
      row.find? (String.singleton c) = some t := by
  rw [← SortedMap.mem_entries_iff, List.mem_filterMap]
  simp only [Option.map_eq_some_iff, symbol?_eq_some_iff, Prod.mk.injEq]
  constructor
  · rintro ⟨⟨x, u⟩, member, d, rfl, rfl, rfl⟩
    exact member
  · intro member
    exact ⟨_, member, c, rfl, rfl, rfl⟩

@[simp] theorem find?_compileRow (row : SortedMap String State) (c : Char) :
    (compileRow row).find? c = row.find? (String.singleton c) := by
  apply Option.ext
  intro t
  rw [compileRow, SortedMap.find?_ofList_eq_some_iff, mem_compileRow_iff]
  intro c t u ht hu
  rw [mem_compileRow_iff] at ht hu
  exact Option.some.inj (ht.symm.trans hu)

variable (d : Definition)

@[simp] theorem mem_alphabet_compile (c : Char) :
    c ∈ d.compile.alphabet ↔ String.singleton c ∈ d.alphabet := by
  simp only [compile, SortedSet.mem_ofList, List.mem_filterMap, symbol?_eq_some_iff,
    SortedSet.mem_toList, exists_eq_right]

@[simp] theorem mem_trapStates_compile (s : State) :
    s ∈ d.compile.trapStates ↔ s ∈ d.trapStates := Iff.rfl

@[simp] theorem row?_compile (s : State) : d.compile.row? s = (d.row? s).map compileRow :=
  SortedMap.find?_mapValues ..

@[simp] theorem next?_compile (s : State) (c : Char) :
    d.compile.next? s c = d.target? s (String.singleton c) := by
  rw [Automaton.next?, row?_compile, target?]
  cases d.row? s <;> simp

theorem accepted_iff (a : Automaton) (w : String) :
    (a.simulate w).accepted = true ↔
      (a.scan a.startState 0 w.toList).rejection = none ∧
      (a.scan a.startState 0 w.toList).finalState ∈ a.finalStates := by
  simp [Automaton.simulate]

/-- Reading one symbol by the definition's own table. -/
def move (s : State) (c : Char) (position : Nat) : Except Rejection State :=
  if String.singleton c ∉ d.alphabet then .error (.invalidSymbol c position)
  else match d.row? s with
    | none => .error (.noTransition s position)
    | some row =>
      match row.find? (String.singleton c) with
      | none => .error (.invalidTarget s c position)
      | some t => .ok t

variable {d}

/-- Targets of a valid table are states, so no target that is found is passed over. -/
theorem move_compile (valid : d.Valid) (s : State) (c : Char) (position : Nat) :
    d.compile.move s c position = d.move s c position := by
  unfold Automaton.move move
  simp only [Automaton.hasSymbol_iff, mem_alphabet_compile, row?_compile]
  split
  · rfl
  cases atRow : d.row? s with
  | none => rfl
  | some row =>
    simp only [Option.map_some, find?_compileRow]
    cases atEntry : row.find? (String.singleton c) with
    | none => rfl
    | some t =>
      have found := (d.target?_eq_some_iff s _ t).2 ⟨row, atRow, atEntry⟩
      have known : d.compile.hasState t = true :=
        Automaton.hasState_iff.2 (valid.entries s _ t found).2
      simp [Option.filter, known]

/-- Symbols of a valid table are in the alphabet, so the table alone decides where to go. -/
theorem move_eq_ok_iff (valid : d.Valid) (s : State) (c : Char) (position : Nat) (t : State) :
    d.move s c position = .ok t ↔ d.target? s (String.singleton c) = some t := by
  rw [target?_eq_some_iff]
  constructor
  · intro moved
    unfold move at moved
    split at moved
    · contradiction
    split at moved
    · contradiction
    next row atRow =>
    split at moved
    · contradiction
    next u atEntry =>
    cases moved
    exact ⟨row, atRow, atEntry⟩
  · rintro ⟨row, atRow, atEntry⟩
    have found := (d.target?_eq_some_iff s _ t).2 ⟨row, atRow, atEntry⟩
    have symbol := (valid.entries s _ t found).1
    simp [move, symbol, atRow, atEntry]

end Acceptor.Definition
