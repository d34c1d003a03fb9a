import Acceptor.Proofs.Compilation

/-! Reading a definition off the automaton that it was built into. What compiling would pass
over is not there in a valid definition, so spelling the symbols of its automaton gives back all
of it (`toDefinition_compile`): also a row that is empty, and no row where there was none. -/
namespace Acceptor

namespace Automaton

theorem mem_spellRow_iff (row : SortedMap Char State) (x : String) (t : State) :
    (x, t) ∈ (row.entries.map fun e => (String.singleton e.1, e.2)) ↔
      ∃ c, x = String.singleton c ∧ row.find? c = some t := by
  simp only [List.mem_map, Prod.exists, Prod.mk.injEq, SortedMap.mem_entries_iff]
  constructor
  · rintro ⟨c, u, atEntry, rfl, rfl⟩
    exact ⟨c, rfl, atEntry⟩
  · rintro ⟨c, rfl, atEntry⟩
    exact ⟨c, t, atEntry, rfl, rfl⟩

/-- No two characters are spelled alike, so spelling merges no entries. -/
theorem find?_spellRow_eq_some_iff (row : SortedMap Char State) (x : String) (t : State) :
    (spellRow row).find? x = some t ↔ ∃ c, x = String.singleton c ∧ row.find? c = some t := by
  rw [spellRow, SortedMap.find?_ofList_eq_some_iff, mem_spellRow_iff]
  intro x t u ht hu
  rw [mem_spellRow_iff] at ht hu
  obtain ⟨c, rfl, atEntry⟩ := ht
  obtain ⟨c', same, atEntry'⟩ := hu
  rw [singleton_inj.1 same] at atEntry
  exact Option.some.inj (atEntry.symm.trans atEntry')

theorem mem_alphabet_toDefinition (a : Automaton) (x : String) :
    x ∈ a.toDefinition.alphabet ↔ ∃ c ∈ a.alphabet, x = String.singleton c := by
  simp [toDefinition, SortedSet.mem_toList, eq_comm]

end Automaton

namespace Definition

/-- A row of one-character symbols survives being compiled and spelled again. -/
theorem spellRow_compileRow {row : SortedMap String State}
    (symbols : ∀ x t, row.find? x = some t → ∃ c, x = String.singleton c) :
    Automaton.spellRow (compileRow row) = row := by
  apply SortedMap.ext
  intro x
  apply Option.ext
  intro t
  simp only [Automaton.find?_spellRow_eq_some_iff, find?_compileRow]
  constructor
  · rintro ⟨c, rfl, atEntry⟩
    exact atEntry
  · intro atEntry
    obtain ⟨c, rfl⟩ := symbols x t atEntry
    exact ⟨c, rfl, atEntry⟩

section

variable {d : Definition} (valid : d.Valid)

include valid

theorem Valid.symbol_of_entry {s : State} {row : SortedMap String State}
    (atRow : d.row? s = some row) {x : String} {t : State} (atEntry : row.find? x = some t) :
    ∃ c, x = String.singleton c := by
  have found := (d.target?_eq_some_iff s x t).2 ⟨row, atRow, atEntry⟩
  exact valid.symbols x (valid.entries s x t found).1

theorem alphabet_toDefinition_compile : d.compile.toDefinition.alphabet = d.alphabet := by
  apply SortedSet.ext
  intro x
  simp only [Automaton.mem_alphabet_toDefinition, mem_alphabet_compile]
  constructor
  · rintro ⟨c, member, rfl⟩
    exact member
  · intro member
    obtain ⟨c, rfl⟩ := valid.symbols x member
    exact ⟨c, member, rfl⟩

theorem transitions_toDefinition_compile :
    d.compile.toDefinition.transitions = d.transitions := by
  apply SortedMap.ext
  intro s
  simp only [Automaton.toDefinition, compile, SortedMap.find?_mapValues]
  cases atRow : d.transitions.find? s with
  | none => rfl
  | some row =>
    have symbols : ∀ x t, row.find? x = some t → ∃ c, x = String.singleton c :=
      fun _ _ => valid.symbol_of_entry atRow
    simp only [Option.map_some, spellRow_compileRow symbols]

theorem toDefinition_compile : d.compile.toDefinition = d := by
  have alphabet := alphabet_toDefinition_compile valid
  have transitions := transitions_toDefinition_compile valid
  calc d.compile.toDefinition
    _ = { d with
          alphabet := d.compile.toDefinition.alphabet
          transitions := d.compile.toDefinition.transitions } := rfl
    _ = d := by rw [alphabet, transitions]

end

theorem toDefinition_of_build {d : Definition} {a : Automaton} (built : d.build = .ok a) :
    a.toDefinition = d := by
  obtain ⟨valid, rfl⟩ := (build_eq_ok_iff_valid d a).1 built
  exact toDefinition_compile valid

/-- A definition can be read off what it was built into, and building what was read off gives the
same automaton once more. So automata are told apart by their definitions. -/
theorem build_lossless :
    (∀ (d : Definition) (a : Automaton), d.build = .ok a → a.toDefinition = d) ∧
    (∀ a : Automaton, (∃ d : Definition, d.build = .ok a) → a.toDefinition.build = .ok a) ∧
    ∀ (d d' : Definition) (a a' : Automaton), d.build = .ok a → d'.build = .ok a' →
      (a = a' ↔ d = d') := by
  refine ⟨fun _ _ => toDefinition_of_build, ?again, ?apart⟩
  case again =>
    rintro a ⟨d, built⟩
    rw [toDefinition_of_build built]
    exact built
  case apart =>
    intro d d' a a' built built'
    constructor
    · rintro rfl
      exact (toDefinition_of_build built).symm.trans (toDefinition_of_build built')
    · rintro rfl
      exact Except.ok.inj (built.symm.trans built')

/-- Of its final states, `1` has an empty row and the trap `2` has none. -/
def sparse : Definition where
  states := .ofList [0, 1, 2]
  alphabet := .ofList ["\"", "é"]
  transitions := .ofList [(0, .ofList [("\"", 1), ("é", 2)]), (1, ∅)]
  startState := 0
  finalStates := .ofList [1, 2]
  trapStates := .ofList [2]

def sparser : Definition :=
  { sparse with transitions := .ofList [(0, .ofList [("\"", 1), ("é", 2)])] }

/-- The empty row makes a definition, and an automaton, of its own. -/
theorem sparse_build_lossless :
    ∃ a b, sparse.build = .ok a ∧ a.toDefinition = sparse ∧ a.toDefinition.build = .ok a ∧
      sparser.build = .ok b ∧ a ≠ b := by
  obtain ⟨back, again, apart⟩ := build_lossless
  have built : sparse.build = .ok sparse.compile :=
    (build_eq_ok_iff _ _).2 ⟨by decide +kernel, rfl⟩
  have built' : sparser.build = .ok sparser.compile :=
    (build_eq_ok_iff _ _).2 ⟨by decide +kernel, rfl⟩
  refine ⟨_, _, built, back _ _ built, again _ ⟨_, built⟩, built', ?_⟩
  rw [ne_eq, apart _ _ _ _ built built']
  decide +kernel

end Definition

end Acceptor
