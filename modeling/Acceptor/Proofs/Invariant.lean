import Acceptor.Catalog
import Acceptor.Proofs.Compilation

/-! What every automaton that was built can be relied on for, said of its compiled rows.
Compiling keeps what was validated, and validation asks for no more than this: a definition
builds exactly when it keeps to the rules that its author is given (`build_exact`). -/
namespace Acceptor

/-- A move stays among the known states and symbols, and within a trap it stays in place. -/
structure Automaton.Invariant (a : Automaton) : Prop where
  states : ∃ s, s ∈ a.states
  alphabet : ∃ c, c ∈ a.alphabet
  start : a.startState ∈ a.states
  finals : ∀ s ∈ a.finalStates, s ∈ a.states
  traps : ∀ s ∈ a.trapStates, s ∈ a.states
  sources : ∀ s row, a.row? s = some row → s ∈ a.states
  total : ∀ s ∈ a.states, s ∉ a.finalStates → ∀ c ∈ a.alphabet, ∃ t, a.next? s c = some t
  moves : ∀ s c t, a.next? s c = some t → s ∈ a.states ∧ t ∈ a.states ∧ c ∈ a.alphabet
  closed : ∀ p ∈ a.trapStates, ∀ c t, a.next? p c = some t → t = p

namespace Definition

section

variable {d : Definition}

theorem exists_build_iff_valid : (∃ a, d.build = .ok a) ↔ d.Valid := by
  simp [build_eq_ok_iff_valid]

theorem Valid.source (valid : d.Valid) {s : State} {x : String} {t : State}
    (found : d.target? s x = some t) : s ∈ d.states := by
  obtain ⟨row, atRow, _⟩ := (d.target?_eq_some_iff s x t).1 found
  exact valid.sources s row atRow

/-- Each field of the invariant is the rule for spelled symbols at a symbol's spelling. -/
theorem invariant_compile (valid : d.Valid) : d.compile.Invariant where
  states := valid.states
  alphabet := by
    obtain ⟨x, member⟩ := valid.alphabet
    obtain ⟨c, rfl⟩ := valid.symbols x member
    exact ⟨c, (d.mem_alphabet_compile c).2 member⟩
  start := valid.start
  finals := valid.finals
  traps := valid.traps
  sources := by
    intro s row atRow
    rw [row?_compile] at atRow
    obtain ⟨spelled, found, _⟩ := Option.map_eq_some_iff.1 atRow
    exact valid.sources s spelled found
  total := by
    intro s known notFinal c symbol
    rw [mem_alphabet_compile] at symbol
    simp only [next?_compile]
    exact valid.total s known notFinal _ symbol
  moves := by
    intro s c t moved
    rw [next?_compile] at moved
    obtain ⟨symbol, target⟩ := valid.entries s _ t moved
    exact ⟨valid.source moved, target, (d.mem_alphabet_compile c).2 symbol⟩
  closed := by
    intro p trap c t moved
    rw [next?_compile] at moved
    exact valid.closed p trap _ t moved

end

/-- A definition builds if and only if it keeps to every rule, and whatever is built has the
invariant. That an entry's symbol is one character follows from its being in the alphabet, and
stands here because the rules name it. -/
theorem build_exact (d : Definition) :
    ((∃ a, d.build = .ok a) ↔
      (∃ s, s ∈ d.states) ∧
      (d.startState ∈ d.states ∧ (∀ s ∈ d.finalStates, s ∈ d.states) ∧
        ∀ s ∈ d.trapStates, s ∈ d.states) ∧
      ((∃ x, x ∈ d.alphabet) ∧ ∀ x ∈ d.alphabet, ∃ c, x = String.singleton c) ∧
      (∀ s row, d.row? s = some row → s ∈ d.states ∧
        ∀ x t, row.find? x = some t →
          (∃ c, x = String.singleton c) ∧ x ∈ d.alphabet ∧ t ∈ d.states) ∧
      (∀ s ∈ d.states, s ∉ d.finalStates → ∀ x ∈ d.alphabet, ∃ t, d.target? s x = some t) ∧
      ∀ p ∈ d.trapStates, ∀ row, d.row? p = some row → ∀ x t, row.find? x = some t → t = p) ∧
    ∀ a, d.build = .ok a → a.Invariant := by
  constructor
  · rw [exists_build_iff_valid]
    constructor
    · intro valid
      refine ⟨valid.states, ⟨valid.start, valid.finals, valid.traps⟩,
        ⟨valid.alphabet, valid.symbols⟩, ?rows, valid.total, ?closed⟩
      case rows =>
        intro s row atRow
        refine ⟨valid.sources s row atRow, fun x t atEntry => ?_⟩
        have known := valid.entries s x t ((d.target?_eq_some_iff s x t).2 ⟨row, atRow, atEntry⟩)
        exact ⟨valid.symbols x known.1, known⟩
      case closed =>
        intro p trap row atRow x t atEntry
        exact valid.closed p trap x t ((d.target?_eq_some_iff p x t).2 ⟨row, atRow, atEntry⟩)
    · rintro ⟨states, ⟨start, finals, traps⟩, ⟨alphabet, symbols⟩, rows, total, closed⟩
      refine ⟨states, start, finals, traps, alphabet, symbols, ?sources, ?entries, total, ?closed⟩
      case sources =>
        intro s row atRow
        exact (rows s row atRow).1
      case entries =>
        intro s x t found
        obtain ⟨row, atRow, atEntry⟩ := (d.target?_eq_some_iff s x t).1 found
        exact ((rows s row atRow).2 x t atEntry).2
      case closed =>
        intro p trap x t found
        obtain ⟨row, atRow, atEntry⟩ := (d.target?_eq_some_iff p x t).1 found
        exact closed p trap row atRow x t atEntry
  · intro a built
    obtain ⟨valid, rfl⟩ := (build_eq_ok_iff_valid d a).1 built
    exact invariant_compile valid

/-- Every non-final state of `stars` has both symbols, and its trap `4` leads to itself. -/
theorem stars_invariant :
    Catalog.stars.definition.build = .ok Catalog.stars.definition.compile ∧
    Catalog.stars.definition.compile.Invariant := by
  have built : Catalog.stars.definition.build = .ok Catalog.stars.definition.compile :=
    (build_eq_ok_iff _ _).2 ⟨by decide +kernel, rfl⟩
  exact ⟨built, (build_exact Catalog.stars.definition).2 _ built⟩

end Definition

end Acceptor
