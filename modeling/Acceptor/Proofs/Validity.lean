import Acceptor.Automaton
import Acceptor.Proofs.Violations

/-! What a definition has to satisfy to be an automaton, said of its sets and its table and
not of the checks. The checks find nothing exactly when it does (`violations_eq_nil_iff`),
so every other proof about built automata starts from `Valid`. -/
namespace Acceptor.Definition

open BuildError

/-- Totality exempts final states, and a trap may be without a row only if it is final. -/
structure Valid (d : Definition) : Prop where
  states : ∃ s, s ∈ d.states
  start : d.startState ∈ d.states
  finals : ∀ s ∈ d.finalStates, s ∈ d.states
  traps : ∀ s ∈ d.trapStates, s ∈ d.states
  alphabet : ∃ x, x ∈ d.alphabet
  symbols : ∀ x ∈ d.alphabet, ∃ c, x = String.singleton c
  sources : ∀ s row, d.row? s = some row → s ∈ d.states
  entries : ∀ s x t, d.target? s x = some t → x ∈ d.alphabet ∧ t ∈ d.states
  total : ∀ s ∈ d.states, s ∉ d.finalStates → ∀ x ∈ d.alphabet, ∃ t, d.target? s x = some t
  closed : ∀ p ∈ d.trapStates, ∀ x t, d.target? p x = some t → t = p

/-- A valid definition is one without faults. The faults that malformed symbols would hide
are found all the same, because such a symbol is a fault itself. -/
theorem violations_eq_nil_iff (d : Definition) : d.violations = [] ↔ d.Valid := by
  simp only [List.eq_nil_iff_forall_not_mem, mem_violations_iff]
  constructor
  · intro clean
    have symbols : ∀ x, (x ∈ d.alphabet ∨ ∃ s t, d.target? s x = some t) →
        ∃ c, x = String.singleton c := by
      intro x used
      rw [← length_eq_one_iff]
      exact Classical.byContradiction fun malformed => clean (malformedSymbol x) ⟨malformed, used⟩
    constructor
    case states =>
      exact Classical.byContradiction fun none => clean emptyStates (not_exists.1 none)
    case start =>
      exact Classical.byContradiction fun unknown => clean (unknownStartState _) ⟨rfl, unknown⟩
    case finals =>
      intro s final
      exact Classical.byContradiction fun unknown => clean (unknownFinalState s) ⟨final, unknown⟩
    case traps =>
      intro s trap
      exact Classical.byContradiction fun unknown => clean (unknownTrapState s) ⟨trap, unknown⟩
    case alphabet =>
      exact Classical.byContradiction fun none => clean emptyAlphabet (not_exists.1 none)
    case symbols => exact fun x member => symbols x (.inl member)
    case sources =>
      intro s row atRow
      exact Classical.byContradiction fun unknown =>
        clean (unknownSourceState s) ⟨⟨row, atRow⟩, unknown⟩
    case entries =>
      intro s x t found
      obtain ⟨c, rfl⟩ := symbols x (.inr ⟨s, t, found⟩)
      constructor
      · exact Classical.byContradiction fun foreign =>
          clean (unknownSymbol s c) ⟨⟨t, found⟩, foreign⟩
      · exact Classical.byContradiction fun unknown =>
          clean (unknownTargetState s c t) ⟨found, unknown⟩
    case total =>
      intro s known notFinal x member
      obtain ⟨c, rfl⟩ := symbols x (.inl member)
      rw [← Option.ne_none_iff_exists']
      intro missing
      exact clean (missingTransition s c) ⟨known, notFinal, member, missing⟩
    case closed =>
      intro p trap x t found
      obtain ⟨c, rfl⟩ := symbols x (.inr ⟨p, t, found⟩)
      exact Classical.byContradiction fun away => clean (trapEscape p c t) ⟨trap, found, away⟩
  · intro valid e fault
    cases e with
    | emptyStates =>
      obtain ⟨s, known⟩ := valid.states
      exact fault s known
    | missingStartState => exact fault
    | unknownStartState s =>
      obtain ⟨rfl, unknown⟩ := fault
      exact unknown valid.start
    | unknownFinalState s => exact fault.2 (valid.finals s fault.1)
    | unknownTrapState s => exact fault.2 (valid.traps s fault.1)
    | emptyAlphabet =>
      obtain ⟨x, member⟩ := valid.alphabet
      exact fault x member
    | malformedSymbol x =>
      obtain ⟨malformed, used⟩ := fault
      rw [ne_eq, length_eq_one_iff] at malformed
      rcases used with member | ⟨s, t, found⟩
      · exact malformed (valid.symbols x member)
      · exact malformed (valid.symbols x (valid.entries s x t found).1)
    | unknownSourceState s =>
      obtain ⟨⟨row, atRow⟩, unknown⟩ := fault
      exact unknown (valid.sources s row atRow)
    | unknownSymbol s c =>
      obtain ⟨⟨t, found⟩, foreign⟩ := fault
      exact foreign (valid.entries s _ t found).1
    | unknownTargetState s c t =>
      obtain ⟨found, unknown⟩ := fault
      exact unknown (valid.entries s _ t found).2
    | missingTransition s c =>
      obtain ⟨known, notFinal, member, missing⟩ := fault
      obtain ⟨t, found⟩ := valid.total s known notFinal _ member
      exact nomatch missing.symm.trans found
    | trapEscape p c t =>
      obtain ⟨trap, found, away⟩ := fault
      exact away (valid.closed p trap _ t found)

theorem build_eq_ok_iff_valid (d : Definition) (a : Automaton) :
    d.build = .ok a ↔ d.Valid ∧ a = d.compile := by
  rw [build_eq_ok_iff, violations_eq_nil_iff]

end Acceptor.Definition
