import Acceptor.Validation

/-! Which violations are found, said of a definition's sets and table and not of the rules.
Every rule reports the faults of its kind and no others, so the violations together are
exactly the faults of the definition (`mem_violations_iff`). -/
namespace Acceptor.Definition

open BuildError

variable {d : Definition} {e : BuildError}

theorem target?_eq_some_iff (d : Definition) (s : State) (x : String) (t : State) :
    d.target? s x = some t ↔ ∃ row, d.row? s = some row ∧ row.find? x = some t := by
  simp [target?, Option.bind_eq_some_iff]

/-- What each violation says of the definition. A symbol is looked for by its spelling, and a
start state that was never given cannot be missing here. -/
def HasFault (d : Definition) : BuildError → Prop
  | emptyStates => ∀ s, s ∉ d.states
  | missingStartState => False
  | unknownStartState s => s = d.startState ∧ s ∉ d.states
  | unknownFinalState s => s ∈ d.finalStates ∧ s ∉ d.states
  | unknownTrapState s => s ∈ d.trapStates ∧ s ∉ d.states
  | emptyAlphabet => ∀ x, x ∉ d.alphabet
  | malformedSymbol x => x.length ≠ 1 ∧ (x ∈ d.alphabet ∨ ∃ s t, d.target? s x = some t)
  | unknownSourceState s => (∃ row, d.row? s = some row) ∧ s ∉ d.states
  | unknownSymbol s c =>
    (∃ t, d.target? s (String.singleton c) = some t) ∧ String.singleton c ∉ d.alphabet
  | unknownTargetState s c t => d.target? s (String.singleton c) = some t ∧ t ∉ d.states
  | missingTransition s c => s ∈ d.states ∧ s ∉ d.finalStates ∧
    String.singleton c ∈ d.alphabet ∧ d.target? s (String.singleton c) = none
  | trapEscape p c t =>
    p ∈ d.trapStates ∧ d.target? p (String.singleton c) = some t ∧ t ≠ p

section Rules

@[simp] theorem mem_statesNonEmpty :
    e ∈ d.statesNonEmpty ↔ e = emptyStates ∧ ∀ s, s ∉ d.states := by
  rw [statesNonEmpty, ← SortedSet.isEmpty_iff]
  split <;> simp_all

@[simp] theorem mem_startKnown :
    e ∈ d.startKnown ↔ e = unknownStartState d.startState ∧ d.startState ∉ d.states := by
  rw [startKnown]
  split <;> simp_all

@[simp] theorem mem_finalsKnown :
    e ∈ d.finalsKnown ↔ ∃ s, (s ∈ d.finalStates ∧ s ∉ d.states) ∧ e = unknownFinalState s := by
  simp [finalsKnown, SortedSet.mem_toList, eq_comm]

@[simp] theorem mem_trapsKnown :
    e ∈ d.trapsKnown ↔ ∃ s, (s ∈ d.trapStates ∧ s ∉ d.states) ∧ e = unknownTrapState s := by
  simp [trapsKnown, SortedSet.mem_toList, eq_comm]

@[simp] theorem mem_alphabetWellFormed :
    e ∈ d.alphabetWellFormed ↔ (e = emptyAlphabet ∧ ∀ x, x ∉ d.alphabet) ∨
      ∃ x, (x ∈ d.alphabet ∧ x.length ≠ 1) ∧ e = malformedSymbol x := by
  rw [alphabetWellFormed, ← SortedSet.isEmpty_iff]
  split
  next empty =>
    have none := (SortedSet.isEmpty_iff d.alphabet).1 empty
    simp [empty, none]
  next inhabited =>
    simp [inhabited, SortedSet.mem_toList, symbol?_eq_none_iff, eq_comm (a := e)]

/-- Beside a symbol that is malformed nothing else of its entry is looked at. -/
@[simp] theorem mem_entryViolations {s : State} {x : String} {t : State} :
    e ∈ d.entryViolations s x t ↔ (x.length ≠ 1 ∧ e = malformedSymbol x) ∨
      ∃ c, x = String.singleton c ∧
        ((x ∉ d.alphabet ∧ e = unknownSymbol s c) ∨
          (t ∉ d.states ∧ e = unknownTargetState s c t)) := by
  simp only [← symbol?_eq_none_iff, ← symbol?_eq_some_iff]
  unfold entryViolations
  cases symbol? x with
  | none => simp
  | some c =>
    by_cases x ∈ d.alphabet <;> by_cases t ∈ d.states <;> simp_all

@[simp] theorem mem_rowViolations {s : State} {row : SortedMap String State} :
    e ∈ d.rowViolations s row ↔ (e = unknownSourceState s ∧ s ∉ d.states) ∨
      ∃ x t, row.find? x = some t ∧ e ∈ d.entryViolations s x t := by
  rw [rowViolations, List.mem_append, List.mem_flatMap]
  simp only [Prod.exists, SortedMap.mem_entries_iff]
  split <;> simp_all

@[simp] theorem mem_tableWellFormed :
    e ∈ d.tableWellFormed ↔
      (∃ s row, d.row? s = some row ∧ s ∉ d.states ∧ e = unknownSourceState s) ∨
      ∃ s x t, d.target? s x = some t ∧ e ∈ d.entryViolations s x t := by
  simp only [tableWellFormed, List.mem_flatMap, Prod.exists, SortedMap.mem_entries_iff,
    mem_rowViolations, target?_eq_some_iff, row?]
  constructor
  · rintro ⟨s, row, atRow, ⟨rfl, unknown⟩ | ⟨x, t, atEntry, found⟩⟩
    · exact .inl ⟨s, row, atRow, unknown, rfl⟩
    · exact .inr ⟨s, x, t, ⟨row, atRow, atEntry⟩, found⟩
  · rintro (⟨s, row, atRow, unknown, rfl⟩ | ⟨s, x, t, ⟨row, atRow, atEntry⟩, found⟩)
    · exact ⟨s, row, atRow, .inl ⟨rfl, unknown⟩⟩
    · exact ⟨s, row, atRow, .inr ⟨x, t, atEntry, found⟩⟩

theorem missingAt_eq_some_iff {s : State} {x : String} :
    d.missingAt s x = some e ↔
      ∃ c, x = String.singleton c ∧ d.target? s x = none ∧ e = missingTransition s c := by
  simp only [← symbol?_eq_some_iff]
  unfold missingAt
  cases symbol? x <;> simp [eq_comm (a := e)]

@[simp] theorem mem_tableTotal :
    e ∈ d.tableTotal ↔ ∃ s c, (s ∈ d.states ∧ s ∉ d.finalStates ∧
      String.singleton c ∈ d.alphabet ∧ d.target? s (String.singleton c) = none) ∧
      e = missingTransition s c := by
  simp only [tableTotal, List.mem_flatMap, List.mem_filterMap, missingAt_eq_some_iff,
    SortedSet.mem_toList, SortedSet.mem_without]
  constructor
  · rintro ⟨s, ⟨known, notFinal⟩, x, symbol, c, rfl, missing, rfl⟩
    exact ⟨s, c, ⟨known, notFinal, symbol, missing⟩, rfl⟩
  · rintro ⟨s, c, ⟨known, notFinal, symbol, missing⟩, rfl⟩
    exact ⟨s, ⟨known, notFinal⟩, _, symbol, c, rfl, missing, rfl⟩

theorem escapeOf_eq_some_iff {p : State} {x : String} {t : State} :
    escapeOf p x t = some e ↔ ∃ c, x = String.singleton c ∧ t ≠ p ∧ e = trapEscape p c t := by
  simp only [← symbol?_eq_some_iff]
  unfold escapeOf
  cases symbol? x <;> simp [eq_comm (a := e)]

@[simp] theorem mem_trapsClosed :
    e ∈ d.trapsClosed ↔ ∃ p c t, (p ∈ d.trapStates ∧
      d.target? p (String.singleton c) = some t ∧ t ≠ p) ∧ e = trapEscape p c t := by
  simp only [trapsClosed, List.mem_flatMap, SortedSet.mem_toList, target?_eq_some_iff]
  constructor
  · rintro ⟨p, trap, found⟩
    cases atRow : d.row? p with
    | none => simp [atRow] at found
    | some row =>
      simp only [atRow, List.mem_filterMap, Prod.exists, SortedMap.mem_entries_iff,
        escapeOf_eq_some_iff] at found
      obtain ⟨x, t, atEntry, c, rfl, away, rfl⟩ := found
      exact ⟨p, c, t, ⟨trap, ⟨row, atRow, atEntry⟩, away⟩, rfl⟩
  · rintro ⟨p, c, t, ⟨trap, ⟨row, atRow, atEntry⟩, away⟩, rfl⟩
    refine ⟨p, trap, ?_⟩
    simp only [atRow, List.mem_filterMap, Prod.exists, SortedMap.mem_entries_iff,
      escapeOf_eq_some_iff]
    exact ⟨_, t, atEntry, c, rfl, away, rfl⟩

end Rules

/-- No fault is passed over, also beside others, and nothing is reported that is none. -/
theorem mem_violations_iff (d : Definition) (e : BuildError) :
    e ∈ d.violations ↔ d.HasFault e := by
  simp only [violations, rules, List.flatMap_cons, List.flatMap_nil, List.mem_append,
    List.not_mem_nil, mem_statesNonEmpty, mem_startKnown, mem_finalsKnown, mem_trapsKnown,
    mem_alphabetWellFormed, mem_tableWellFormed, mem_entryViolations, mem_tableTotal,
    mem_trapsClosed, HasFault]
  -- each kind of error is left with the one rule that reports it, a malformed symbol with two
  cases e <;> grind

end Acceptor.Definition
