import Acceptor.Proofs.Violations
import Mathlib.Data.List.Nodup

/-! How often each violation is reported. A violation that names its place is reported once,
because places are visited once. A malformed symbol is named without its place: it is reported
for the alphabet and again for every row that uses it (`violations_exact`). -/
namespace Acceptor.Definition

open BuildError

section Counting

variable {α β κ : Type} {l : List α} {f : α → List β}

/-- Parts that are told apart by a key of their elements have no element in common. -/
theorem nodup_flatMap_of_key {key : α → κ} (apart : l.Pairwise fun a a' => key a ≠ key a')
    (each : ∀ a, (f a).Nodup) (same : ∀ a a' b, b ∈ f a → b ∈ f a' → key a = key a') :
    (l.flatMap f).Nodup := by
  rw [List.nodup_flatMap]
  refine ⟨fun a _ => each a, apart.imp ?_⟩
  intro a a' ne b first second
  exact ne (same a a' b first second)

/-- Where no part holds `b` twice, `b` is counted by the parts that hold it. -/
theorem count_flatMap_eq_countP [DecidableEq β] {b : β} (each : ∀ a, (f a).Nodup) :
    (l.flatMap f).count b = l.countP fun a => b ∈ f a := by
  induction l with
  | nil => rfl
  | cons a l ih =>
    rw [List.flatMap_cons, List.count_append, List.countP_cons, ih, (each a).count]
    simp [Nat.add_comm]

theorem countP_le_one {p : α → Bool} {key : α → κ}
    (apart : l.Pairwise fun a a' => key a ≠ key a')
    (same : ∀ a a', p a = true → p a' = true → key a = key a') : l.countP p ≤ 1 := by
  induction l with
  | nil => simp
  | cons a l ih =>
    rw [List.pairwise_cons] at apart
    rw [List.countP_cons]
    by_cases holds : p a = true
    · have others : l.countP p = 0 := by
        rw [List.countP_eq_zero]
        intro a' member holds'
        exact apart.1 a' member (same a a' holds holds')
      simp [others, holds]
    · simpa [holds] using ih apart.2

end Counting

section Rules

variable {d : Definition} {e : BuildError}

theorem nodup_statesNonEmpty : d.statesNonEmpty.Nodup := by
  unfold statesNonEmpty
  split <;> simp

theorem nodup_startKnown : d.startKnown.Nodup := by
  unfold startKnown
  split <;> simp

theorem nodup_finalsKnown : d.finalsKnown.Nodup :=
  (SortedSet.nodup_toList _).map fun _ _ => unknownFinalState.inj

theorem nodup_trapsKnown : d.trapsKnown.Nodup :=
  (SortedSet.nodup_toList _).map fun _ _ => unknownTrapState.inj

theorem nodup_alphabetWellFormed : d.alphabetWellFormed.Nodup := by
  unfold alphabetWellFormed
  split
  · simp
  · exact (d.alphabet.nodup_toList.filter _).map fun _ _ => malformedSymbol.inj

theorem nodup_entryViolations (s : State) (x : String) (t : State) :
    (d.entryViolations s x t).Nodup := by
  unfold entryViolations
  split
  · simp
  · split <;> split <;> simp

/-- Every violation of an entry names the symbol of the entry. -/
theorem symbol_unique {s s' : State} {x x' : String} {t t' : State}
    (first : e ∈ d.entryViolations s x t) (second : e ∈ d.entryViolations s' x' t') :
    x = x' := by
  rw [mem_entryViolations] at first second
  grind

theorem nodup_rowViolations (s : State) (row : SortedMap String State) :
    (d.rowViolations s row).Nodup := by
  unfold rowViolations
  rw [List.nodup_append]
  refine ⟨?source, ?entries, ?apart⟩
  case source => split <;> simp
  case entries =>
    refine nodup_flatMap_of_key row.ascending.pairwise_ne ?_ ?_
    · exact fun entry => nodup_entryViolations s entry.1 entry.2
    · exact fun _ _ _ => symbol_unique
  case apart =>
    intro e source e' entry same
    subst same
    simp only [List.mem_flatMap, mem_entryViolations] at entry
    split at source <;> grind

/-- But for malformed symbols, every violation of a row names the row's source. -/
theorem source_unique (placed : ∀ x, e ≠ malformedSymbol x) {s s' : State}
    {row row' : SortedMap String State} (first : e ∈ d.rowViolations s row)
    (second : e ∈ d.rowViolations s' row') : s = s' := by
  simp only [mem_rowViolations, mem_entryViolations] at first second
  grind

theorem count_tableWellFormed (d : Definition) (e : BuildError) :
    d.tableWellFormed.count e =
      d.transitions.entries.countP fun row => e ∈ d.rowViolations row.1 row.2 :=
  count_flatMap_eq_countP fun row => nodup_rowViolations row.1 row.2

theorem count_tableWellFormed_le_one (placed : ∀ x, e ≠ malformedSymbol x) :
    d.tableWellFormed.count e ≤ 1 := by
  rw [count_tableWellFormed]
  refine countP_le_one d.transitions.ascending.pairwise_ne ?_
  intro row row' first second
  exact source_unique placed (of_decide_eq_true first) (of_decide_eq_true second)

theorem count_tableWellFormed_malformed {x : String} (malformed : x.length ≠ 1) :
    d.tableWellFormed.count (malformedSymbol x) =
      d.transitions.entries.countP fun row => row.2.contains x := by
  rw [count_tableWellFormed]
  apply List.countP_congr
  intro row _
  simp only [decide_eq_true_eq, mem_rowViolations, mem_entryViolations, SortedMap.contains,
    Option.isSome_iff_exists]
  grind

theorem count_alphabetWellFormed_malformed {x : String} (malformed : x.length ≠ 1) :
    d.alphabetWellFormed.count (malformedSymbol x) = if x ∈ d.alphabet then 1 else 0 := by
  rw [nodup_alphabetWellFormed.count]
  simp [mem_alphabetWellFormed, malformed]

theorem nodup_tableTotal : d.tableTotal.Nodup := by
  refine nodup_flatMap_of_key (SortedSet.nodup_toList _) ?_ ?_
  · intro s
    refine d.alphabet.nodup_toList.filterMap ?_
    intro x x' e first second
    rw [Option.mem_def, missingAt_eq_some_iff] at first second
    grind
  · intro s s' e first second
    simp only [List.mem_filterMap, missingAt_eq_some_iff] at first second
    grind

theorem nodup_trapsClosed : d.trapsClosed.Nodup := by
  refine nodup_flatMap_of_key (SortedSet.nodup_toList _) ?_ ?_
  · intro p
    cases d.row? p with
    | none => exact .nil
    | some row =>
      refine row.nodup_entries.filterMap ?_
      intro entry entry' e first second
      rw [Option.mem_def, escapeOf_eq_some_iff] at first second
      grind
  · intro p p' e first second
    cases atRow : d.row? p <;> cases atRow' : d.row? p' <;>
      simp only [atRow, atRow', List.mem_filterMap, escapeOf_eq_some_iff] at first second
    all_goals grind

end Rules

/-- Each kind of error comes from one rule, and is counted there alone. -/
theorem count_violations_le_one {d : Definition} {e : BuildError}
    (placed : ∀ x, e ≠ malformedSymbol x) : d.violations.count e ≤ 1 := by
  have once {l : List BuildError} (distinct : l.Nodup) : l.count e ≤ 1 :=
    List.nodup_iff_count_le_one.1 distinct e
  have table : d.tableWellFormed.count e ≤ 1 := count_tableWellFormed_le_one placed
  simp only [violations, rules, List.flatMap_cons, List.flatMap_nil, List.count_append,
    List.count_nil]
  cases e with
  | emptyStates =>
    simpa [List.count_eq_zero_of_not_mem] using once (nodup_statesNonEmpty (d := d))
  | missingStartState => simp [List.count_eq_zero_of_not_mem]
  | unknownStartState s =>
    simpa [List.count_eq_zero_of_not_mem] using once (nodup_startKnown (d := d))
  | unknownFinalState s =>
    simpa [List.count_eq_zero_of_not_mem] using once (nodup_finalsKnown (d := d))
  | unknownTrapState s =>
    simpa [List.count_eq_zero_of_not_mem] using once (nodup_trapsKnown (d := d))
  | emptyAlphabet =>
    simpa [List.count_eq_zero_of_not_mem] using once (nodup_alphabetWellFormed (d := d))
  | malformedSymbol x => exact absurd rfl (placed x)
  | unknownSourceState s => simpa [List.count_eq_zero_of_not_mem] using table
  | unknownSymbol s c => simpa [List.count_eq_zero_of_not_mem] using table
  | unknownTargetState s c t => simpa [List.count_eq_zero_of_not_mem] using table
  | missingTransition s c =>
    simpa [List.count_eq_zero_of_not_mem] using once (nodup_tableTotal (d := d))
  | trapEscape p c t =>
    simpa [List.count_eq_zero_of_not_mem] using once (nodup_trapsClosed (d := d))

theorem count_violations_malformed {d : Definition} {x : String} (malformed : x.length ≠ 1) :
    d.violations.count (malformedSymbol x) =
      (if x ∈ d.alphabet then 1 else 0) +
        d.transitions.entries.countP fun row => row.2.contains x := by
  rw [← count_alphabetWellFormed_malformed malformed, ← count_tableWellFormed_malformed malformed]
  simp [violations, rules, List.count_append, List.count_eq_zero_of_not_mem]

/-- An audit lists every fault of the definition and nothing else. It lists each once, but a
malformed symbol once for the alphabet that holds it and once for each row that does. -/
theorem violations_exact (d : Definition) :
    d.audit.errors = d.violations ∧
    (∀ e, e ∈ d.violations ↔ d.HasFault e) ∧
    (∀ e, (∀ x, e ≠ malformedSymbol x) → d.violations.count e ≤ 1) ∧
    ∀ x, x.length ≠ 1 → d.violations.count (malformedSymbol x) =
      (if x ∈ d.alphabet then 1 else 0) +
        d.transitions.entries.countP fun row => row.2.contains x :=
  ⟨d.errors_audit, d.mem_violations_iff, fun _ => count_violations_le_one,
    fun _ => count_violations_malformed⟩

/-- The alphabet and the only row both hold `ab`; the row lacks the symbol `a`. -/
def repeatedSpelling : Definition where
  states := .ofList [0]
  alphabet := .ofList ["a", "ab"]
  transitions := .ofList [(0, .ofList [("ab", 0)])]
  startState := 0
  finalStates := ∅
  trapStates := ∅

theorem repeatedSpelling_counts :
    (∀ x, missingTransition 0 'a' ≠ malformedSymbol x) ∧ "ab".length ≠ 1 ∧
    repeatedSpelling.violations.count (missingTransition 0 'a') ≤ 1 ∧
    repeatedSpelling.violations.count (malformedSymbol "ab") = 2 := by
  obtain ⟨-, -, placed, malformed⟩ := violations_exact repeatedSpelling
  refine ⟨nofun, by decide, placed _ nofun, ?_⟩
  rw [malformed "ab" (by decide)]
  decide +kernel

/-- What is sound and complete need not be free of repetitions. -/
theorem violations_not_nodup :
    ¬ ((∀ e, e ∈ repeatedSpelling.violations ↔ repeatedSpelling.HasFault e) ∧
      repeatedSpelling.violations.Nodup) := by
  rintro ⟨-, distinct⟩
  exact absurd distinct (by decide +kernel)

end Acceptor.Definition
