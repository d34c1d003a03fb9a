import Acceptor.Proofs.Violations

/-! In which order violations are reported: rule by rule, and by state and symbol within a rule.
A table lists its symbols by their spelling and its errors name characters; both orders agree,
because spellings of one character are ordered as their characters are. Malformed symbols stand
between the other errors of the table and do not disturb their order (`violations_in_order`). -/
namespace Acceptor

open BuildError

/-- The rules, in the order in which they are checked. -/
inductive Rule where
  | states
  | start
  | finals
  | traps
  | alphabet
  | table
  | total
  | closed
  deriving DecidableEq

namespace Rule

def all : List Rule := [states, start, finals, traps, alphabet, table, total, closed]

def number (r : Rule) : Nat := all.idxOf r

def report : Rule → Definition → List BuildError
  | states => Definition.statesNonEmpty
  | start => Definition.startKnown
  | finals => Definition.finalsKnown
  | traps => Definition.trapsKnown
  | alphabet => Definition.alphabetWellFormed
  | table => Definition.tableWellFormed
  | total => Definition.tableTotal
  | closed => Definition.trapsClosed

/-- The errors that each rule may report. A malformed symbol is one of the alphabet or one of
the table, according to where it stands. -/
inductive Reports (d : Definition) : Rule → BuildError → Prop
  | states : Reports d states emptyStates
  | start {s : State} : Reports d start (unknownStartState s)
  | final {s : State} : Reports d finals (unknownFinalState s)
  | trap {s : State} : Reports d traps (unknownTrapState s)
  | noSymbols : Reports d alphabet emptyAlphabet
  | spelled {x : String} (member : x ∈ d.alphabet) : Reports d alphabet (malformedSymbol x)
  | key {s t : State} {x : String} (found : d.target? s x = some t) :
    Reports d table (malformedSymbol x)
  | source {s : State} : Reports d table (unknownSourceState s)
  | symbol {s : State} {c : Char} : Reports d table (unknownSymbol s c)
  | target {s t : State} {c : Char} : Reports d table (unknownTargetState s c t)
  | missing {s : State} {c : Char} : Reports d total (missingTransition s c)
  | escape {p t : State} {c : Char} : Reports d closed (trapEscape p c t)

end Rule

/-- The row that an error of the table is about. -/
def BuildError.source? : BuildError → Option State
  | unknownSourceState s => some s
  | unknownSymbol s _ => some s
  | unknownTargetState s _ _ => some s
  | _ => none

/-- The entry that an error of the table is about. -/
def BuildError.entry? : BuildError → Option (State × Char)
  | unknownSymbol s c => some (s, c)
  | unknownTargetState s c _ => some (s, c)
  | _ => none

/-- The order of two errors of one rule. A malformed symbol of the table names no place, so it
is left out of account there. -/
inductive Before : Rule → BuildError → BuildError → Prop
  | final {s t : State} (lt : s < t) : Before .finals (unknownFinalState s) (unknownFinalState t)
  | trap {s t : State} (lt : s < t) : Before .traps (unknownTrapState s) (unknownTrapState t)
  | spelled {x y : String} (lt : x < y) :
    Before .alphabet (malformedSymbol x) (malformedSymbol y)
  | keyLeft {x : String} {e : BuildError} : Before .table (malformedSymbol x) e
  | keyRight {x : String} {e : BuildError} : Before .table e (malformedSymbol x)
  | row {s t : State} {e e' : BuildError} (left : e.source? = some s)
    (right : e'.source? = some t) (lt : s < t) : Before .table e e'
  | sourceFirst {s : State} {c : Char} {e : BuildError} (right : e.entry? = some (s, c)) :
    Before .table (unknownSourceState s) e
  | entry {s : State} {b c : Char} {e e' : BuildError} (left : e.entry? = some (s, b))
    (right : e'.entry? = some (s, c)) (lt : b < c) : Before .table e e'
  | symbolFirst {s t : State} {c : Char} :
    Before .table (unknownSymbol s c) (unknownTargetState s c t)
  | missing {s t : State} {b c : Char} (lt : s < t ∨ s = t ∧ b < c) :
    Before .total (missingTransition s b) (missingTransition t c)
  | escape {p q t u : State} {b c : Char} (lt : p < q ∨ p = q ∧ b < c) :
    Before .closed (trapEscape p b t) (trapEscape q c u)

/-- One violation comes before another, each with the rule that reports it. -/
def Precedes (p q : Rule × BuildError) : Prop :=
  p.1.number < q.1.number ∨ p.1 = q.1 ∧ Before p.1 p.2 q.2

namespace Definition

/-- The violations, each with the rule that reports it. -/
def attributed (d : Definition) : List (Rule × BuildError) :=
  Rule.all.flatMap fun r => (r.report d).map fun e => (r, e)

theorem map_snd_attributed (d : Definition) : d.attributed.map Prod.snd = d.violations := by
  simp [attributed, violations, Rule.all, rules, Rule.report, Function.comp_def]

section Rules

variable {d : Definition} {e : BuildError}

theorem reports_of_mem {r : Rule} (found : e ∈ r.report d) : r.Reports d e := by
  cases r with
  | states =>
    obtain ⟨rfl, -⟩ := mem_statesNonEmpty.1 found
    exact .states
  | start =>
    obtain ⟨rfl, -⟩ := mem_startKnown.1 found
    exact .start
  | finals =>
    obtain ⟨s, -, rfl⟩ := mem_finalsKnown.1 found
    exact .final
  | traps =>
    obtain ⟨s, -, rfl⟩ := mem_trapsKnown.1 found
    exact .trap
  | alphabet =>
    rcases mem_alphabetWellFormed.1 found with ⟨rfl, -⟩ | ⟨x, ⟨member, -⟩, rfl⟩
    · exact .noSymbols
    · exact .spelled member
  | table =>
    rcases mem_tableWellFormed.1 found with ⟨s, row, -, -, rfl⟩ | ⟨s, x, t, atEntry, found⟩
    · exact .source
    rcases mem_entryViolations.1 found with ⟨-, rfl⟩ | ⟨c, -, ⟨-, rfl⟩ | ⟨-, rfl⟩⟩
    · exact .key atEntry
    · exact .symbol
    · exact .target
  | total =>
    obtain ⟨s, c, -, rfl⟩ := mem_tableTotal.1 found
    exact .missing
  | closed =>
    obtain ⟨p, c, t, -, rfl⟩ := mem_trapsClosed.1 found
    exact .escape

theorem pairwise_alphabetWellFormed : d.alphabetWellFormed.Pairwise (Before .alphabet) := by
  unfold alphabetWellFormed
  split
  · simp
  · rw [List.pairwise_map]
    exact (d.alphabet.ascending.filter _).imp .spelled

/-- But for a malformed symbol, an error of an entry names the entry. -/
theorem entry?_of_mem {s t : State} {x : String} (found : e ∈ d.entryViolations s x t) :
    (∃ y, e = malformedSymbol y) ∨ ∃ c, x = String.singleton c ∧ e.entry? = some (s, c) := by
  rcases mem_entryViolations.1 found with ⟨-, rfl⟩ | ⟨c, rfl, ⟨-, rfl⟩ | ⟨-, rfl⟩⟩
  · exact .inl ⟨x, rfl⟩
  · exact .inr ⟨c, rfl, rfl⟩
  · exact .inr ⟨c, rfl, rfl⟩

theorem source?_of_entry? {s : State} {c : Char} (found : e.entry? = some (s, c)) :
    e.source? = some s := by
  cases e <;> cases found <;> rfl

theorem source?_of_mem {s : State} {row : SortedMap String State}
    (found : e ∈ d.rowViolations s row) :
    (∃ y, e = malformedSymbol y) ∨ e.source? = some s := by
  rcases mem_rowViolations.1 found with ⟨rfl, -⟩ | ⟨x, t, -, found⟩
  · exact .inr rfl
  · exact (entry?_of_mem found).imp id fun ⟨c, _, atEntry⟩ => source?_of_entry? atEntry

theorem pairwise_entryViolations (s : State) (x : String) (t : State) :
    (d.entryViolations s x t).Pairwise (Before .table) := by
  unfold entryViolations
  split
  · simp
  · split <;> split <;> simp [Before.symbolFirst]

/-- Symbols of a row are listed by their spelling. -/
theorem before_of_entries {s t u : State} {x y : String} {e' : BuildError} (lt : x < y)
    (left : e ∈ d.entryViolations s x t) (right : e' ∈ d.entryViolations s y u) :
    Before .table e e' := by
  rcases entry?_of_mem left with ⟨z, rfl⟩ | ⟨b, rfl, atLeft⟩
  · exact .keyLeft
  rcases entry?_of_mem right with ⟨z, rfl⟩ | ⟨c, rfl, atRight⟩
  · exact .keyRight
  exact .entry atLeft atRight (singleton_lt_singleton.1 lt)

theorem pairwise_rowViolations (s : State) (row : SortedMap String State) :
    (d.rowViolations s row).Pairwise (Before .table) := by
  rw [rowViolations, List.pairwise_append]
  refine ⟨?source, ?entries, ?between⟩
  case source => split <;> simp
  case entries =>
    rw [List.pairwise_flatMap]
    refine ⟨fun entry _ => pairwise_entryViolations s entry.1 entry.2, row.ascending.imp ?_⟩
    exact fun lt _ left _ right => before_of_entries lt left right
  case between =>
    intro e source e' later
    obtain ⟨entry, -, found⟩ := List.mem_flatMap.1 later
    split at source
    · contradiction
    obtain rfl := List.mem_singleton.1 source
    rcases entry?_of_mem found with ⟨y, rfl⟩ | ⟨c, -, atEntry⟩
    · exact .keyRight
    · exact .sourceFirst atEntry

theorem pairwise_tableWellFormed : d.tableWellFormed.Pairwise (Before .table) := by
  rw [tableWellFormed, List.pairwise_flatMap]
  refine ⟨fun row _ => pairwise_rowViolations row.1 row.2, d.transitions.ascending.imp ?_⟩
  intro row row' lt e left e' right
  rcases source?_of_mem left with ⟨y, rfl⟩ | left
  · exact .keyLeft
  rcases source?_of_mem right with ⟨y, rfl⟩ | right
  · exact .keyRight
  exact .row left right lt

theorem pairwise_tableTotal : d.tableTotal.Pairwise (Before .total) := by
  rw [tableTotal, List.pairwise_flatMap]
  constructor
  · intro s _
    rw [List.pairwise_filterMap]
    refine d.alphabet.ascending.imp ?_
    intro x y lt e left e' right
    obtain ⟨b, rfl, -, rfl⟩ := missingAt_eq_some_iff.1 left
    obtain ⟨c, rfl, -, rfl⟩ := missingAt_eq_some_iff.1 right
    exact .missing (.inr ⟨rfl, singleton_lt_singleton.1 lt⟩)
  · refine (d.states.without d.finalStates).ascending.imp ?_
    intro s t lt e left e' right
    obtain ⟨x, -, left⟩ := List.mem_filterMap.1 left
    obtain ⟨y, -, right⟩ := List.mem_filterMap.1 right
    obtain ⟨b, -, -, rfl⟩ := missingAt_eq_some_iff.1 left
    obtain ⟨c, -, -, rfl⟩ := missingAt_eq_some_iff.1 right
    exact .missing (.inl lt)

theorem exists_escape_of_mem {p : State} (found : e ∈ match d.row? p with
      | none => []
      | some row => row.entries.filterMap fun entry : String × State =>
        escapeOf p entry.1 entry.2) :
    ∃ c t, e = trapEscape p c t := by
  split at found
  · contradiction
  · obtain ⟨entry, -, escape⟩ := List.mem_filterMap.1 found
    obtain ⟨c, -, -, rfl⟩ := escapeOf_eq_some_iff.1 escape
    exact ⟨c, entry.2, rfl⟩

theorem pairwise_trapsClosed : d.trapsClosed.Pairwise (Before .closed) := by
  rw [trapsClosed, List.pairwise_flatMap]
  constructor
  · intro p _
    cases d.row? p with
    | none => exact .nil
    | some row =>
      rw [List.pairwise_filterMap]
      refine row.ascending.imp ?_
      rintro ⟨x, t⟩ ⟨y, u⟩ lt e left e' right
      obtain ⟨b, rfl, -, rfl⟩ := escapeOf_eq_some_iff.1 left
      obtain ⟨c, rfl, -, rfl⟩ := escapeOf_eq_some_iff.1 right
      exact .escape (.inr ⟨rfl, singleton_lt_singleton.1 lt⟩)
  · refine d.trapStates.ascending.imp ?_
    intro p q lt e left e' right
    obtain ⟨b, t, rfl⟩ := exists_escape_of_mem left
    obtain ⟨c, u, rfl⟩ := exists_escape_of_mem right
    exact .escape (.inl lt)

/-- Of the rules that stop at one error, none has a second one to be ordered. -/
theorem pairwise_report (d : Definition) (r : Rule) : (r.report d).Pairwise (Before r) := by
  cases r with
  | states =>
    rw [Rule.report, statesNonEmpty]
    split <;> simp
  | start =>
    rw [Rule.report, startKnown]
    split <;> simp
  | finals =>
    rw [Rule.report, finalsKnown, List.pairwise_map]
    exact (d.finalStates.without d.states).ascending.imp .final
  | traps =>
    rw [Rule.report, trapsKnown, List.pairwise_map]
    exact (d.trapStates.without d.states).ascending.imp .trap
  | alphabet => exact pairwise_alphabetWellFormed
  | table => exact pairwise_tableWellFormed
  | total => exact pairwise_tableTotal
  | closed => exact pairwise_trapsClosed

end Rules

theorem pairwise_attributed (d : Definition) : d.attributed.Pairwise Precedes := by
  rw [attributed, List.pairwise_flatMap]
  constructor
  · intro r _
    rw [List.pairwise_map]
    exact (pairwise_report d r).imp fun before => .inr ⟨rfl, before⟩
  · have ascending : Rule.all.Pairwise fun r r' => r.number < r'.number := by decide
    refine ascending.imp ?_
    intro r r' lt p left q right
    obtain ⟨e, -, rfl⟩ := List.mem_map.1 left
    obtain ⟨e', -, rfl⟩ := List.mem_map.1 right
    exact .inl lt

/-- Violations are listed in the order of the rules that report them, and those of one rule in
ascending order, but for the malformed symbols of the table. -/
theorem violations_in_order (d : Definition) :
    d.attributed.map Prod.snd = d.violations ∧
    (∀ p ∈ d.attributed, p.1.Reports d p.2) ∧
    d.attributed.Pairwise Precedes := by
  refine ⟨map_snd_attributed d, ?_, pairwise_attributed d⟩
  intro p member
  obtain ⟨r, -, listed⟩ := List.mem_flatMap.1 member
  obtain ⟨e, found, rfl⟩ := List.mem_map.1 listed
  exact reports_of_mem found

end Definition

end Acceptor
