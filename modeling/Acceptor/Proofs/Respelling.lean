import Acceptor.Proofs.Multiplicity
import Acceptor.Proofs.Renaming

/-! Mending what is malformed. An audit reports a malformed symbol for that alone, so whatever else
is wrong where it stands comes to light only when it is replaced by a character: a target that is
no state, a state without a target for it, or a way out of a trap (`violations_respell`). Nothing
else changes, and no violation is lost. -/
namespace Acceptor

open BuildError

/-- A string that is no symbol gives way to the character chosen for it. -/
def respell (g : String → Char) (x : String) : String :=
  match symbol? x with
  | some _ => x
  | none => String.singleton (g x)

section

variable {g : String → Char} {x : String} {c : Char}

@[simp] theorem respell_singleton : respell g (String.singleton c) = String.singleton c := by
  simp [respell]

theorem respell_of_malformed (malformed : x.length ≠ 1) :
    respell g x = String.singleton (g x) := by
  rw [respell, (symbol?_eq_none_iff x).2 malformed]

/-- A string is a symbol or malformed. -/
theorem singleton_or_malformed (x : String) : (∃ c, x = String.singleton c) ∨ x.length ≠ 1 := by
  rw [← length_eq_one_iff]
  exact Decidable.em _

theorem length_respell (g : String → Char) (x : String) : (respell g x).length = 1 := by
  rcases singleton_or_malformed x with ⟨b, rfl⟩ | malformed
  · simp
  · rw [respell_of_malformed malformed, String.length_singleton]

theorem respell_eq_singleton_iff :
    respell g x = String.singleton c ↔ x = String.singleton c ∨ x.length ≠ 1 ∧ g x = c := by
  rcases singleton_or_malformed x with ⟨b, rfl⟩ | malformed
  · simp
  · have other : x ≠ String.singleton c := by
      rintro rfl
      exact malformed String.length_singleton
    simp [respell_of_malformed malformed, malformed, other]

end

namespace BuildError

/-- The character that an error names. -/
def carried? : BuildError → Option Char
  | unknownSymbol _ c => some c
  | unknownTargetState _ c _ => some c
  | missingTransition _ c => some c
  | trapEscape _ c _ => some c
  | _ => none

def isMalformed : BuildError → Bool
  | malformedSymbol _ => true
  | _ => false

theorem isMalformed_of_carried {e : BuildError} {c : Char} (carried : e.carried? = some c) :
    e.isMalformed = false := by
  cases e with
  | malformedSymbol => contradiction
  | _ => rfl

end BuildError

namespace Definition

def respell (g : String → Char) (d : Definition) : Definition :=
  { d with
    alphabet := d.alphabet.image (Acceptor.respell g)
    transitions := d.transitions.mapValues (.image (Acceptor.respell g) id) }

/-- Every malformed symbol has a character of its own, which does not occur in `d`. -/
structure Fresh (d : Definition) (g : String → Char) : Prop where
  distinct : Set.InjOn g {x | d.HasFault (malformedSymbol x)}
  unused : ∀ x, d.HasFault (malformedSymbol x) → ¬ d.Uses (g x)

theorem uses_iff (d : Definition) (c : Char) :
    d.Uses c ↔ (∃ x ∈ d.alphabet, c ∈ x.toList) ∨
      ∃ row ∈ d.transitions.entries, ∃ e ∈ row.2.entries, c ∈ e.1.toList := by
  constructor
  · rintro (⟨member, inside⟩ | ⟨found, inside⟩)
    · exact .inl ⟨_, member, inside⟩
    · obtain ⟨row, atRow, atEntry⟩ := (d.target?_eq_some_iff ..).1 found
      exact .inr ⟨(_, row), (d.transitions.mem_entries_iff ..).2 atRow, (_, _),
        (row.mem_entries_iff ..).2 atEntry, inside⟩
  · rintro (⟨x, member, inside⟩ | ⟨⟨s, row⟩, atRow, ⟨x, t⟩, atEntry, inside⟩)
    · exact .alphabet member inside
    · rw [SortedMap.mem_entries_iff] at atRow atEntry
      exact .entry ((d.target?_eq_some_iff s x t).2 ⟨row, atRow, atEntry⟩) inside

instance (d : Definition) : DecidablePred d.Uses :=
  fun c => decidable_of_iff _ (d.uses_iff c).symm

/-- The strings that a definition has for symbols. -/
def Spells (d : Definition) (x : String) : Prop :=
  x ∈ d.alphabet ∨ ∃ s t, d.target? s x = some t

/-- What an error that names a character says of the string `x` in the place of that character. -/
def FaultAt (d : Definition) (x : String) : BuildError → Prop
  | unknownSymbol s _ => (∃ t, d.target? s x = some t) ∧ x ∉ d.alphabet
  | unknownTargetState s _ t => d.target? s x = some t ∧ t ∉ d.states
  | missingTransition s _ =>
    s ∈ d.states ∧ s ∉ d.finalStates ∧ x ∈ d.alphabet ∧ d.target? s x = none
  | trapEscape p _ t => p ∈ d.trapStates ∧ d.target? p x = some t ∧ t ≠ p
  | _ => False

section Lists

variable (d : Definition) (g : String → Char)

/-- Entries with a malformed symbol: source, symbol and target. -/
def malformedEntries : List (State × String × State) :=
  d.transitions.entries.flatMap fun row =>
    (row.2.entries.filter fun e => (symbol? e.1).isNone).map fun e => (row.1, e)

/-- The error `f` at those entries with a malformed symbol of which `p` holds. -/
def atMalformed (p : State → String → State → Prop) [∀ s x t, Decidable (p s x t)]
    (f : State → Char → State → BuildError) : List BuildError :=
  (d.malformedEntries.filter fun e => p e.1 e.2.1 e.2.2).map fun e => f e.1 (g e.2.1) e.2.2

def foreignEntries : List BuildError :=
  d.atMalformed g (fun _ x _ => x ∉ d.alphabet) fun s c _ => unknownSymbol s c

def hiddenTargets : List BuildError :=
  d.atMalformed g (fun _ _ t => t ∉ d.states) unknownTargetState

def hiddenGaps : List BuildError :=
  (d.states.without d.finalStates).toList.flatMap fun s =>
    (d.alphabet.toList.filter fun x => x.length ≠ 1 ∧ d.target? s x = none).map fun x =>
      missingTransition s (g x)

def hiddenEscapes : List BuildError :=
  d.atMalformed g (fun p _ t => p ∈ d.trapStates ∧ t ≠ p) trapEscape

/-- What an audit does not report because the symbol that it would be about is malformed. -/
def hidden : List BuildError :=
  d.hiddenTargets g ++ d.hiddenGaps g ++ d.hiddenEscapes g

end Lists

section Members

variable {d : Definition} {g : String → Char} {e : BuildError}

theorem mem_malformedEntries {s t : State} {x : String} :
    (s, x, t) ∈ d.malformedEntries ↔ x.length ≠ 1 ∧ d.target? s x = some t := by
  simp only [malformedEntries, List.mem_flatMap, List.mem_map, List.mem_filter, Prod.exists,
    Prod.mk.injEq, SortedMap.mem_entries_iff, Option.isNone_iff_eq_none, symbol?_eq_none_iff,
    target?_eq_some_iff, row?]
  constructor
  · rintro ⟨s, row, atRow, x, t, ⟨atEntry, malformed⟩, rfl, rfl, rfl⟩
    exact ⟨malformed, row, atRow, atEntry⟩
  · rintro ⟨malformed, row, atRow, atEntry⟩
    exact ⟨s, row, atRow, x, t, ⟨atEntry, malformed⟩, rfl, rfl, rfl⟩

theorem mem_atMalformed {p : State → String → State → Prop} [∀ s x t, Decidable (p s x t)]
    {f : State → Char → State → BuildError} :
    e ∈ d.atMalformed g p f ↔
      ∃ s x t, (x.length ≠ 1 ∧ d.target? s x = some t) ∧ p s x t ∧ e = f s (g x) t := by
  simp only [atMalformed, List.mem_map, List.mem_filter, decide_eq_true_eq, Prod.exists,
    mem_malformedEntries, and_assoc, eq_comm (a := e)]

theorem mem_hiddenGaps :
    e ∈ d.hiddenGaps g ↔
      ∃ s x, x.length ≠ 1 ∧ d.FaultAt x (missingTransition s (g x)) ∧
        e = missingTransition s (g x) := by
  simp only [hiddenGaps, List.mem_flatMap, List.mem_map, List.mem_filter, SortedSet.mem_toList,
    SortedSet.mem_without, decide_eq_true_eq, FaultAt]
  constructor
  · rintro ⟨s, ⟨known, notFinal⟩, x, ⟨symbol, malformed, missing⟩, rfl⟩
    exact ⟨s, x, malformed, ⟨known, notFinal, symbol, missing⟩, rfl⟩
  · rintro ⟨s, x, malformed, ⟨known, notFinal, symbol, missing⟩, rfl⟩
    exact ⟨s, ⟨known, notFinal⟩, x, ⟨symbol, malformed, missing⟩, rfl⟩

/-- What comes to light at malformed symbols is what their characters will be blamed for. -/
theorem mem_uncovered :
    e ∈ d.foreignEntries g ++ d.hidden g ↔
      ∃ x, x.length ≠ 1 ∧ e.carried? = some (g x) ∧ d.FaultAt x e := by
  simp only [hidden, foreignEntries, hiddenTargets, hiddenEscapes, List.mem_append,
    mem_atMalformed, mem_hiddenGaps]
  constructor
  · rintro (⟨s, x, t, ⟨malformed, found⟩, foreign, rfl⟩ |
      (⟨s, x, t, ⟨malformed, found⟩, unknown, rfl⟩ | ⟨s, x, malformed, fault, rfl⟩) |
      ⟨p, x, t, ⟨malformed, found⟩, ⟨trap, away⟩, rfl⟩)
    · exact ⟨x, malformed, rfl, ⟨t, found⟩, foreign⟩
    · exact ⟨x, malformed, rfl, found, unknown⟩
    · exact ⟨x, malformed, rfl, fault⟩
    · exact ⟨x, malformed, rfl, trap, found, away⟩
  · rintro ⟨x, malformed, carried, fault⟩
    cases e with
    | unknownSymbol s c =>
      cases carried
      obtain ⟨⟨t, found⟩, foreign⟩ := fault
      exact .inl ⟨s, x, t, ⟨malformed, found⟩, foreign, rfl⟩
    | unknownTargetState s c t =>
      cases carried
      obtain ⟨found, unknown⟩ := fault
      exact .inr (.inl (.inl ⟨s, x, t, ⟨malformed, found⟩, unknown, rfl⟩))
    | missingTransition s c =>
      cases carried
      exact .inr (.inl (.inr ⟨s, x, malformed, fault, rfl⟩))
    | trapEscape p c t =>
      cases carried
      obtain ⟨trap, found, away⟩ := fault
      exact .inr (.inr ⟨p, x, t, ⟨malformed, found⟩, ⟨trap, away⟩, rfl⟩)
    | _ => contradiction

end Members

section Lookups

variable {d : Definition} {g : String → Char} {x : String} {e : BuildError}

theorem hasFault_iff_faultAt {c : Char} (carried : e.carried? = some c) :
    d.HasFault e ↔ d.FaultAt (String.singleton c) e := by
  cases e <;> cases carried <;> exact Iff.rfl

theorem spells_of_faultAt (fault : d.FaultAt x e) : d.Spells x := by
  cases e with
  | unknownSymbol s c => exact .inr ⟨s, fault.1⟩
  | unknownTargetState s c t => exact .inr ⟨s, t, fault.1⟩
  | missingTransition s c => exact .inl fault.2.2.1
  | trapEscape p c t => exact .inr ⟨p, t, fault.2.1⟩
  | _ => exact fault.elim

theorem uses_of_spells {c : Char} (spelled : d.Spells (String.singleton c)) : d.Uses c := by
  have inside : c ∈ (String.singleton c).toList := by simp
  rcases spelled with member | ⟨s, t, found⟩
  · exact .alphabet member inside
  · exact .entry found inside

@[simp] theorem row?_respell (s : State) :
    (d.respell g).row? s = (d.row? s).map (.image (Acceptor.respell g) id) :=
  SortedMap.find?_mapValues ..

theorem spells_key {s t : State} {row : SortedMap String State} (atRow : d.row? s = some row)
    (atEntry : row.find? x = some t) : d.Spells x :=
  .inr ⟨s, t, (d.target?_eq_some_iff s x t).2 ⟨row, atRow, atEntry⟩⟩

namespace Fresh

variable (fresh : d.Fresh g)

include fresh

/-- No two strings of `d` are spelled alike afterwards: a character that is chosen is neither
chosen twice nor a symbol already. -/
theorem injOn : Set.InjOn (Acceptor.respell g) {x | d.Spells x} := by
  intro x hx y hy same
  rcases singleton_or_malformed x with ⟨c, rfl⟩ | malformed
  · rw [respell_singleton, eq_comm, respell_eq_singleton_iff] at same
    rcases same with rfl | ⟨malformed, rfl⟩
    · rfl
    · exact absurd (uses_of_spells hx) (fresh.unused y ⟨malformed, hy⟩)
  · rw [respell_of_malformed malformed, eq_comm, respell_eq_singleton_iff] at same
    rcases same with rfl | ⟨malformed', chosen⟩
    · exact absurd (uses_of_spells hy) (fresh.unused x ⟨malformed, hx⟩)
    · exact fresh.distinct ⟨malformed, hx⟩ ⟨malformed', hy⟩ chosen.symm

theorem mem_alphabet (spelled : d.Spells x) :
    Acceptor.respell g x ∈ (d.respell g).alphabet ↔ x ∈ d.alphabet :=
  SortedSet.mem_image_of_injOn fresh.injOn (fun _ => .inl) spelled

theorem target? (spelled : d.Spells x) (s : State) :
    (d.respell g).target? s (Acceptor.respell g x) = d.target? s x := by
  rw [Definition.target?, Definition.target?, row?_respell]
  cases atRow : d.row? s with
  | none => rfl
  | some row =>
    have found := SortedMap.find?_image (g := id) fresh.injOn (fun _ _ => spells_key atRow) spelled
    simpa using found

/-- All that the respelled definition has for symbols was spelled somehow before. -/
theorem exists_spells {y : String} (spelled : (d.respell g).Spells y) :
    ∃ x, d.Spells x ∧ Acceptor.respell g x = y := by
  rcases spelled with member | ⟨s, t, found⟩
  · obtain ⟨x, member, same⟩ := (SortedSet.mem_image ..).1 member
    exact ⟨x, .inl member, same⟩
  · obtain ⟨row', atRow', atEntry'⟩ := (target?_eq_some_iff _ s y t).1 found
    rw [row?_respell] at atRow'
    obtain ⟨row, atRow, rfl⟩ := Option.map_eq_some_iff.1 atRow'
    obtain ⟨x, t, atEntry, same, rfl⟩ := (SortedMap.find?_image_eq_some_iff fresh.injOn
      (fun _ _ => spells_key atRow) y _).1 atEntry'
    exact ⟨x, spells_key atRow atEntry, same⟩

theorem faultAt_respell (spelled : d.Spells x) :
    (d.respell g).FaultAt (Acceptor.respell g x) e ↔ d.FaultAt x e := by
  cases e <;> simp only [FaultAt, fresh.target? spelled, fresh.mem_alphabet spelled] <;> rfl

/-- An error that names a character is one of `d` or was covered by a malformed symbol. -/
theorem hasFault_of_carried {c : Char} (carried : e.carried? = some c) :
    (d.respell g).HasFault e ↔ d.HasFault e ∨ ∃ x, x.length ≠ 1 ∧ g x = c ∧ d.FaultAt x e := by
  rw [hasFault_iff_faultAt carried, hasFault_iff_faultAt carried]
  constructor
  · intro fault
    obtain ⟨x, spelled, same⟩ := fresh.exists_spells (spells_of_faultAt fault)
    rw [← same, fresh.faultAt_respell spelled] at fault
    rcases respell_eq_singleton_iff.1 same with rfl | ⟨malformed, chosen⟩
    · exact .inl fault
    · exact .inr ⟨x, malformed, chosen, fault⟩
  · rintro (fault | ⟨x, malformed, rfl, fault⟩)
    · have kept := fresh.faultAt_respell (spells_of_faultAt fault) |>.2 fault
      rwa [respell_singleton] at kept
    · have uncovered := fresh.faultAt_respell (spells_of_faultAt fault) |>.2 fault
      rwa [respell_of_malformed malformed] at uncovered

/-- Other errors do not look at symbols, and nothing malformed is left. -/
theorem hasFault_of_uncarried (carried : e.carried? = none) :
    (d.respell g).HasFault e ↔ d.HasFault e ∧ e.isMalformed = false := by
  cases e with
  | emptyAlphabet =>
    simp only [HasFault, isMalformed, and_true]
    constructor
    · exact fun none x member => none _ ((fresh.mem_alphabet (.inl member)).2 member)
    · intro none y member
      obtain ⟨x, member, -⟩ := (SortedSet.mem_image ..).1 member
      exact none x member
  | malformedSymbol y =>
    simp only [isMalformed, Bool.true_eq_false, and_false, iff_false]
    rintro ⟨malformed, spelled⟩
    obtain ⟨x, -, rfl⟩ := fresh.exists_spells spelled
    exact malformed (length_respell g x)
  | unknownSourceState s =>
    have sameStates : (d.respell g).states = d.states := rfl
    simp [HasFault, isMalformed, sameStates]
  | unknownSymbol | unknownTargetState | missingTransition | trapEscape => contradiction
  | _ => exact (and_iff_left rfl).symm

theorem mem_violations :
    e ∈ (d.respell g).violations ↔
      e ∈ (d.violations.filter fun e => !e.isMalformed) ++ (d.foreignEntries g ++ d.hidden g) := by
  rw [List.mem_append, mem_uncovered, List.mem_filter, mem_violations_iff, mem_violations_iff]
  cases carried : e.carried? with
  | none => simp [fresh.hasFault_of_uncarried carried]
  | some c =>
    have formed : e.isMalformed = false := isMalformed_of_carried carried
    simp [fresh.hasFault_of_carried carried, formed, eq_comm (a := c)]

end Fresh

end Lookups

section Counting

variable {d : Definition} {g : String → Char}

/-- Only a malformed symbol is reported more than once. -/
theorem nodup_formed (d : Definition) : (d.violations.filter fun e => !e.isMalformed).Nodup := by
  rw [List.nodup_iff_count_le_one]
  intro e
  by_cases formed : (!e.isMalformed) = true
  · have kept := List.count_filter (p := fun e => !e.isMalformed) (l := d.violations) formed
    rw [kept]
    refine count_violations_le_one ?_
    rintro x rfl
    contradiction
  · have absent : e ∉ d.violations.filter fun e => !e.isMalformed := by simp [formed]
    rw [List.count_eq_zero_of_not_mem absent]
    exact Nat.zero_le 1

theorem nodup_malformedEntries : d.malformedEntries.Nodup := by
  refine nodup_flatMap_of_key d.transitions.ascending.pairwise_ne ?each ?same
  case each =>
    intro row
    exact (row.2.nodup_entries.filter _).map fun _ _ => And.right ∘ Prod.mk.inj
  case same =>
    intro row row' e first second
    obtain ⟨entry, -, rfl⟩ := List.mem_map.1 first
    obtain ⟨entry', -, same⟩ := List.mem_map.1 second
    exact (congrArg Prod.fst same).symm

namespace Fresh

variable (fresh : d.Fresh g)

include fresh

/-- One state has one target for a symbol, and the character chosen for it tells the symbol. -/
theorem nodup_atMalformed {p : State → String → State → Prop} [∀ s x t, Decidable (p s x t)]
    {f : State → Char → State → BuildError}
    (placed : ∀ {s c t s' c' t'}, f s c t = f s' c' t' → s = s' ∧ c = c') :
    (d.atMalformed g p f).Nodup := by
  refine List.Nodup.map_on ?_ (nodup_malformedEntries.filter _)
  rintro ⟨s, x, t⟩ listed ⟨s', x', t'⟩ listed' same
  obtain ⟨malformed, found⟩ := mem_malformedEntries.1 (List.mem_of_mem_filter listed)
  obtain ⟨malformed', found'⟩ := mem_malformedEntries.1 (List.mem_of_mem_filter listed')
  obtain ⟨rfl, chosen⟩ := placed same
  obtain rfl := fresh.distinct ⟨malformed, .inr ⟨s, t, found⟩⟩ ⟨malformed', .inr ⟨s, t', found'⟩⟩
    chosen
  obtain rfl := Option.some.inj (found.symm.trans found')
  rfl

theorem nodup_hiddenGaps : (d.hiddenGaps g).Nodup := by
  refine nodup_flatMap_of_key (SortedSet.nodup_toList _) ?each ?same
  case each =>
    intro s
    refine List.Nodup.map_on ?_ (d.alphabet.nodup_toList.filter _)
    intro x listed y listed' same
    simp only [List.mem_filter, decide_eq_true_eq] at listed listed'
    have chosen := (missingTransition.inj same).2
    exact fresh.distinct ⟨listed.2.1, .inl listed.1⟩ ⟨listed'.2.1, .inl listed'.1⟩ chosen
  case same =>
    intro s s' e first second
    obtain ⟨x, -, rfl⟩ := List.mem_map.1 first
    obtain ⟨y, -, same⟩ := List.mem_map.1 second
    exact (missingTransition.inj same).1.symm

theorem nodup_uncovered : (d.foreignEntries g ++ d.hidden g).Nodup := by
  have foreign : (d.foreignEntries g).Nodup := fresh.nodup_atMalformed unknownSymbol.inj
  have targets : (d.hiddenTargets g).Nodup :=
    fresh.nodup_atMalformed fun same => (unknownTargetState.inj same).imp_right And.left
  have escapes : (d.hiddenEscapes g).Nodup :=
    fresh.nodup_atMalformed fun same => (trapEscape.inj same).imp_right And.left
  simp only [hidden, List.nodup_append, List.mem_append]
  refine ⟨foreign, ⟨⟨targets, fresh.nodup_hiddenGaps, ?_⟩, escapes, ?_⟩, ?_⟩
  -- each of the four lists holds errors of one kind
  all_goals
    simp only [foreignEntries, hiddenTargets, hiddenEscapes, mem_atMalformed, mem_hiddenGaps]
    grind

/-- The character of a malformed symbol occurs in no error that was there before. -/
theorem formed_ne_uncovered {e e' : BuildError} (formed : e ∈ d.violations)
    (uncovered : e' ∈ d.foreignEntries g ++ d.hidden g) : e ≠ e' := by
  rintro rfl
  obtain ⟨x, malformed, carried, fault⟩ := mem_uncovered.1 uncovered
  rw [mem_violations_iff, hasFault_iff_faultAt carried] at formed
  have used : d.Uses (g x) := uses_of_spells (spells_of_faultAt formed)
  exact fresh.unused x ⟨malformed, spells_of_faultAt fault⟩ used

theorem nodup_violations : (d.respell g).violations.Nodup := by
  have formed : ∀ e ∈ (d.respell g).violations, (!e.isMalformed) = true := by
    intro e found
    rw [mem_violations_iff] at found
    cases carried : e.carried? with
    | none => simpa using ((fresh.hasFault_of_uncarried carried).1 found).2
    | some c => simpa using isMalformed_of_carried carried
  rw [← List.filter_eq_self.2 formed]
  exact nodup_formed _

end Fresh

end Counting

/-- What an audit finds when every malformed symbol has been replaced by a character of its own:
what it found before, but for the malformed symbols; each entry whose malformed symbol was not in
the alphabet; and what was hidden. So nothing else comes to light if and only if nothing was
hidden. -/
theorem violations_respell {d : Definition} {g : String → Char} (fresh : d.Fresh g) :
    (d.respell g).violations.Perm
      ((d.violations.filter fun e => !e.isMalformed) ++ (d.foreignEntries g ++ d.hidden g)) ∧
    ((d.respell g).violations.Perm
      ((d.violations.filter fun e => !e.isMalformed) ++ d.foreignEntries g) ↔
        d.hidden g = []) := by
  have exactly : (d.respell g).violations.Perm
      ((d.violations.filter fun e => !e.isMalformed) ++ (d.foreignEntries g ++ d.hidden g)) := by
    rw [List.perm_ext_iff_of_nodup fresh.nodup_violations]
    · exact fun e => fresh.mem_violations
    · rw [List.nodup_append]
      refine ⟨nodup_formed d, fresh.nodup_uncovered, fun e formed e' uncovered => ?_⟩
      exact fresh.formed_ne_uncovered (List.mem_of_mem_filter formed) uncovered
  refine ⟨exactly, ?_, ?_⟩
  · intro complete
    have lengths := complete.symm.trans exactly |>.length_eq
    simp only [List.length_append] at lengths
    exact List.length_eq_zero_iff.1 (by omega)
  · intro nothing
    simpa [nothing] using exactly

/-- Two strings are malformed, one of them in the alphabet. Its entry in the row of `0` leads to
no state, its entry in the row of `1` leads out of a trap, and the row of `2` has none. -/
def smudged : Definition where
  states := .ofList [0, 1, 2]
  alphabet := .ofList ["a", "ab"]
  transitions := .ofList [(0, .ofList [("a", 0), ("ab", 7)]), (1, .ofList [("a", 1), ("ab", 0)]),
    (2, .ofList [("a", 2), ("", 2)])]
  startState := 0
  finalStates := ∅
  trapStates := .ofList [1]

def mended (x : String) : Char := if x = "ab" then 'x' else 'y'

theorem malformed_smudged_iff (x : String) :
    smudged.HasFault (malformedSymbol x) ↔ x = "ab" ∨ x = "" := by
  have reported : smudged.violations = [malformedSymbol "ab", malformedSymbol "ab",
      malformedSymbol "ab", malformedSymbol ""] := by decide +kernel
  rw [← mem_violations_iff, reported]
  simp

theorem fresh_mended : smudged.Fresh mended where
  distinct := by
    intro x hx y hy same
    rw [Set.mem_ofPred_eq, malformed_smudged_iff] at hx hy
    rcases hx with rfl | rfl <;> rcases hy with rfl | rfl <;> simp_all [mended]
  unused := by
    intro x malformed
    rcases (malformed_smudged_iff x).1 malformed with rfl | rfl <;> decide +kernel

theorem smudged_violations_respell :
    smudged.Fresh mended ∧
    (smudged.respell mended).violations.Perm
      ([] ++ ([unknownSymbol 2 'y'] ++
        [unknownTargetState 0 'x' 7, missingTransition 2 'x', trapEscape 1 'x' 0])) ∧
    ¬ (smudged.respell mended).violations.Perm [unknownSymbol 2 'y'] := by
  have kept : (smudged.violations.filter fun e => !e.isMalformed) = [] := by decide +kernel
  have foreign : smudged.foreignEntries mended = [unknownSymbol 2 'y'] := by decide +kernel
  have hidden : smudged.hidden mended =
      [unknownTargetState 0 'x' 7, missingTransition 2 'x', trapEscape 1 'x' 0] := by
    decide +kernel
  obtain ⟨exactly, complete⟩ := violations_respell fresh_mended
  rw [kept, foreign, hidden] at exactly complete
  exact ⟨fresh_mended, exactly, fun only => nomatch complete.1 only⟩

/-- Replacing malformed symbols may bring to light what no audit of the definition reported. -/
theorem smudged_hides :
    smudged.Fresh mended ∧
    ¬ (smudged.respell mended).violations.Perm
      ((smudged.violations.filter fun e => !e.isMalformed) ++ smudged.foreignEntries mended) := by
  refine ⟨fresh_mended, fun only => ?_⟩
  exact absurd only.length_eq (by decide +kernel)

end Definition

end Acceptor
