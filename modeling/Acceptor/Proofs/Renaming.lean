import Acceptor.Catalog
import Acceptor.Proofs.Concatenation
import Acceptor.Sorted.Image
import Mathlib.Logic.Equiv.Basic

/-! Other names for states and other characters for symbols. A renaming that keeps apart what
occurs in a definition and in a word changes nothing but the names: the violations are the
renamed ones, and so is the trace (`build_and_simulate_rename`). Neither the order of states
nor that of symbols takes part, though sets and tables are listed in it. -/
namespace Acceptor

def BuildError.rename (f : State → State) (g : Char → Char) : BuildError → BuildError
  | emptyStates => emptyStates
  | missingStartState => missingStartState
  | unknownStartState s => unknownStartState (f s)
  | unknownFinalState s => unknownFinalState (f s)
  | unknownTrapState s => unknownTrapState (f s)
  | emptyAlphabet => emptyAlphabet
  | malformedSymbol x => malformedSymbol (x.map g)
  | unknownSourceState s => unknownSourceState (f s)
  | unknownSymbol s c => unknownSymbol (f s) (g c)
  | unknownTargetState s c t => unknownTargetState (f s) (g c) (f t)
  | missingTransition s c => missingTransition (f s) (g c)
  | trapEscape p c t => trapEscape (f p) (g c) (f t)

def Step.rename (f : State → State) : Step → Step
  | state s => state (f s)
  | halt h => halt h

/-- Positions are not renamed, and a rejection stays of its kind. -/
def Rejection.rename (f : State → State) (g : Char → Char) : Rejection → Rejection
  | invalidSymbol c i => invalidSymbol (g c) i
  | noTransition s i => noTransition (f s) i
  | invalidTarget s c i => invalidTarget (f s) (g c) i
  | trapState p c i => trapState (f p) (g c) i

@[simp] theorem Rejection.halt_rename (f : State → State) (g : Char → Char) (r : Rejection) :
    (r.rename f g).halt = r.halt := by
  cases r <;> rfl

def Scan.rename (f : State → State) (g : Char → Char) (run : Scan) : Scan where
  steps := run.steps.map (.rename f)
  finalState := f run.finalState
  rejection := run.rejection.map (.rename f g)

def Trace.rename (f : State → State) (g : Char → Char) (t : Trace) : Trace where
  input := t.input.map g
  finalState := f t.finalState
  accepted := t.accepted
  steps := t.steps.map (.rename f)
  rejection := t.rejection.map (.rename f g)

namespace Definition

def rename (f : State → State) (g : Char → Char) (d : Definition) : Definition where
  states := d.states.image f
  alphabet := d.alphabet.image (.map g)
  transitions := d.transitions.image f (.image (.map g) f)
  startState := f d.startState
  finalStates := d.finalStates.image f
  trapStates := d.trapStates.image f

/-- The states that occur in a definition. -/
inductive Names (d : Definition) : State → Prop
  | state {s : State} (known : s ∈ d.states) : d.Names s
  | start : d.Names d.startState
  | final {s : State} (final : s ∈ d.finalStates) : d.Names s
  | trap {s : State} (trap : s ∈ d.trapStates) : d.Names s
  | source {s : State} {row : SortedMap String State} (atRow : d.row? s = some row) : d.Names s
  | target {s t : State} {x : String} (found : d.target? s x = some t) : d.Names t

theorem Names.of_entry {d : Definition} {s t : State} {x : String}
    (found : d.target? s x = some t) : d.Names s := by
  obtain ⟨row, atRow, -⟩ := (d.target?_eq_some_iff s x t).1 found
  exact .source atRow

/-- The characters that occur in a definition. -/
inductive Uses (d : Definition) : Char → Prop
  | alphabet {x : String} {c : Char} (member : x ∈ d.alphabet) (inside : c ∈ x.toList) : d.Uses c
  | entry {s t : State} {x : String} {c : Char} (found : d.target? s x = some t)
    (inside : c ∈ x.toList) : d.Uses c

theorem injOn_map_list {g : Char → Char} {k : Set Char} (apart : Set.InjOn g k) :
    Set.InjOn (List.map g) {l | ∀ c ∈ l, c ∈ k} := by
  intro l hl m hm same
  induction l generalizing m with
  | nil => exact (List.map_eq_nil_iff.1 same.symm).symm
  | cons c l ih =>
    cases m with
    | nil => contradiction
    | cons e m =>
      rw [Set.mem_ofPred_eq, List.forall_mem_cons] at hl hm
      rw [List.map_cons, List.map_cons, List.cons.injEq] at same
      rw [apart hl.1 hm.1 same.1, ih hl.2 hm.2 same.2]

/-- Strings are kept apart by a function on characters that keeps their characters apart. -/
theorem injOn_map {g : Char → Char} {k : Set Char} (apart : Set.InjOn g k) :
    Set.InjOn (String.map g) {x | ∀ c ∈ x.toList, c ∈ k} := by
  intro x hx y hy same
  rw [← String.toList_inj, String.toList_map, String.toList_map] at same
  exact String.toList_inj.1 (injOn_map_list apart hx hy same)

@[simp] theorem map_singleton (g : Char → Char) (c : Char) :
    (String.singleton c).map g = String.singleton (g c) := by
  simp [← String.toList_inj]

theorem map_eq_singleton_iff {g : Char → Char} {x : String} {c' : Char} :
    x.map g = String.singleton c' ↔ ∃ c, x = String.singleton c ∧ g c = c' := by
  simp [← String.toList_inj, List.map_eq_singleton_iff]

/-- What a renaming of `d` must keep apart: its states, and those characters that occur in `d`
or belong to `extra`. -/
structure KeepsApart (d : Definition) (extra : List Char) (f : State → State)
    (g : Char → Char) : Prop where
  states : Set.InjOn f {s | d.Names s}
  symbols : Set.InjOn g {c | d.Uses c ∨ c ∈ extra}

namespace KeepsApart

variable {d : Definition} {extra : List Char} {f : State → State} {g : Char → Char}
  {s t : State} {x : String} {row : SortedMap String State}

/-- Every character of `x` is one that the renaming keeps apart. -/
def Spelled (d : Definition) (extra : List Char) (x : String) : Prop :=
  ∀ c ∈ x.toList, d.Uses c ∨ c ∈ extra

theorem spelled_alphabet (member : x ∈ d.alphabet) : Spelled d extra x :=
  fun _ inside => .inl (.alphabet member inside)

theorem spelled_entry (found : d.target? s x = some t) : Spelled d extra x :=
  fun _ inside => .inl (.entry found inside)

theorem spelled_key (atRow : d.row? s = some row) (atEntry : row.find? x = some t) :
    Spelled d extra x :=
  spelled_entry ((d.target?_eq_some_iff s x t).2 ⟨row, atRow, atEntry⟩)

variable (apart : d.KeepsApart extra f g)

include apart

theorem mem_states (named : d.Names s) : f s ∈ (d.rename f g).states ↔ s ∈ d.states :=
  SortedSet.mem_image_of_injOn apart.states (fun _ => .state) named

theorem mem_finalStates (named : d.Names s) :
    f s ∈ (d.rename f g).finalStates ↔ s ∈ d.finalStates :=
  SortedSet.mem_image_of_injOn apart.states (fun _ => .final) named

theorem mem_trapStates (named : d.Names s) :
    f s ∈ (d.rename f g).trapStates ↔ s ∈ d.trapStates :=
  SortedSet.mem_image_of_injOn apart.states (fun _ => .trap) named

theorem mem_alphabet (spelled : Spelled d extra x) :
    x.map g ∈ (d.rename f g).alphabet ↔ x ∈ d.alphabet :=
  SortedSet.mem_image_of_injOn (injOn_map apart.symbols) (fun _ => spelled_alphabet) spelled

theorem row?_eq_some_iff {s' : State} {row' : SortedMap String State} :
    (d.rename f g).row? s' = some row' ↔
      ∃ s row, d.row? s = some row ∧ f s = s' ∧ row.image (.map g) f = row' :=
  SortedMap.find?_image_eq_some_iff apart.states (fun _ _ => .source) s' row'

theorem row? (named : d.Names s) :
    (d.rename f g).row? (f s) = (d.row? s).map (.image (.map g) f) :=
  SortedMap.find?_image apart.states (fun _ _ => .source) named

theorem find? (atRow : d.row? s = some row) (spelled : Spelled d extra x) :
    (row.image (.map g) f).find? (x.map g) = (row.find? x).map f :=
  SortedMap.find?_image (injOn_map apart.symbols) (fun _ _ => spelled_key atRow) spelled

theorem target? (named : d.Names s) (spelled : Spelled d extra x) :
    (d.rename f g).target? (f s) (x.map g) = (d.target? s x).map f := by
  rw [Definition.target?, Definition.target?, apart.row? named]
  cases atRow : d.row? s with
  | none => rfl
  | some row => exact apart.find? atRow spelled

theorem target?_eq_some_iff {s' t' : State} {x' : String} :
    (d.rename f g).target? s' x' = some t' ↔
      ∃ s x t, d.target? s x = some t ∧ f s = s' ∧ x.map g = x' ∧ f t = t' := by
  rw [Definition.target?_eq_some_iff]
  constructor
  · rintro ⟨row', atRow', atEntry'⟩
    obtain ⟨s, row, atRow, rfl, rfl⟩ := apart.row?_eq_some_iff.1 atRow'
    obtain ⟨x, t, atEntry, rfl, rfl⟩ := (SortedMap.find?_image_eq_some_iff
      (injOn_map apart.symbols) (fun _ _ => spelled_key atRow) x' t').1 atEntry'
    exact ⟨s, x, t, (d.target?_eq_some_iff s x t).2 ⟨row, atRow, atEntry⟩, rfl, rfl, rfl⟩
  · rintro ⟨s, x, t, found, rfl, rfl, rfl⟩
    obtain ⟨row, atRow, atEntry⟩ := (d.target?_eq_some_iff s x t).1 found
    refine ⟨_, apart.row?_eq_some_iff.2 ⟨s, row, atRow, rfl, rfl⟩, ?_⟩
    rw [apart.find? atRow (spelled_entry found), atEntry]
    rfl

/-- Spelled out, a symbol and its new character are looked up alike. -/
theorem target?_singleton {c : Char} (named : d.Names s)
    (spelled : Spelled d extra (String.singleton c)) :
    (d.rename f g).target? (f s) (String.singleton (g c)) =
      (d.target? s (String.singleton c)).map f := by
  rw [← map_singleton]
  exact apart.target? named spelled

theorem mem_alphabet_singleton {c : Char} (spelled : Spelled d extra (String.singleton c)) :
    String.singleton (g c) ∈ (d.rename f g).alphabet ↔ String.singleton c ∈ d.alphabet := by
  rw [← map_singleton]
  exact apart.mem_alphabet spelled

/-- A fault is still there under its new names. -/
theorem hasFault {e : BuildError} (fault : d.HasFault e) :
    (d.rename f g).HasFault (e.rename f g) := by
  cases e with
  | emptyStates =>
    intro s' member
    obtain ⟨s, known, -⟩ := (SortedSet.mem_image ..).1 member
    exact fault s known
  | missingStartState => exact fault
  | unknownStartState s =>
    obtain ⟨rfl, unknown⟩ := fault
    exact ⟨rfl, unknown ∘ (apart.mem_states .start).1⟩
  | unknownFinalState s =>
    obtain ⟨final, unknown⟩ := fault
    have named : d.Names s := .final final
    exact ⟨(apart.mem_finalStates named).2 final, unknown ∘ (apart.mem_states named).1⟩
  | unknownTrapState s =>
    obtain ⟨trap, unknown⟩ := fault
    have named : d.Names s := .trap trap
    exact ⟨(apart.mem_trapStates named).2 trap, unknown ∘ (apart.mem_states named).1⟩
  | emptyAlphabet =>
    intro x' member
    obtain ⟨x, member, -⟩ := (SortedSet.mem_image ..).1 member
    exact fault x member
  | malformedSymbol x =>
    obtain ⟨malformed, used⟩ := fault
    refine ⟨by rwa [String.length_map], ?_⟩
    rcases used with member | ⟨s, t, found⟩
    · exact .inl ((apart.mem_alphabet (spelled_alphabet member)).2 member)
    · exact .inr ⟨f s, f t, apart.target?_eq_some_iff.2 ⟨s, x, t, found, rfl, rfl, rfl⟩⟩
  | unknownSourceState s =>
    obtain ⟨⟨row, atRow⟩, unknown⟩ := fault
    refine ⟨⟨_, apart.row?_eq_some_iff.2 ⟨s, row, atRow, rfl, rfl⟩⟩, ?_⟩
    exact unknown ∘ (apart.mem_states (.source atRow)).1
  | unknownSymbol s c =>
    obtain ⟨⟨t, found⟩, foreign⟩ := fault
    refine ⟨⟨f t, apart.target?_eq_some_iff.2 ⟨s, _, t, found, rfl, map_singleton g c, rfl⟩⟩, ?_⟩
    exact foreign ∘ (apart.mem_alphabet_singleton (spelled_entry found)).1
  | unknownTargetState s c t =>
    obtain ⟨found, unknown⟩ := fault
    refine ⟨apart.target?_eq_some_iff.2 ⟨s, _, t, found, rfl, map_singleton g c, rfl⟩, ?_⟩
    exact unknown ∘ (apart.mem_states (.target found)).1
  | missingTransition s c =>
    obtain ⟨known, notFinal, symbol, missing⟩ := fault
    have named : d.Names s := .state known
    have spelled : Spelled d extra (String.singleton c) := spelled_alphabet symbol
    refine ⟨(apart.mem_states named).2 known, notFinal ∘ (apart.mem_finalStates named).1,
      (apart.mem_alphabet_singleton spelled).2 symbol, ?_⟩
    rw [apart.target?_singleton named spelled, missing]
    rfl
  | trapEscape p c t =>
    obtain ⟨trap, found, away⟩ := fault
    refine ⟨(apart.mem_trapStates (.trap trap)).2 trap,
      apart.target?_eq_some_iff.2 ⟨p, _, t, found, rfl, map_singleton g c, rfl⟩, ?_⟩
    exact fun same => away (apart.states (.target found) (.trap trap) same)

/-- Every fault under the new names is one under the old names. -/
theorem exists_hasFault {e' : BuildError} (fault : (d.rename f g).HasFault e') :
    ∃ e, d.HasFault e ∧ e.rename f g = e' := by
  cases e' with
  | emptyStates =>
    refine ⟨.emptyStates, fun s known => ?_, rfl⟩
    exact fault (f s) ((apart.mem_states (.state known)).2 known)
  | missingStartState => exact fault.elim
  | unknownStartState s' =>
    obtain ⟨rfl, unknown⟩ := fault
    exact ⟨.unknownStartState d.startState, ⟨rfl, unknown ∘ (apart.mem_states .start).2⟩, rfl⟩
  | unknownFinalState s' =>
    obtain ⟨final', unknown⟩ := fault
    obtain ⟨s, final, rfl⟩ := (SortedSet.mem_image ..).1 final'
    have unknown : s ∉ d.states := unknown ∘ (apart.mem_states (.final final)).2
    exact ⟨.unknownFinalState s, ⟨final, unknown⟩, rfl⟩
  | unknownTrapState s' =>
    obtain ⟨trap', unknown⟩ := fault
    obtain ⟨s, trap, rfl⟩ := (SortedSet.mem_image ..).1 trap'
    have unknown : s ∉ d.states := unknown ∘ (apart.mem_states (.trap trap)).2
    exact ⟨.unknownTrapState s, ⟨trap, unknown⟩, rfl⟩
  | emptyAlphabet =>
    refine ⟨.emptyAlphabet, fun x member => ?_, rfl⟩
    exact fault (x.map g) ((apart.mem_alphabet (spelled_alphabet member)).2 member)
  | malformedSymbol x' =>
    obtain ⟨malformed, member' | ⟨s', t', found'⟩⟩ := fault
    · obtain ⟨x, member, rfl⟩ := (SortedSet.mem_image ..).1 member'
      rw [String.length_map] at malformed
      exact ⟨.malformedSymbol x, ⟨malformed, .inl member⟩, rfl⟩
    · obtain ⟨s, x, t, found, rfl, rfl, rfl⟩ := apart.target?_eq_some_iff.1 found'
      rw [String.length_map] at malformed
      exact ⟨.malformedSymbol x, ⟨malformed, .inr ⟨s, t, found⟩⟩, rfl⟩
  | unknownSourceState s' =>
    obtain ⟨⟨row', atRow'⟩, unknown⟩ := fault
    obtain ⟨s, row, atRow, rfl, rfl⟩ := apart.row?_eq_some_iff.1 atRow'
    have unknown : s ∉ d.states := unknown ∘ (apart.mem_states (.source atRow)).2
    exact ⟨.unknownSourceState s, ⟨⟨row, atRow⟩, unknown⟩, rfl⟩
  | unknownSymbol s' c' =>
    obtain ⟨⟨t', found'⟩, foreign⟩ := fault
    obtain ⟨s, x, t, found, rfl, spelled, rfl⟩ := apart.target?_eq_some_iff.1 found'
    obtain ⟨c, rfl, rfl⟩ := map_eq_singleton_iff.1 spelled
    have foreign : String.singleton c ∉ d.alphabet :=
      foreign ∘ (apart.mem_alphabet_singleton (spelled_entry found)).2
    exact ⟨.unknownSymbol s c, ⟨⟨t, found⟩, foreign⟩, rfl⟩
  | unknownTargetState s' c' t' =>
    obtain ⟨found', unknown⟩ := fault
    obtain ⟨s, x, t, found, rfl, spelled, rfl⟩ := apart.target?_eq_some_iff.1 found'
    obtain ⟨c, rfl, rfl⟩ := map_eq_singleton_iff.1 spelled
    have unknown : t ∉ d.states := unknown ∘ (apart.mem_states (.target found)).2
    exact ⟨.unknownTargetState s c t, ⟨found, unknown⟩, rfl⟩
  | missingTransition s' c' =>
    obtain ⟨known', notFinal, symbol', missing⟩ := fault
    obtain ⟨s, known, rfl⟩ := (SortedSet.mem_image ..).1 known'
    obtain ⟨x, symbol, spelled⟩ := (SortedSet.mem_image ..).1 symbol'
    obtain ⟨c, rfl, rfl⟩ := map_eq_singleton_iff.1 spelled
    have named : d.Names s := .state known
    rw [apart.target?_singleton named (spelled_alphabet symbol), Option.map_eq_none_iff] at missing
    have notFinal : s ∉ d.finalStates := notFinal ∘ (apart.mem_finalStates named).2
    exact ⟨.missingTransition s c, ⟨known, notFinal, symbol, missing⟩, rfl⟩
  | trapEscape p' c' t' =>
    obtain ⟨trap', found', away⟩ := fault
    obtain ⟨p, trap, rfl⟩ := (SortedSet.mem_image ..).1 trap'
    obtain ⟨q, x, t, found, same, spelled, rfl⟩ := apart.target?_eq_some_iff.1 found'
    obtain ⟨c, rfl, rfl⟩ := map_eq_singleton_iff.1 spelled
    obtain rfl := apart.states (.of_entry found) (.trap trap) same
    exact ⟨.trapEscape q c t, ⟨trap, found, fun stays => away (congrArg f stays)⟩, rfl⟩

theorem mem_violations (e' : BuildError) :
    e' ∈ (d.rename f g).violations ↔ ∃ e ∈ d.violations, e.rename f g = e' := by
  simp only [mem_violations_iff]
  constructor
  · exact apart.exists_hasFault
  · rintro ⟨e, fault, rfl⟩
    exact apart.hasFault fault

theorem violations_eq_nil_iff : (d.rename f g).violations = [] ↔ d.violations = [] := by
  simp only [List.eq_nil_iff_forall_not_mem, apart.mem_violations]
  grind

theorem valid (valid : d.Valid) : (d.rename f g).Valid := by
  rw [← Definition.violations_eq_nil_iff] at valid ⊢
  exact apart.violations_eq_nil_iff.2 valid

/-- Reading a symbol under the new names leads where it led under the old ones. -/
theorem move (named : d.Names s) {c : Char} (used : d.Uses c ∨ c ∈ extra) (i : Nat) :
    (d.rename f g).move (f s) (g c) i =
      match d.move s c i with
      | .error r => .error (r.rename f g)
      | .ok t => .ok (f t) := by
  have spelled : Spelled d extra (String.singleton c) := by simpa [Spelled] using used
  unfold Definition.move
  simp only [apart.mem_alphabet_singleton spelled, apart.row? named]
  split
  · rfl
  cases atRow : d.row? s with
  | none => rfl
  | some row =>
    simp only [Option.map_some, ← map_singleton, apart.find? atRow spelled]
    cases row.find? (String.singleton c) <;> rfl

/-- The induction is on the word; every state on the way is one that the renaming keeps apart. -/
theorem scan (valid : d.Valid) (w : List Char) (used : ∀ c ∈ w, d.Uses c ∨ c ∈ extra)
    (named : d.Names s) (i : Nat) :
    (d.rename f g).compile.scan (f s) i (w.map g) = (d.compile.scan s i w).rename f g := by
  induction w generalizing s i with
  | nil => rfl
  | cons c w ih =>
    rw [List.forall_mem_cons] at used
    rw [List.map_cons, Automaton.scan, Automaton.scan, move_compile (apart.valid valid),
      move_compile valid, apart.move named used.1]
    cases moved : d.move s c i with
    | error r => simp [Scan.rename, Step.rename]
    | ok t =>
      have found := (move_eq_ok_iff valid s c i t).1 moved
      have named : d.Names t := .target found
      have sameTrap : f t ∈ (d.rename f g).compile.trapStates ↔ t ∈ d.compile.trapStates :=
        apart.mem_trapStates named
      simp only [Automaton.isTrap_iff, sameTrap, ih used.2 named]
      split
      · rfl
      · rfl

theorem simulate (valid : d.Valid) {w : String} (used : ∀ c ∈ w.toList, d.Uses c ∨ c ∈ extra) :
    (d.rename f g).compile.simulate (w.map g) = (d.compile.simulate w).rename f g := by
  have scanned : (d.rename f g).compile.scan (d.rename f g).compile.startState 0 (w.map g).toList =
      (d.compile.scan d.compile.startState 0 w.toList).rename f g := by
    rw [String.toList_map]
    exact apart.scan valid w.toList used .start 0
  have known := d.compile.scan_finalState_mem valid.start 0 w.toList
  have sameFinal : f (d.compile.scan d.compile.startState 0 w.toList).finalState ∈
      (d.rename f g).compile.finalStates ↔
        (d.compile.scan d.compile.startState 0 w.toList).finalState ∈ d.compile.finalStates :=
    apart.mem_finalStates (.state known)
  have sameStart : (d.rename f g).compile.startState = f d.compile.startState := rfl
  simp only [Automaton.simulate, scanned]
  simp [Scan.rename, Trace.rename, Step.rename, Automaton.isFinal, sameFinal, sameStart]

end KeepsApart

/-- States and symbols are opaque. Under a renaming that keeps apart the states of `d` and the
characters of `d` and `w`, the same definitions build, and the trace of the renamed word is the
renamed trace: the verdict, every halt and every position are as before. -/
theorem build_and_simulate_rename {d : Definition} {w : String} {f : State → State}
    {g : Char → Char} (states : Set.InjOn f {s | d.Names s})
    (symbols : Set.InjOn g {c | d.Uses c ∨ c ∈ w.toList}) :
    ((∃ a, (d.rename f g).build = .ok a) ↔ ∃ a, d.build = .ok a) ∧
    ∀ a a', d.build = .ok a → (d.rename f g).build = .ok a' →
      a'.simulate (w.map g) = (a.simulate w).rename f g := by
  have apart : d.KeepsApart w.toList f g := ⟨states, symbols⟩
  constructor
  · simp only [build_eq_ok_iff, exists_and_left, exists_eq, and_true]
    exact apart.violations_eq_nil_iff
  · intro a a' built built'
    obtain ⟨valid, rfl⟩ := (build_eq_ok_iff_valid d a).1 built
    obtain ⟨-, rfl⟩ := (build_eq_ok_iff_valid _ a').1 built'
    exact apart.simulate valid fun c inside => .inr inside

/-- The order of the states is turned round and the two symbols change places. -/
theorem bets_build_and_simulate_rename :
    Set.InjOn (fun s => 100 - s) {s | Catalog.bets.definition.Names s} ∧
    Set.InjOn (Equiv.swap 'a' 'b') {c | Catalog.bets.definition.Uses c ∨ c ∈ "abba".toList} ∧
    ∃ a a', Catalog.bets.definition.build = .ok a ∧
      (Catalog.bets.definition.rename (fun s => 100 - s) (Equiv.swap 'a' 'b')).build = .ok a' ∧
      a'.simulate "baab" = (a.simulate "abba").rename (fun s => 100 - s) (Equiv.swap 'a' 'b') ∧
      (a'.simulate "baab").rejection = some (.trapState 93 'a' 2) := by
  have states : Set.InjOn (fun s => 100 - s) {s | Catalog.bets.definition.Names s} := by
    intro s _ t _ same
    simpa using same
  have symbols : Set.InjOn (Equiv.swap 'a' 'b')
      {c | Catalog.bets.definition.Uses c ∨ c ∈ "abba".toList} :=
    (Equiv.swap 'a' 'b').injective.injOn
  have built : Catalog.bets.definition.build = .ok Catalog.bets.definition.compile :=
    (build_eq_ok_iff _ _).2 ⟨by decide +kernel, rfl⟩
  obtain ⟨builds, simulates⟩ := build_and_simulate_rename states symbols
  obtain ⟨a', built'⟩ := builds.2 ⟨_, built⟩
  have renamed := simulates _ a' built built'
  have word : "abba".map (Equiv.swap 'a' 'b') = "baab" := by decide +kernel
  rw [word] at renamed
  refine ⟨states, symbols, _, a', built, built', renamed, ?_⟩
  rw [renamed]
  decide +kernel

end Definition

end Acceptor
