import Mathlib.Data.List.Induction
import Acceptor.Proofs.Agreement

/-! What a builder has collected after any calls. Sets hold all that was added to them, the last
start state counts, and so does the last target that was written for a state and a symbol, whether
it came alone or in a table (`collects_callAll`). Hence calls that decide different things may
change places. -/
namespace Acceptor

/-- Where a table leads from a state on a spelled symbol. -/
def Table.target? (t : Table) (s : State) (x : String) : Option State :=
  (t.find? s).bind (·.find? x)

namespace Builder

namespace Call

def addedStates : Call → List State
  | .state s => [s]
  | .states l => l
  | _ => []

def addedSymbols : Call → List Char
  | .symbol c => [c]
  | .symbols l => l
  | _ => []

def addedFinals : Call → List State
  | .finalState s => [s]
  | .finals l => l
  | _ => []

def addedTraps : Call → List State
  | .trap s => [s]
  | .traps l => l
  | _ => []

def start? : Call → Option State
  | .start s => some s
  | _ => none

/-- States that have a row after the call, be it empty. -/
def sources : Call → List State
  | .transition source _ _ => [source]
  | .table t => t.keys
  | _ => []

/-- The target that the call writes for a state and a symbol. -/
def written? (s : State) (x : String) : Call → Option State
  | .transition source c target =>
    if s = source ∧ x = String.singleton c then some target else none
  | .table t => Table.target? t s x
  | _ => none

end Call

section Merge

variable (t : Table) (s : State) (x : String)

theorem find?_mergeRow (source : State) (entries : List (String × State)) :
    (mergeRow t source entries).find? s =
      if s = source then some (((t.find? s).getD ∅).insertAll entries) else t.find? s := by
  rw [mergeRow, SortedMap.find?_insert]
  split
  next same => rw [same]
  next => rfl

/-- No row is merged twice if the sources are distinct. -/
theorem find?_foldl_mergeRow {rows : List (State × SortedMap String State)}
    (distinct : rows.Pairwise fun e f => e.1 ≠ f.1) :
    (rows.foldl (fun u e => mergeRow u e.1 e.2.entries) t).find? s =
      match (rows.find? fun e => e.1 = s).map Prod.snd with
      | none => t.find? s
      | some row => some (((t.find? s).getD ∅).insertAll row.entries) := by
  induction rows generalizing t with
  | nil => rfl
  | cons e rows ih =>
    rw [List.pairwise_cons] at distinct
    rw [List.foldl_cons, ih _ distinct.2, find?_mergeRow]
    by_cases same : e.1 = s
    · subst same
      have others : rows.find? (fun f => f.1 = e.1) = none :=
        List.find?_eq_none.2 fun f mem => by simpa using (distinct.1 f mem).symm
      simp [others]
    · have apart : s ≠ e.1 := Ne.symm same
      simp [same, apart]

theorem target?_mergeRow (source : State) (c : Char) (target : State) :
    Table.target? (mergeRow t source [(String.singleton c, target)]) s x =
      (Call.written? s x (.transition source c target)).or (Table.target? t s x) := by
  simp only [Table.target?, Call.written?, find?_mergeRow]
  by_cases same : s = source
  · cases t.find? s <;> by_cases spelled : x = String.singleton c <;>
      simp [same, spelled, SortedMap.find?_insert]
  · simp [same]

end Merge

variable (b : Builder)

theorem find?_table (t : Table) (s : State) : (b.table t).transitions.find? s =
    match t.find? s with
    | none => b.transitions.find? s
    | some row => some (((b.transitions.find? s).getD ∅).insertAll row.entries) :=
  find?_foldl_mergeRow b.transitions s t.ascending.pairwise_ne

theorem target?_table (t : Table) (s : State) (x : String) :
    Table.target? (b.table t).transitions s x =
      (Table.target? t s x).or (Table.target? b.transitions s x) := by
  simp only [Table.target?, find?_table]
  cases t.find? s with
  | none => rfl
  | some row =>
    simp only [Option.bind_some, SortedMap.find?_insertAll_entries]
    cases b.transitions.find? s <;> simp

section Call

variable (call : Call)

theorem mem_states_call (s : State) :
    s ∈ (b.call call).states ↔ s ∈ b.states ∨ s ∈ call.addedStates := by
  cases call <;> simp [Builder.call, Call.addedStates, state, addStates, or_comm] <;> rfl

theorem mem_alphabet_call (x : String) : x ∈ (b.call call).alphabet ↔
    x ∈ b.alphabet ∨ ∃ c ∈ call.addedSymbols, x = String.singleton c := by
  cases call <;> simp [Builder.call, Call.addedSymbols, symbol, symbols, or_comm, eq_comm] <;> rfl

theorem mem_finalStates_call (s : State) :
    s ∈ (b.call call).finalStates ↔ s ∈ b.finalStates ∨ s ∈ call.addedFinals := by
  cases call <;> simp [Builder.call, Call.addedFinals, finalState, finals, or_comm] <;> rfl

theorem mem_trapStates_call (s : State) :
    s ∈ (b.call call).trapStates ↔ s ∈ b.trapStates ∨ s ∈ call.addedTraps := by
  cases call <;> simp [Builder.call, Call.addedTraps, trap, traps, or_comm] <;> rfl

theorem startState?_call : (b.call call).startState? = call.start?.or b.startState? := by
  cases call <;> rfl

theorem isSome_find?_call (s : State) : ((b.call call).transitions.find? s).isSome ↔
    (b.transitions.find? s).isSome ∨ s ∈ call.sources := by
  cases call with
  | transition source c target =>
    simp only [Builder.call, transition, find?_mergeRow, Call.sources, List.mem_singleton]
    split
    next same => simp [same]
    next other => simp [other]
  | table t =>
    simp only [Builder.call, find?_table, Call.sources, SortedMap.mem_keys_iff]
    cases t.find? s <;> simp
  | _ =>
    simp only [Call.sources, List.not_mem_nil, or_false]
    rfl

theorem target?_call (s : State) (x : String) : Table.target? (b.call call).transitions s x =
    (call.written? s x).or (Table.target? b.transitions s x) := by
  cases call with
  | transition source c target => exact target?_mergeRow b.transitions s x source c target
  | table t => exact b.target?_table t s x
  | _ => rfl

end Call

end Builder

open Builder (Call)

/-- A definition, its start state apart, is made of what the calls have added and written. -/
structure Definition.Collects (d : Definition) (calls : List Call) : Prop where
  states : ∀ s, s ∈ d.states ↔ ∃ call ∈ calls, s ∈ call.addedStates
  alphabet : ∀ x, x ∈ d.alphabet ↔
    ∃ call ∈ calls, ∃ c ∈ call.addedSymbols, x = String.singleton c
  finalStates : ∀ s, s ∈ d.finalStates ↔ ∃ call ∈ calls, s ∈ call.addedFinals
  trapStates : ∀ s, s ∈ d.trapStates ↔ ∃ call ∈ calls, s ∈ call.addedTraps
  rows : ∀ s, (d.row? s).isSome ↔ ∃ call ∈ calls, s ∈ call.sources
  targets : ∀ s x, d.target? s x = (calls.filterMap (Call.written? s x)).getLast?

section Lists

variable {α β : Type}

theorem getLast?_filterMap_concat (f : α → Option β) (l : List α) (a : α) :
    ((l ++ [a]).filterMap f).getLast? = (f a).or (l.filterMap f).getLast? := by
  rw [List.filterMap_append, List.getLast?_append]
  cases found : f a <;> simp [found]

theorem exists_mem_concat_iff {l : List α} {a : α} {p : α → Prop} :
    (∃ b ∈ l ++ [a], p b) ↔ (∃ b ∈ l, p b) ∨ p a := by
  simp [or_and_right, exists_or]

theorem filterMap_filter_isSome (f : α → Option β) (l : List α) :
    (l.filter fun a => (f a).isSome).filterMap f = l.filterMap f := by
  rw [List.filterMap_filter]
  congr 1
  funext a
  cases f a <;> rfl

theorem getLast?_filterMap_eq_none_iff (f : α → Option β) (l : List α) :
    (l.filterMap f).getLast? = none ↔ ∀ a ∈ l, f a = none := by
  rw [List.getLast?_eq_none_iff, List.filterMap_eq_nil_iff]

end Lists

namespace Definition.Collects

theorem call {b : Builder} {q : State} {calls : List Call}
    (collects : (b.startingAt q).Collects calls) (call : Call) :
    ((b.call call).startingAt q).Collects (calls ++ [call]) := by
  constructor
  case states =>
    intro s
    rw [exists_mem_concat_iff, ← collects.states]
    exact b.mem_states_call call s
  case alphabet =>
    intro x
    rw [exists_mem_concat_iff, ← collects.alphabet]
    exact b.mem_alphabet_call call x
  case finalStates =>
    intro s
    rw [exists_mem_concat_iff, ← collects.finalStates]
    exact b.mem_finalStates_call call s
  case trapStates =>
    intro s
    rw [exists_mem_concat_iff, ← collects.trapStates]
    exact b.mem_trapStates_call call s
  case rows =>
    intro s
    rw [exists_mem_concat_iff, ← collects.rows]
    exact b.isSome_find?_call call s
  case targets =>
    intro s x
    rw [getLast?_filterMap_concat, ← collects.targets]
    exact b.target?_call call s x

variable {d d' : Definition} {calls : List Call}

theorem unique (collects : d.Collects calls) (collects' : d'.Collects calls)
    (start : d.startState = d'.startState) : d = d' := by
  have states : d.states = d'.states :=
    SortedSet.ext fun s => (collects.states s).trans (collects'.states s).symm
  have alphabet : d.alphabet = d'.alphabet :=
    SortedSet.ext fun x => (collects.alphabet x).trans (collects'.alphabet x).symm
  have finalStates : d.finalStates = d'.finalStates :=
    SortedSet.ext fun s => (collects.finalStates s).trans (collects'.finalStates s).symm
  have trapStates : d.trapStates = d'.trapStates :=
    SortedSet.ext fun s => (collects.trapStates s).trans (collects'.trapStates s).symm
  have transitions : d.transitions = d'.transitions := by
    apply SortedMap.ext
    intro s
    have rows := (collects.rows s).trans (collects'.rows s).symm
    have targets := fun x => (collects.targets s x).trans (collects'.targets s x).symm
    simp only [row?, target?] at rows targets
    cases found : d.transitions.find? s with
    | none =>
      rw [found] at rows
      exact (Option.not_isSome_iff_eq_none.1 (rows.not.1 Bool.false_ne_true)).symm
    | some row =>
      obtain ⟨row', found'⟩ := Option.isSome_iff_exists.1 (rows.1 (by rw [found]; rfl))
      simp only [found, found', Option.bind_some] at targets
      rw [found', SortedMap.ext targets]
  cases d
  cases d'
  simp_all only

end Definition.Collects

namespace Builder

theorem callAll_concat (b : Builder) (calls : List Call) (call : Call) :
    b.callAll (calls ++ [call]) = (b.callAll calls).call call := by
  rw [callAll, List.foldl_append]
  rfl

theorem collects_callAll (calls : List Call) (q : State) :
    ((empty.callAll calls).startingAt q).Collects calls := by
  induction calls using List.reverseRecOn with
  | nil => constructor <;> simp [callAll, startingAt, empty, Definition.row?, Definition.target?]
  | append_singleton calls call ih =>
    rw [callAll_concat]
    exact ih.call call

theorem startState?_callAll (calls : List Call) :
    (empty.callAll calls).startState? = (calls.filterMap Call.start?).getLast? := by
  induction calls using List.reverseRecOn with
  | nil => rfl
  | append_singleton calls call ih =>
    rw [callAll_concat, getLast?_filterMap_concat, ← ih]
    exact startState?_call _ call

section Outcome

variable (b : Builder)

theorem definition_eq_emptyStates_iff :
    b.definition = .error .emptyStates ↔ ∀ s, s ∉ b.states := by
  rw [← b.states.isEmpty_iff, definition]
  split
  next none => simp [none]
  next some => cases b.startState? <;> simp [some]

theorem definition_eq_missingStartState_iff :
    b.definition = .error .missingStartState ↔ (∃ s, s ∈ b.states) ∧ b.startState? = none := by
  have known : (∃ s, s ∈ b.states) ↔ ¬ b.states.isEmpty := by simp [b.states.isEmpty_iff]
  rw [known, definition]
  split
  next none => simp [none]
  next some => cases b.startState? <;> simp [some]

theorem definition_eq_ok_iff (d : Definition) : b.definition = .ok d ↔
    (∃ s, s ∈ b.states) ∧ b.startState? = some d.startState ∧
      b.startingAt d.startState = d := by
  constructor
  · intro collected
    have known : ∃ s, s ∈ b.states := by
      by_contra none
      rw [definition_of_stateless (not_exists.1 none)] at collected
      contradiction
    cases start : b.startState? with
    | none =>
      rw [(b.definition_eq_missingStartState_iff).2 ⟨known, start⟩] at collected
      contradiction
    | some s =>
      rw [definition_of_startState? known start] at collected
      cases collected
      exact ⟨known, rfl, rfl⟩
  · rintro ⟨known, start, parts⟩
    rw [definition_of_startState? known start, parts]

end Outcome

section Calls

variable (calls : List Call)

theorem exists_mem_states_callAll_iff :
    (∃ s, s ∈ (empty.callAll calls).states) ↔ ∃ call ∈ calls, call.addedStates ≠ [] := by
  have added := (collects_callAll calls 0).states
  constructor
  · rintro ⟨s, mem⟩
    obtain ⟨call, called, adds⟩ := (added s).1 mem
    exact ⟨call, called, List.ne_nil_of_mem adds⟩
  · rintro ⟨call, called, some⟩
    obtain ⟨s, adds⟩ := List.exists_mem_of_ne_nil _ some
    exact ⟨s, (added s).2 ⟨call, called, adds⟩⟩

theorem definition_callAll_eq_ok_iff (d : Definition) :
    (empty.callAll calls).definition = .ok d ↔
      (∃ call ∈ calls, call.addedStates ≠ []) ∧
        (calls.filterMap Call.start?).getLast? = some d.startState ∧ d.Collects calls := by
  rw [definition_eq_ok_iff, exists_mem_states_callAll_iff, startState?_callAll]
  have collects := collects_callAll calls d.startState
  refine and_congr_right fun _ => and_congr_right fun _ => ⟨?_, ?_⟩
  · intro parts
    rwa [parts] at collects
  · intro collects'
    exact collects.unique collects' rfl

end Calls

/-- The same calls in another order. Those that set the start state keep their order, and so do
those that write a target for the same state and symbol. -/
structure Reordered (calls calls' : List Call) : Prop where
  perm : calls.Perm calls'
  starts : calls.filter (·.start?.isSome) = calls'.filter (·.start?.isSome)
  writes : ∀ s x, calls.filter (fun call => (call.written? s x).isSome) =
    calls'.filter fun call => (call.written? s x).isSome

end Builder

theorem Definition.Collects.reorder {d : Definition} {calls calls' : List Call}
    (collects : d.Collects calls) (reordered : Builder.Reordered calls calls') :
    d.Collects calls' := by
  have same : ∀ p : Call → Prop, (∃ call ∈ calls, p call) ↔ ∃ call ∈ calls', p call := by
    intro p
    simp only [reordered.perm.mem_iff]
  constructor
  case states => exact fun s => (collects.states s).trans (same _)
  case alphabet => exact fun x => (collects.alphabet x).trans (same _)
  case finalStates => exact fun s => (collects.finalStates s).trans (same _)
  case trapStates => exact fun s => (collects.trapStates s).trans (same _)
  case rows => exact fun s => (collects.rows s).trans (same _)
  case targets =>
    intro s x
    rw [collects.targets, ← filterMap_filter_isSome, reordered.writes, filterMap_filter_isSome]

namespace Builder

theorem eq_of_startingAt {b b' : Builder} {q : State} (parts : b.startingAt q = b'.startingAt q)
    (start : b.startState? = b'.startState?) : b = b' := by
  cases b
  cases b'
  simp_all [startingAt]

theorem callAll_reorder {calls calls' : List Call} (reordered : Reordered calls calls') :
    empty.callAll calls = empty.callAll calls' := by
  have collects := (collects_callAll calls 0).reorder reordered
  refine eq_of_startingAt (collects.unique (collects_callAll calls' 0) rfl) ?_
  rw [startState?_callAll, startState?_callAll, ← filterMap_filter_isSome, reordered.starts,
    filterMap_filter_isSome]

end Builder

/-- Calls that collect a definition. Symbols that are no characters are passed over. -/
def Definition.calls (d : Definition) : List Call := [
  .states d.states.toList,
  .symbols (d.alphabet.toList.filterMap symbol?),
  .table d.transitions,
  .start d.startState,
  .finals d.finalStates.toList,
  .traps d.trapStates.toList]

theorem Definition.collects_calls {d : Definition} (spelled : ∀ x ∈ d.alphabet, x.length = 1) :
    d.Collects d.calls := by
  have symbols : ∀ x, x ∈ d.alphabet ↔
      ∃ c ∈ d.alphabet.toList.filterMap symbol?, x = String.singleton c := by
    intro x
    simp only [List.mem_filterMap, symbol?_eq_some_iff, SortedSet.mem_toList]
    constructor
    · intro mem
      obtain ⟨c, rfl⟩ := (length_eq_one_iff x).1 (spelled x mem)
      exact ⟨c, ⟨_, mem, rfl⟩, rfl⟩
    · rintro ⟨c, ⟨_, mem, rfl⟩, rfl⟩
      exact mem
  constructor
  case alphabet => simpa [calls, Call.addedSymbols] using symbols
  case rows => simp [calls, Call.sources, row?, SortedMap.mem_keys_iff]
  case targets =>
    intro s x
    have table : d.target? s x = Table.target? d.transitions s x := rfl
    rw [table]
    simp only [calls, List.filterMap_cons, Call.written?]
    cases Table.target? d.transitions s x <;> rfl
  all_goals
    simp [calls, Call.addedStates, Call.addedFinals, Call.addedTraps, SortedSet.mem_toList]

namespace Builder

/-- A builder asks for a state, then for a start state, and gives what the calls have collected:
all that was added, the last start state, and for each state and symbol the target that was written
last. So only calls that decide the same thing have an order, and every definition with states and
with characters for symbols can be collected. -/
theorem calls_collect :
    (∀ calls : List Call,
      ((empty.callAll calls).definition = .error .emptyStates ↔
        ∀ call ∈ calls, call.addedStates = []) ∧
      ((empty.callAll calls).definition = .error .missingStartState ↔
        (∃ call ∈ calls, call.addedStates ≠ []) ∧ ∀ call ∈ calls, call.start? = none) ∧
      ((∃ call ∈ calls, call.addedStates ≠ []) → (∃ call ∈ calls, call.start? ≠ none) →
        ∃ d, (empty.callAll calls).definition = .ok d) ∧
      (∀ d, (empty.callAll calls).definition = .ok d ↔
        (∃ call ∈ calls, call.addedStates ≠ []) ∧
          (calls.filterMap Call.start?).getLast? = some d.startState ∧ d.Collects calls) ∧
      ∀ calls', Reordered calls calls' → empty.callAll calls = empty.callAll calls') ∧
    ∀ d : Definition, (∃ calls, (empty.callAll calls).definition = .ok d) ↔
      (∃ s, s ∈ d.states) ∧ ∀ x ∈ d.alphabet, x.length = 1 := by
  constructor
  · intro calls
    have known := exists_mem_states_callAll_iff calls
    have start := startState?_callAll calls
    refine ⟨?stateless, ?startless, ?collected, definition_callAll_eq_ok_iff calls,
      fun _ => callAll_reorder⟩
    case stateless =>
      rw [definition_eq_emptyStates_iff, ← not_exists, known]
      simp
    case startless =>
      rw [definition_eq_missingStartState_iff, known, start, getLast?_filterMap_eq_none_iff]
    case collected =>
      rintro some ⟨call, called, starts⟩
      cases last : (calls.filterMap Call.start?).getLast? with
      | none => exact absurd ((getLast?_filterMap_eq_none_iff ..).1 last call called) starts
      | some s =>
        rw [last] at start
        exact ⟨_, definition_of_startState? (known.2 some) start⟩
  · intro d
    constructor
    · rintro ⟨calls, collected⟩
      obtain ⟨known, -, parts⟩ := (definition_eq_ok_iff _ d).1 collected
      obtain ⟨-, -, collects⟩ := (definition_callAll_eq_ok_iff calls d).1 collected
      refine ⟨?_, fun x mem => ?_⟩
      · have states : (empty.callAll calls).states = d.states := congrArg Definition.states parts
        exact states ▸ known
      · obtain ⟨call, -, c, -, rfl⟩ := (collects.alphabet x).1 mem
        exact (length_eq_one_iff _).2 ⟨c, rfl⟩
    · rintro ⟨⟨s, mem⟩, spelled⟩
      refine ⟨d.calls, (definition_callAll_eq_ok_iff d.calls d).2 ⟨?_, rfl, ?_⟩⟩
      · exact ⟨.states d.states.toList, by simp [Definition.calls], List.ne_nil_of_mem mem⟩
      · exact Definition.collects_calls spelled

/-- A table gives way to a single target and leaves an empty row. -/
def overwritten : List Call := [
  .states [0, 1],
  .start 1,
  .table (.ofList [(0, .ofList [("a", 1), ("ab", 0)]), (1, ∅)]),
  .transition 0 'a' 0,
  .transition 1 'b' 0,
  .start 0]

def rearranged : List Call := [
  .start 1,
  .table (.ofList [(0, .ofList [("a", 1), ("ab", 0)]), (1, ∅)]),
  .transition 1 'b' 0,
  .start 0,
  .transition 0 'a' 0,
  .states [0, 1]]

theorem reordered_overwritten : Reordered overwritten rearranged where
  perm := by decide +kernel
  starts := rfl
  writes s x := by
    by_cases first : s = 0
    · simp [overwritten, rearranged, Call.written?, List.filter_cons, first]
    · simp [overwritten, rearranged, Call.written?, List.filter_cons, first]

theorem overwritten_collect :
    Reordered overwritten rearranged ∧ empty.callAll overwritten = empty.callAll rearranged ∧
    ∃ d, (empty.callAll rearranged).definition = .ok d ∧ d.startState = 0 ∧
      d.target? 0 "a" = some 0 ∧ d.target? 0 "ab" = some 0 ∧ d.Collects overwritten := by
  obtain ⟨-, -, exists_definition, exact, anyOrder⟩ := calls_collect.1 overwritten
  obtain ⟨d, collected⟩ := exists_definition ⟨.states [0, 1], .head _, by decide⟩
    ⟨.start 1, .tail _ (.head _), by decide⟩
  obtain ⟨-, start, collects⟩ := (exact d).1 collected
  have same := anyOrder rearranged reordered_overwritten
  refine ⟨reordered_overwritten, same, d, same ▸ collected, ?_, ?_, ?_, collects⟩
  · exact (Option.some.inj start).symm
  · rw [collects.targets]
    decide +kernel
  · rw [collects.targets]
    decide +kernel

end Builder

end Acceptor
