import Acceptor.Catalog
import Acceptor.Proofs.Coherence
import Acceptor.Proofs.Compilation

/-! More final states, or fewer traps. Either asks less of a definition, so one that builds still
does. A run never asks which states are final. It asks which are traps only where it enters one:
a trap that is none any more lets a run go on that ended there, and changes no other run
(`build_and_simulate_relax`). -/
namespace Acceptor

namespace Automaton

variable (a : Automaton)

/-- Which states are final is asked only when a scan is over. -/
theorem scan_finalStates (finals : SortedSet State) (s : State) (i : Nat) (w : List Char) :
    { a with finalStates := finals }.scan s i w = a.scan s i w := by
  induction w generalizing s i with
  | nil => rfl
  | cons c w ih =>
    rw [scan, scan]
    simp only [ih]
    rfl

variable {a}

/-- With fewer traps a scan is the same, or it was stopped in a trap that is none any more and
now goes on. The induction is on the word; both scans are in the same state until the first of
them stops. -/
theorem scan_fewerTraps {fewer : SortedSet State} (within : ∀ p ∈ fewer, p ∈ a.trapStates)
    (s : State) (i : Nat) (w : List Char) :
    { a with trapStates := fewer }.scan s i w = a.scan s i w ∨
      ∃ p c j, (a.scan s i w).rejection = some (.trapState p c j) ∧
        (p ∈ a.trapStates ∧ p ∉ fewer) ∧
        (a.scan s i w).entered <+: ({ a with trapStates := fewer }.scan s i w).entered := by
  induction w generalizing s i with
  | nil => exact .inl rfl
  | cons c w ih =>
    have sameMove : { a with trapStates := fewer }.move s c i = a.move s c i := rfl
    rw [scan, scan, sameMove]
    cases moved : a.move s c i with
    | error r => exact .inl rfl
    | ok t =>
      have wasTrap : a.isTrap t = true ↔ t ∈ a.trapStates := isTrap_iff
      have isTrap : { a with trapStates := fewer }.isTrap t = true ↔ t ∈ fewer := isTrap_iff
      simp only [wasTrap, isTrap]
      by_cases trap : t ∈ a.trapStates
      · by_cases kept : t ∈ fewer
        · rw [if_pos trap, if_pos kept]
          exact .inl rfl
        · rw [if_pos trap, if_neg kept]
          refine .inr ⟨t, c, i, rfl, ⟨trap, kept⟩, ?_⟩
          exact (List.prefix_cons_inj t).2 List.nil_prefix
      · have free : t ∉ fewer := fun kept => trap (within t kept)
        rw [if_neg trap, if_neg free]
        rcases ih t (i + 1) with same | ⟨p, b, j, stopped, lost, longer⟩
        · rw [same]
          exact .inl rfl
        · exact .inr ⟨p, b, j, stopped, lost, (List.prefix_cons_inj t).2 longer⟩

theorem simulate_finalStates {more : SortedSet State} (within : ∀ s ∈ a.finalStates, s ∈ more)
    (w : String) :
    let relaxed := { a with finalStates := more }.simulate w
    relaxed.steps = (a.simulate w).steps ∧ relaxed.finalState = (a.simulate w).finalState ∧
      relaxed.rejection = (a.simulate w).rejection ∧
      ((a.simulate w).accepted = true → relaxed.accepted = true) := by
  have same := a.scan_finalStates more a.startState 0 w.toList
  refine ⟨?steps, ?finalState, ?rejection, ?accepted⟩
  case steps => exact congrArg (Step.state a.startState :: ·.steps) same
  case finalState => exact congrArg Scan.finalState same
  case rejection => exact congrArg Scan.rejection same
  case accepted =>
    rw [Definition.accepted_iff, Definition.accepted_iff, same]
    rintro ⟨whole, final⟩
    exact ⟨whole, within _ final⟩

theorem simulate_fewerTraps {fewer : SortedSet State} (within : ∀ p ∈ fewer, p ∈ a.trapStates)
    (w : String) :
    let relaxed := { a with trapStates := fewer }.simulate w
    (a.simulate w).visited <+: relaxed.visited ∧
      (relaxed = a.simulate w ∨
        ∃ p c i, (a.simulate w).rejection = some (.trapState p c i) ∧
          p ∈ a.trapStates ∧ p ∉ fewer) := by
  rcases scan_fewerTraps within a.startState 0 w.toList with same | ⟨p, c, j, stopped, lost, longer⟩
  · have sameTrace : { a with trapStates := fewer }.simulate w = a.simulate w := by
      simp only [simulate, same]
      rfl
    intro relaxed
    rw [show relaxed = a.simulate w from sameTrace]
    exact ⟨List.prefix_refl _, .inl rfl⟩
  · exact ⟨(List.prefix_cons_inj a.startState).2 longer, .inr ⟨p, c, j, stopped, lost⟩⟩

end Automaton

namespace Definition

def addFinals (d : Definition) (more : SortedSet State) : Definition :=
  { d with finalStates := d.finalStates.insertAll more.toList }

def dropTraps (d : Definition) (gone : SortedSet State) : Definition :=
  { d with trapStates := d.trapStates.without gone }

namespace Valid

variable {d : Definition}

/-- Only totality looks at final states, and it asks nothing of them. -/
theorem addFinals (valid : d.Valid) {more : SortedSet State} (known : ∀ s ∈ more, s ∈ d.states) :
    (d.addFinals more).Valid :=
  { valid with
    finals := by
      intro s final
      rcases (SortedSet.mem_insertAll ..).1 final with final | added
      · exact valid.finals s final
      · exact known s added
    total := by
      intro s state notFinal
      have before : s ∉ d.finalStates :=
        fun final => notFinal ((SortedSet.mem_insertAll ..).2 (.inl final))
      exact valid.total s state before }

theorem dropTraps (valid : d.Valid) (gone : SortedSet State) : (d.dropTraps gone).Valid :=
  { valid with
    traps := fun p trap => valid.traps p ((SortedSet.mem_without ..).1 trap).1
    closed := fun p trap => valid.closed p ((SortedSet.mem_without ..).1 trap).1 }

end Valid

/-- Relaxing a definition is monotone. With more known states final, every trace is as before
but for the verdict, which can only become an acceptance. With fewer traps, every run visits what
it visited before and perhaps more; an accepted word has the trace it had, and so has every word
whose run did not end in a trap that was dropped. -/
theorem build_and_simulate_relax {d : Definition} {a : Automaton} (built : d.build = .ok a) :
    (∀ more : SortedSet State, (∀ s ∈ more, s ∈ d.states) →
      ∃ b, (d.addFinals more).build = .ok b ∧ ∀ w,
        (b.simulate w).steps = (a.simulate w).steps ∧
        (b.simulate w).finalState = (a.simulate w).finalState ∧
        (b.simulate w).rejection = (a.simulate w).rejection ∧
        ((a.simulate w).accepted = true → (b.simulate w).accepted = true)) ∧
    ∀ gone : SortedSet State,
      ∃ b, (d.dropTraps gone).build = .ok b ∧ ∀ w,
        (a.simulate w).visited <+: (b.simulate w).visited ∧
        ((a.simulate w).accepted = true → b.simulate w = a.simulate w) ∧
        ((∀ p ∈ gone, ∀ c i, (a.simulate w).rejection ≠ some (.trapState p c i)) →
          b.simulate w = a.simulate w) := by
  obtain ⟨valid, rfl⟩ := (build_eq_ok_iff_valid d a).1 built
  constructor
  · intro more known
    refine ⟨_, (build_eq_ok_iff_valid _ _).2 ⟨valid.addFinals known, rfl⟩, fun w => ?_⟩
    have within : ∀ s ∈ d.compile.finalStates, s ∈ d.finalStates.insertAll more.toList :=
      fun s final => (SortedSet.mem_insertAll ..).2 (.inl final)
    exact Automaton.simulate_finalStates within w
  · intro gone
    refine ⟨_, (build_eq_ok_iff_valid _ _).2 ⟨valid.dropTraps gone, rfl⟩, fun w => ?_⟩
    have within : ∀ p ∈ d.trapStates.without gone, p ∈ d.compile.trapStates :=
      fun p trap => ((SortedSet.mem_without ..).1 trap).1
    obtain ⟨longer, same | ⟨p, c, i, stopped, trap, lost⟩⟩ := Automaton.simulate_fewerTraps within w
    · exact ⟨longer, fun _ => same, fun _ => same⟩
    · refine ⟨longer, ?accepted, ?kept⟩
      case accepted =>
        intro accepted
        have whole := ((accepted_iff ..).1 accepted).1
        exact nomatch whole.symm.trans stopped
      case kept =>
        intro kept
        have dropped : p ∈ gone := by
          refine Classical.byContradiction fun absent => lost ?_
          exact (SortedSet.mem_without ..).2 ⟨trap, absent⟩
        exact absurd stopped (kept p dropped c i)

/-- With the start state of `bets` final, nothing else of the trace of `abba` changes; without its
trap `7`, where this run ended, the last symbol is read as well. -/
theorem bets_build_and_simulate_relax :
    Catalog.bets.definition.build = .ok Catalog.bets.definition.compile ∧
    (∀ s ∈ SortedSet.ofList [0], s ∈ Catalog.bets.definition.states) ∧
    (∃ b, (Catalog.bets.definition.addFinals (.ofList [0])).build = .ok b ∧
      (b.simulate "abba").steps = (Catalog.bets.definition.compile.simulate "abba").steps ∧
      (b.simulate "aaabaa").accepted = true) ∧
    ∃ b, (Catalog.bets.definition.dropTraps (.ofList [7])).build = .ok b ∧
      (Catalog.bets.definition.compile.simulate "abba").visited <+: (b.simulate "abba").visited ∧
      (b.simulate "abba").visited = [0, 2, 4, 7, 7] ∧
      b.simulate "aaabaa" = Catalog.bets.definition.compile.simulate "aaabaa" := by
  have built : Catalog.bets.definition.build = .ok Catalog.bets.definition.compile :=
    (build_eq_ok_iff _ _).2 ⟨by decide +kernel, rfl⟩
  have known : ∀ s ∈ SortedSet.ofList [0], s ∈ Catalog.bets.definition.states := by decide +kernel
  have accepted : (Catalog.bets.definition.compile.simulate "aaabaa").accepted = true := by
    decide +kernel
  obtain ⟨more, fewer⟩ := build_and_simulate_relax built
  obtain ⟨b, rebuilt, traces⟩ := more _ known
  obtain ⟨b', rebuilt', visits⟩ := fewer (.ofList [7])
  refine ⟨built, known, ⟨b, rebuilt, (traces "abba").1, (traces "aaabaa").2.2.2 accepted⟩,
    b', rebuilt', (visits "abba").1, ?_, (visits "aaabaa").2.1 accepted⟩
  obtain ⟨-, rfl⟩ := (build_eq_ok_iff _ _).1 rebuilt'
  decide +kernel

end Definition

end Acceptor
