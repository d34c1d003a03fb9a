import Acceptor.Proofs.Coherence
import Acceptor.Proofs.Concatenation
import Acceptor.Proofs.Invariant
import Acceptor.Proofs.Reconstruction

/-! Which rejections a built automaton can give. A run never leaves the known states, where only
a final state may lack a row or an entry. So two kinds of rejection occur in final states alone,
and no target that a row holds is ever passed over (`rejections_explained`). -/
namespace Acceptor

namespace Automaton

/-- What a rejection tells of the automaton that gave it. -/
def Explains (a : Automaton) : Rejection → Prop
  | .invalidSymbol c _ => c ∉ a.alphabet
  | .noTransition s _ => s ∈ a.finalStates ∧ a.row? s = none
  | .invalidTarget s c _ => s ∈ a.finalStates ∧
    (∃ row, a.row? s = some row ∧ row.find? c = none) ∧ c ∈ a.alphabet
  | .trapState s _ _ => s ∈ a.trapStates ∧
    ∀ row, a.row? s = some row → ∀ c t, row.find? c = some t → t = s

variable {a : Automaton} {s : State} {c : Char}

theorem next?_of_noRow (noRow : a.row? s = none) (c : Char) : a.next? s c = none := by
  rw [next?, noRow]
  rfl

theorem next?_of_row {row : SortedMap Char State} (atRow : a.row? s = some row) (c : Char) :
    a.next? s c = row.find? c := by
  rw [next?, atRow]
  rfl

namespace Invariant

/-- Looking whether a target is a state never costs a target. -/
theorem filter_hasState (inv : a.Invariant) {row : SortedMap Char State}
    (atRow : a.row? s = some row) (c : Char) :
    (row.find? c).filter a.hasState = row.find? c := by
  cases atEntry : row.find? c with
  | none => rfl
  | some t =>
    have found := (next?_of_row atRow c).trans atEntry
    have known := (inv.moves s c t found).2.1
    simpa [Option.filter, hasState] using known

theorem final_of_next?_eq_none (inv : a.Invariant) (known : s ∈ a.states) (symbol : c ∈ a.alphabet)
    (missing : a.next? s c = none) : s ∈ a.finalStates := by
  refine Classical.byContradiction fun notFinal => ?_
  obtain ⟨t, found⟩ := inv.total s known notFinal c symbol
  exact nomatch missing.symm.trans found

end Invariant

theorem Refuses.explains {i : Nat} {r : Rejection} (refused : a.Refuses s c i r)
    (inv : a.Invariant) (known : s ∈ a.states) : a.Explains r := by
  cases refused with
  | foreign outside => exact outside
  | rowless symbol noRow =>
    exact ⟨inv.final_of_next?_eq_none known symbol (next?_of_noRow noRow c), noRow⟩
  | targetless symbol atRow noTarget =>
    rw [inv.filter_hasState atRow] at noTarget
    have missing := (next?_of_row atRow c).trans noTarget
    exact ⟨inv.final_of_next?_eq_none known symbol missing, ⟨_, atRow, noTarget⟩, symbol⟩

theorem Invariant.explains_trap (inv : a.Invariant) {p : State} (trap : p ∈ a.trapStates)
    (c : Char) (i : Nat) : a.Explains (.trapState p c i) := by
  refine ⟨trap, fun row atRow d t atEntry => ?_⟩
  exact inv.closed p trap d t ((next?_of_row atRow d).trans atEntry)

namespace Run

variable {i : Nat} {w : List Char} {scan : Scan}

theorem entered_mem (run : a.Run s i w scan) : ∀ q ∈ scan.entered, q ∈ a.states := by
  induction run with
  | done => simp
  | refused => simp
  | trapped moved => simpa using a.move_mem moved
  | moved moved _ _ ih => simpa using ⟨a.move_mem moved, ih⟩

/-- The state at hand stays known, and the last symbol finds it so. -/
theorem explains (run : a.Run s i w scan) (inv : a.Invariant) (known : s ∈ a.states)
    {r : Rejection} (rejected : scan.rejection = some r) : a.Explains r := by
  induction run with
  | done => contradiction
  | refused refusal =>
    cases rejected
    exact refusal.explains inv known
  | trapped _ trap =>
    cases rejected
    exact inv.explains_trap trap _ _
  | moved moved _ _ ih => exact ih (a.move_mem moved) rejected

end Run

namespace Invariant

variable {w : String}

theorem visited_mem (inv : a.Invariant) : ∀ s ∈ (a.simulate w).visited, s ∈ a.states := by
  rw [visited_simulate, List.forall_mem_cons]
  exact ⟨inv.start, (a.scan_run ..).entered_mem⟩

theorem explains (inv : a.Invariant) {r : Rejection}
    (rejected : (a.simulate w).rejection = some r) : a.Explains r :=
  (a.scan_run ..).explains inv inv.start rejected

/-- Where no state lacks an entry, a word over the alphabet can only be stopped by a trap. -/
theorem whole_or_trapped (inv : a.Invariant)
    (complete : ∀ s ∈ a.finalStates, ∀ c ∈ a.alphabet, ∃ t, a.next? s c = some t)
    (symbols : ∀ c ∈ w.toList, c ∈ a.alphabet) :
    ((a.simulate w).rejection = none ∧ (a.simulate w).consumed = w.length) ∨
      ∃ p c i, (a.simulate w).rejection = some (.trapState p c i) := by
  cases rejected : (a.simulate w).rejection with
  | none => exact .inl ⟨rfl, consumed_of_whole rejected⟩
  | some r =>
    have explained := inv.explains rejected
    cases r with
    | invalidSymbol c i =>
      obtain ⟨d, atIndex, carried, -⟩ := exists_stopping_symbol rejected
      have member : c ∈ w.toList := carried c rfl ▸ List.mem_of_getElem? atIndex
      exact absurd (symbols c member) explained
    | noTransition s i =>
      obtain ⟨final, noRow⟩ := explained
      obtain ⟨c, symbol⟩ := inv.alphabet
      obtain ⟨t, found⟩ := complete s final c symbol
      rw [next?_of_noRow noRow] at found
      contradiction
    | invalidTarget s c i =>
      obtain ⟨final, ⟨row, atRow, noTarget⟩, symbol⟩ := explained
      obtain ⟨t, found⟩ := complete s final c symbol
      rw [next?_of_row atRow, noTarget] at found
      contradiction
    | trapState p c i => exact .inr ⟨p, c, i, rfl⟩

end Invariant

end Automaton

namespace Definition

/-- A run of a built automaton stays among its states, and each rejection tells what its name
says: a missing row or entry is that of a final state, a foreign symbol is none of the alphabet,
and a trap has no way out. -/
theorem rejections_explained {d : Definition} {a : Automaton} (built : d.build = .ok a)
    (w : String) :
    ((∀ s ∈ (a.simulate w).visited, s ∈ a.states) ∧ (a.simulate w).finalState ∈ a.states) ∧
    (∀ r, (a.simulate w).rejection = some r → a.Explains r) ∧
    (∀ s row c, a.row? s = some row → (row.find? c).filter a.hasState = row.find? c) ∧
    ((∀ s ∈ a.finalStates, ∀ c ∈ a.alphabet, ∃ t, a.next? s c = some t) →
      (∀ c ∈ w.toList, c ∈ a.alphabet) →
      ((a.simulate w).rejection = none ∧ (a.simulate w).consumed = w.length) ∨
        ∃ p c i, (a.simulate w).rejection = some (.trapState p c i)) := by
  obtain ⟨valid, rfl⟩ := (build_eq_ok_iff_valid d a).1 built
  have inv := invariant_compile valid
  refine ⟨⟨inv.visited_mem, ?final⟩, fun _ => inv.explains, ?found, inv.whole_or_trapped⟩
  case final => exact d.compile.scan_finalState_mem inv.start 0 w.toList
  case found => exact fun s row c atRow => inv.filter_hasState atRow c

/-- The empty row of `sparse` stops `\"é` in the final state `1`. The final state of `bets` has
both entries, so that only a trap stops a word. -/
theorem sparse_rejections_explained :
    sparse.build = .ok sparse.compile ∧
    (sparse.compile.simulate "\"é").rejection = some (.invalidTarget 1 'é' 1) ∧
    sparse.compile.Explains (.invalidTarget 1 'é' 1) ∧
    Catalog.bets.definition.build = .ok Catalog.bets.definition.compile ∧
    (∀ s ∈ Catalog.bets.definition.compile.finalStates,
      ∀ c ∈ Catalog.bets.definition.compile.alphabet,
        ∃ t, Catalog.bets.definition.compile.next? s c = some t) ∧
    (∀ c ∈ "abba".toList, c ∈ Catalog.bets.definition.compile.alphabet) ∧
    (((Catalog.bets.definition.compile.simulate "abba").rejection = none ∧
      (Catalog.bets.definition.compile.simulate "abba").consumed = 4) ∨
      ∃ p c i, (Catalog.bets.definition.compile.simulate "abba").rejection =
        some (.trapState p c i)) := by
  have built : sparse.build = .ok sparse.compile :=
    (build_eq_ok_iff _ _).2 ⟨by decide +kernel, rfl⟩
  have built' : Catalog.bets.definition.build = .ok Catalog.bets.definition.compile :=
    (build_eq_ok_iff _ _).2 ⟨by decide +kernel, rfl⟩
  have rejected : (sparse.compile.simulate "\"é").rejection = some (.invalidTarget 1 'é' 1) := by
    decide +kernel
  have complete : ∀ s ∈ Catalog.bets.definition.compile.finalStates,
      ∀ c ∈ Catalog.bets.definition.compile.alphabet,
        ∃ t, Catalog.bets.definition.compile.next? s c = some t := by
    have checked : (Catalog.bets.definition.compile.finalStates.toList.all fun s =>
        Catalog.bets.definition.compile.alphabet.toList.all fun c =>
          (Catalog.bets.definition.compile.next? s c).isSome) = true := by
      decide +kernel
    simp only [List.all_eq_true] at checked
    exact fun s final c symbol => Option.isSome_iff_exists.1 (checked s final c symbol)
  have symbols : ∀ c ∈ "abba".toList, c ∈ Catalog.bets.definition.compile.alphabet := by
    have checked : ("abba".toList.all fun c =>
        decide (c ∈ Catalog.bets.definition.compile.alphabet)) = true := by
      decide +kernel
    exact fun c inside => of_decide_eq_true (List.all_eq_true.1 checked c inside)
  exact ⟨built, rejected, (rejections_explained built _).2.1 _ rejected, built', complete, symbols,
    (rejections_explained built' "abba").2.2.2 complete symbols⟩

end Definition

end Acceptor
