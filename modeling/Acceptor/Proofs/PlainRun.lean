import Acceptor.Catalog
import Acceptor.Proofs.Compilation

/-! The plain run of a table: it follows entries from state to state and knows neither the
alphabet nor the traps. A built automaton stops early at foreign symbols and in traps, and
still accepts by the plain run, because no entry leads out of a trap and none has a symbol
outside the alphabet. -/
namespace Acceptor.Definition

/-- Where the table alone leads; nowhere once an entry is missing. -/
def reach? (d : Definition) (s : State) : List Char → Option State
  | [] => some s
  | c :: w => (d.target? s (String.singleton c)).bind fun t => reach? d t w

section

variable {d : Definition}

@[simp] theorem reach?_nil (s : State) : d.reach? s [] = some s := rfl

theorem reach?_cons (s : State) (c : Char) (w : List Char) :
    d.reach? s (c :: w) = (d.target? s (String.singleton c)).bind fun t => d.reach? t w := rfl

/-- No run leaves a trap: it stays or ends for want of an entry. -/
theorem reach?_trap (valid : d.Valid) {p f : State} (trap : p ∈ d.trapStates) (w : List Char)
    (reached : d.reach? p w = some f) : f = p := by
  induction w with
  | nil => exact (Option.some.inj reached).symm
  | cons c w ih =>
    obtain ⟨t, found, rest⟩ := Option.bind_eq_some_iff.1 reached
    obtain rfl := valid.closed p trap _ t found
    exact ih rest

/-- The plain run of `w` from `s` ends in `f`, and this is no trap that it has moved into. -/
def ReadsTo (d : Definition) (s : State) (w : List Char) (f : State) : Prop :=
  d.reach? s w = some f ∧ (w = [] ∨ f ∉ d.trapStates)

theorem readsTo_cons (valid : d.Valid) {s t : State} {c : Char}
    (found : d.target? s (String.singleton c) = some t) (w : List Char) (f : State) :
    d.ReadsTo s (c :: w) f ↔ t ∉ d.trapStates ∧ d.ReadsTo t w f := by
  have moved : d.reach? s (c :: w) = d.reach? t w := by rw [reach?_cons, found]; rfl
  simp only [ReadsTo, moved, reduceCtorEq, false_or]
  constructor
  · rintro ⟨reached, outside⟩
    refine ⟨fun trap => ?_, reached, .inr outside⟩
    rw [reach?_trap valid trap w reached] at outside
    exact outside trap
  · rintro ⟨free, reached, empty | outside⟩
    · subst empty
      obtain rfl := Option.some.inj reached
      exact ⟨rfl, free⟩
    · exact ⟨reached, outside⟩

theorem readsTo_nothing {s : State} {c : Char}
    (missing : d.target? s (String.singleton c) = none) (w : List Char) (f : State) :
    ¬ d.ReadsTo s (c :: w) f := by
  simp [ReadsTo, reach?_cons, missing]

/-- What the scan stops for is what the plain run of the rest cannot make good. -/
theorem scan_readsTo (valid : d.Valid) (w : List Char) (s : State) (i : Nat) (f : State) :
    ((d.compile.scan s i w).rejection = none ∧ (d.compile.scan s i w).finalState = f) ↔
      d.ReadsTo s w f := by
  induction w generalizing s i with
  | nil => simp [Automaton.scan, ReadsTo]
  | cons c w ih =>
    rw [Automaton.scan, move_compile valid]
    cases moved : d.move s c i with
    | error r =>
      have missing : d.target? s (String.singleton c) = none := by
        rw [Option.eq_none_iff_forall_ne_some]
        intro t found
        rw [← move_eq_ok_iff valid s c i, moved] at found
        contradiction
      simp [readsTo_nothing missing]
    | ok t =>
      have found := (move_eq_ok_iff valid s c i t).1 moved
      rw [readsTo_cons valid found, ← ih t (i + 1)]
      by_cases trap : t ∈ d.trapStates
      · simp [trap]
      · simp [trap]

theorem accepts_iff_readsTo (valid : d.Valid) (w : String) :
    d.compile.accepts w = true ↔ ∃ f, d.ReadsTo d.startState w.toList f ∧ f ∈ d.finalStates := by
  rw [Automaton.accepts, accepted_iff]
  simp only [← scan_readsTo valid w.toList d.startState 0]
  constructor
  · rintro ⟨whole, final⟩
    exact ⟨_, ⟨whole, rfl⟩, final⟩
  · rintro ⟨f, ⟨whole, rfl⟩, final⟩
    exact ⟨whole, final⟩

end

/-- The verdict of a built automaton is that of the plain run, unless this ends in a trap
that it has moved into; where no trap is final, stopping early never changes the verdict. -/
theorem accepts_iff_reach {d : Definition} {a : Automaton} (built : d.build = .ok a)
    (w : String) :
    (a.accepts w = true ↔ ∃ f, d.reach? d.startState w.toList = some f ∧ f ∈ d.finalStates ∧
      (w = "" ∨ f ∉ d.trapStates)) ∧
    ((∀ f ∈ d.finalStates, f ∉ d.trapStates) ∨ w = "" →
      (a.accepts w = true ↔
        ∃ f, d.reach? d.startState w.toList = some f ∧ f ∈ d.finalStates)) := by
  obtain ⟨valid, rfl⟩ := (build_eq_ok_iff_valid d a).1 built
  have empty : w.toList = [] ↔ w = "" := String.toList_eq_nil_iff
  have verdict : d.compile.accepts w = true ↔
      ∃ f, d.reach? d.startState w.toList = some f ∧ f ∈ d.finalStates ∧
        (w = "" ∨ f ∉ d.trapStates) := by
    rw [accepts_iff_readsTo valid, ← empty]
    exact exists_congr fun f => by rw [ReadsTo, and_assoc, and_comm (a := _ ∨ _)]
  refine ⟨verdict, fun harmless => verdict.trans (exists_congr fun f => ?_)⟩
  constructor
  · rintro ⟨reached, final, _⟩
    exact ⟨reached, final⟩
  · rintro ⟨reached, final⟩
    exact ⟨reached, final, harmless.symm.imp id fun free => free f final⟩

/-- No final state of `bets` is a trap, so its plain run alone gives the verdict. -/
theorem bets_accepts_of_reach :
    Catalog.bets.definition.build = .ok Catalog.bets.definition.compile ∧
    (∀ f ∈ Catalog.bets.definition.finalStates, f ∉ Catalog.bets.definition.trapStates) ∧
    Catalog.bets.definition.compile.accepts "aaabaa" = true := by
  have built : Catalog.bets.definition.build = .ok Catalog.bets.definition.compile :=
    (build_eq_ok_iff _ _).2 ⟨by decide +kernel, rfl⟩
  have harmless : ∀ f ∈ Catalog.bets.definition.finalStates,
      f ∉ Catalog.bets.definition.trapStates := by decide
  have verdict := (accepts_iff_reach built "aaabaa").2 (.inl harmless)
  exact ⟨built, harmless, verdict.2 ⟨12, by decide +kernel, by decide⟩⟩

end Acceptor.Definition
