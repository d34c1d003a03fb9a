import Acceptor.Proofs.Stars.Phase

/-! The language of `stars`. The table reads the first four symbols and the last two as the
expression does; between them it looks for three equal symbols, and there it errs. So it
agrees with the expression on all words but those of `starsMisread`. -/
namespace Acceptor.Catalog

open RegularExpression
open scoped Computability

open Stars

/-- The expression that the description of `stars` spells. -/
def starsExpression : RegularExpression Char :=
  let i := char '1'
  let o := char '0'
  (i * i * i + i * o * i + o * o * i + o * i * o) * (i + o + i * i) * star (i + o + i * i) *
    (i * i * i + o * o * o) * star (i * i * i + o * o * o) * (o * i + i * o + o * o)

namespace Stars

/-- The first three symbols of a word. -/
def opening : RegularExpression Char :=
  symbol1 * symbol1 * symbol1 + symbol1 * symbol0 * symbol1 + symbol0 * symbol0 * symbol1 +
    symbol0 * symbol1 * symbol0

/-- The last two. -/
def closing : RegularExpression Char :=
  symbol0 * symbol1 + symbol1 * symbol0 + symbol0 * symbol0

end Stars

/-- The words whose verdict is not that of the expression. -/
def starsMisread : RegularExpression Char :=
  opening * (symbol1 + symbol0) * misreadMiddle * closing

namespace Stars

section Algebra

variable (a b : Language Char)

/-- A symbol doubled is two symbols. -/
theorem double_mul_star : (a + b + a * a) * (a + b + a * a)∗ = (a + b) * (a + b)∗ := by
  have ha : a ≤ a + b := le_self_add
  have one : a + b ≤ (a + b) * (a + b)∗ := le_mul_of_one_le_right' one_le_kstar
  have two : a * a ≤ (a + b) * (a + b)∗ := mul_le_mul' ha (ha.trans le_kstar)
  have inside : a + b + a * a ≤ (a + b) * (a + b)∗ := add_le one two
  have stars : (a + b + a * a)∗ ≤ (a + b)∗ :=
    kstar_le_of_le_kstar (inside.trans mul_kstar_le_kstar)
  apply le_antisymm
  · calc (a + b + a * a) * (a + b + a * a)∗
        ≤ (a + b) * (a + b)∗ * (a + b)∗ := mul_le_mul' inside stars
      _ = (a + b) * (a + b)∗ := by rw [mul_assoc, kstar_mul_kstar]
  · exact mul_le_mul' le_self_add (kstar_mono le_self_add)

/-- Behind any symbols, pieces that are repeated end in one piece. -/
theorem kstar_mul_mul_kstar {l t : Language Char} (inside : t ≤ l∗) : l∗ * t * t∗ = l∗ * t := by
  apply le_antisymm
  · apply mul_kstar_le_self
    calc l∗ * t * t
        ≤ l∗ * l∗ * t := mul_le_mul' (mul_le_mul' le_rfl inside) le_rfl
      _ = l∗ * t := by rw [kstar_mul_kstar]
  · exact le_mul_of_one_le_right' one_le_kstar

end Algebra

theorem triple_le : triple.matches' ≤ (letter1 + letter0)∗ := by
  have cube (u : Language Char) (hu : u ≤ letter1 + letter0) : u * u * u ≤ (letter1 + letter0)∗ :=
    calc u * u * u
        ≤ (letter1 + letter0)∗ * (letter1 + letter0)∗ * (letter1 + letter0)∗ := by
          have := hu.trans (le_kstar (a := letter1 + letter0))
          exact mul_le_mul' (mul_le_mul' this this) this
      _ = (letter1 + letter0)∗ := by rw [kstar_mul_kstar, kstar_mul_kstar]
  exact add_le (cube letter1 le_self_add) (cube letter0 le_add_self)

theorem starsExpression_eq :
    starsExpression.matches' =
      opening.matches' * (symbol1 + symbol0).matches' * (tripled * closing.matches') := by
  have middle := double_mul_star letter1 letter0
  have last := kstar_mul_mul_kstar triple_le
  calc starsExpression.matches'
      = opening.matches' * ((letter1 + letter0 + letter1 * letter1) *
          (letter1 + letter0 + letter1 * letter1)∗) * triple.matches' * triple.matches'∗ *
          closing.matches' := by
        simp only [starsExpression, opening, triple, closing, symbol0, symbol1, matches'_mul,
          matches'_add, matches'_star, matches'_char, mul_assoc]
    _ = opening.matches' * (letter1 + letter0) *
          ((letter1 + letter0)∗ * triple.matches' * triple.matches'∗) * closing.matches' := by
        rw [middle]; simp only [mul_assoc]
    _ = opening.matches' * (letter1 + letter0) * tripled * closing.matches' := by
        rw [last, tripled, add_comm letter0 letter1]
    _ = _ := by rw [mul_assoc _ tripled]; rfl

theorem stars_binary : stars.definition.Binary '0' '1' where
  valid := (Definition.violations_eq_nil_iff _).1 (by decide +kernel)
  apart := by decide
  symbols := by decide +kernel

abbrev starsWords (s : State) : Language Char := stars.definition.words s

theorem starsWords_eq {s t u : State} (row : stars.definition.row? s =
    some (.ofList [(String.singleton '0', t), (String.singleton '1', u)]))
    (notFinal : s ∉ stars.definition.finalStates) :
    starsWords s = letter '0' * starsWords t + letter '1' * starsWords u :=
  stars_binary.words_of_not_final row notFinal

/-- The first four symbols lead to state 7, or into the trap. -/
theorem starsWords_zero :
    starsWords 0 = opening.matches' * (symbol1 + symbol0).matches' * starsWords 7 := by
  have h4 : starsWords 4 = 0 := stars_binary.words_of_sink rfl (by decide)
  have h6 : starsWords 6 = letter '0' * starsWords 7 + letter '1' * starsWords 7 :=
    starsWords_eq rfl (by decide)
  have h5 : starsWords 5 = letter '0' * starsWords 4 + letter '1' * starsWords 6 :=
    starsWords_eq rfl (by decide)
  have h3 : starsWords 3 = letter '0' * starsWords 6 + letter '1' * starsWords 4 :=
    starsWords_eq rfl (by decide)
  have h2 : starsWords 2 = letter '0' * starsWords 5 + letter '1' * starsWords 5 :=
    starsWords_eq rfl (by decide)
  have h1 : starsWords 1 = letter '0' * starsWords 5 + letter '1' * starsWords 3 :=
    starsWords_eq rfl (by decide)
  have h0 : starsWords 0 = letter '0' * starsWords 1 + letter '1' * starsWords 2 :=
    starsWords_eq rfl (by decide)
  simp only [h0, h1, h2, h3, h5, h4, h6, opening, symbol1, symbol0, matches'_mul, matches'_add,
    matches'_char, mul_zero, zero_add, add_zero, mul_add, add_mul, mul_assoc]
  abel

/-- The states of the table that stand for a phase. -/
def Phase.states : Phase → SortedSet State
  | .fresh => .ofList [7]
  | .one => .ofList [8, 21]
  | .ones | .even | .evenLong => .ofList [12]
  | .odd | .oddLong => .ofList [9]
  | .falseOne => .ofList [17]
  | .falseTwo => .ofList [19]
  | .armed => .ofList [17, 19]
  | .zero => .ofList [20, 22, 23]
  | .zeros => .ofList [13, 18]
  | .tripleZero => .ofList [10, 14, 15]
  | .back => .ofList [11, 16]

theorem step_phase (p : Phase) : ∀ q ∈ p.states,
    (∃ t ∈ p.onZero.states, stars.definition.step q '0' = some t) ∧
      ∃ t ∈ p.onOne.states, stars.definition.step q '1' = some t := by
  cases p <;> decide +kernel

theorem lockstep (p : Phase) (q : State) (stands : q ∈ p.states) (c : Char) :
    Option.Rel (fun p q => q ∈ p.states) (p.next c) (stars.definition.step q c) := by
  obtain ⟨⟨t, onZero, moved⟩, u, onOne, moved'⟩ := step_phase p q stands
  by_cases isZero : c = '0'
  · subst isZero
    rw [p.next_forks.onX, moved]
    exact .some onZero
  by_cases isOne : c = '1'
  · subst isOne
    rw [p.next_forks.onY, moved']
    exact .some onOne
  rw [p.next_forks.others c isZero isOne, stars_binary.step_other q isZero isOne]
  exact .none

theorem mem_closing_iff (v : List Char) :
    v ∈ closing.matches' ↔ v = ['0', '1'] ∨ v = ['1', '0'] ∨ v = ['0', '0'] := by
  have two (x y : Char) : letter x * letter y = ({[x, y]} : Language Char) :=
    Set.image2_singleton
  change v ∈ letter0 * letter1 + letter1 * letter0 + letter0 * letter0 ↔ _
  rw [two, two, two, Language.mem_add, Language.mem_add, or_assoc]
  rfl

theorem closing_uniform : Uniform closing.matches' 2 := by
  intro v member
  rcases (mem_closing_iff v).1 member with rfl | rfl | rfl <;> rfl

/-- Two symbols behind a phase end well exactly if three equal symbols were found. -/
theorem closes (p : Phase) : ∀ q ∈ p.states,
    (['0', '1'] ∈ starsWords q ↔ p.Found) ∧ (['1', '0'] ∈ starsWords q ↔ p.Found) ∧
      (['0', '0'] ∈ starsWords q ↔ p.Found) ∧ ['1', '1'] ∉ starsWords q := by
  cases p <;> decide +kernel

theorem mem_starsWords_of_phase {p : Phase} {q : State} (stands : q ∈ p.states) {v : List Char}
    (two : v.length = 2) : v ∈ starsWords q ↔ p.Found ∧ v ∈ closing.matches' := by
  obtain ⟨onZeroOne, onOneZero, onZeros, onOnes⟩ := closes p q stands
  rw [mem_closing_iff]
  constructor
  · intro member
    obtain ⟨c, e, rfl⟩ := List.length_eq_two.1 two
    have symbols := stars_binary.symbols_of_mem_words member
    simp only [List.forall_mem_cons] at symbols
    obtain ⟨rfl | rfl, rfl | rfl, _⟩ := symbols
    · exact ⟨onZeros.1 member, .inr (.inr rfl)⟩
    · exact ⟨onZeroOne.1 member, .inl rfl⟩
    · exact ⟨onOneZero.1 member, .inr (.inl rfl)⟩
    · exact absurd member onOnes
  · rintro ⟨isFound, rfl | rfl | rfl⟩
    · exact onZeroOne.2 isFound
    · exact onOneZero.2 isFound
    · exact onZeros.2 isFound

theorem length_of_mem_seven {w : List Char} (member : w ∈ starsWords 7) : 2 ≤ w.length := by
  by_contra short
  have symbols := stars_binary.symbols_of_mem_words member
  match w with
  | [] => exact absurd member (by decide)
  | [c] =>
    rcases symbols c (List.mem_singleton_self c) with rfl | rfl
    · exact absurd member (by decide)
    · exact absurd member (by decide)
  | _ :: _ :: _ => simp at short

/-- Behind the first four symbols the table goes from phase to phase. -/
theorem starsWords_seven : starsWords 7 = found * closing.matches' := by
  ext w
  by_cases long : 2 ≤ w.length
  · obtain ⟨x, v, rfl, two⟩ : ∃ x v, w = x ++ v ∧ v.length = 2 :=
      ⟨w.take (w.length - 2), w.drop (w.length - 2), (List.take_append_drop _ w).symm,
        by rw [List.length_drop]; omega⟩
    have fresh : (7 : State) ∈ Phase.fresh.states := by decide
    have ends := foldlM_lockstep lockstep x fresh
    rw [append_mem_mul_right closing_uniform x two, found]
    refine (append_mem_wordsFrom _ _ _ x v).trans ?_
    change _ ↔ (∃ p, x.foldlM Phase.next .fresh = some p ∧ p.Found) ∧ _
    generalize x.foldlM Phase.next .fresh = p, x.foldlM stars.definition.step 7 = q at ends ⊢
    cases ends with
    | none => simp
    | some stands =>
      simp only [Option.some.injEq, exists_eq_left']
      exact mem_starsWords_of_phase stands two
  · constructor
    · intro member
      exact absurd (length_of_mem_seven member) long
    · rintro ⟨x, _, v, inClosing, rfl⟩
      have two := closing_uniform v inClosing
      simp [two] at long

/-- The first four symbols. -/
def head : Language Char := opening.matches' * (symbol1 + symbol0).matches'

theorem head_uniform : Uniform head 4 := by
  have symbol (c : Char) : Uniform (letter c) 1 := uniform_letter c
  have three (x y t : Char) : Uniform (letter x * letter y * letter t) 3 :=
    ((symbol x).mul (symbol y)).mul (symbol t)
  have first : Uniform opening.matches' 3 :=
    (((three '1' '1' '1').add (three '1' '0' '1')).add (three '0' '0' '1')).add
      (three '0' '1' '0')
  exact first.mul ((symbol '1').add (symbol '0'))

/-- The table, the expression and their difference are cut alike, so the middle decides. -/
theorem mem_starsWords_zero_iff (w : List Char) :
    (w ∈ starsWords 0 ↔ w ∈ starsExpression.matches') ↔ w ∉ starsMisread.matches' := by
  have misread : starsMisread.matches' = head * (misreadMiddle.matches' * closing.matches') := by
    rw [starsMisread, matches'_mul, matches'_mul, mul_assoc]
    rfl
  rw [starsWords_zero, starsWords_seven, starsExpression_eq, misread]
  change (w ∈ head * (found * closing.matches') ↔ w ∈ head * (tripled * closing.matches')) ↔ _
  by_cases cut : ∃ u ∈ head, ∃ x, ∃ v ∈ closing.matches', w = u ++ (x ++ v)
  · obtain ⟨u, inHead, x, v, inClosing, rfl⟩ := cut
    simp only [framed_mem_iff head_uniform closing_uniform inHead inClosing]
    rw [mem_misreadMiddle_iff, not_not]
  · have outside (l : Language Char) : w ∉ head * (l * closing.matches') := by
      rintro ⟨u, inHead, _, ⟨x, _, v, inClosing, rfl⟩, rfl⟩
      exact cut ⟨u, inHead, x, v, inClosing, rfl⟩
    simp [outside]

end Stars

/-- The built-in `stars` agrees with its expression on a word exactly if the word is not
misread. -/
theorem stars_accepts_iff (w : String) :
    ∃ a, stars.definition.build = .ok a ∧
      ((a.accepts w = true ↔ w.toList ∈ starsExpression.matches') ↔
        w.toList ∉ starsMisread.matches') := by
  refine ⟨stars.definition.compile,
    (Definition.build_eq_ok_iff_valid _ _).2 ⟨stars_binary.valid, rfl⟩, ?_⟩
  have harmless : ∀ f ∈ stars.definition.finalStates,
      f ∉ stars.definition.trapStates := by decide
  rw [Definition.accepts_iff_mem_words stars_binary.valid harmless]
  exact mem_starsWords_zero_iff w.toList

/-- Both errors of the table: it misses three zeros, and finds three zeros in two and a one. -/
theorem stars_not_its_expression :
    ∃ a, stars.definition.build = .ok a ∧
      (a.accepts "001000000" = false ∧ "001000000".toList ∈ starsExpression.matches') ∧
      (a.accepts "001000100" = true ∧ "001000100".toList ∉ starsExpression.matches') :=
  ⟨stars.definition.compile, by decide +kernel, by decide +kernel, by decide +kernel⟩

end Acceptor.Catalog
