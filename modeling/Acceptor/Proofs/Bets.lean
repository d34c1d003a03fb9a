import Acceptor.Proofs.Recognition

/-! The language of `bets`. Its table is solved from the end of a word to its start: the
final state takes everything, both traps nothing, and each state before them adds one symbol
in front. -/
namespace Acceptor.Catalog

open RegularExpression
open scoped Computability

/-- The expression that the description of `bets` spells. -/
def betsExpression : RegularExpression Char :=
  let a := char 'a'
  let b := char 'b'
  (a * a + b * b + a * b * a + b * a) * (a * b * a + b * a * b + b * b * b) * star (a + b) *
    (a + b + a * a + a * b * a * b) * star (a * a + b * b)

/-- The last three factors come to one: a word that is not empty. -/
theorem star_mul_mul_star (a b : Language Char) :
    (a + b)∗ * (a + b + a * a + a * b * a * b) * (a * a + b * b)∗ = (a + b) * (a + b)∗ := by
  have ha : a ≤ a + b := le_self_add
  have hb : b ≤ a + b := le_add_self
  have step (u v : Language Char) (hu : u ≤ a + b) (hv : v ≤ (a + b)∗) : u * v ≤ (a + b)∗ :=
    (mul_le_mul' hu hv).trans mul_kstar_le_kstar
  have one (u : Language Char) (hu : u ≤ a + b) : u ≤ (a + b)∗ := hu.trans le_kstar
  have pairs : (a * a + b * b)∗ ≤ (a + b)∗ :=
    kstar_le_of_le_kstar (add_le (step a a ha (one a ha)) (step b b hb (one b hb)))
  have middle : a + b + a * a + a * b * a * b ≤ (a + b) * (a + b)∗ := by
    refine add_le (add_le ?_ ?_) ?_
    · exact le_mul_of_one_le_right' one_le_kstar
    · exact mul_le_mul' ha (one a ha)
    · rw [mul_assoc, mul_assoc]
      exact mul_le_mul' ha (step b _ hb (step a b ha (one b hb)))
  apply le_antisymm
  · calc (a + b)∗ * (a + b + a * a + a * b * a * b) * (a * a + b * b)∗
        ≤ (a + b)∗ * ((a + b) * (a + b)∗) * (a + b)∗ := by gcongr
      _ = (a + b) * ((a + b)∗ * ((a + b)∗ * (a + b)∗)) := by
        rw [← mul_assoc, Language.mul_self_kstar_comm, mul_assoc, mul_assoc]
      _ = (a + b) * (a + b)∗ := by rw [kstar_mul_kstar, kstar_mul_kstar]
  · calc (a + b) * (a + b)∗
        = (a + b)∗ * (a + b) * 1 := by rw [mul_one, Language.mul_self_kstar_comm]
      _ ≤ (a + b)∗ * (a + b + a * a + a * b * a * b) * (a * a + b * b)∗ := by
        refine mul_le_mul' (mul_le_mul' le_rfl ?_) one_le_kstar
        rw [add_assoc (a + b)]
        exact le_self_add

theorem bets_binary : bets.definition.Binary 'a' 'b' where
  valid := (Definition.violations_eq_nil_iff _).1 (by decide +kernel)
  apart := by decide
  symbols := by decide +kernel

abbrev betsWords (s : State) : Language Char := bets.definition.words s

theorem betsWords_eq {s t u : State} (row : bets.definition.row? s =
    some (.ofList [(String.singleton 'a', t), (String.singleton 'b', u)]))
    (notFinal : s ∉ bets.definition.finalStates) :
    betsWords s = letter 'a' * betsWords t + letter 'b' * betsWords u :=
  bets_binary.words_of_not_final row notFinal

/-- From state 11 any symbol is read, and then anything. -/
theorem betsWords_eleven :
    betsWords 11 = (letter 'a' + letter 'b') * (letter 'a' + letter 'b')∗ := by
  have h12 : betsWords 12 = (letter 'a' + letter 'b')∗ :=
    bets_binary.words_of_final_sink rfl (by decide)
  have h11 : betsWords 11 = letter 'a' * betsWords 12 + letter 'b' * betsWords 12 :=
    betsWords_eq rfl (by decide)
  rw [h11, h12, add_mul]

/-- From state 3 the second factor is read. -/
theorem betsWords_three :
    betsWords 3 =
      (letter 'a' * letter 'b' * letter 'a' + letter 'b' * letter 'a' * letter 'b' +
        letter 'b' * letter 'b' * letter 'b') * betsWords 11 := by
  have h7 : betsWords 7 = 0 := bets_binary.words_of_sink rfl (by decide)
  have h8 : betsWords 8 = 0 := bets_binary.words_of_sink rfl (by decide)
  have h10 : betsWords 10 = letter 'a' * betsWords 7 + letter 'b' * betsWords 11 :=
    betsWords_eq rfl (by decide)
  have h9 : betsWords 9 = letter 'a' * betsWords 11 + letter 'b' * betsWords 8 :=
    betsWords_eq rfl (by decide)
  have h6 : betsWords 6 = letter 'a' * betsWords 10 + letter 'b' * betsWords 10 :=
    betsWords_eq rfl (by decide)
  have h5 : betsWords 5 = letter 'a' * betsWords 8 + letter 'b' * betsWords 9 :=
    betsWords_eq rfl (by decide)
  have h3 : betsWords 3 = letter 'a' * betsWords 5 + letter 'b' * betsWords 6 :=
    betsWords_eq rfl (by decide)
  simp only [h3, h5, h6, h8, h9, h10, h7, mul_zero, add_zero, zero_add, mul_add, add_mul,
    mul_assoc, add_assoc]

/-- From the start the first factor is read; `ab` is only half of one. -/
theorem betsWords_zero :
    betsWords 0 =
      (letter 'a' * letter 'a' + letter 'b' * letter 'b' + letter 'a' * letter 'b' * letter 'a' +
        letter 'b' * letter 'a') * betsWords 3 := by
  have h7 : betsWords 7 = 0 := bets_binary.words_of_sink rfl (by decide)
  have h4 : betsWords 4 = letter 'a' * betsWords 3 + letter 'b' * betsWords 7 :=
    betsWords_eq rfl (by decide)
  have h2 : betsWords 2 = letter 'a' * betsWords 3 + letter 'b' * betsWords 4 :=
    betsWords_eq rfl (by decide)
  have h1 : betsWords 1 = letter 'a' * betsWords 3 + letter 'b' * betsWords 3 :=
    betsWords_eq rfl (by decide)
  have h0 : betsWords 0 = letter 'a' * betsWords 2 + letter 'b' * betsWords 1 :=
    betsWords_eq rfl (by decide)
  simp only [h0, h1, h2, h4, h7, mul_zero, add_zero, mul_add, add_mul, mul_assoc]
  ac_rfl

/-- The built-in `bets` accepts exactly the words of its expression. -/
theorem bets_accepts_iff :
    ∃ a, bets.definition.build = .ok a ∧
      ∀ w : String, a.accepts w = true ↔ w.toList ∈ betsExpression.matches' := by
  refine ⟨bets.definition.compile,
    (Definition.build_eq_ok_iff_valid _ _).2 ⟨bets_binary.valid, rfl⟩, fun w => ?_⟩
  have harmless : ∀ f ∈ bets.definition.finalStates, f ∉ bets.definition.trapStates := by decide
  have language : betsWords 0 = betsExpression.matches' := by
    rw [betsWords_zero, betsWords_three, betsWords_eleven, ← star_mul_mul_star]
    simp only [betsExpression, matches'_mul, matches'_add, matches'_star, matches'_char,
      mul_assoc]
  rw [Definition.accepts_iff_mem_words bets_binary.valid harmless, ← language]
  rfl

end Acceptor.Catalog
