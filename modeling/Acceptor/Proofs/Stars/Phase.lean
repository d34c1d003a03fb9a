import Mathlib.Tactic.Abel
import Acceptor.Proofs.Recognition

/-! How `stars` looks for three equal symbols in a row, `111` or `000`. Its table takes a
second zero for a second one (the entry of state 9 on `0`), so two zeros and a one arm it, and
zeros that it counts in pairs never do. A phase is what the table has seen together with what
was really there; the words on which the two differ are those of `misreadMiddle`. -/
namespace Acceptor.Catalog.Stars

open RegularExpression
open scoped Computability

/-- Behind the first four symbols. Ones are counted rightly up to `ones`; zeros are counted
rightly once the table is armed, and in pairs before. -/
inductive Phase where
  | fresh
  | one
  | ones
  | odd
  | even
  | oddLong
  | evenLong
  | falseOne
  | falseTwo
  | armed
  | zero
  | zeros
  | tripleZero
  | back
  deriving DecidableEq

namespace Phase

def onZero : Phase → Phase
  | fresh | one | ones => odd
  | odd => even
  | even | evenLong => oddLong
  | oddLong => evenLong
  | falseOne | falseTwo | armed | back => zero
  | zero => zeros
  | zeros | tripleZero => tripleZero

def onOne : Phase → Phase
  | fresh | odd | oddLong | zero | zeros => one
  | one | back => ones
  | even | evenLong => falseOne
  | falseOne => falseTwo
  | ones | falseTwo | armed => armed
  | tripleZero => back

def next (p : Phase) (c : Char) : Option Phase :=
  if c = '0' then some p.onZero else if c = '1' then some p.onOne else none

theorem next_forks (p : Phase) : Forks next '0' '1' p p.onZero p.onOne := by
  constructor
  · rfl
  · rfl
  · intro c notZero notOne
    simp [next, notZero, notOne]

/-- The table has found three equal symbols. -/
def Found (p : Phase) : Prop :=
  p = falseOne ∨ p = falseTwo ∨ p = armed ∨ p = tripleZero

instance (p : Phase) : Decidable p.Found :=
  inferInstanceAs (Decidable (p = falseOne ∨ p = falseTwo ∨ p = armed ∨ p = tripleZero))

/-- The last three symbols are equal. -/
def Tripled (p : Phase) : Prop :=
  p = oddLong ∨ p = evenLong ∨ p = armed ∨ p = tripleZero

/-- The table has found what is not there, or missed what is. -/
def Misread (p : Phase) : Prop :=
  p = oddLong ∨ p = evenLong ∨ p = falseOne ∨ p = falseTwo

theorem misread_iff (p : Phase) : p.Misread ↔ ¬ (p.Found ↔ p.Tripled) := by
  cases p <;> simp [Misread, Found, Tripled]

end Phase

section Expressions

def symbol0 : RegularExpression Char := char '0'
def symbol1 : RegularExpression Char := char '1'

/-- Three equal symbols. -/
def triple : RegularExpression Char := symbol1 * symbol1 * symbol1 + symbol0 * symbol0 * symbol0

def fewOnes : RegularExpression Char := symbol1 + symbol1 * symbol1
def manyOnes : RegularExpression Char := symbol1 * symbol1 * symbol1 * star symbol1
def fewZeros : RegularExpression Char := symbol0 + symbol0 * symbol0
def manyZeros : RegularExpression Char := symbol0 * symbol0 * symbol0 * star symbol0
def oddZeros : RegularExpression Char := symbol0 * star (symbol0 * symbol0)
def evenZeros : RegularExpression Char := symbol0 * symbol0 * star (symbol0 * symbol0)

/-- From one run of zeros that is counted in pairs to the next. -/
def pairsToPairs : RegularExpression Char := oddZeros * fewOnes

/-- From zeros that are counted in pairs to zeros that are counted singly. -/
def pairsToSingles : RegularExpression Char :=
  evenZeros * (symbol1 * star symbol1) + oddZeros * manyOnes

def singlesToSingles : RegularExpression Char :=
  fewZeros * manyOnes + manyZeros * (symbol1 + manyOnes)

def singlesToPairs : RegularExpression Char :=
  fewZeros * fewOnes + manyZeros * (symbol1 * symbol1)

/-- From zeros that are counted singly, at last, to zeros that are counted in pairs. -/
def detour : RegularExpression Char := star singlesToSingles * singlesToPairs

/-- Zeros that are counted in pairs, and so on up to a run that is misread: an even number of
zeros and one or two ones, or three zeros and more. -/
def misreadZeros : RegularExpression Char :=
  star (pairsToPairs + pairsToSingles * detour) * (evenZeros * fewOnes + manyZeros)

/-- What stands between the first four symbols and the last two where the table errs. -/
def misreadMiddle : RegularExpression Char :=
  (1 + fewOnes + manyOnes * detour) * misreadZeros

end Expressions

abbrev letter0 : Language Char := letter '0'
abbrev letter1 : Language Char := letter '1'

def pairs : Language Char := misreadZeros.matches'
def singles : Language Char := detour.matches' * pairs

def afterArmed : Language Char := letter1∗ * singles
def afterOnes : Language Char := pairs + letter1 * afterArmed
def afterOne : Language Char := pairs + letter1 * afterOnes
def afterFalseTwo : Language Char := 1 + singles + letter1 * afterArmed
def afterFalseOne : Language Char := 1 + singles + letter1 * afterFalseTwo
def afterBack : Language Char := singles + letter1 * afterOnes
def afterTripleZero : Language Char := letter0∗ * (letter1 * afterBack)
def afterZeros : Language Char := letter0 * afterTripleZero + letter1 * afterOne
def afterZero : Language Char := letter0 * afterZeros + letter1 * afterOne

def misreadWords : Phase → Language Char
  | .fresh => pairs + letter1 * afterOne
  | .one => afterOne
  | .ones => afterOnes
  | .odd =>
    (letter0 * letter0)∗ * (letter1 * afterOne) +
      letter0 * ((letter0 * letter0)∗ * (letter1 * afterFalseOne)) + letter0 * (letter0 * letter0∗)
  | .even =>
    letter0 * ((letter0 * letter0)∗ * (letter1 * afterOne)) +
      (letter0 * letter0)∗ * (letter1 * afterFalseOne) + letter0 * letter0∗
  | .oddLong =>
    (letter0 * letter0)∗ * (letter1 * afterOne) +
      letter0 * ((letter0 * letter0)∗ * (letter1 * afterFalseOne)) + letter0∗
  | .evenLong =>
    letter0 * ((letter0 * letter0)∗ * (letter1 * afterOne)) +
      (letter0 * letter0)∗ * (letter1 * afterFalseOne) + letter0∗
  | .falseOne => afterFalseOne
  | .falseTwo => afterFalseTwo
  | .armed => afterArmed
  | .zero => afterZero
  | .zeros => afterZeros
  | .tripleZero => afterTripleZero
  | .back => afterBack

theorem pairs_unfold :
    pairs = (evenZeros * fewOnes + manyZeros).matches' +
      (pairsToPairs.matches' * pairs + pairsToSingles.matches' * singles) := by
  have unfolded := kstar_mul_eq (pairsToPairs + pairsToSingles * detour).matches'
    (evenZeros * fewOnes + manyZeros).matches'
  change pairs = _ + _ * pairs at unfolded
  rw [matches'_add pairsToPairs, add_mul, matches'_mul pairsToSingles, mul_assoc] at unfolded
  exact unfolded

theorem singles_unfold :
    singles = singlesToPairs.matches' * pairs + singlesToSingles.matches' * singles := by
  rw [singles, detour, matches'_mul, matches'_star, mul_assoc]
  exact kstar_mul_eq _ _

theorem afterArmed_eq : afterArmed = singles + letter1 * afterArmed := kstar_mul_eq letter1 singles

theorem one_afterOne :
    letter1 * afterOne = fewOnes.matches' * pairs + manyOnes.matches' * singles := by
  simp only [afterOne, afterOnes, afterArmed, fewOnes, manyOnes, symbol1, matches'_mul,
    matches'_add, matches'_star, matches'_char, mul_add, add_mul, mul_assoc, add_assoc]

theorem one_afterFalseOne :
    letter1 * afterFalseOne = fewOnes.matches' + letter1 * (letter1∗ * singles) := by
  have two : letter1∗ * singles = singles + letter1 * (singles + letter1 * afterArmed) := by
    rw [← afterArmed_eq, ← afterArmed_eq]
    rfl
  rw [two]
  simp only [afterFalseOne, afterFalseTwo, fewOnes, symbol1, matches'_mul, matches'_add,
    matches'_char, mul_add, mul_one, add_assoc, add_left_comm]

theorem one_afterBack :
    letter1 * afterBack =
      letter1 * singles + (symbol1 * symbol1).matches' * pairs + manyOnes.matches' * singles := by
  simp only [afterBack, afterOnes, afterArmed, manyOnes, symbol1, matches'_mul, matches'_star,
    matches'_char, mul_add, mul_assoc, add_assoc]

/-- Zeros counted in pairs begin with a zero. -/
theorem pairs_eq : pairs = letter0 * misreadWords .odd := by
  conv_lhs => rw [pairs_unfold]
  rw [misreadWords, one_afterOne, one_afterFalseOne]
  simp only [pairsToPairs, pairsToSingles, oddZeros, evenZeros, manyZeros, symbol1, symbol0,
    matches'_mul, matches'_add, matches'_star, matches'_char, mul_add, add_mul, mul_assoc]
  abel

theorem singles_eq : singles = letter0 * misreadWords .zero := by
  conv_lhs => rw [singles_unfold]
  rw [misreadWords, afterZero, afterZeros, afterTripleZero, one_afterBack, one_afterOne]
  simp only [singlesToPairs, singlesToSingles, fewZeros, manyZeros, symbol0, symbol1,
    matches'_mul, matches'_add, matches'_star, matches'_char, mul_add, add_mul, mul_assoc]
  abel

theorem misreadWords_step (p : Phase) (right : ¬ p.Misread) :
    misreadWords p = letter0 * misreadWords p.onZero + letter1 * misreadWords p.onOne := by
  cases p with
  | fresh | one | ones =>
    rw [Phase.onZero, ← pairs_eq]
    rfl
  | odd =>
    simp only [misreadWords, Phase.onZero, Phase.onOne]
    conv_lhs => rw [kstar_mul_eq (letter0 * letter0) (letter1 * afterOne)]
    simp only [mul_add, mul_assoc]
    abel
  | even =>
    simp only [misreadWords, Phase.onZero, Phase.onOne]
    conv_lhs => rw [kstar_mul_eq (letter0 * letter0) (letter1 * afterFalseOne)]
    simp only [mul_add, mul_assoc]
    abel
  | armed =>
    rw [Phase.onZero, ← singles_eq]
    exact afterArmed_eq
  | back => rw [Phase.onZero, ← singles_eq]; rfl
  | zero | zeros => rfl
  | tripleZero =>
    rw [add_comm]
    exact kstar_mul_eq letter0 (letter1 * afterBack)
  | oddLong | evenLong | falseOne | falseTwo => simp [Phase.Misread] at right

theorem misreadWords_step_of_misread (p : Phase) (wrong : p.Misread) :
    misreadWords p = 1 + (letter0 * misreadWords p.onZero + letter1 * misreadWords p.onOne) := by
  have zeros : letter0∗ = 1 + letter0 * letter0∗ :=
    (Language.one_add_self_mul_kstar_eq_kstar letter0).symm
  rcases wrong with rfl | rfl | rfl | rfl
  · simp only [misreadWords, Phase.onZero, Phase.onOne]
    conv_lhs => rw [kstar_mul_eq (letter0 * letter0) (letter1 * afterOne), zeros]
    simp only [mul_add, mul_assoc]
    abel
  · simp only [misreadWords, Phase.onZero, Phase.onOne]
    conv_lhs => rw [kstar_mul_eq (letter0 * letter0) (letter1 * afterFalseOne), zeros]
    simp only [mul_add, mul_assoc]
    abel
  · rw [Phase.onZero, ← singles_eq, ← add_assoc]
    rfl
  · rw [Phase.onZero, ← singles_eq, ← add_assoc]
    rfl

/-- The words that end in three equal symbols. -/
def tripled : Language Char := (letter0 + letter1)∗ * triple.matches'

theorem tripled_eq :
    tripled = letter1 * (letter1 * letter1) + letter0 * (letter0 * letter0) +
      (letter0 * tripled + letter1 * tripled) := by
  conv_lhs => rw [tripled, kstar_mul_eq, add_mul]
  rw [← mul_assoc letter1 letter1 letter1, ← mul_assoc letter0 letter0 letter0]
  rfl

/-- What completes three equal symbols, by the length of the run that was read last. -/
def tripledWords : Phase → Language Char
  | .fresh => tripled
  | .one | .falseOne | .back => tripled + letter1 * letter1
  | .ones | .falseTwo => tripled + letter1 * letter1 + letter1
  | .armed => tripled + letter1 * letter1 + letter1 + 1
  | .odd | .zero => tripled + letter0 * letter0
  | .even | .zeros => tripled + letter0 * letter0 + letter0
  | .oddLong | .evenLong | .tripleZero => tripled + letter0 * letter0 + letter0 + 1

theorem tripledWords_step (p : Phase) (isNot : ¬ p.Tripled) :
    tripledWords p = letter0 * tripledWords p.onZero + letter1 * tripledWords p.onOne := by
  cases p with
  | oddLong | evenLong | armed | tripleZero => simp [Phase.Tripled] at isNot
  | _ =>
    simp only [tripledWords, Phase.onZero, Phase.onOne]
    conv_lhs => rw [tripled_eq]
    simp only [mul_add, mul_one]
    abel

theorem tripledWords_step_of_tripled (p : Phase) (is : p.Tripled) :
    tripledWords p = 1 + (letter0 * tripledWords p.onZero + letter1 * tripledWords p.onOne) := by
  rcases is with rfl | rfl | rfl | rfl
  all_goals
    simp only [tripledWords, Phase.onZero, Phase.onOne]
    conv_lhs => rw [tripled_eq]
    simp only [mul_add, mul_one]
    abel

theorem tripled_eq_wordsFrom : tripled = wordsFrom Phase.next Phase.Tripled .fresh :=
  eq_wordsFrom (by decide) Phase.next_forks tripledWords tripledWords_step_of_tripled
    tripledWords_step .fresh

theorem misreadMiddle_eq :
    misreadMiddle.matches' = wordsFrom Phase.next Phase.Misread .fresh := by
  have solved := eq_wordsFrom (by decide) Phase.next_forks misreadWords
    misreadWords_step_of_misread misreadWords_step .fresh
  rw [← solved, misreadWords, one_afterOne]
  simp only [misreadMiddle, matches'_mul, matches'_add, matches'_epsilon, add_mul, one_mul,
    mul_assoc, pairs, singles]
  abel

/-- The words behind which the table has found three equal symbols. -/
def found : Language Char := wordsFrom Phase.next Phase.Found .fresh

theorem mem_misreadMiddle_iff (w : List Char) :
    w ∈ misreadMiddle.matches' ↔ ¬ (w ∈ found ↔ w ∈ tripled) := by
  rw [misreadMiddle_eq, tripled_eq_wordsFrom, found]
  change (∃ p, w.foldlM Phase.next .fresh = some p ∧ p.Misread) ↔
    ¬ ((∃ p, w.foldlM Phase.next .fresh = some p ∧ p.Found) ↔
      ∃ p, w.foldlM Phase.next .fresh = some p ∧ p.Tripled)
  cases w.foldlM Phase.next .fresh with
  | none => simp
  | some p => simpa using p.misread_iff

end Acceptor.Catalog.Stars
