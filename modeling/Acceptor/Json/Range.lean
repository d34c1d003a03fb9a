import Acceptor.Json.Writer

/-! Which numbers are below infinity in double precision. Only the leading digits that 64 bits
hold are weighed; they are rounded before they are multiplied by a rounded power of ten, so a
number close to the bound may be refused although it is below it. -/
namespace Acceptor.Numeral

/-- The nearest number of at most 53 binary digits; of two, the one with an even last digit. -/
def roundDouble (n : Nat) : Nat :=
  let unit := 1 <<< (n.log2 - 52)
  let quotient := n / unit
  let rest := n % unit
  if 2 * rest < unit ∨ (2 * rest = unit ∧ quotient % 2 = 0) then quotient * unit
  else (quotient + 1) * unit

theorem roundDouble_of_lt (n : Nat) (h : n < 1 <<< 53) : roundDouble n = n := by
  have shift : n.log2 - 52 = 0 := by
    by_cases zero : n = 0
    · simp [zero]
    · have := (Nat.log2_lt zero).2 (Nat.one_shiftLeft 53 ▸ h)
      omega
  simp [roundDouble, shift, Nat.mod_one]

theorem roundDouble_le (n : Nat) : roundDouble n ≤ 2 * n + 1 := by
  have unit : 1 <<< (n.log2 - 52) ≤ n + 1 := by
    rw [Nat.one_shiftLeft]
    by_cases zero : n = 0
    · simp [zero]
    · have := Nat.log2_self_le zero
      have := Nat.pow_le_pow_right (n := 2) (by decide) (Nat.sub_le n.log2 52)
      omega
  have := Nat.div_mul_le_self n (1 <<< (n.log2 - 52))
  simp only [roundDouble, Nat.add_mul]
  split <;> omega

/-- Least magnitude that rounds to infinity. -/
def doubleBound : Nat := 1 <<< 1024 - 1 <<< 970

/-- The leading digits of a number as a natural number, and the power of ten that goes with
them. -/
structure Leading where
  value : Nat
  power : Int

namespace Leading

def next (l : Leading) (digit : Char) : Nat := 10 * l.value + (digit.toNat - '0'.toNat)

/-- From the first digit that does not fit, digits before the point only add to the power. -/
def takeWhole (l : Leading) : List Char → Leading
  | [] => l
  | d :: rest =>
    if l.next d < UInt64.size then takeWhole ⟨l.next d, l.power⟩ rest
    else ⟨l.value, l.power + (rest.length + 1)⟩

/-- From the first digit that does not fit, digits behind the point are dropped. -/
def takeFraction (l : Leading) : List Char → Leading
  | [] => l
  | d :: rest =>
    if l.next d < UInt64.size then takeFraction ⟨l.next d, l.power - 1⟩ rest else l

theorem takeWhole_of_lt (l : Leading) (ds : List Char)
    (h : Nat.ofDigitChars 10 ds l.value < UInt64.size) :
    l.takeWhole ds = ⟨Nat.ofDigitChars 10 ds l.value, l.power⟩ := by
  have grows : ∀ (ds : List Char) (n : Nat), n ≤ Nat.ofDigitChars 10 ds n := by
    intro ds
    induction ds with
    | nil => simp
    | cons d rest ih =>
      intro n
      have := ih (10 * n + (d.toNat - '0'.toNat))
      simp only [Nat.ofDigitChars_cons]
      omega
  induction ds generalizing l with
  | nil => simp [takeWhole]
  | cons d rest ih =>
    simp only [Nat.ofDigitChars_cons] at h ⊢
    have fits : l.next d < UInt64.size := Nat.lt_of_le_of_lt (grows rest _) h
    simp only [takeWhole, if_pos fits]
    exact ih ⟨l.next d, l.power⟩ h

def fitsDouble (l : Leading) : Bool :=
  if l.value = 0 ∨ l.power < 0 then true
  else if 308 < l.power then false
  else roundDouble l.value * roundDouble (Nat.pow 10 l.power.toNat) < doubleBound

end Leading

def leading (n : Numeral) : Leading :=
  let whole := Leading.takeWhole ⟨0, 0⟩ (Nat.toDigits 10 (n.mantissa / Nat.pow 10 n.places))
  let digits := if n.places = 0 then whole else whole.takeFraction n.fractionDigits
  ⟨digits.value, digits.power + n.exponent?.getD 0⟩

def fitsDouble (n : Numeral) : Bool := n.leading.fitsDouble

theorem leading_ofNat (n : Nat) (h : n < UInt64.size) : (ofNat n).leading = ⟨n, 0⟩ := by
  have digits : Nat.ofDigitChars 10 (Nat.toDigits 10 n) 0 = n :=
    Nat.ofDigitChars_toDigits (by decide) (by decide)
  have whole := Leading.takeWhole_of_lt ⟨0, 0⟩ (Nat.toDigits 10 n) (by rwa [digits])
  simp [leading, ofNat, whole, digits]

theorem fitsDouble_ofNat (n : Nat) (h : n < UInt64.size) : (ofNat n).fitsDouble = true := by
  have rounded := roundDouble_le n
  have bound : 1 <<< 66 < doubleBound := by decide +kernel
  have one : roundDouble 1 = 1 := roundDouble_of_lt 1 (by decide)
  rw [fitsDouble, leading_ofNat n h]
  simp [Leading.fitsDouble, one]
  unfold UInt64.size at h
  omega

end Acceptor.Numeral
