import Acceptor.Json.Reader

/-! Numerals and texts are read back as they were written, and what stands behind them is left
over. A numeral has no mark at its end: it must not be followed by anything that could be more
of it. -/
namespace Acceptor

namespace Numeral

/-- What is left over cannot be read as more of a numeral. -/
def Closes (rest : List Char) : Prop :=
  ∀ c ∈ rest.head?, c.isDigit = false ∧ c ≠ '.' ∧ c ≠ 'e' ∧ c ≠ 'E'

theorem closes_cons {c : Char} {rest : List Char} :
    Closes (c :: rest) ↔ c.isDigit = false ∧ c ≠ '.' ∧ c ≠ 'e' ∧ c ≠ 'E' := by
  simp [Closes]

theorem splitDigits_append {ds rest : List Char} (digits : ∀ d ∈ ds, d.isDigit = true)
    (stop : ∀ c ∈ rest.head?, c.isDigit = false) : splitDigits (ds ++ rest) = (ds, rest) := by
  have none : rest.takeWhile Char.isDigit = [] ∧ rest.dropWhile Char.isDigit = rest := by
    cases rest with
    | nil => exact ⟨rfl, rfl⟩
    | cons c rest => simp [stop c rfl]
  rw [splitDigits, List.takeWhile_append_of_pos digits, List.dropWhile_append_of_pos digits,
    none.1, none.2, List.append_nil]

theorem isDigit_of_mem_toDigits {n : Nat} {d : Char} (h : d ∈ Nat.toDigits 10 n) :
    d.isDigit = true :=
  Nat.isDigit_of_mem_toDigits (by decide) (by decide) h

theorem ofDigits_eq (ds : List Char) : ofDigits ds = Nat.ofDigitChars 10 ds 0 := rfl

/-- Only zero begins with the digit zero. -/
theorem head_toDigits_ne_zero {n : Nat} (pos : 0 < n) : (Nat.toDigits 10 n).head? ≠ some '0' := by
  induction n using Nat.strongRecOn with
  | ind n ih =>
    by_cases single : n < 10
    · rw [Nat.toDigits_of_lt_base single]
      intro zero
      have same : n.digitChar = '0' := by simpa using zero
      have value := Nat.toNat_digitChar_sub_48_of_lt_ten single
      rw [same] at value
      simp at value
      omega
    · rw [Nat.toDigits_of_base_le (by decide) (by omega), List.head?_append]
      have := ih (n / 10) (by omega) (by omega)
      cases digits : Nat.toDigits 10 (n / 10) with
      | nil => simp at digits
      | cons d ds => simpa [digits] using this

theorem readWhole_toDigits (n : Nat) {rest : List Char}
    (stop : ∀ c ∈ rest.head?, c.isDigit = false) :
    readWhole (Nat.toDigits 10 n ++ rest) = some (Nat.toDigits 10 n, rest) := by
  rw [readWhole, splitDigits_append (fun d => isDigit_of_mem_toDigits) stop]
  split
  case h_1 none => simp at none
  case h_2 zero =>
    have digits := congrArg Prod.fst zero
    dsimp only at digits
    rcases Nat.eq_zero_or_pos n with rfl | pos
    · simp at digits
    · exact absurd (by rw [digits]; rfl) (head_toDigits_ne_zero pos)
  case h_3 => rfl

theorem readFraction_of_ne {rest : List Char} (stop : ∀ c ∈ rest.head?, c ≠ '.') :
    readFraction rest = some ([], rest) := by
  unfold readFraction
  split
  next => exact absurd rfl (stop '.' rfl)
  next => rfl

theorem readFraction_digits {ds rest : List Char} (some : ds ≠ [])
    (digits : ∀ d ∈ ds, d.isDigit = true) (stop : ∀ c ∈ rest.head?, c.isDigit = false) :
    readFraction ('.' :: (ds ++ rest)) = .some (ds, rest) := by
  rw [readFraction, splitDigits_append digits stop]
  split
  next none => exact absurd (congrArg Prod.fst none) some
  next => rfl

theorem readExponent_of_ne {rest : List Char} (stop : ∀ c ∈ rest.head?, c ≠ 'e' ∧ c ≠ 'E') :
    readExponent rest = some (none, rest) := by
  cases rest with
  | nil => rfl
  | cons c rest => simp [readExponent, stop c rfl]

/-- A sign is read only where one stands. -/
theorem readSign_digits {ds rest : List Char} (some : ds ≠ [])
    (digits : ∀ d ∈ ds, d.isDigit = true) : readSign (ds ++ rest) = (false, ds ++ rest) := by
  obtain ⟨d, ds, rfl⟩ := List.exists_cons_of_ne_nil some
  have digit := digits d List.mem_cons_self
  have minus : d ≠ '-' := by rintro rfl; simp at digit
  have plus : d ≠ '+' := by rintro rfl; simp at digit
  simp [readSign, minus, plus]

def exponentText : Option Int → List Char
  | none => []
  | some e => 'e' :: ((if e < 0 then ['-'] else []) ++ Nat.toDigits 10 e.natAbs)

theorem readExponent_some (e : Int) {rest : List Char}
    (stop : ∀ c ∈ rest.head?, c.isDigit = false) :
    readExponent (exponentText (some e) ++ rest) = some (some e, rest) := by
  have digits : ∀ d ∈ Nat.toDigits 10 e.natAbs, d.isDigit = true :=
    fun d => isDigit_of_mem_toDigits
  have sign : readSign (((if e < 0 then ['-'] else []) ++ Nat.toDigits 10 e.natAbs) ++ rest) =
      (decide (e < 0), Nat.toDigits 10 e.natAbs ++ rest) := by
    by_cases negative : e < 0
    · simp [negative, readSign]
    · simp [negative, readSign_digits Nat.toDigits_ne_nil digits]
  have value : (ofDigits (Nat.toDigits 10 e.natAbs) : Int) = e.natAbs := by
    rw [ofDigits_eq, Nat.ofDigitChars_ten_toDigits]
  rw [exponentText, List.cons_append, readExponent, if_pos (.inl rfl), sign,
    splitDigits_append digits stop]
  split
  next none => exact absurd (congrArg Prod.fst none) Nat.toDigits_ne_nil
  next parts =>
    cases parts
    have signed : (if e < 0 then -(e.natAbs : Int) else e.natAbs) = e := by split <;> omega
    simp only [value, decide_eq_true_eq, signed]

theorem readExponent_append (e : Option Int) {rest : List Char} (closes : Closes rest) :
    readExponent (exponentText e ++ rest) = some (e, rest) := by
  cases e with
  | none => exact readExponent_of_ne fun c h => (closes c h).2.2
  | some e => exact readExponent_some e fun c h => (closes c h).1

/-- An exponent part ends digits and allows for no point. -/
theorem head_exponentText (e : Option Int) {rest : List Char} (closes : Closes rest) :
    ∀ c ∈ (exponentText e ++ rest).head?, c.isDigit = false ∧ c ≠ '.' := by
  intro c h
  cases e with
  | none => exact ⟨(closes c h).1, (closes c h).2.1⟩
  | some e =>
    obtain rfl : 'e' = c := by simpa [exponentText] using h
    decide

/-- The digits behind the point, without the point. -/
def fraction (n : Numeral) : List Char := if n.places = 0 then [] else n.fractionDigits

theorem isDigit_of_mem_fractionDigits (n : Numeral) {d : Char} (h : d ∈ n.fractionDigits) :
    d.isDigit = true := by
  rcases List.mem_append.1 h with zero | digit
  · rw [List.eq_of_mem_replicate zero]
    decide
  · exact isDigit_of_mem_toDigits digit

theorem length_fraction (n : Numeral) : n.fraction.length = n.places := by
  unfold fraction
  split
  next none => exact none.symm
  next some =>
    have small : n.mantissa % 10 ^ n.places < 10 ^ n.places :=
      Nat.mod_lt _ (Nat.pow_pos (by decide))
    have fits := (Nat.length_toDigits_le_iff (by decide) (Nat.pos_of_ne_zero some)).2 small
    simp only [fractionDigits, Nat.pow_eq, List.length_append, List.length_replicate]
    omega

theorem ofDigits_whole_fraction (n : Numeral) :
    ofDigits (Nat.toDigits 10 (n.mantissa / Nat.pow 10 n.places) ++ n.fraction) = n.mantissa := by
  have rest : Nat.ofDigitChars 10 n.fraction 0 = n.mantissa % 10 ^ n.places := by
    unfold fraction
    split
    next none => simp [none, Nat.mod_one]
    next => simp [fractionDigits, Nat.ofDigitChars_append]
  rw [ofDigits_eq, Nat.ofDigitChars_append, Nat.ofDigitChars_ten_toDigits,
    Nat.ofDigitChars_eq_ofDigitChars_zero, rest, length_fraction]
  exact Nat.div_add_mod ..

def pointText (n : Numeral) : List Char := if n.places = 0 then [] else '.' :: n.fractionDigits

theorem readFraction_append (n : Numeral) {rest : List Char}
    (stop : ∀ c ∈ rest.head?, c.isDigit = false ∧ c ≠ '.') :
    readFraction (n.pointText ++ rest) = some (n.fraction, rest) := by
  unfold pointText fraction
  split
  next => exact readFraction_of_ne fun c h => (stop c h).2
  next some =>
    have filled : n.fractionDigits ≠ [] := by simp [fractionDigits]
    exact readFraction_digits filled (fun d => n.isDigit_of_mem_fractionDigits)
      fun c h => (stop c h).1

theorem head_pointText (n : Numeral) {rest : List Char}
    (stop : ∀ c ∈ rest.head?, c.isDigit = false) :
    ∀ c ∈ (n.pointText ++ rest).head?, c.isDigit = false := by
  intro c h
  unfold pointText at h
  split at h
  · exact stop c h
  · obtain rfl : '.' = c := by simpa using h
    decide

/-- A numeral without its sign. -/
def unsignedText (n : Numeral) : List Char :=
  Nat.toDigits 10 (n.mantissa / Nat.pow 10 n.places) ++ (n.pointText ++ exponentText n.exponent?)

theorem write_eq (n : Numeral) :
    n.write = (if n.negative then ['-'] else []) ++ n.unsignedText := by
  unfold write unsignedText pointText exponentText
  cases n.exponent? <;> simp

theorem readUnsigned_append (n : Numeral) {rest : List Char} (closes : Closes rest) :
    readUnsigned n.negative (n.unsignedText ++ rest) = some (n, rest) := by
  have behind := head_exponentText n.exponent? closes
  have whole := readWhole_toDigits (n.mantissa / Nat.pow 10 n.places)
    (n.head_pointText fun c h => (behind c h).1)
  rw [unsignedText, readUnsigned, List.append_assoc, List.append_assoc, whole]
  simp only [n.readFraction_append behind, readExponent_append n.exponent? closes,
    n.ofDigits_whole_fraction, n.length_fraction]

theorem exists_unsignedText_eq_cons (n : Numeral) :
    ∃ d rest, n.unsignedText = d :: rest ∧ d.isDigit = true := by
  obtain ⟨d, ds, digits⟩ := List.exists_cons_of_ne_nil
    (Nat.toDigits_ne_nil (b := 10) (n := n.mantissa / Nat.pow 10 n.places))
  exact ⟨d, ds ++ _, by rw [unsignedText, digits]; rfl,
    isDigit_of_mem_toDigits (digits ▸ List.mem_cons_self)⟩

/-- A numeral is told from every other value by how it begins. -/
theorem exists_write_eq_cons (n : Numeral) :
    ∃ c rest, n.write = c :: rest ∧ (c = '-' ∨ c.isDigit = true) := by
  obtain ⟨d, rest, shown, digit⟩ := n.exists_unsignedText_eq_cons
  rw [write_eq, shown]
  cases n.negative with
  | true => exact ⟨'-', d :: rest, rfl, .inl rfl⟩
  | false => exact ⟨d, rest, rfl, .inr digit⟩

theorem read_write (n : Numeral) {rest : List Char} (closes : Closes rest) :
    read (n.write ++ rest) = some (n, rest) := by
  have unsigned := n.readUnsigned_append closes
  obtain ⟨d, more, shown, digit⟩ := n.exists_unsignedText_eq_cons
  have minus : d ≠ '-' := by rintro rfl; simp at digit
  rw [write_eq]
  cases negative : n.negative with
  | true => simpa [negative, read] using unsigned
  | false => simpa [negative, read, shown, minus] using unsigned

end Numeral

namespace Glyph

/-- A character stands for itself unless it is a control or has a part in the spelling of texts;
an escape has to be a known one. -/
def Legible : Glyph → Prop
  | plain c => 0x20 ≤ c.toNat ∧ c ≠ '"' ∧ c ≠ '\\'
  | short l => (meaning? l).isSome
  | unit _ => True

theorem legible_ofChar (c : Char) : (ofChar c).Legible := by
  unfold ofChar
  repeat' split
  case isFalse quote backslash _ _ _ _ _ control =>
    exact ⟨Nat.le_of_not_lt control, quote, backslash⟩
  all_goals simp [Legible, meaning?, shortEscapes]

theorem ofChar_eq_plain {c : Char} (legible : (plain c).Legible) :
    ofChar c = .plain c := by
  obtain ⟨control, quote, backslash⟩ := legible
  have apart : ∀ d : Char, d.toNat < 0x20 → c ≠ d := by
    rintro d small rfl
    omega
  simp [ofChar, quote, backslash, apart, Nat.not_lt.2 control]

theorem legible_of_isDigit {d : Char} (digit : d.isDigit = true) : (plain d).Legible := by
  refine ⟨?_, ?_, ?_⟩
  · simp only [Char.isDigit, Bool.and_eq_true, decide_eq_true_eq] at digit
    have : 48 ≤ d.toNat := digit.1
    omega
  all_goals rintro rfl; simp at digit

theorem hexValue?_hexDigit : ∀ n < 16, hexValue? (hexDigit n) = some n := by decide

theorem readText_unit (u : UInt16) (s : List Char) :
    readText ((unit u).write ++ s) = (readText s).map fun p => (unit u :: p.1, p.2) := by
  have small := u.toNat_lt
  have value : (((u.toNat / 0x1000) * 16 + u.toNat / 0x100 % 0x10) * 16 +
      u.toNat / 0x10 % 0x10) * 16 + u.toNat % 0x10 = u.toNat := by omega
  have units : unit? (hexDigit (u.toNat / 0x1000)) (hexDigit (u.toNat / 0x100 % 0x10))
      (hexDigit (u.toNat / 0x10 % 0x10)) (hexDigit (u.toNat % 0x10)) = some u := by
    simp (disch := omega) only [unit?, hexValue?_hexDigit, value, UInt16.ofNat_toNat]
  simp only [write, hexDigits, List.cons_append, List.nil_append, readText, units]
  cases readText s <;> rfl

theorem readText_write {g : Glyph} (legible : g.Legible) (s : List Char) :
    readText (g.write ++ s) = (readText s).map fun p => (g :: p.1, p.2) := by
  cases g with
  | plain c =>
    obtain ⟨control, quote, backslash⟩ := legible
    have raw : ¬ (c.toNat < 0x20 ∨ c = '\\') := by simp [backslash]; omega
    rw [write, List.singleton_append, readText.eq_5, if_neg raw]
    · cases readText s <;> rfl
    all_goals simp [quote, backslash]
  | short l =>
    have escape : l ≠ 'u' := by rintro rfl; simp [Legible, meaning?, shortEscapes] at legible
    obtain ⟨c, known⟩ := Option.isSome_iff_exists.1 legible
    rw [write, List.cons_append, List.singleton_append, readText.eq_4, known]
    · cases readText s <;> rfl
    · simp [escape]
  | unit u => exact readText_unit u s

theorem readText_flatMap {t : List Glyph} (legible : ∀ g ∈ t, g.Legible) (rest : List Char) :
    readText (t.flatMap write ++ '"' :: rest) = some (t, rest) := by
  induction t with
  | nil => rfl
  | cons g t ih =>
    have head := legible g List.mem_cons_self
    have tail := ih fun h mem => legible h (List.mem_cons_of_mem g mem)
    rw [List.flatMap_cons, List.append_assoc, readText_write head, tail]
    rfl

end Glyph
end Acceptor
