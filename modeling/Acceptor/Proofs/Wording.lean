import Acceptor.Text.Quoted
import Mathlib.Data.List.Basic

/-! Reading a text that was put together from fixed words, numbers, characters and quoted texts. A
character ends by itself and a quoted text at its closing quote; a number ends where no more
digits follow. So two such texts are alike only if they have the same parts, or if a word of the
one stands where the other has something else (`eq_of_text_eq`). -/
namespace Acceptor

/-- Two lists of characters of one sort, each up to the first character of another sort. -/
theorem append_inj_of_stop {p : Char → Bool} {l m u v : List Char} (hl : ∀ c ∈ l, p c = true)
    (hm : ∀ c ∈ m, p c = true) (hu : ∀ c ∈ u.head?, p c = false) (hv : ∀ c ∈ v.head?, p c = false)
    (same : l ++ u = m ++ v) : l = m ∧ u = v := by
  have stop {w : List Char} (hw : ∀ c ∈ w.head?, p c = false) : w.takeWhile p = [] := by
    cases w with
    | nil => rfl
    | cons c w => exact List.takeWhile_cons_of_neg (by simp [hw c rfl])
  have first := congrArg (List.takeWhile p) same
  rw [List.takeWhile_append_of_pos hl, List.takeWhile_append_of_pos hm, stop hu, stop hv,
    List.append_nil, List.append_nil] at first
  subst first
  exact ⟨rfl, List.append_cancel_left same⟩

theorem digitChar_inj {n m : Nat} (hn : n < 16) (hm : m < 16)
    (same : n.digitChar = m.digitChar) : n = m := by
  have table : ∀ i j : Fin 16, i.val.digitChar = j.val.digitChar → i = j := by decide
  exact congrArg Fin.val (table ⟨n, hn⟩ ⟨m, hm⟩ same)

/-- The last digit is the remainder, the others are those of the quotient. -/
theorem toDigits_eq_append {b : Nat} (base : 1 < b) (n : Nat) : Nat.toDigits b n =
    (if n < b then [] else Nat.toDigits b (n / b)) ++ [(n % b).digitChar] := by
  rw [Nat.toDigits_eq_if base]
  split
  next single => rw [Nat.mod_eq_of_lt single, List.nil_append]
  next => rfl

theorem exists_digitChar_of_mem {b : Nat} (base : 1 < b) {n : Nat} {c : Char}
    (member : c ∈ Nat.toDigits b n) : ∃ k < b, c = k.digitChar := by
  induction n using Nat.strongRecOn with
  | ind n ih =>
    rw [toDigits_eq_append base, List.mem_append, List.mem_singleton] at member
    rcases member with front | rfl
    · by_cases single : n < b
      · simp [single] at front
      · rw [if_neg single] at front
        exact ih (n / b) (Nat.div_lt_self (by omega) base) front
    · exact ⟨n % b, Nat.mod_lt n (by omega), rfl⟩

/-- A number is known by its digits. -/
theorem toDigits_inj {b : Nat} (base : 1 < b) (small : b ≤ 16) {n m : Nat}
    (same : Nat.toDigits b n = Nat.toDigits b m) : n = m := by
  have below (k : Nat) : k % b < 16 := by
    have := Nat.mod_lt k (y := b) (by omega)
    omega
  induction n using Nat.strongRecOn generalizing m with
  | ind n ih =>
    rw [toDigits_eq_append base n, toDigits_eq_append base m] at same
    obtain ⟨front, last⟩ := List.append_inj' same rfl
    have remainder : n % b = m % b := digitChar_inj (below n) (below m) (List.cons.inj last).1
    have quotient : n / b = m / b := by
      by_cases hn : n < b <;> by_cases hm : m < b <;> simp only [hn, hm, if_true, if_false] at front
      · rw [Nat.div_eq_of_lt hn, Nat.div_eq_of_lt hm]
      · exact absurd front.symm Nat.toDigits_ne_nil
      · exact absurd front Nat.toDigits_ne_nil
      · exact ih (n / b) (Nat.div_lt_self (by omega) base) front
    rw [← Nat.div_add_mod n b, ← Nat.div_add_mod m b, quotient, remainder]

namespace Text

/-- What a backslash makes of the letter behind it. -/
def unescape (b : Char) : Char :=
  if b = '0' then '\x00' else if b = 't' then '\t' else if b = 'n' then '\n'
  else if b = 'r' then '\r' else b

/-- How a character may stand in a quoted text: raw, behind a backslash, or by its code point. -/
inductive StandsAs : Char → List Char → Prop
  | raw {c : Char} (noQuote : c ≠ '"') (noBackslash : c ≠ '\\') : StandsAs c [c]
  | escaped {b : Char} (short : b ≠ 'u') : StandsAs (unescape b) ['\\', b]
  | coded {c : Char} : StandsAs c (codePointEscape c)

theorem standsAs_quotedChar (c : Char) : StandsAs c (quotedChar c) := by
  unfold quotedChar
  split
  next same =>
    subst same
    exact .escaped (b := '"') (by decide)
  next noQuote =>
  split
  next same =>
    subst same
    exact .escaped (b := '\\') (by decide)
  next noBackslash =>
  split
  next same =>
    subst same
    exact .escaped (b := '0') (by decide)
  split
  next same =>
    subst same
    exact .escaped (b := 't') (by decide)
  split
  next same =>
    subst same
    exact .escaped (b := 'n') (by decide)
  split
  next same =>
    subst same
    exact .escaped (b := 'r') (by decide)
  split
  · exact .coded
  · exact .raw noQuote noBackslash

theorem codePointEscape_append_inj {c d : Char} {u v : List Char}
    (same : codePointEscape c ++ u = codePointEscape d ++ v) : c = d ∧ u = v := by
  have inside (n : Nat) : ∀ a ∈ Nat.toDigits 16 n, (a != '\x7d') = true := by
    intro a member
    obtain ⟨k, digit, rfl⟩ := exists_digitChar_of_mem (by decide) member
    have table : ∀ i : Fin 16, (i.val.digitChar != '\x7d') = true := by decide
    exact table ⟨k, digit⟩
  simp only [codePointEscape, List.cons_append, List.append_assoc, List.cons.injEq, true_and,
    List.nil_append] at same
  obtain ⟨digits, rest⟩ := append_inj_of_stop (inside _) (inside _) (by simp) (by simp) same
  have code := toDigits_inj (by decide) (by decide) digits
  exact ⟨Char.toNat_inj.1 code, (List.cons.inj rest).2⟩

/-- No way to stand in a quoted text begins another. -/
theorem StandsAs.append_inj {c d : Char} {l m u v : List Char} (hl : StandsAs c l)
    (hm : StandsAs d m) (same : l ++ u = m ++ v) : c = d ∧ u = v := by
  cases hl with
  | raw noQuote noBackslash =>
    cases hm with
    | raw => simpa using same
    | escaped => exact absurd (List.cons.inj same).1 noBackslash
    | coded => exact absurd (List.cons.inj same).1 noBackslash
  | escaped short =>
    cases hm with
    | raw _ noBackslash => exact absurd (List.cons.inj same).1.symm noBackslash
    | escaped =>
      simp only [List.cons_append, List.nil_append, List.cons.injEq, true_and] at same
      exact ⟨congrArg unescape same.1, same.2⟩
    | coded => exact absurd (List.cons.inj (List.cons.inj same).2).1 short
  | coded =>
    cases hm with
    | raw _ noBackslash => exact absurd (List.cons.inj same).1.symm noBackslash
    | escaped short => exact absurd (List.cons.inj (List.cons.inj same).2).1.symm short
    | coded => exact codePointEscape_append_inj same

theorem StandsAs.append_ne_quote {c : Char} {l : List Char} (hl : StandsAs c l)
    (u v : List Char) : l ++ u ≠ '"' :: v := by
  intro same
  cases hl with
  | raw noQuote => exact noQuote (List.cons.inj same).1
  | escaped => exact absurd (List.cons.inj same).1 (by decide)
  | coded => exact absurd (List.cons.inj same).1 (by decide)

/-- The quote that closes a quoted text is the first that stands where a character may begin. -/
theorem flatMap_quotedChar_inj {l m u v : List Char}
    (same : l.flatMap quotedChar ++ '"' :: u = m.flatMap quotedChar ++ '"' :: v) :
    l = m ∧ u = v := by
  induction l generalizing m with
  | nil =>
    cases m with
    | nil => simpa using same
    | cons d m =>
      rw [List.flatMap_cons, List.append_assoc] at same
      exact ((standsAs_quotedChar d).append_ne_quote _ _ same.symm).elim
  | cons c l ih =>
    cases m with
    | nil =>
      rw [List.flatMap_cons, List.append_assoc] at same
      exact ((standsAs_quotedChar c).append_ne_quote _ _ same).elim
    | cons d m =>
      simp only [List.flatMap_cons, List.append_assoc] at same
      obtain ⟨rfl, rest⟩ := (standsAs_quotedChar c).append_inj (standsAs_quotedChar d) same
      obtain ⟨rfl, rfl⟩ := ih rest
      exact ⟨rfl, rfl⟩

theorem quoted_append_inj {x y : String} {u v : List Char}
    (same : (quoted x).toList ++ u = (quoted y).toList ++ v) : x = y ∧ u = v := by
  simp only [quoted, String.toList_ofList, List.cons_append, List.append_assoc, List.nil_append,
    List.cons.injEq, true_and] at same
  obtain ⟨chars, rest⟩ := flatMap_quotedChar_inj same
  exact ⟨String.toList_inj.1 chars, rest⟩

end Text

namespace Wording

/-- A part of a message: a character of its fixed words, or a value. -/
inductive Part where
  | word (c : Char)
  | number (n : Nat)
  | symbol (c : Char)
  | quote (x : String)

/-- A part whose value is left open. -/
inductive Slot where
  | word (c : Char)
  | number
  | symbol
  | quote
  deriving DecidableEq

namespace Part

def slot : Part → Slot
  | word c => .word c
  | number _ => .number
  | symbol _ => .symbol
  | quote _ => .quote

def text : Part → List Char
  | word c => [c]
  | number n => Nat.toDigits 10 n
  | symbol c => [c]
  | quote x => (Text.quoted x).toList

end Part

def words (s : String) : List Part := s.toList.map .word

def text (ps : List Part) : List Char := ps.flatMap Part.text

theorem text_cons (p : Part) (ps : List Part) : text (p :: ps) = p.text ++ text ps := rfl

@[simp] theorem text_singleton (p : Part) : text [p] = p.text := List.append_nil _

@[simp] theorem text_append (ps qs : List Part) : text (ps ++ qs) = text ps ++ text qs :=
  List.flatMap_append

@[simp] theorem text_words (s : String) : text (words s) = s.toList := by
  rw [text, words, List.flatMap_map]
  exact List.flatMap_singleton' s.toList

/-- No digit comes next, so that a number ends here. -/
def stops : List Slot → Bool
  | [] => true
  | .word c :: _ => !c.isDigit
  | _ => false

/-- Messages of these two shapes are told apart by their texts, or have the same shape: wherever
the shapes part, each has a word there, and until then every number has an end. -/
def told : List Slot → List Slot → Bool
  | [], [] => true
  | .word a :: p, .word b :: q => a ≠ b || told p q
  | .number :: p, .number :: q => stops p && stops q && told p q
  | .symbol :: p, .symbol :: q => told p q
  | .quote :: p, .quote :: q => told p q
  | _, _ => false

theorem head?_text_of_stops {ps : List Part} (ends : stops (ps.map Part.slot) = true) :
    ∀ c ∈ (text ps).head?, c.isDigit = false := by
  intro c first
  cases ps with
  | nil => contradiction
  | cons p ps =>
    cases p with
    | word a =>
      cases first
      simpa [stops, Part.slot] using ends
    | _ => contradiction

/-- The induction is on the parts of the one message; those of the other are read off in step. -/
theorem eq_of_text_eq {ps qs : List Part}
    (apart : told (ps.map Part.slot) (qs.map Part.slot) = true) (same : text ps = text qs) :
    ps = qs := by
  induction ps generalizing qs with
  | nil =>
    cases qs with
    | nil => rfl
    | cons q qs => cases q <;> contradiction
  | cons p ps ih =>
    cases qs with
    | nil => cases p <;> contradiction
    | cons q qs =>
      rw [text_cons, text_cons] at same
      cases p <;> cases q <;> try contradiction
      case word.word a b =>
        obtain ⟨rfl, rest⟩ := List.cons.inj same
        have later : told (ps.map Part.slot) (qs.map Part.slot) = true := by
          simpa [told, Part.slot] using apart
        rw [ih later rest]
      case number.number n m =>
        simp only [List.map_cons, Part.slot, told, Bool.and_eq_true] at apart
        obtain ⟨⟨ends, ends'⟩, later⟩ := apart
        have digits (k : Nat) : ∀ c ∈ Nat.toDigits 10 k, c.isDigit = true :=
          fun c => Nat.isDigit_of_mem_toDigits (by decide) (by decide)
        obtain ⟨number, rest⟩ := append_inj_of_stop (digits n) (digits m)
          (head?_text_of_stops ends) (head?_text_of_stops ends') same
        rw [toDigits_inj (by decide) (by decide) number, ih later rest]
      case symbol.symbol a b =>
        obtain ⟨rfl, rest⟩ := List.cons.inj same
        rw [ih apart rest]
      case quote.quote x y =>
        obtain ⟨rfl, rest⟩ := Text.quoted_append_inj same
        rw [ih apart rest]

/-- Messages of a type whose kinds are told apart. It is enough to compare one of each kind,
because values do not count for the shape. -/
theorem injective_of_parts {α : Type} {message : α → String} {parts : α → List Part}
    {blank : α → α} {blanks : List α} (shown : ∀ a, text (parts a) = (message a).toList)
    (filled : ∀ {a b}, blank a = blank b → parts a = parts b → a = b)
    (listed : ∀ a, blank a ∈ blanks)
    (shapes : ∀ a, (parts a).map Part.slot = (parts (blank a)).map Part.slot)
    (apart : ∀ a ∈ blanks, ∀ b ∈ blanks,
      told ((parts a).map Part.slot) ((parts b).map Part.slot) = true ∧
        ((parts a).map Part.slot = (parts b).map Part.slot → a = b)) :
    Function.Injective message := by
  intro a b same
  have sameText : text (parts a) = text (parts b) := by rw [shown, shown, same]
  obtain ⟨differ, sameKind⟩ := apart (blank a) (listed a) (blank b) (listed b)
  rw [← shapes, ← shapes] at differ sameKind
  have sameParts := eq_of_text_eq differ sameText
  exact filled (sameKind (congrArg (List.map Part.slot) sameParts)) sameParts

end Wording

end Acceptor
