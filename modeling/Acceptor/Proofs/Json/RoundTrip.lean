import Acceptor.Proofs.Json.Fuel
import Acceptor.Proofs.Json.Spelling

/-! A value is read back from its text, under every layout (`parse?_write`). Only the spelling of
texts can stand in the way: a glyph that no reader would take for what it is. -/
namespace Acceptor.Json

/-- Every text in the value is spelled as texts may be. -/
inductive Legible : Json → Prop
  | null : Legible .null
  | bool (b : Bool) : Legible (.bool b)
  | num (n : Numeral) : Legible (.num n)
  | str {t : List Glyph} (text : ∀ g ∈ t, g.Legible) : Legible (.str t)
  | arr {items : List Json} (each : ∀ v ∈ items, Legible v) : Legible (.arr items)
  | obj {members : List (List Glyph × Json)} (names : ∀ m ∈ members, ∀ g ∈ m.1, g.Legible)
      (each : ∀ m ∈ members, Legible m.2) : Legible (.obj members)

section

variable {blank : List Char} (isBlank : blank.all isSpace = true)

include isBlank

theorem skipSpace_append (s : List Char) : skipSpace (blank ++ s) = skipSpace s :=
  List.dropWhile_append_of_pos (List.all_eq_true.1 isBlank)

theorem readValue_append (fuel : Nat) (s : List Char) :
    readValue fuel (blank ++ s) = readValue fuel s := by
  cases fuel with
  | zero => simp
  | succ fuel => rw [readValue, readValue, skipSpace_append isBlank]

theorem readItems_append (fuel : Nat) (s : List Char) :
    readItems fuel (blank ++ s) = readItems fuel s := by
  cases fuel with
  | zero => simp
  | succ fuel => rw [readItems, readItems, readValue_append isBlank]

theorem readMembers_append (fuel : Nat) (s : List Char) :
    readMembers fuel (blank ++ s) = readMembers fuel s := by
  cases fuel with
  | zero => simp
  | succ fuel => rw [readMembers, readMembers, skipSpace_append isBlank]

theorem closes_append {s : List Char} (closes : Numeral.Closes s) :
    Numeral.Closes (blank ++ s) := by
  cases blank with
  | nil => exact closes
  | cons b blank =>
    have space : isSpace b = true := List.all_eq_true.1 isBlank b List.mem_cons_self
    simp only [isSpace, Bool.or_eq_true, decide_eq_true_eq] at space
    rw [List.cons_append, Numeral.closes_cons]
    rcases space with ((rfl | rfl) | rfl) | rfl <;> decide

end

theorem skipSpace_cons {c : Char} (h : isSpace c = false) (s : List Char) :
    skipSpace (c :: s) = c :: s := by
  rw [skipSpace, List.dropWhile_cons, h]
  rfl

section

variable (l : Layout)

theorem closes_writeItems (depth : Nat) (items : List Json) (rest : List Char) :
    Numeral.Closes (writeItems l depth items ++ rest) := by
  cases items with
  | nil =>
    rw [writeItems, List.append_assoc]
    exact closes_append (l.gap_isSpace depth) (Numeral.closes_cons.2 (by decide))
  | cons v items => exact Numeral.closes_cons.2 (by decide)

theorem closes_writeMembers (depth : Nat) (members : List (List Glyph × Json))
    (rest : List Char) : Numeral.Closes (writeMembers l depth members ++ rest) := by
  cases members with
  | nil =>
    rw [writeMembers, List.append_assoc]
    exact closes_append (l.gap_isSpace depth) (Numeral.closes_cons.2 (by decide))
  | cons m members => exact Numeral.closes_cons.2 (by decide)

/-- A value begins with neither a blank nor a closing bracket. -/
theorem exists_writeAt_eq_cons (depth : Nat) (v : Json) :
    ∃ c s, writeAt l depth v = c :: s ∧ isSpace c = false ∧ c ≠ ']' := by
  cases v with
  | num n =>
    obtain ⟨c, s, shown, start⟩ := n.exists_write_eq_cons
    refine ⟨c, s, shown, ?_⟩
    rcases start with rfl | digit
    · decide
    · simp only [isSpace, Bool.or_eq_false_iff, decide_eq_false_iff_not]
      refine ⟨⟨⟨⟨?_, ?_⟩, ?_⟩, ?_⟩, ?_⟩ <;> (rintro rfl; simp at digit)
  | null => exact ⟨'n', _, rfl, by decide, by decide⟩
  | bool b => cases b <;> exact ⟨_, _, rfl, by decide, by decide⟩
  | str t => exact ⟨'"', _, rfl, by decide, by decide⟩
  | arr items => cases items <;> exact ⟨'[', _, rfl, by decide, by decide⟩
  | obj members => cases members <;> exact ⟨'\x7b', _, rfl, by decide, by decide⟩

/-- The value is read from its text, whatever stands behind it, if there is fuel for twice the
length of the text. -/
def ReadsBack (v : Json) : Prop :=
  ∀ depth fuel rest, Numeral.Closes rest → 2 * (writeAt l depth v).length ≤ fuel →
    readValue fuel (writeAt l depth v ++ rest) = some (v, rest)

variable {l}

/-- Items are read from behind the comma in front of the first of them. -/
theorem readItems_tail {items : List Json} (each : ∀ v ∈ items, ReadsBack l v) (some : items ≠ [])
    (depth fuel : Nat) (rest : List Char)
    (enough : 2 * (writeItems l depth items).length ≤ fuel + 1) :
    readItems fuel (writeItems l depth items ++ rest).tail = .some (items, rest) := by
  induction items generalizing fuel with
  | nil => contradiction
  | cons v items ih =>
    have reads := each v List.mem_cons_self
    rw [writeItems] at enough ⊢
    simp only [List.length_cons, List.length_append] at enough
    obtain ⟨fuel, rfl⟩ := Nat.exists_eq_succ_of_ne_zero (n := fuel) (by omega)
    simp only [List.cons_append, List.tail_cons, List.append_assoc]
    rw [readItems_append (l.gap_isSpace _), readItems,
      reads _ _ _ (closes_writeItems l depth items rest) (by omega)]
    cases items with
    | nil =>
      simp only [writeItems, List.append_assoc]
      rw [skipSpace_append (l.gap_isSpace _), List.singleton_append, skipSpace_cons (by decide)]
      rfl
    | cons w items =>
      have later := ih (fun u h => each u (List.mem_cons_of_mem v h)) (by simp) fuel (by omega)
      simp only [writeItems, List.cons_append, List.tail_cons] at later ⊢
      rw [skipSpace_cons (by decide)]
      simp only [later]

/-- Members are read from behind the comma in front of the first of them. -/
theorem readMembers_tail {members : List (List Glyph × Json)}
    (names : ∀ m ∈ members, ∀ g ∈ m.1, g.Legible) (each : ∀ m ∈ members, ReadsBack l m.2)
    (some : members ≠ []) (depth fuel : Nat) (rest : List Char)
    (enough : 2 * (writeMembers l depth members).length ≤ fuel + 1) :
    readMembers fuel (writeMembers l depth members ++ rest).tail = .some (members, rest) := by
  induction members generalizing fuel with
  | nil => contradiction
  | cons m members ih =>
    obtain ⟨k, v⟩ := m
    have key := Glyph.readText_flatMap (names (k, v) List.mem_cons_self)
    have reads := each (k, v) List.mem_cons_self
    rw [writeMembers] at enough ⊢
    simp only [List.length_cons, List.length_append] at enough
    obtain ⟨fuel, rfl⟩ := Nat.exists_eq_succ_of_ne_zero (n := fuel) (by omega)
    simp only [List.cons_append, List.tail_cons, List.append_assoc, Glyph.writeText,
      List.nil_append]
    rw [readMembers_append (l.gap_isSpace _), readMembers, skipSpace_cons (by decide)]
    simp only [key]
    rw [skipSpace_cons (by decide)]
    simp only []
    rw [readValue_append l.afterColon_isSpace,
      reads _ _ _ (closes_writeMembers l depth members rest) (by dsimp only; omega)]
    cases members with
    | nil =>
      simp only [writeMembers, List.append_assoc]
      rw [skipSpace_append (l.gap_isSpace _), List.singleton_append, skipSpace_cons (by decide)]
      rfl
    | cons w members =>
      have later := ih (fun u h => names u (List.mem_cons_of_mem _ h))
        (fun u h => each u (List.mem_cons_of_mem _ h)) (by simp) fuel (by omega)
      simp only [writeMembers, List.cons_append, List.tail_cons] at later ⊢
      rw [skipSpace_cons (by decide)]
      simp only [later]

theorem readsBack_of_succ {v : Json}
    (reads : ∀ depth fuel rest, Numeral.Closes rest → 2 * (writeAt l depth v).length ≤ fuel + 1 →
      readValue (fuel + 1) (writeAt l depth v ++ rest) = some (v, rest)) : ReadsBack l v := by
  intro depth fuel rest closes enough
  obtain ⟨c, s, shown, -, -⟩ := exists_writeAt_eq_cons l depth v
  cases fuel with
  | zero => simp [shown] at enough
  | succ fuel => exact reads depth fuel rest closes enough

theorem readsBack_num (n : Numeral) : ReadsBack l (.num n) := by
  refine readsBack_of_succ fun depth fuel rest closes enough => ?_
  have read := n.read_write closes
  obtain ⟨c, s, shown, start⟩ := n.exists_write_eq_cons
  obtain ⟨c', s', shown', space, -⟩ := exists_writeAt_eq_cons l depth (.num n)
  rw [writeAt] at shown' ⊢
  obtain ⟨rfl, rfl⟩ : c = c' ∧ s = s' := by simpa [shown] using shown'
  rw [shown, List.cons_append] at read ⊢
  rw [readValue, skipSpace_cons space]
  have other : ∀ d ∈ ['"', '[', '\x7b', 'n', 't', 'f'], c ≠ d := by
    rintro d mem rfl
    rcases start with rfl | digit
    · exact absurd mem (by decide)
    · simp only [List.mem_cons, List.not_mem_nil, or_false] at mem
      rcases mem with rfl | rfl | rfl | rfl | rfl | rfl <;> simp at digit
  split
  case h_7 => rw [read]
  all_goals
    next same => exact absurd (List.cons.inj same).1 (other _ (by decide))

theorem readsBack {v : Json} (legible : v.Legible) : ReadsBack l v := by
  induction legible with
  | null =>
    refine readsBack_of_succ fun depth fuel rest closes enough => ?_
    rw [readValue, writeAt, List.cons_append, skipSpace_cons (by decide)]
    rfl
  | bool b =>
    refine readsBack_of_succ fun depth fuel rest closes enough => ?_
    cases b <;> rw [readValue, writeAt, List.cons_append, skipSpace_cons (by decide)] <;> rfl
  | num n => exact readsBack_num n
  | str text =>
    refine readsBack_of_succ fun depth fuel rest closes enough => ?_
    rw [readValue, writeAt, Glyph.writeText, List.cons_append, skipSpace_cons (by decide)]
    simp only [List.append_assoc, List.singleton_append, Glyph.readText_flatMap text]
  | @arr items each ih =>
    refine readsBack_of_succ fun depth fuel rest closes enough => ?_
    cases items with
    | nil =>
      rw [readValue, writeAt, List.cons_append, skipSpace_cons (by decide)]
      rfl
    | cons v items =>
      have read := readItems_tail ih (by simp) depth fuel rest
        (by simpa [writeAt, writeItems] using enough)
      obtain ⟨c, s, shown, space, close⟩ := exists_writeAt_eq_cons l (depth + 1) v
      simp only [writeItems, writeAt, List.cons_append, List.tail_cons, List.append_assoc] at read ⊢
      rw [readItems_append (l.gap_isSpace _), shown, List.cons_append] at read
      rw [readValue, skipSpace_cons (by decide)]
      simp only [skipSpace_append (l.gap_isSpace _), shown, List.cons_append, skipSpace_cons space]
      split
      next same => exact absurd (List.cons.inj same).1 close
      next => rw [read]
  | @obj members names each ih =>
    refine readsBack_of_succ fun depth fuel rest closes enough => ?_
    cases members with
    | nil =>
      rw [readValue, writeAt, List.cons_append, skipSpace_cons (by decide)]
      rfl
    | cons m members =>
      obtain ⟨k, v⟩ := m
      have read := readMembers_tail names ih (by simp) depth fuel rest
        (by simpa [writeAt, writeMembers] using enough)
      simp only [writeMembers, writeAt, Glyph.writeText, List.cons_append, List.tail_cons,
        List.append_assoc] at read ⊢
      rw [readMembers_append (l.gap_isSpace _)] at read
      have quote : isSpace '"' = false := by decide
      rw [readValue, skipSpace_cons (by decide)]
      simp only [skipSpace_append (l.gap_isSpace _), skipSpace_cons quote]
      split
      next same => exact absurd (List.cons.inj same).1 (by decide)
      next => rw [read]

/-- A legible value is what its text says, under every layout and also where it is indented as part
of a longer text. -/
theorem parse?_writeAt (l : Layout) (depth : Nat) {v : Json} (legible : v.Legible) :
    parse? (.ofList (writeAt l depth v)) = some v := by
  have read := readsBack (l := l) legible depth (2 * (writeAt l depth v).length) []
    (by simp [Numeral.Closes]) (Nat.le_refl _)
  rw [List.append_nil] at read
  exact (parse?_eq_some_iff ..).2 ⟨_, [], by rwa [String.toList_ofList], rfl⟩

theorem parse?_write (l : Layout) {v : Json} (legible : v.Legible) :
    parse? (v.write l) = some v :=
  parse?_writeAt l 0 legible

end

end Acceptor.Json
