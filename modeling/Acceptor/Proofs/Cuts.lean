import Mathlib.Data.List.TakeWhile
import Acceptor.Text.Blank
import Acceptor.Text.Utf8

/-! How input is cut: bytes in lines, a line in what stands between its blanks, and that in a
name and a word. Each cut is the only one with its properties. -/
namespace Acceptor.Text

/-- Every line ends with its first line feed, but the last one may lack it. -/
inductive InLines : Bytes → List Bytes → Prop
  | none : InLines [] []
  | last {l : Bytes} (some : l ≠ []) (inner : 10 ∉ l) : InLines l [l]
  | line {l rest : Bytes} {ls : List Bytes} (inner : 10 ∉ l) (more : InLines rest ls) :
      InLines (l ++ 10 :: rest) ((l ++ [10]) :: ls)

theorem inLines_lines (bytes : Bytes) : InLines bytes (lines bytes) := by
  induction bytes with
  | nil => exact .none
  | cons b rest ih =>
    unfold lines
    split
    next feed =>
      subst feed
      exact .line (l := []) (by simp) ih
    next feed =>
      -- the byte goes in front of the first line of the rest
      generalize lines rest = ls at ih
      cases ih with
      | none => exact .last (by simp) (by simpa using Ne.symm feed)
      | last some inner => exact .last (by simp) (by simp [Ne.symm feed, inner])
      | @line l rest ls inner more =>
        exact .line (l := b :: l) (by simp [Ne.symm feed, inner]) more

theorem lines_feed {l : Bytes} (inner : 10 ∉ l) (rest : Bytes) :
    lines (l ++ 10 :: rest) = (l ++ [10]) :: lines rest := by
  induction l with
  | nil => simp [lines]
  | cons b l ih =>
    rw [List.mem_cons, not_or] at inner
    obtain ⟨other, inner⟩ := inner
    simp [lines, Ne.symm other, ih inner]

theorem lines_last {l : Bytes} (some : l ≠ []) (inner : 10 ∉ l) : lines l = [l] := by
  induction l with
  | nil => contradiction
  | cons b l ih =>
    rw [List.mem_cons, not_or] at inner
    obtain ⟨other, inner⟩ := inner
    cases l with
    | nil => simp [lines, Ne.symm other]
    | cons c l => rw [lines, if_neg (Ne.symm other), ih (by simp) inner]

theorem inLines_iff {bytes : Bytes} {ls : List Bytes} : InLines bytes ls ↔ ls = lines bytes := by
  refine ⟨fun cut => ?_, fun h => h ▸ inLines_lines bytes⟩
  induction cut with
  | none => rfl
  | last some inner => exact (lines_last some inner).symm
  | line inner more ih => rw [lines_feed inner, ih]

/-- `t` is left of `s` without the blanks at both ends. -/
structure Trimmed (s t : List Char) : Prop where
  parts : ∃ before behind, s = before ++ t ++ behind ∧
    (∀ c ∈ before, isBlank c = true) ∧ ∀ c ∈ behind, isBlank c = true
  first : ∀ c ∈ t.head?, isBlank c = false
  last : ∀ c ∈ t.getLast?, isBlank c = false

theorem trimLeft_append {blanks : List Char} (blank : ∀ c ∈ blanks, isBlank c = true)
    (s : List Char) : trimLeft (blanks ++ s) = trimLeft s :=
  List.dropWhile_append_of_pos blank

theorem trimLeft_of_head {s : List Char} (first : ∀ c ∈ s.head?, isBlank c = false) :
    trimLeft s = s := by
  cases s with
  | nil => rfl
  | cons c s => simp [trimLeft, first c rfl]

theorem exists_trimLeft (s : List Char) :
    ∃ before, s = before ++ trimLeft s ∧ ∀ c ∈ before, isBlank c = true :=
  ⟨s.takeWhile isBlank, List.takeWhile_append_dropWhile.symm, fun _ => List.mem_takeWhile_imp⟩

theorem trimmed_trim (s : List Char) : Trimmed s (trim s) := by
  obtain ⟨before, front, blank⟩ := exists_trimLeft s
  obtain ⟨behind, back, blank'⟩ := exists_trimLeft (trimLeft s).reverse
  have kept : trimLeft s = trim s ++ behind.reverse := by
    rw [← List.reverse_inj, back, trim]
    simp
  refine ⟨⟨before, behind.reverse, ?_, blank, by simpa using blank'⟩, ?_, ?_⟩
  · rw [List.append_assoc, ← kept]
    exact front
  · intro c h
    refine isBlank_head_trimLeft s c ?_
    rw [kept, List.head?_append, h]
    rfl
  · intro c h
    rw [trim, List.getLast?_reverse] at h
    exact isBlank_head_trimLeft _ c h

theorem Trimmed.eq {s t : List Char} (trimmed : Trimmed s t) : t = trim s := by
  obtain ⟨⟨before, behind, rfl, blank, blank'⟩, first, last⟩ := trimmed
  rw [trim, List.append_assoc, trimLeft_append blank]
  cases t with
  | nil =>
    have all := trimLeft_append blank' []
    rw [List.append_nil] at all
    rw [List.nil_append, all]
    rfl
  | cons c t =>
    have whole : trimLeft (c :: t ++ behind) = c :: t ++ behind := trimLeft_of_head first
    have back : ∀ c ∈ behind.reverse, isBlank c = true := by simpa using blank'
    have ended : ∀ d ∈ (c :: t).reverse.head?, isBlank d = false := by
      rwa [List.head?_reverse]
    rw [whole, List.reverse_append, trimLeft_append back, trimLeft_of_head ended,
      List.reverse_reverse]

/-- The name ends at the first blank; the word is what is left, without the blanks around it. -/
structure Asks (text name word : List Char) : Prop where
  parts : ∃ rest, text = name ++ rest ∧ (∀ c ∈ rest.head?, isBlank c = true) ∧ Trimmed rest word
  plain : ∀ c ∈ name, isBlank c = false

/-- The blank that ends the name is one of those around the word. -/
theorem trim_drop_one {rest : List Char} (first : ∀ c ∈ rest.head?, isBlank c = true) :
    trim (rest.drop 1) = trim rest := by
  cases rest with
  | nil => rfl
  | cons c rest => simp [trim, trimLeft, first c rfl]

theorem isBlank_head_dropWhile (text : List Char) :
    ∀ c ∈ (text.dropWhile (!isBlank ·)).head?, isBlank c = true := by
  intro c h
  have := List.head?_dropWhile_not (!isBlank ·) text
  simpa [Option.mem_def.1 h] using this

theorem splitWord_append {name rest : List Char} (plain : ∀ c ∈ name, isBlank c = false)
    (first : ∀ c ∈ rest.head?, isBlank c = true) :
    splitWord (name ++ rest) = (name, rest.drop 1) := by
  have plain' : ∀ c ∈ name, (!isBlank c) = true := by simpa using plain
  have none : rest.takeWhile (!isBlank ·) = [] ∧ rest.dropWhile (!isBlank ·) = rest := by
    cases rest with
    | nil => exact ⟨rfl, rfl⟩
    | cons c rest => simp [first c rfl]
  rw [splitWord, List.takeWhile_append_of_pos plain', List.dropWhile_append_of_pos plain',
    none.1, none.2, List.append_nil]

theorem asks_iff {text name word : List Char} :
    Asks text name word ↔ name = (splitWord text).1 ∧ word = trim (splitWord text).2 := by
  constructor
  · rintro ⟨⟨rest, rfl, first, trimmed⟩, plain⟩
    rw [splitWord_append plain first, trim_drop_one first]
    exact ⟨rfl, trimmed.eq⟩
  · rintro ⟨rfl, rfl⟩
    have first := isBlank_head_dropWhile text
    refine ⟨⟨_, List.takeWhile_append_dropWhile.symm, first, ?_⟩, not_isBlank_of_mem_word text⟩
    rw [splitWord, trim_drop_one first]
    exact trimmed_trim _

end Acceptor.Text
