import Acceptor.Text.CodePoints

/-! Blank characters are those with the Unicode property White_Space. A line is trimmed of
them at both ends, and its first word ends at the first of them. -/
namespace Acceptor.Text

def blank : CodePoints := [
  (0x9, 0xd), (0x20, 0x20), (0x85, 0x85), (0xa0, 0xa0), (0x1680, 0x1680), (0x2000, 0x200a),
  (0x2028, 0x2029), (0x202f, 0x202f), (0x205f, 0x205f), (0x3000, 0x3000)]

def isBlank (c : Char) : Bool := blank.has c

def trimLeft (s : List Char) : List Char := s.dropWhile isBlank

def trim (s : List Char) : List Char := (trimLeft (trimLeft s).reverse).reverse

/-- The characters before the first blank, and those after it. -/
def splitWord (s : List Char) : List Char × List Char :=
  (s.takeWhile (!isBlank ·), (s.dropWhile (!isBlank ·)).drop 1)

theorem not_isBlank_of_mem_word (s : List Char) (c : Char) (h : c ∈ (splitWord s).1) :
    isBlank c = false := by
  have := List.all_takeWhile (p := (!isBlank ·)) (l := s)
  simpa using List.all_eq_true.1 this c h

theorem isBlank_head_trimLeft (s : List Char) (c : Char) (h : (trimLeft s).head? = some c) :
    isBlank c = false := by
  have := List.head?_dropWhile_not isBlank s
  unfold trimLeft at h
  rw [h] at this
  simpa using this

end Acceptor.Text
