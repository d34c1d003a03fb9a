/-! A symbol is one character. Definitions spell symbols as strings, so that a string of
any other length can be reported instead of being lost. -/
namespace Acceptor

def symbol? (s : String) : Option Char :=
  match s.toList with
  | [c] => some c
  | _ => none

theorem symbol?_eq_some_iff (s : String) (c : Char) :
    symbol? s = some c ↔ s = String.singleton c := by
  rw [← String.toList_inj, String.toList_singleton]
  unfold symbol?
  split
  next d h => simp [h]
  next h => simpa using fun eq => h c eq

@[simp] theorem symbol?_singleton (c : Char) : symbol? (String.singleton c) = some c :=
  (symbol?_eq_some_iff _ c).2 rfl

theorem symbol?_eq_none_iff (s : String) : symbol? s = none ↔ s.length ≠ 1 := by
  rw [← String.length_toList]
  unfold symbol?
  split
  next h => simp [h]
  next h => simpa [List.length_eq_one_iff] using h

theorem length_eq_one_iff (s : String) : s.length = 1 ↔ ∃ c, s = String.singleton c := by
  have none := symbol?_eq_none_iff s
  simp only [← symbol?_eq_some_iff]
  cases found : symbol? s with
  | none => simpa [found] using none
  | some c => simpa [found] using none

theorem singleton_inj {c d : Char} : String.singleton c = String.singleton d ↔ c = d := by
  rw [← String.toList_inj]; simp

/-- Strings of one character are ordered as their characters are. -/
theorem singleton_lt_singleton {c d : Char} :
    String.singleton c < String.singleton d ↔ c < d := by
  rw [String.lt_iff]; simp [List.cons_lt_cons_iff]

end Acceptor
