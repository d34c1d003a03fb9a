/-! JSON values as they are spelled. Numbers keep their sign, places and exponent, and texts
keep their escapes, because some readers accept only plain spellings. Members of an object
keep their order and may repeat a name. -/
namespace Acceptor

/-- One element of a text: a character, an escape of two characters given by its letter, or
a UTF-16 unit given by four hexadecimal digits. -/
inductive Glyph where
  | plain (c : Char)
  | short (letter : Char)
  | unit (u : UInt16)
  deriving DecidableEq

/-- The number `±mantissa · 10^(exponent - places)`, written with `places` digits behind the
point; without an exponent part `exponent?` is `none`. -/
structure Numeral where
  negative : Bool
  mantissa : Nat
  places : Nat
  exponent? : Option Int
  deriving DecidableEq

inductive Json where
  | null
  | bool (b : Bool)
  | num (n : Numeral)
  | str (t : List Glyph)
  | arr (items : List Json)
  | obj (members : List (List Glyph × Json))

namespace Numeral

def ofNat (n : Nat) : Numeral := ⟨false, n, 0, none⟩

/-- Only digits spell a natural number: no sign, no point, no exponent. -/
def toNat? (n : Numeral) : Option Nat :=
  if n.negative = false ∧ n.places = 0 ∧ n.exponent? = none then some n.mantissa else none

@[simp] theorem toNat?_ofNat (n : Nat) : (ofNat n).toNat? = some n := by simp [ofNat, toNat?]

end Numeral

namespace Json

mutual

/-- How deep arrays and objects are nested; zero without any. -/
def depth : Json → Nat
  | .arr items => depthItems items + 1
  | .obj members => depthMembers members + 1
  | _ => 0

def depthItems : List Json → Nat
  | [] => 0
  | v :: rest => max v.depth (depthItems rest)

def depthMembers : List (List Glyph × Json) → Nat
  | [] => 0
  | (_, v) :: rest => max v.depth (depthMembers rest)

end

end Json

end Acceptor
