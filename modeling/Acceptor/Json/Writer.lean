import Acceptor.Json.Text

/-! Writing JSON values. A layout says which blanks stand before an element and after a
colon; a value keeps its meaning under every layout. -/
namespace Acceptor

namespace Json

def isSpace (c : Char) : Bool := c = ' ' || c = '\t' || c = '\n' || c = '\r'

/-- `gap` stands before an element at the given depth and before the bracket that closes its
container; empty containers have none. -/
structure Layout where
  gap : Nat → List Char
  afterColon : List Char
  gap_isSpace : ∀ depth, (gap depth).all isSpace = true
  afterColon_isSpace : afterColon.all isSpace = true

namespace Layout

def compact : Layout := ⟨fun _ => [], [], fun _ => rfl, rfl⟩

/-- One element a line, two spaces deeper than its container. -/
def pretty : Layout where
  gap depth := '\n' :: List.replicate (2 * depth) ' '
  afterColon := [' ']
  gap_isSpace depth := by simp [isSpace]
  afterColon_isSpace := rfl

end Layout

end Json

namespace Glyph

/-- Hexadecimal digits are written in lower case. -/
def hexDigit (n : Nat) : Char := if n < 10 then .ofNat (48 + n) else .ofNat (87 + n)

def hexDigits (u : UInt16) : List Char :=
  [hexDigit (u.toNat / 0x1000), hexDigit (u.toNat / 0x100 % 0x10),
    hexDigit (u.toNat / 0x10 % 0x10), hexDigit (u.toNat % 0x10)]

def write : Glyph → List Char
  | plain c => [c]
  | short l => ['\\', l]
  | unit u => '\\' :: 'u' :: hexDigits u

def writeText (t : List Glyph) : List Char := '"' :: (t.flatMap write ++ ['"'])

end Glyph

namespace Numeral

def fractionDigits (n : Numeral) : List Char :=
  let digits := Nat.toDigits 10 (n.mantissa % Nat.pow 10 n.places)
  List.replicate (n.places - digits.length) '0' ++ digits

def write (n : Numeral) : List Char :=
  (if n.negative then ['-'] else []) ++
    Nat.toDigits 10 (n.mantissa / Nat.pow 10 n.places) ++
    (if n.places = 0 then [] else '.' :: n.fractionDigits) ++
    match n.exponent? with
    | none => []
    | some e => 'e' :: (if e < 0 then ['-'] else []) ++ Nat.toDigits 10 e.natAbs

end Numeral

namespace Json

mutual

def writeAt (l : Layout) (depth : Nat) : Json → List Char
  | .null => ['n', 'u', 'l', 'l']
  | .bool true => ['t', 'r', 'u', 'e']
  | .bool false => ['f', 'a', 'l', 's', 'e']
  | .num n => n.write
  | .str t => Glyph.writeText t
  | .arr [] => ['[', ']']
  | .arr (v :: rest) =>
    '[' :: (l.gap (depth + 1) ++ (writeAt l (depth + 1) v ++ writeItems l depth rest))
  | .obj [] => ['\x7b', '\x7d']
  | .obj ((k, v) :: rest) =>
    '\x7b' :: (l.gap (depth + 1) ++ (Glyph.writeText k ++ ':' :: (l.afterColon ++
      (writeAt l (depth + 1) v ++ writeMembers l depth rest))))

/-- What follows an item of an array at this depth. -/
def writeItems (l : Layout) (depth : Nat) : List Json → List Char
  | [] => l.gap depth ++ [']']
  | v :: rest =>
    ',' :: (l.gap (depth + 1) ++ (writeAt l (depth + 1) v ++ writeItems l depth rest))

/-- What follows a member of an object at this depth. -/
def writeMembers (l : Layout) (depth : Nat) : List (List Glyph × Json) → List Char
  | [] => l.gap depth ++ ['\x7d']
  | (k, v) :: rest =>
    ',' :: (l.gap (depth + 1) ++ (Glyph.writeText k ++ ':' :: (l.afterColon ++
      (writeAt l (depth + 1) v ++ writeMembers l depth rest))))

end

def write (l : Layout) (v : Json) : String := .ofList (writeAt l 0 v)

def compact (v : Json) : String := v.write .compact

def pretty (v : Json) : String := v.write .pretty

end Json

end Acceptor
