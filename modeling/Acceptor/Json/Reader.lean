import Acceptor.Json.Writer

/-! Reading JSON values. Each reader takes the characters it can use and returns the rest.
A text is a value between blanks; nothing may follow it. -/
namespace Acceptor

namespace Json

def skipSpace (s : List Char) : List Char := s.dropWhile isSpace

end Json

namespace Glyph

def hexValue? (c : Char) : Option Nat :=
  if '0' ≤ c ∧ c ≤ '9' then some (c.toNat - 48)
  else if 'a' ≤ c ∧ c ≤ 'f' then some (c.toNat - 87)
  else if 'A' ≤ c ∧ c ≤ 'F' then some (c.toNat - 55)
  else none

def unit? (a b c d : Char) : Option UInt16 :=
  match hexValue? a, hexValue? b, hexValue? c, hexValue? d with
  | some a, some b, some c, some d => some (.ofNat (((a * 16 + b) * 16 + c) * 16 + d))
  | _, _, _, _ => none

/-- Reads on behind an opening quote, up to the closing one. Raw controls are refused. -/
def readText : List Char → Option (List Glyph × List Char)
  | [] => none
  | '"' :: rest => some ([], rest)
  | '\\' :: 'u' :: a :: b :: c :: d :: rest =>
    match unit? a b c d, readText rest with
    | some u, some (t, rest) => some (unit u :: t, rest)
    | _, _ => none
  | '\\' :: l :: rest =>
    match meaning? l, readText rest with
    | some _, some (t, rest) => some (short l :: t, rest)
    | _, _ => none
  | c :: rest =>
    if c.toNat < 0x20 ∨ c = '\\' then none
    else match readText rest with
      | some (t, rest) => some (plain c :: t, rest)
      | none => none

end Glyph

namespace Numeral

def splitDigits (s : List Char) : List Char × List Char :=
  (s.takeWhile Char.isDigit, s.dropWhile Char.isDigit)

def ofDigits (ds : List Char) : Nat := ds.foldl (fun n d => 10 * n + (d.toNat - 48)) 0

/-- At least one digit, and no zero before another digit. -/
def readWhole (s : List Char) : Option (List Char × List Char) :=
  match splitDigits s with
  | ([], _) => none
  | ('0' :: _ :: _, _) => none
  | split => some split

/-- A point calls for at least one digit behind it. -/
def readFraction : List Char → Option (List Char × List Char)
  | '.' :: rest =>
    match splitDigits rest with
    | ([], _) => none
    | split => some split
  | s => some ([], s)

def readSign : List Char → Bool × List Char
  | '-' :: rest => (true, rest)
  | '+' :: rest => (false, rest)
  | s => (false, s)

def readExponent : List Char → Option (Option Int × List Char)
  | c :: rest =>
    if c = 'e' ∨ c = 'E' then
      match splitDigits (readSign rest).2 with
      | ([], _) => none
      | (ds, rest') =>
        let size : Int := ofDigits ds
        some (some (if (readSign rest).1 then -size else size), rest')
    else some (none, c :: rest)
  | [] => some (none, [])

def readUnsigned (negative : Bool) (s : List Char) : Option (Numeral × List Char) :=
  match readWhole s with
  | none => none
  | some (whole, s) =>
    match readFraction s with
    | none => none
    | some (fraction, s) =>
      match readExponent s with
      | none => none
      | some (e, s) =>
        some (⟨negative, ofDigits (whole ++ fraction), fraction.length, e⟩, s)

def read : List Char → Option (Numeral × List Char)
  | '-' :: rest => readUnsigned true rest
  | s => readUnsigned false s

end Numeral

namespace Json

mutual

/-- The fuel bounds the number of nested calls. For twice the length of the text it is enough: what
can be read with any fuel is read (`parse?_eq_some_iff`). -/
def readValue : Nat → List Char → Option (Json × List Char)
  | 0, _ => none
  | fuel + 1, s =>
    match skipSpace s with
    | '"' :: rest =>
      match Glyph.readText rest with
      | none => none
      | some (t, rest) => some (.str t, rest)
    | '[' :: rest =>
      match skipSpace rest with
      | ']' :: rest => some (.arr [], rest)
      | rest =>
        match readItems fuel rest with
        | none => none
        | some (items, rest) => some (.arr items, rest)
    | '\x7b' :: rest =>
      match skipSpace rest with
      | '\x7d' :: rest => some (.obj [], rest)
      | rest =>
        match readMembers fuel rest with
        | none => none
        | some (members, rest) => some (.obj members, rest)
    | 'n' :: 'u' :: 'l' :: 'l' :: rest => some (.null, rest)
    | 't' :: 'r' :: 'u' :: 'e' :: rest => some (.bool true, rest)
    | 'f' :: 'a' :: 'l' :: 's' :: 'e' :: rest => some (.bool false, rest)
    | s =>
      match Numeral.read s with
      | none => none
      | some (n, rest) => some (.num n, rest)

/-- At least one item, up to the closing bracket. -/
def readItems : Nat → List Char → Option (List Json × List Char)
  | 0, _ => none
  | fuel + 1, s =>
    match readValue fuel s with
    | none => none
    | some (v, rest) =>
      match skipSpace rest with
      | ']' :: rest => some ([v], rest)
      | ',' :: rest =>
        match readItems fuel rest with
        | none => none
        | some (items, rest) => some (v :: items, rest)
      | _ => none

/-- At least one member, up to the closing brace. -/
def readMembers : Nat → List Char → Option (List (List Glyph × Json) × List Char)
  | 0, _ => none
  | fuel + 1, s =>
    match skipSpace s with
    | '"' :: rest =>
      match Glyph.readText rest with
      | none => none
      | some (k, rest) =>
        match skipSpace rest with
        | ':' :: rest =>
          match readValue fuel rest with
          | none => none
          | some (v, rest) =>
            match skipSpace rest with
            | '\x7d' :: rest => some ([(k, v)], rest)
            | ',' :: rest =>
              match readMembers fuel rest with
              | none => none
              | some (members, rest) => some ((k, v) :: members, rest)
            | _ => none
        | _ => none
    | _ => none

end

def parse? (s : String) : Option Json :=
  match readValue (2 * s.toList.length + 2) s.toList with
  | none => none
  | some (v, rest) => if (skipSpace rest).isEmpty then some v else none

end Json

end Acceptor
