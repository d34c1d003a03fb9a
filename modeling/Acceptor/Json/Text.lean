import Acceptor.Json.Tree

/-! Spelling of texts. Writing escapes the quote, the backslash and the controls and nothing
else; reading joins two surrogate units to one character and refuses a lone one. -/
namespace Acceptor

namespace Glyph

/-- Letters of the short escapes and what they stand for. -/
def shortEscapes : List (Char × Char) :=
  [('"', '"'), ('\\', '\\'), ('/', '/'), ('b', '\x08'), ('f', '\x0c'), ('n', '\n'),
    ('r', '\r'), ('t', '\t')]

def meaning? (letter : Char) : Option Char :=
  (shortEscapes.find? fun e => e.1 = letter).map Prod.snd

def ofChar (c : Char) : Glyph :=
  if c = '"' then short '"'
  else if c = '\\' then short '\\'
  else if c = '\x08' then short 'b'
  else if c = '\x0c' then short 'f'
  else if c = '\n' then short 'n'
  else if c = '\r' then short 'r'
  else if c = '\t' then short 't'
  else if c.toNat < 0x20 then unit (.ofNat c.toNat)
  else plain c

def ofString (s : String) : List Glyph := s.toList.map ofChar

def isHigh (u : UInt16) : Bool := 0xd800 ≤ u.toNat && u.toNat ≤ 0xdbff

def isLow (u : UInt16) : Bool := 0xdc00 ≤ u.toNat && u.toNat ≤ 0xdfff

def joined (high low : UInt16) : Char :=
  .ofNat (0x10000 + (high.toNat - 0xd800) * 0x400 + (low.toNat - 0xdc00))

def decode : List Glyph → Option (List Char)
  | [] => some []
  | plain c :: rest => (decode rest).map (c :: ·)
  | short l :: rest =>
    match meaning? l with
    | none => none
    | some c => (decode rest).map (c :: ·)
  | unit u :: unit v :: rest =>
    if isHigh u && isLow v then (decode rest).map (joined u v :: ·)
    else if isHigh u || isLow u then none
    else (decode (unit v :: rest)).map (.ofNat u.toNat :: ·)
  | unit u :: rest =>
    if isHigh u || isLow u then none else (decode rest).map (.ofNat u.toNat :: ·)

def toString? (t : List Glyph) : Option String := (decode t).map String.ofList

theorem decode_ofChar (c : Char) (rest : List Glyph) :
    decode (ofChar c :: rest) = (decode rest).map (c :: ·) := by
  unfold ofChar
  repeat' split
  all_goals try (subst_vars; simp [decode, meaning?, shortEscapes])
  next control =>
    have small : (UInt16.ofNat c.toNat).toNat = c.toNat := by
      rw [UInt16.toNat_ofNat']; omega
    have high : isHigh (.ofNat c.toNat) = false := by simp [isHigh, small]; omega
    have low : isLow (.ofNat c.toNat) = false := by simp [isLow, small]; omega
    cases rest with
    | nil => simp [decode, high, low, small]
    | cons g rest => cases g <;> simp [decode, high, low, small]

theorem decode_map_ofChar (s : List Char) : decode (s.map ofChar) = some s := by
  induction s with
  | nil => rfl
  | cons c s ih => rw [List.map_cons, decode_ofChar, ih]; rfl

@[simp] theorem toString?_ofString (s : String) : toString? (ofString s) = some s := by
  simp [toString?, ofString, decode_map_ofChar]

end Glyph

namespace Json

def ofString (s : String) : Json := .str (Glyph.ofString s)

def ofNat (n : Nat) : Json := .num (.ofNat n)

/-- An object with the named members in the given order. -/
def record (members : List (String × Json)) : Json :=
  .obj (members.map fun m => (Glyph.ofString m.1, m.2))

def ofOption {α : Type} (f : α → Json) : Option α → Json
  | none => .null
  | some a => f a

def toString? : Json → Option String
  | .str t => Glyph.toString? t
  | _ => none

def toNat? : Json → Option Nat
  | .num n => n.toNat?
  | _ => none

def toBool? : Json → Option Bool
  | .bool b => some b
  | _ => none

def toList? {α : Type} (f : Json → Option α) : Json → Option (List α)
  | .arr items => items.mapM f
  | _ => none

/-- A missing value is written as `null`. -/
def toOption? {α : Type} (f : Json → Option α) : Json → Option (Option α)
  | .null => some none
  | v => (f v).map some

@[simp] theorem toString?_ofString (s : String) : (ofString s).toString? = some s :=
  Glyph.toString?_ofString s

@[simp] theorem toNat?_ofNat (n : Nat) : (ofNat n).toNat? = some n := Numeral.toNat?_ofNat n

end Json

end Acceptor
