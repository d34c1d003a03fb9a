import Acceptor.Text.Unprintable

/-! A text between double quotes, for messages that must show a text nobody can read off
the page. Quotes, backslashes and the usual controls have short escapes, every other
unprintable character is given by its code point, and the rest stands for itself. -/
namespace Acceptor.Text

/-- An escape by code point has the fewest lower-case hexadecimal digits. -/
def codePointEscape (c : Char) : List Char :=
  '\\' :: 'u' :: '\x7b' :: (Nat.toDigits 16 c.toNat ++ ['\x7d'])

def quotedChar (c : Char) : List Char :=
  if c = '"' then ['\\', '"']
  else if c = '\\' then ['\\', '\\']
  else if c = '\x00' then ['\\', '0']
  else if c = '\t' then ['\\', 't']
  else if c = '\n' then ['\\', 'n']
  else if c = '\r' then ['\\', 'r']
  else if isUnprintable c then codePointEscape c
  else [c]

def quoted (s : String) : String :=
  String.ofList ('"' :: (s.toList.flatMap quotedChar ++ ['"']))

end Acceptor.Text
