import Acceptor.Registry.Event
import Acceptor.Text.Alphanumeric
import Acceptor.Text.Blank

/-! Directives about what is logged, such as `dfa_trace::registry=info`: a target, then in
brackets a span with fields in braces, then a level. Each part may be left out. -/
namespace Acceptor.Command

/-- Events up to a level are shown; none at all without one. -/
abbrev Threshold := Option Level

namespace Threshold

def all : Threshold := some .debug

def named : List (String × Threshold) := [
  ("off", none), ("error", some .error), ("warn", some .warn), ("info", some .info),
  ("debug", some .debug), ("trace", all)]

def numbered : List Threshold := [none, some .error, some .warn, some .info, some .debug, all]

def number? (digits : List Char) : Option Nat :=
  if !digits.isEmpty && digits.all Char.isDigit then some (Nat.ofDigitChars 10 digits 0) else none

/-- Names may be in upper or lower case, and a number may have a plus sign and leading zeros. -/
def read? (s : List Char) : Option Threshold :=
  let digits := match s with
    | '+' :: rest => rest
    | _ => s
  match number? digits with
  | some n => numbered[n]?
  | none => (named.find? fun e => e.1.toList = s.map Char.toLower).map Prod.snd

def allows (t : Threshold) (l : Level) : Bool :=
  match t with
  | none => false
  | some bound => l.rank ≤ bound.rank

end Threshold

/-- A field that has to be there, perhaps with a given value. -/
structure FieldPattern where
  name : String
  value? : Option String
  deriving DecidableEq

namespace FieldPattern

/-- What follows a second equals sign is passed over. -/
def read? (s : List Char) : Option FieldPattern :=
  let value := match s.dropWhile (· ≠ '=') with
    | [] => none
    | _ :: rest => some (String.ofList (rest.takeWhile (· ≠ '=')))
  if s.isEmpty then none else some ⟨.ofList (s.takeWhile (· ≠ '=')), value⟩

end FieldPattern

structure Directive where
  threshold : Threshold
  target? : Option String
  span? : Option String
  fields : List FieldPattern
  deriving DecidableEq

namespace Directive

/-- Where the reader of a directive is; a part that is still open begins at the given byte. -/
inductive Place where
  | start
  | word
  | span (begin : Nat)
  | field (begin : Nat)
  | behindFields
  | behindSpan
  | level (begin : Nat)

def startsWord (c : Char) : Bool :=
  Text.isAlphanumeric c || c = '-' || c = ':' || c = '_'

def dropBytes (n : Nat) : List Char → List Char
  | [] => []
  | c :: rest => if n = 0 then c :: rest else dropBytes (n - c.utf8Size) rest

def takeBytes (n : Nat) : List Char → List Char
  | [] => []
  | c :: rest => if n = 0 then [] else c :: takeBytes (n - c.utf8Size) rest

def part (s : List Char) (begin stop : Nat) : List Char :=
  takeBytes (stop - begin) (dropBytes begin s)

/-- Goes on behind `c`, which stands at the byte `i`. The parts are cut out of `s`. -/
def step (s : List Char) (i : Nat) (c : Char) (d : Directive) :
    Place → Option (Place × Directive)
  | .start =>
    if c = '[' then some (.span (i + 1), d)
    else if startsWord c then some (.word, d) else none
  | .word =>
    let target? := some (String.ofList (part s 0 i))
    if c = '=' then some (.level (i + 1), { d with target? })
    else if c = '[' then some (.span (i + 1), { d with target? })
    else some (.word, d)
  | .span begin =>
    let name := part s begin i
    if c = ']' then some (.behindSpan, { d with span? := some (.ofList name) })
    else if c = '\x7b' then
      let span? := if name.isEmpty then none else some (String.ofList name)
      some (.field (i + 1), { d with span? })
    else some (.span begin, d)
  | .field begin =>
    if c = '\x7d' then
      match FieldPattern.read? (part s begin i) with
      | none => none
      | some f => some (.behindFields, { d with fields := d.fields ++ [f] })
    else some (.field begin, d)
  | .behindFields => if c = ']' then some (.behindSpan, d) else none
  | .behindSpan => if c = '=' then some (.level (i + 1), d) else none
  | .level begin => some (.level begin, d)

/-- A word alone is a level if it names one, else a target. -/
def finish (s : List Char) (d : Directive) : Place → Option Directive
  | .word =>
    match Threshold.read? s with
    | some t => some { d with threshold := t }
    | none => some { d with target? := some (.ofList s) }
  | .behindSpan => some d
  | .level begin =>
    match dropBytes begin s with
    | [] => some d
    | level => (Threshold.read? level).map fun t => { d with threshold := t }
  | _ => none

def readFrom (s : List Char) (i : Nat) (d : Directive) (p : Place) :
    List Char → Option Directive
  | [] => finish s d p
  | c :: rest =>
    match step s i c d p with
    | none => none
    | some (p, d) => readFrom s (i + c.utf8Size) d p rest

/-- Blanks around a directive are not read, but the parts are cut out of the text with its
blanks, at the bytes where they stand without them. -/
def read? (s : List Char) : Option Directive :=
  readFrom s 0 ⟨.all, none, none, []⟩ .start (Text.trim s)

end Directive

end Acceptor.Command
