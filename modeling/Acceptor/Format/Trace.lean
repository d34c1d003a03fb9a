import Acceptor.Symbol
import Acceptor.Trace
import Acceptor.Format.Definition

/-! The JSON form of traces and of their parts. The text of a rejection is written for the
human reader under `error` and passed over when a trace is read back. -/
namespace Acceptor

namespace Halt

def toJson (h : Halt) : Json := .ofString h.name

/-- A name, or an object whose only member has that name and no value. -/
def ofJson? : Json → Option Halt
  | .str t => (Glyph.toString? t).bind ofName?
  | .obj [(k, .null)] => (Glyph.toString? k).bind ofName?
  | _ => none

end Halt

namespace Step

def toJson : Step → Json
  | state s => State.toJson s
  | halt h => h.toJson

def ofJson? (v : Json) : Option Step :=
  match State.ofJson? v with
  | some s => some (state s)
  | none => (Halt.ofJson? v).map halt

end Step

namespace Rejection

def kind : Rejection → String
  | invalidSymbol .. => "invalid_symbol"
  | noTransition .. => "no_transition"
  | invalidTarget .. => "invalid_target"
  | trapState .. => "trap_state"

def symbolToJson (c : Char) : Json := .ofString (String.singleton c)

/-- The kind comes first, then what this kind of rejection knows. -/
def toJson (r : Rejection) : Json :=
  .record (("kind", .ofString r.kind) ::
    match r with
    | invalidSymbol c i => [("symbol", symbolToJson c), ("position", .ofNat i)]
    | noTransition s i => [("state", State.toJson s), ("position", .ofNat i)]
    | invalidTarget s c i =>
      [("state", State.toJson s), ("symbol", symbolToJson c), ("position", .ofNat i)]
    | trapState s c i =>
      [("state", State.toJson s), ("symbol", symbolToJson c), ("position", .ofNat i)])

def symbol? (v : Json) : Option Char := v.toString?.bind Acceptor.symbol?

def position? (v : Json) : Option Nat :=
  match v.toNat? with
  | none => none
  | some i => if i < UInt64.size then some i else none

def symbolFields? (v : Json) : Option Rejection :=
  match v.fields? ["symbol", "position"] 2 with
  | some [some c, some i] =>
    match symbol? c, position? i with
    | some c, some i => some (invalidSymbol c i)
    | _, _ => none
  | _ => none

def stateFields? (v : Json) : Option Rejection :=
  match v.fields? ["state", "position"] 2 with
  | some [some s, some i] =>
    match State.ofJson? s, position? i with
    | some s, some i => some (noTransition s i)
    | _, _ => none
  | _ => none

def allFields? (make : State → Char → Nat → Rejection) (v : Json) : Option Rejection :=
  match v.fields? ["state", "symbol", "position"] 3 with
  | some [some s, some c, some i] =>
    match State.ofJson? s, symbol? c, position? i with
    | some s, some c, some i => some (make s c i)
    | _, _, _ => none
  | _ => none

/-- The fields that the kind asks for, out of an object or an array. -/
def ofKind? (kind : String) (fields : Json) : Option Rejection :=
  if kind = "invalid_symbol" then symbolFields? fields
  else if kind = "no_transition" then stateFields? fields
  else if kind = "invalid_target" then allFields? invalidTarget fields
  else if kind = "trap_state" then allFields? trapState fields
  else none

def ofParts? : Json → Option Rejection
  | .obj members =>
    match Json.fields? ["kind"] 1 (.obj members) with
    | some [some kind] => kind.toString?.bind fun k => ofKind? k (.obj members)
    | _ => none
  | .arr (kind :: fields) => kind.toString?.bind fun k => ofKind? k (.arr fields)
  | _ => none

/-- The kind may stand anywhere, so the whole value is kept aside first: all of it has to be
keepable, and nested at most `depth` deep. -/
def ofJson? (depth : Nat) (v : Json) : Option Rejection :=
  if v.keepable ∧ v.depth ≤ depth then ofParts? v else none

end Rejection

namespace Trace

def fieldNames : List String :=
  ["input", "final_state", "accepted", "state_sequence", "error", "rejection"]

def toJson (t : Trace) : Json :=
  .record [
    ("input", .ofString t.input),
    ("final_state", State.toJson t.finalState),
    ("accepted", .bool t.accepted),
    ("state_sequence", .arr (t.steps.map Step.toJson)),
    ("error", .ofOption Json.ofString t.errorMessage?),
    ("rejection", .ofOption Rejection.toJson t.rejection)]

/-- Containers may be nested to this depth where a value is kept aside. -/
def maxDepth : Nat := 127

def error? : Option Json → Option (Option String)
  | none => some none
  | some v => v.toOption? Json.toString?

def rejection? : Option Json → Option (Option Rejection)
  | none => some none
  | some v => v.toOption? (Rejection.ofJson? (maxDepth - 1))

/-- The text under `error` is checked to be a text and then dropped. -/
def ofJson? (v : Json) : Option Trace :=
  match v.fields? fieldNames 6 with
  | some [some input, some final, some accepted, some steps, error, rejection] =>
    match input.toString?, State.ofJson? final, accepted.toBool?, steps.toList? Step.ofJson?,
      error? error, rejection? rejection with
    | some input, some final, some accepted, some steps, some _, some rejection =>
      some ⟨input, final, accepted, steps, rejection⟩
    | _, _, _, _, _, _ => none
  | _ => none

def parse? (s : String) : Option Trace := (Json.parse? s).bind ofJson?

end Trace

end Acceptor
