import Acceptor.Json.Range

/-! Reading records: an object with named members, or an array of the fields in order. Other
members of the object are passed over; a field must not be given twice. -/
namespace Acceptor

namespace Json

/-- Members with their names read; a name that is no text spoils the object. -/
def named? (members : List (List Glyph × Json)) : Option (List (String × Json)) :=
  members.mapM fun m => (Glyph.toString? m.1).map fun k => (k, m.2)

/-- The value of a field: absent, or given once. -/
def single? (members : List (String × Json)) (field : String) : Option (Option Json) :=
  match members.filter fun m => m.1 = field with
  | [] => some none
  | [m] => some (some m.2)
  | _ => none

/-- The values of the fields in order. An array may leave out fields at its end, but none of
the first `required`. -/
def fields? (fields : List String) (required : Nat) : Json → Option (List (Option Json))
  | .obj members =>
    match named? members with
    | none => none
    | some members => fields.mapM (single? members)
  | .arr items =>
    if required ≤ items.length ∧ items.length ≤ fields.length then
      some (items.map some ++ List.replicate (fields.length - items.length) none)
    else none
  | _ => none

mutual

/-- Every text is well formed and every number is below infinity in double precision: what
has to hold of a value that is kept aside before its parts are looked at. -/
def keepable : Json → Bool
  | .num n => n.fitsDouble
  | .str t => (Glyph.toString? t).isSome
  | .arr items => keepableItems items
  | .obj members => keepableMembers members
  | _ => true

def keepableItems : List Json → Bool
  | [] => true
  | v :: rest => keepable v && keepableItems rest

def keepableMembers : List (List Glyph × Json) → Bool
  | [] => true
  | (k, v) :: rest => (Glyph.toString? k).isSome && keepable v && keepableMembers rest

end

end Json

end Acceptor
