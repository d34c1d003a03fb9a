import Acceptor.Catalog
import Acceptor.Json.Reader
import Acceptor.Json.Record

/-! The JSON form of definitions, named definitions and catalogs. States are numbers below
`2^32`; as names of table rows they are spelled in plain decimal digits. -/
namespace Acceptor

namespace State

def toJson (s : State) : Json := .ofNat s.toNat

def ofNat? (n : Nat) : Option State := if n < UInt32.size then some (.ofNat n) else none

def ofJson? (v : Json) : Option State := v.toNat?.bind ofNat?

theorem ofNat?_toNat (s : State) : ofNat? s.toNat = some s := by
  simp [ofNat?, UInt32.toNat_lt_size s]

@[simp] theorem ofJson?_toJson (s : State) : ofJson? (toJson s) = some s := by
  simp [ofJson?, toJson, ofNat?_toNat]

/-- A row is named by the decimal digits of its state. -/
def rowName (s : State) : String := s.toNat.repr

/-- The character that a glyph shows without any escape. -/
def plain? : Glyph → Option Char
  | .plain c => some c
  | _ => none

/-- Row names are spelled as natural numbers are: no sign, no leading zero, no escape. -/
def ofRowName? (t : List Glyph) : Option State :=
  match (t.mapM plain?).bind Numeral.readWhole with
  | some (ds, []) => ofNat? (Numeral.ofDigits ds)
  | _ => none

end State

namespace SortedSet

def toJson {α : Type} [LT α] (f : α → Json) (s : SortedSet α) : Json := .arr (s.toList.map f)

/-- Elements may come in any order and more than once. -/
def ofJson? {α : Type} [LT α] [DecidableLT α] [LE α] [Std.IsLinearOrder α]
    [Std.LawfulOrderLT α] (f : Json → Option α) (v : Json) : Option (SortedSet α) :=
  (v.toList? f).map ofList

end SortedSet

namespace Table

def rowToJson (row : SortedMap String State) : Json :=
  .record (row.entries.map fun e => (e.1, State.toJson e.2))

def toJson (t : Table) : Json :=
  .record (t.entries.map fun e => (State.rowName e.1, rowToJson e.2))

def entry? (m : List Glyph × Json) : Option (String × State) :=
  match Glyph.toString? m.1, State.ofJson? m.2 with
  | some x, some t => some (x, t)
  | _, _ => none

/-- Of two entries for one symbol the later counts. -/
def row? : Json → Option (SortedMap String State)
  | .obj members => (members.mapM entry?).map .ofList
  | _ => none

def namedRow? (m : List Glyph × Json) : Option (State × SortedMap String State) :=
  match State.ofRowName? m.1, row? m.2 with
  | some s, some row => some (s, row)
  | _, _ => none

/-- Of two rows for one state the later counts, as a whole. -/
def ofJson? : Json → Option Table
  | .obj members => (members.mapM namedRow?).map .ofList
  | _ => none

end Table

namespace Definition

def fieldNames : List String :=
  ["states", "alphabet", "transitions", "start_state", "final_states", "trap_states"]

def toJson (d : Definition) : Json :=
  .record [
    ("states", d.states.toJson State.toJson),
    ("alphabet", d.alphabet.toJson Json.ofString),
    ("transitions", Table.toJson d.transitions),
    ("start_state", State.toJson d.startState),
    ("final_states", d.finalStates.toJson State.toJson),
    ("trap_states", d.trapStates.toJson State.toJson)]

/-- Final and trap states may be left out, but not given as `null`. -/
def statesOrNone? : Option Json → Option (SortedSet State)
  | none => some ∅
  | some v => SortedSet.ofJson? State.ofJson? v

def ofJson? (v : Json) : Option Definition :=
  match v.fields? fieldNames 4 with
  | some [some states, some alphabet, some transitions, some start, finals, traps] =>
    match SortedSet.ofJson? State.ofJson? states, SortedSet.ofJson? Json.toString? alphabet,
      Table.ofJson? transitions, State.ofJson? start, statesOrNone? finals,
      statesOrNone? traps with
    | some states, some alphabet, some transitions, some start, some finals, some traps =>
      some ⟨states, alphabet, transitions, start, finals, traps⟩
    | _, _, _, _, _, _ => none
  | _ => none

def parse? (s : String) : Option Definition := (Json.parse? s).bind ofJson?

end Definition

namespace NamedDefinition

def fieldNames : List String := ["name", "description", "definition"]

def toJson (n : NamedDefinition) : Json :=
  .record [
    ("name", .ofString n.name),
    ("description", .ofOption Json.ofString n.description),
    ("definition", n.definition.toJson)]

/-- A description may be left out or be `null`. -/
def description? : Option Json → Option (Option String)
  | none => some none
  | some v => v.toOption? Json.toString?

def ofJson? (v : Json) : Option NamedDefinition :=
  match v.fields? fieldNames 3 with
  | some [some name, description, some definition] =>
    match name.toString?, description? description, Definition.ofJson? definition with
    | some name, some description, some definition => some ⟨name, description, definition⟩
    | _, _, _ => none
  | _ => none

def parse? (s : String) : Option NamedDefinition := (Json.parse? s).bind ofJson?

end NamedDefinition

namespace Catalog

def fieldNames : List String := ["automata"]

def toJson (c : Catalog) : Json :=
  .record [("automata", .arr (c.automata.map NamedDefinition.toJson))]

/-- A catalog without its list is empty. -/
def ofJson? (v : Json) : Option Catalog :=
  match v.fields? fieldNames 0 with
  | some [none] => some empty
  | some [some automata] => (automata.toList? NamedDefinition.ofJson?).map Catalog.mk
  | _ => none

def parse? (s : String) : Option Catalog := (Json.parse? s).bind ofJson?

end Catalog

end Acceptor
