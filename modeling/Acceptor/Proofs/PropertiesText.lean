import Acceptor.Command.Session
import Acceptor.Proofs.DefinitionText
import Acceptor.Proofs.Reconstruction
import Acceptor.Proofs.Registration

/-! An automaton is written as its definition is, character for character (`toJson_toDefinition`):
symbols stand in the same order whether they are compared as characters or as strings. So what
`describe` shows of an automaton can be read and built again. -/
namespace Acceptor

namespace Automaton

theorem toList_alphabet_toDefinition (a : Automaton) :
    a.toDefinition.alphabet.toList = a.alphabet.toList.map String.singleton := by
  refine SortedSet.toList_ofList (Ascending.map ?_ a.alphabet.ascending)
  exact fun _ _ => singleton_lt_singleton.2

theorem entries_spellRow (row : SortedMap Char State) :
    (spellRow row).entries = row.entries.map fun e => (String.singleton e.1, e.2) := by
  refine SortedMap.entries_ofList (Ascending.map ?_ row.ascending)
  exact fun _ _ => singleton_lt_singleton.2

theorem rowToJson_spellRow (row : SortedMap Char State) :
    Table.rowToJson (spellRow row) = rowToJson row := by
  rw [Table.rowToJson, rowToJson, entries_spellRow, List.map_map]
  rfl

theorem transitions_toJson_toDefinition (a : Automaton) :
    Table.toJson a.toDefinition.transitions = a.transitionsToJson := by
  rw [Table.toJson, transitionsToJson, toDefinition, SortedMap.mapValues, List.map_map]
  simp only [Function.comp_def, rowToJson_spellRow]

theorem toJson_toDefinition (a : Automaton) : a.toDefinition.toJson = a.toJson := by
  have alphabet : a.toDefinition.alphabet.toJson Json.ofString =
      a.alphabet.toJson symbolToJson := by
    rw [SortedSet.toJson, toList_alphabet_toDefinition, List.map_map]
    rfl
  rw [Definition.toJson, alphabet, transitions_toJson_toDefinition]
  rfl

/-- At whatever depth it stands, the text of an automaton is read as the definition it was built
from. -/
theorem parse?_writeAt {d : Definition} {a : Automaton} (built : d.build = .ok a)
    (l : Json.Layout) (depth : Nat) :
    Definition.parse? (.ofList (Json.writeAt l depth a.toJson)) = some d := by
  rw [← toJson_toDefinition, Definition.toDefinition_of_build built, Definition.parse?,
    Json.parse?_writeAt l depth d.legible_toJson]
  exact d.ofJson?_toJson

theorem parse?_build {a : Automaton} (obtained : ∃ d : Definition, d.build = .ok a)
    (l : Json.Layout) (depth : Nat) :
    (Definition.parse? (.ofList (Json.writeAt l depth a.toJson))).map Definition.build =
      some (.ok a) := by
  obtain ⟨d, built⟩ := obtained
  rw [parse?_writeAt built, Option.map_some, built]

end Automaton

namespace Json

/-- What stands at the end of an object: its last member, and the brace that closes it. -/
def lastMember (l : Layout) (depth : Nat) (name : String) (v : Json) : List Char :=
  Glyph.writeText (Glyph.ofString name) ++ ':' :: (l.afterColon ++
    (writeAt l (depth + 1) v ++ (l.gap depth ++ ['\x7d'])))

theorem lastMember_suffix_writeMembers (l : Layout) (depth : Nat)
    (members : List (List Glyph × Json)) (name : String) (v : Json) :
    lastMember l depth name v <:+
      writeMembers l depth (members ++ [(Glyph.ofString name, v)]) := by
  induction members with
  | nil => exact ⟨',' :: l.gap (depth + 1), by simp [writeMembers, lastMember]⟩
  | cons m members ih =>
    obtain ⟨k, w⟩ := m
    obtain ⟨before, shown⟩ := ih
    refine ⟨',' :: (l.gap (depth + 1) ++ (Glyph.writeText k ++ ':' :: (l.afterColon ++
      (writeAt l (depth + 1) w ++ before)))), ?_⟩
    simp only [List.cons_append, List.append_assoc, writeMembers, ← shown]

theorem lastMember_suffix_writeAt (l : Layout) (depth : Nat) (m : String × Json)
    (members : List (String × Json)) (name : String) (v : Json) :
    lastMember l depth name v <:+ writeAt l depth (record (m :: members ++ [(name, v)])) := by
  simp only [record, List.cons_append, List.map_cons, List.map_append, List.map_nil, writeAt]
  obtain ⟨before, shown⟩ := lastMember_suffix_writeMembers l depth
    (members.map fun m => (Glyph.ofString m.1, m.2)) name v
  refine ⟨'\x7b' :: (l.gap (depth + 1) ++ (Glyph.writeText (Glyph.ofString m.1) ++ ':' ::
    (l.afterColon ++ (writeAt l (depth + 1) m.2 ++ before)))), ?_⟩
  rw [← shown]
  simp only [List.cons_append, List.append_assoc]

end Json

/-- The text of an automaton where `describe` shows it, inside the description of an entry. -/
def Automaton.shown (a : Automaton) : String := .ofList (Json.writeAt .pretty 1 a.toJson)

theorem Entry.exists_describe_eq (e : Entry) : ∃ before, e.describe.pretty =
    before ++ "\"properties\": " ++ e.automaton.shown ++ "\n\x7d" := by
  obtain ⟨before, shown⟩ := Json.lastMember_suffix_writeAt .pretty 0 ("name", .ofString e.name)
    (e.stamped.tail) "properties" e.automaton.toJson
  refine ⟨.ofList before, ?_⟩
  have label : Glyph.writeText (Glyph.ofString "properties") = "\"properties\"".toList := by decide
  have whole : e.describe = .record (("name", .ofString e.name) :: e.stamped.tail ++
      [("properties", e.automaton.toJson)]) := rfl
  rw [whole, Json.pretty, Json.write, ← shown, ← String.toList_inj]
  simp only [Json.lastMember, label, Automaton.shown, String.toList_ofList, String.toList_append,
    List.append_assoc]
  rfl

theorem Command.describe_of_find? {r : Registry} {name : String} {e : Entry}
    (found : r.find? name = some e) :
    describe r name = .printed (e.describe.pretty ++ "\n") [] := by
  rw [describe, Registry.get, found]

/-- An automaton and the definition read off it have one text, in either layout. So the text of an
automaton that was built is read as a definition, also where `describe` prints it, and building
what was read gives the automaton again. -/
theorem properties_are_definition_text (a : Automaton) :
    a.toJson.compact = a.toDefinition.toJson.compact ∧
    a.toJson.pretty = a.toDefinition.toJson.pretty ∧
    ((∃ d : Definition, d.build = .ok a) →
      (Definition.parse? a.toJson.compact).map Definition.build = some (.ok a) ∧
      (Definition.parse? a.toJson.pretty).map Definition.build = some (.ok a) ∧
      ∀ (r : Registry) (name : String) (e : Entry), r.find? name = some e → e.automaton = a →
        ∃ before, (Command.describe r name).stdout =
            before ++ "\"properties\": " ++ a.shown ++ "\n\x7d\n" ∧
          (Definition.parse? a.shown).map Definition.build = some (.ok a)) := by
  rw [a.toJson_toDefinition]
  refine ⟨rfl, rfl, fun obtained => ?_⟩
  have again := Automaton.parse?_build obtained
  refine ⟨again .compact 0, again .pretty 0, ?_⟩
  rintro r name e found rfl
  obtain ⟨before, shown⟩ := e.exists_describe_eq
  refine ⟨before, ?_, again .pretty 1⟩
  rw [Command.describe_of_find? found, shown]
  exact String.append_assoc

/-- Its symbols are a control, a quote and a character beyond the first plane. -/
def outlandish : NamedDefinition where
  name := "outlandish"
  description := none
  definition := {
    states := .ofList [2, 10]
    alphabet := .ofList ["😀", "\"", "\x07"]
    transitions := .ofList [(10, .ofList [("😀", 2), ("\"", 10), ("\x07", 2)])]
    startState := 10
    finalStates := .ofList [2]
    trapStates := ∅ }

theorem outlandish_properties_text :
    ∃ a before, outlandish.definition.build = .ok a ∧
      a.toJson.compact = outlandish.definition.toJson.compact ∧
      (Command.describe ((∅ : Registry).register "now" outlandish).registry "outlandish").stdout =
        before ++ "\"properties\": " ++ a.shown ++ "\n\x7d\n" ∧
      (Definition.parse? a.shown).map Definition.build = some (.ok a) := by
  have built : outlandish.definition.build = .ok outlandish.definition.compile :=
    (Definition.build_eq_ok_iff _ _).2 ⟨by decide +kernel, rfl⟩
  have found : ((∅ : Registry).register "now" outlandish).registry.find? "outlandish" =
      some ⟨"outlandish", none, outlandish.definition.compile, "now"⟩ := by
    rw [Registry.register_of_ok rfl built, Registry.find?_insert]
    rfl
  obtain ⟨text, -, readable⟩ := properties_are_definition_text outlandish.definition.compile
  obtain ⟨-, -, printed⟩ := readable ⟨_, built⟩
  obtain ⟨before, stdout, again⟩ := printed _ _ _ found rfl
  rw [Definition.toDefinition_of_build built] at text
  exact ⟨_, before, built, text, stdout, again⟩

end Acceptor
