import Acceptor.Format.Definition
import Acceptor.Proofs.Json.Fields

/-! Texts of definitions, of named definitions and of catalogs: what is written is read back as
it was, valid or not. -/
namespace Acceptor

namespace State

theorem ofRowName?_rowName (s : State) : ofRowName? (Glyph.ofString (rowName s)) = some s := by
  have plain : (Nat.toDigits 10 s.toNat).map Glyph.ofChar =
      (Nat.toDigits 10 s.toNat).map Glyph.plain :=
    List.map_congr_left fun d mem =>
      Glyph.ofChar_eq_plain (Glyph.legible_of_isDigit (Numeral.isDigit_of_mem_toDigits mem))
  have spelled : ((Nat.toDigits 10 s.toNat).map Glyph.plain).mapM plain? =
      some (Nat.toDigits 10 s.toNat) :=
    mapM_map_eq_self fun d _ => rfl
  have stop : ∀ c ∈ ([] : List Char).head?, c.isDigit = false := nofun
  have whole := Numeral.readWhole_toDigits s.toNat stop
  rw [List.append_nil] at whole
  rw [ofRowName?, rowName, Glyph.ofString, Nat.toList_repr, plain, spelled, Option.bind_some, whole]
  dsimp only
  rw [Numeral.ofDigits_eq, Nat.ofDigitChars_ten_toDigits, ofNat?_toNat]

theorem legible_toJson (s : State) : (toJson s).Legible := Json.legible_ofNat s.toNat

end State

theorem SortedSet.ofJson?_toJson {α : Type} [LT α] [DecidableLT α] [LE α] [Std.IsLinearOrder α]
    [Std.LawfulOrderLT α] {f : α → Json} {g : Json → Option α} (inverse : ∀ a, g (f a) = some a)
    (s : SortedSet α) : SortedSet.ofJson? g (s.toJson f) = some s := by
  rw [ofJson?, toJson, Json.toList?_arr_map inverse, Option.map_some, ofList_toList]

theorem SortedSet.legible_toJson {α : Type} [LT α] {f : α → Json} (each : ∀ a, (f a).Legible)
    (s : SortedSet α) : (s.toJson f).Legible :=
  Json.legible_arr_map fun a _ => each a

namespace Table

theorem row?_rowToJson (row : SortedMap String State) : row? (rowToJson row) = some row := by
  have read : (row.entries.map fun e => (Glyph.ofString e.1, State.toJson e.2)).mapM entry? =
      some row.entries :=
    mapM_map_eq_self fun e _ => by
      unfold entry?
      simp
  simp only [rowToJson, Json.record, row?, List.map_map, Function.comp_def, read, Option.map_some,
    SortedMap.ofList_entries]

theorem ofJson?_toJson (t : Table) : ofJson? (toJson t) = some t := by
  have read : (t.entries.map fun e => (Glyph.ofString (State.rowName e.1), rowToJson e.2)).mapM
      namedRow? = some t.entries :=
    mapM_map_eq_self fun e _ => by simp [namedRow?, State.ofRowName?_rowName, row?_rowToJson]
  simp only [toJson, Json.record, ofJson?, List.map_map, Function.comp_def, read, Option.map_some,
    SortedMap.ofList_entries]

theorem legible_toJson (t : Table) : (toJson t).Legible := by
  refine Json.legible_record fun m mem => ?_
  obtain ⟨row, -, rfl⟩ := List.mem_map.1 mem
  refine Json.legible_record fun m mem => ?_
  obtain ⟨e, -, rfl⟩ := List.mem_map.1 mem
  exact State.legible_toJson e.2

end Table

namespace Definition

theorem ofJson?_toJson (d : Definition) : ofJson? d.toJson = some d := by
  have fields := Json.fields?_record_all [
    ("states", d.states.toJson State.toJson),
    ("alphabet", d.alphabet.toJson Json.ofString),
    ("transitions", Table.toJson d.transitions),
    ("start_state", State.toJson d.startState),
    ("final_states", d.finalStates.toJson State.toJson),
    ("trap_states", d.trapStates.toJson State.toJson)] (by simp) 4
  simp only [List.map_cons, List.map_nil] at fields
  simp only [ofJson?, toJson, fieldNames, fields, statesOrNone?, Table.ofJson?_toJson,
    State.ofJson?_toJson, SortedSet.ofJson?_toJson State.ofJson?_toJson,
    SortedSet.ofJson?_toJson Json.toString?_ofString]

theorem legible_toJson (d : Definition) : d.toJson.Legible := by
  have states := SortedSet.legible_toJson State.legible_toJson
  refine Json.legible_record ?_
  simp only [List.forall_mem_cons]
  exact ⟨states d.states, SortedSet.legible_toJson Json.legible_ofString d.alphabet,
    Table.legible_toJson d.transitions, State.legible_toJson d.startState,
    states d.finalStates, states d.trapStates, by simp⟩

theorem parse?_write (d : Definition) (l : Json.Layout) : parse? (d.toJson.write l) = some d :=
  Json.decode_write l d.legible_toJson d.ofJson?_toJson

end Definition

namespace NamedDefinition

theorem ofJson?_toJson (n : NamedDefinition) : ofJson? n.toJson = some n := by
  have fields := Json.fields?_record_all [
    ("name", .ofString n.name),
    ("description", .ofOption Json.ofString n.description),
    ("definition", n.definition.toJson)] (by simp) 3
  simp only [List.map_cons, List.map_nil] at fields
  have description : description? (some (.ofOption Json.ofString n.description)) =
      some n.description :=
    Json.toOption?_ofOption (fun x _ => Json.toString?_ofString x) nofun
  simp only [ofJson?, toJson, fieldNames, fields, Json.toString?_ofString, description,
    Definition.ofJson?_toJson]

theorem legible_toJson (n : NamedDefinition) : n.toJson.Legible := by
  refine Json.legible_record ?_
  simp only [List.forall_mem_cons]
  exact ⟨Json.legible_ofString n.name, Json.legible_ofOption Json.legible_ofString n.description,
    n.definition.legible_toJson, by simp⟩

theorem parse?_write (n : NamedDefinition) (l : Json.Layout) : parse? (n.toJson.write l) = some n :=
  Json.decode_write l n.legible_toJson n.ofJson?_toJson

end NamedDefinition

namespace Catalog

theorem ofJson?_toJson (c : Catalog) : ofJson? c.toJson = some c := by
  have fields := Json.fields?_record_all [
    ("automata", .arr (c.automata.map NamedDefinition.toJson))] (by simp) 0
  simp only [List.map_cons, List.map_nil] at fields
  simp only [ofJson?, toJson, fieldNames, fields,
    Json.toList?_arr_map NamedDefinition.ofJson?_toJson, Option.map_some]

theorem legible_toJson (c : Catalog) : c.toJson.Legible := by
  refine Json.legible_record ?_
  simp only [List.forall_mem_cons]
  exact ⟨Json.legible_arr_map fun n _ => n.legible_toJson, by simp⟩

theorem parse?_write (c : Catalog) (l : Json.Layout) : parse? (c.toJson.write l) = some c :=
  Json.decode_write l c.legible_toJson c.ofJson?_toJson

end Catalog

/-- Writing and reading back changes nothing, in either layout: not for a catalog, not for a named
definition, not for a definition alone. So a text belongs to one definition. -/
theorem definition_texts_read_back :
    (∀ c : Catalog, Catalog.parse? c.toJson.compact = some c ∧
      Catalog.parse? c.toJson.pretty = some c) ∧
    (∀ n : NamedDefinition, NamedDefinition.parse? n.toJson.compact = some n ∧
      NamedDefinition.parse? n.toJson.pretty = some n) ∧
    (∀ d : Definition, Definition.parse? d.toJson.compact = some d ∧
      Definition.parse? d.toJson.pretty = some d) ∧
    ∀ d e : Definition, (d.toJson.compact = e.toJson.compact ↔ d = e) ∧
      (d.toJson.pretty = e.toJson.pretty ↔ d = e) := by
  refine ⟨fun c => ⟨c.parse?_write _, c.parse?_write _⟩,
    fun n => ⟨n.parse?_write _, n.parse?_write _⟩,
    fun d => ⟨d.parse?_write _, d.parse?_write _⟩, fun d e => ?_⟩
  have apart := fun l => Json.write_inj l (fun d => Definition.parse?_write d l) d e
  exact ⟨apart _, apart _⟩

end Acceptor
