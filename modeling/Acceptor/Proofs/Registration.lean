import Acceptor.Registry.Basic

/-! What an operation does, with one equation for each way it can go, and what it adds to the
lookups of a registry. A lookup that has an answer keeps it; one that has none is answered by the
first definition of the name that builds. Duplicates and failed constructions need no mention in
the equations for lookups: they add nothing. -/
namespace Acceptor

/-- The entry that a definition makes under `name`, if that is its name and if it builds. -/
def NamedDefinition.entry? (stamp name : String) (n : NamedDefinition) : Option Entry :=
  if n.name = name then
    match n.definition.build with
    | .error _ => none
    | .ok a => some ⟨n.name, n.description, a, stamp⟩
  else none

namespace Registry

@[simp] theorem find?_empty (name : String) : (∅ : Registry).find? name = none := rfl

theorem mem_names_iff (r : Registry) (name : String) : name ∈ r.names ↔ (r.find? name).isSome :=
  r.entries.mem_keys_iff name

theorem find?_insert (r : Registry) (e : Entry) (key name : String) :
    (⟨r.entries.insert key e⟩ : Registry).find? name =
      if name = key then some e else r.find? name :=
  SortedMap.find?_insert ..

section

variable {r : Registry} {stamp : String} {n : NamedDefinition}

theorem register_of_held {e : Entry} (held : r.find? n.name = some e) :
    r.register stamp n = ⟨.error (.duplicateName n.name), r, [.duplicateName n.name]⟩ :=
  if_pos (Option.isSome_of_eq_some held)

theorem register_of_error {cause : BuildError} (free : r.find? n.name = none)
    (refused : n.definition.build = .error cause) :
    r.register stamp n =
      ⟨.error (.construction n.name cause), r, [.constructionFailed n.name cause]⟩ := by
  have taken : ¬ r.entries.contains n.name = true := Option.not_isSome_iff_eq_none.2 free
  rw [register, if_neg taken, refused]

theorem register_of_ok {a : Automaton} (free : r.find? n.name = none)
    (built : n.definition.build = .ok a) :
    r.register stamp n =
      ⟨.ok ⟨n.name, n.description, a, stamp⟩,
        ⟨r.entries.insert n.name ⟨n.name, n.description, a, stamp⟩⟩,
        [.registered n.name a.states.size a.alphabet.size]⟩ := by
  have taken : ¬ r.entries.contains n.name = true := Option.not_isSome_iff_eq_none.2 free
  rw [register, if_neg taken, built]

end

theorem find?_register (r : Registry) (stamp : String) (n : NamedDefinition) (name : String) :
    (r.register stamp n).registry.find? name = (r.find? name).or (n.entry? stamp name) := by
  unfold NamedDefinition.entry?
  cases held : r.find? n.name with
  | some e =>
    rw [register_of_held held]
    by_cases same : n.name = name
    · subst same
      simp [held]
    · simp [same]
  | none =>
    cases built : n.definition.build with
    | error cause =>
      rw [register_of_error held built]
      simp
    | ok a =>
      rw [register_of_ok held built, find?_insert]
      by_cases same : n.name = name
      · subst same
        simp [held]
      · simp [same, Ne.symm same]

theorem find?_registerAll (r : Registry) (stamp : String) (l : List NamedDefinition)
    (name : String) :
    (r.registerAll stamp l).registry.find? name =
      (r.find? name).or (l.findSome? (NamedDefinition.entry? stamp name)) := by
  induction l generalizing r with
  | nil => simp [registerAll]
  | cons n l ih =>
    rw [registerAll, ih, find?_register, Option.or_assoc, List.findSome?_cons]
    cases n.entry? stamp name <;> rfl

theorem readCatalog_eq_ok_iff {content : Option Text.Bytes} {catalog : Catalog} :
    readCatalog content = .ok catalog ↔ ∃ bytes text, content = some bytes ∧
      Text.ofUtf8? bytes = some text ∧ Catalog.parse? text = some catalog := by
  cases content with
  | none => simp [readCatalog]
  | some bytes =>
    cases read : Text.ofUtf8? bytes with
    | none => simp [readCatalog, read]
    | some text => cases parsed : Catalog.parse? text <;> simp [readCatalog, read, parsed]

section

variable {r : Registry} {stamp path : String} {content : Option Text.Bytes}

theorem loadFile_of_error {e : RegistryError} (failed : readCatalog content = .error e) :
    r.loadFile stamp path content = ⟨.error e, r, []⟩ := by
  rw [loadFile, failed]

theorem loadFile_of_ok {catalog : Catalog} (read : readCatalog content = .ok catalog) :
    r.loadFile stamp path content = ⟨.ok (r.registerAll stamp catalog.automata).value,
      (r.registerAll stamp catalog.automata).registry,
      .fileLoaded path catalog.automata.length :: (r.registerAll stamp catalog.automata).log⟩ := by
  rw [loadFile, read]

end

theorem find?_loadFile (r : Registry) (stamp path : String) (content : Option Text.Bytes)
    (name : String) :
    (r.loadFile stamp path content).registry.find? name =
      match readCatalog content with
      | .error _ => r.find? name
      | .ok catalog =>
        (r.find? name).or (catalog.automata.findSome? (NamedDefinition.entry? stamp name)) := by
  cases read : readCatalog content with
  | error e => rw [loadFile_of_error read]
  | ok catalog =>
    rw [loadFile_of_ok read]
    exact r.find?_registerAll stamp catalog.automata name

end Registry

end Acceptor
