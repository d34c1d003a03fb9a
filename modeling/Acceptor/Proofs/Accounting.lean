import Acceptor.Proofs.Loading
import Acceptor.Proofs.PropertiesText

/-! The accounts of a registry. Of every definition that is offered one event tells, and what the
events tell is what became of it: the errors that are answered, the entries that went in and the
log are kept in step (`exists_ledger`), over a list and over one list after another. -/
namespace Acceptor

/-- An event as it is logged. -/
structure Event.Shows (e : Event) (level : Level) (label : String)
    (fields : List (String × Json)) : Prop where
  level : e.level = level
  label : e.label = label
  fields : e.fields = fields

theorem Definition.size_alphabet_of_build {d : Definition} {a : Automaton}
    (built : d.build = .ok a) : a.alphabet.size = d.alphabet.size := by
  have symbols := a.toList_alphabet_toDefinition
  rw [toDefinition_of_build built] at symbols
  rw [SortedSet.size, SortedSet.size, symbols, List.length_map]

theorem Definition.states_of_build {d : Definition} {a : Automaton} (built : d.build = .ok a) :
    a.states = d.states := by
  obtain ⟨-, rfl⟩ := (build_eq_ok_iff d a).1 built
  rfl

namespace Registry

section

variable (r : Registry) (stamp : String) (n : NamedDefinition)

/-- What is logged and answered of a definition, by what becomes of it. -/
inductive Records (event : Event) : Option RegistryError → Prop
  | goesIn {a : Automaton} (free : r.find? n.name = none) (built : n.definition.build = .ok a)
      (shows : event.Shows .info "automaton_registered"
        [("automaton", .ofString n.name), ("states", .ofNat n.definition.states.size),
          ("symbols", .ofNat n.definition.alphabet.size)]) : Records event none
  | duplicate {e : Entry} (held : r.find? n.name = some e)
      (shows : event.Shows .warn "automaton_duplicate_name" [("automaton", .ofString n.name)]) :
      Records event (some (.duplicateName n.name))
  | construction {cause : BuildError} (free : r.find? n.name = none)
      (refused : n.definition.build = .error cause)
      (shows : event.Shows .error "automaton_construction_failed"
        [("automaton", .ofString n.name), ("error", .ofString cause.message)]) :
      Records event (some (.construction n.name cause))

theorem Records.level_eq_info_iff {r : Registry} {n : NamedDefinition} {event : Event}
    {error : Option RegistryError} (records : r.Records n event error) :
    event.level = .info ↔ error = none := by
  cases records with
  | goesIn _ _ shows => simp [shows.level]
  | duplicate _ shows => simp [shows.level]
  | construction _ _ shows => simp [shows.level]

theorem register_records : ∃ event, (r.register stamp n).log = [event] ∧
    r.Records n event (failure? (r.register stamp n).value) := by
  cases held : r.find? n.name with
  | some e =>
    rw [register_of_held held]
    exact ⟨_, rfl, .duplicate held ⟨rfl, rfl, rfl⟩⟩
  | none =>
    cases built : n.definition.build with
    | error cause =>
      rw [register_of_error held built]
      exact ⟨_, rfl, .construction held built ⟨rfl, rfl, rfl⟩⟩
    | ok a =>
      rw [register_of_ok held built, Definition.size_alphabet_of_build built,
        Definition.states_of_build built]
      exact ⟨_, rfl, .goesIn held built ⟨rfl, rfl, rfl⟩⟩

/-- A registration that does not fail makes the registry longer by one entry. -/
theorem size_register : (r.register stamp n).registry.size =
    r.size + if failure? (r.register stamp n).value = none then 1 else 0 := by
  cases held : r.find? n.name with
  | some e =>
    rw [register_of_held held]
    rfl
  | none =>
    cases built : n.definition.build with
    | error cause =>
      rw [register_of_error held built]
      rfl
    | ok a =>
      rw [register_of_ok held built]
      exact r.entries.size_insert_of_none held _

theorem size_registerAll (l : List NamedDefinition) : (r.registerAll stamp l).registry.size =
    r.size + (r.registerAll stamp l).log.countP (·.level = .info) := by
  induction l generalizing r with
  | nil => rfl
  | cons n l ih =>
    obtain ⟨event, logged, records⟩ := r.register_records stamp n
    rw [registerAll, ih, size_register, logged, List.singleton_append, List.countP_cons]
    simp only [decide_eq_true_eq, records.level_eq_info_iff]
    omega

/-- A definition is an entry more or an error more. -/
theorem balance_register : r.size + 1 =
    (r.register stamp n).registry.size + (failure? (r.register stamp n).value).toList.length := by
  rw [size_register]
  cases failure? (r.register stamp n).value <;> simp

theorem balance_registerAll (l : List NamedDefinition) : r.size + l.length =
    (r.registerAll stamp l).registry.size + (r.registerAll stamp l).value.length := by
  induction l generalizing r with
  | nil => rfl
  | cons n l ih =>
    have first := r.balance_register stamp n
    have others := ih (r.register stamp n).registry
    simp only [registerAll, List.length_cons, List.length_append]
    omega

/-- Event and error of each definition, with the registry as it was when its turn came. -/
theorem exists_ledger (l : List NamedDefinition) : ∃ ledger : List (Event × Option RegistryError),
    ledger.length = l.length ∧
    (r.registerAll stamp l).log = ledger.map Prod.fst ∧
    (r.registerAll stamp l).value = ledger.filterMap Prod.snd ∧
    ∀ i n, l[i]? = some n → ∃ event error, ledger[i]? = some (event, error) ∧
      (r.registerAll stamp (l.take i)).registry.Records n event error := by
  induction l generalizing r with
  | nil => exact ⟨[], rfl, rfl, rfl, by simp⟩
  | cons n l ih =>
    obtain ⟨event, logged, records⟩ := r.register_records stamp n
    obtain ⟨ledger, length, log, errors, each⟩ := ih (r.register stamp n).registry
    refine ⟨(event, failure? (r.register stamp n).value) :: ledger, ?_, ?_, ?_, ?_⟩
    · rw [List.length_cons, length, List.length_cons]
    · rw [registerAll, logged, log]
      rfl
    · rw [registerAll, errors, List.filterMap_cons]
      cases failure? (r.register stamp n).value <;> rfl
    · intro i m atIndex
      cases i with
      | zero =>
        obtain rfl : n = m := by simpa using atIndex
        exact ⟨event, _, rfl, records⟩
      | succ i => exact each i m atIndex

theorem registerAll_append (xs ys : List NamedDefinition) :
    let first := r.registerAll stamp xs
    let second := first.registry.registerAll stamp ys
    r.registerAll stamp (xs ++ ys) =
      ⟨first.value ++ second.value, second.registry, first.log ++ second.log⟩ := by
  intro first second
  induction xs generalizing r with
  | nil => rfl
  | cons n xs ih =>
    rw [List.cons_append, registerAll, ih]
    simp only [first, second, registerAll, List.append_assoc]

/-- Two lists are loaded as one, at whatever times. -/
theorem registerAll_append_undated (stamp' stamp'' : String) (xs ys : List NamedDefinition) :
    let first := r.registerAll stamp' xs
    let second := first.registry.registerAll stamp'' ys
    r.undated.registerAll "" (xs ++ ys) =
      ⟨first.value ++ second.value, second.registry.undated, first.log ++ second.log⟩ := by
  intro first second
  have one : r.undated.registerAll "" xs = ⟨first.value, first.registry.undated, first.log⟩ :=
    r.registerAll_undated stamp' xs
  have two : first.registry.undated.registerAll "" ys =
      ⟨second.value, second.registry.undated, second.log⟩ :=
    first.registry.registerAll_undated stamp'' ys
  rw [registerAll_append, one, two]

end

/-- Every definition is told of by one event, in order, and the event says what became of it: it
went in, its name was taken, or it does not build. The errors answered are those of the definitions
that did not go in, and every other one is an entry more. A list that is loaded in two parts comes
to the same. -/
theorem registerAll_accounts (r : Registry) (stamp : String) (l : List NamedDefinition) :
    let loaded := r.registerAll stamp l
    (∃ ledger : List (Event × Option RegistryError), ledger.length = l.length ∧
      loaded.log = ledger.map Prod.fst ∧ loaded.value = ledger.filterMap Prod.snd ∧
      ∀ i n, l[i]? = some n → ∃ event error, ledger[i]? = some (event, error) ∧
        (r.registerAll stamp (l.take i)).registry.Records n event error) ∧
    loaded.registry.size = r.size + loaded.log.countP (·.level = .info) ∧
    r.size + l.length = loaded.registry.size + loaded.value.length ∧
    ∀ (stamp' stamp'' : String) (later : List NamedDefinition),
      let first := r.registerAll stamp' l
      let second := first.registry.registerAll stamp'' later
      let both := r.registerAll stamp (l ++ later)
      both.log = first.log ++ second.log ∧ both.value = first.value ++ second.value ∧
        both.registry.undated = second.registry.undated := by
  intro loaded
  refine ⟨r.exists_ledger stamp l, r.size_registerAll stamp l, r.balance_registerAll stamp l, ?_⟩
  intro stamp' stamp'' later first second both
  have parts := r.registerAll_append_undated stamp' stamp'' l later
  have whole := r.registerAll_undated stamp (l ++ later)
  obtain ⟨errors, registry, log⟩ := Outcome.mk.inj (whole.symm.trans parts)
  exact ⟨log, errors, registry⟩

/-- One definition is misplaced, one has a name that is taken, and one goes in. -/
theorem stocked_mixed_accounts :
    let loaded := stocked.registerAll "later" mixed.automata
    mixed.automata[1]? = some Catalog.bets ∧
    (∃ event error, loaded.log[1]? = some event ∧
      (stocked.registerAll "later" (mixed.automata.take 1)).registry.Records Catalog.bets event
        error) ∧
    loaded.log.map Event.level = [.error, .warn, .info] ∧
    loaded.registry.size = stocked.size + 1 ∧ stocked.size + 3 = loaded.registry.size + 2 := by
  intro loaded
  obtain ⟨⟨ledger, -, log, -, each⟩, size, balance, -⟩ :=
    registerAll_accounts stocked "later" mixed.automata
  obtain ⟨event, error, atIndex, records⟩ := each 1 Catalog.bets rfl
  have second : loaded.log[1]? = some event := by
    rw [log, List.getElem?_map, atIndex, Option.map_some]
  have levels : loaded.log.map Event.level = [.error, .warn, .info] := by decide +kernel
  have infos : (loaded.log.map Event.level).countP (· = .info) = 1 := by rw [levels]; rfl
  have offered : mixed.automata.length = 3 := rfl
  have taken : mixed.automata[1]? = some Catalog.bets := rfl
  simp only [List.countP_map, Function.comp_def] at infos
  rw [infos] at size
  rw [offered] at balance
  have grown : loaded.registry.size = stocked.size + 1 := size
  have balanced : stocked.size + 3 = loaded.registry.size + loaded.value.length := balance
  refine ⟨taken, ⟨event, error, second, records⟩, levels, grown, ?_⟩
  omega

end Registry

end Acceptor
