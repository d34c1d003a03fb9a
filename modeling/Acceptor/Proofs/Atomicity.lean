import Acceptor.Proofs.DefinitionText
import Acceptor.Proofs.Registration

/-! What a failure leaves behind. A definition that is refused leaves the registry as it is, and so
does a file that is no catalog; a file that is one goes in definition by definition. Registries are
compared without the times of registration, which decide nothing (`registerAll_undated`). -/
namespace Acceptor

def Entry.undated (e : Entry) : Entry := { e with registeredAt := "" }

namespace Registry

variable (r : Registry) (stamp : String) (n : NamedDefinition)

/-- Why a definition is refused. A name that is taken is the reason even if there is another. -/
inductive Refuses : RegistryError → Prop
  | duplicate {e : Entry} (held : r.find? n.name = some e) : Refuses (.duplicateName n.name)
  | construction {cause : BuildError} (free : r.find? n.name = none)
      (refused : n.definition.build = .error cause) : Refuses (.construction n.name cause)

theorem value_register_eq_error_iff (e : RegistryError) :
    (r.register stamp n).value = .error e ↔ r.Refuses n e := by
  constructor
  · intro failed
    cases held : r.find? n.name with
    | some entry =>
      rw [register_of_held held] at failed
      cases failed
      exact .duplicate held
    | none =>
      cases built : n.definition.build with
      | error cause =>
        rw [register_of_error held built] at failed
        cases failed
        exact .construction held built
      | ok a =>
        rw [register_of_ok held built] at failed
        contradiction
  · intro refuses
    cases refuses with
    | duplicate held => rw [register_of_held held]
    | construction free refused => rw [register_of_error free refused]

theorem registry_register_of_refuses {e : RegistryError} (refuses : r.Refuses n e) :
    (r.register stamp n).registry = r := by
  cases refuses with
  | duplicate held => rw [register_of_held held]
  | construction free refused => rw [register_of_error free refused]

theorem Refuses.eq_duplicateName_iff {r : Registry} {n : NamedDefinition} {e : RegistryError}
    (refuses : r.Refuses n e) :
    e = .duplicateName n.name ↔ ∃ entry, r.find? n.name = some entry := by
  cases refuses with
  | duplicate held => exact ⟨fun _ => ⟨_, held⟩, fun _ => rfl⟩
  | construction free refused => simp [free]

/-- Why a file is not loaded. -/
inductive Unloadable : Option Text.Bytes → RegistryError → Prop
  | missing : Unloadable none (.unreadable .notFound)
  | garbled {bytes : Text.Bytes} (unreadable : Text.ofUtf8? bytes = none) :
      Unloadable (some bytes) (.unreadable .notUtf8)
  | malformed {bytes : Text.Bytes} {text : String} (read : Text.ofUtf8? bytes = some text)
      (refused : Catalog.parse? text = none) : Unloadable (some bytes) .notACatalog

theorem readCatalog_eq_error_iff {content : Option Text.Bytes} {e : RegistryError} :
    readCatalog content = .error e ↔ Unloadable content e := by
  constructor
  · intro failed
    unfold readCatalog at failed
    split at failed
    · cases failed
      exact .missing
    next bytes =>
    split at failed
    next unreadable =>
      cases failed
      exact .garbled unreadable
    next text read =>
    split at failed
    next refused =>
      cases failed
      exact .malformed read refused
    next => contradiction
  · intro unloadable
    cases unloadable with
    | missing => rfl
    | garbled unreadable => simp [readCatalog, unreadable]
    | malformed read refused => simp [readCatalog, read, refused]

section Undated

def undated : Registry := ⟨r.entries.mapValues Entry.undated⟩

theorem find?_undated (name : String) :
    r.undated.find? name = (r.find? name).map Entry.undated :=
  SortedMap.find?_mapValues ..

theorem ext_find? {r r' : Registry} (same : ∀ name, r.find? name = r'.find? name) : r = r' := by
  cases r
  cases r'
  exact congrArg Registry.mk (SortedMap.ext same)

theorem undated_insert (key : String) (e : Entry) :
    (⟨r.entries.insert key e⟩ : Registry).undated = ⟨r.undated.entries.insert key e.undated⟩ := by
  apply ext_find?
  intro name
  simp only [find?_undated, find?_insert]
  split <;> rfl

/-- A registration goes the same way at any time, and whatever the times before it. -/
theorem register_undated :
    (r.undated.register "" n).registry = (r.register stamp n).registry.undated ∧
    failure? (r.undated.register "" n).value = failure? (r.register stamp n).value ∧
    (r.undated.register "" n).log = (r.register stamp n).log := by
  have lookup := r.find?_undated n.name
  cases held : r.find? n.name with
  | some e =>
    rw [held] at lookup
    rw [register_of_held held, register_of_held lookup]
    exact ⟨rfl, rfl, rfl⟩
  | none =>
    rw [held] at lookup
    cases built : n.definition.build with
    | error cause =>
      rw [register_of_error held built, register_of_error lookup built]
      exact ⟨rfl, rfl, rfl⟩
    | ok a =>
      rw [register_of_ok held built, register_of_ok lookup built, undated_insert]
      exact ⟨rfl, rfl, rfl⟩

theorem registerAll_undated (l : List NamedDefinition) :
    r.undated.registerAll "" l = ⟨(r.registerAll stamp l).value,
      (r.registerAll stamp l).registry.undated, (r.registerAll stamp l).log⟩ := by
  induction l generalizing r with
  | nil => rfl
  | cons n l ih =>
    obtain ⟨registry, failure, log⟩ := r.register_undated stamp n
    simp only [registerAll, registry, failure, log, ih]

end Undated

section LoadFile

variable {r stamp} {path : String} {content : Option Text.Bytes}

theorem value_loadFile_eq_error_iff {e : RegistryError} :
    (r.loadFile stamp path content).value = .error e ↔ Unloadable content e := by
  rw [← readCatalog_eq_error_iff]
  cases read : readCatalog content with
  | error cause => simp [loadFile_of_error read]
  | ok catalog => simp [loadFile_of_ok read]

end LoadFile

/-- A registration that fails changes nothing, and neither does a file that is not loaded. What
comes of a file that is loaded is what comes of its definitions one after the other. -/
theorem failures_change_nothing (r : Registry) (stamp : String) :
    (∀ n e, ((r.register stamp n).value = .error e ↔ r.Refuses n e) ∧
      ((r.register stamp n).value = .error e →
        (r.register stamp n).registry = r ∧
        (e = .duplicateName n.name ↔ ∃ entry, r.find? n.name = some entry))) ∧
    ∀ path content,
      (∀ e, ((r.loadFile stamp path content).value = .error e ↔ Unloadable content e) ∧
        ((r.loadFile stamp path content).value = .error e →
          (r.loadFile stamp path content).registry = r ∧
          (r.loadFile stamp path content).log = [])) ∧
      ∀ errors, (r.loadFile stamp path content).value = .ok errors →
        ∃ bytes text catalog, content = some bytes ∧ Text.ofUtf8? bytes = some text ∧
          Catalog.parse? text = some catalog ∧
          ∀ stamp', errors = (r.registerAll stamp' catalog.automata).value ∧
            (r.loadFile stamp path content).registry.undated =
              (r.registerAll stamp' catalog.automata).registry.undated := by
  refine ⟨fun n e => ⟨r.value_register_eq_error_iff stamp n e, ?refused⟩,
    fun path content => ⟨fun e => ⟨value_loadFile_eq_error_iff, ?unloaded⟩, ?loaded⟩⟩
  case refused =>
    intro failed
    have refuses := (r.value_register_eq_error_iff stamp n e).1 failed
    exact ⟨r.registry_register_of_refuses stamp n refuses, refuses.eq_duplicateName_iff⟩
  case unloaded =>
    intro failed
    have unread := readCatalog_eq_error_iff.2 (value_loadFile_eq_error_iff.1 failed)
    rw [loadFile_of_error unread]
    exact ⟨rfl, rfl⟩
  case loaded =>
    intro errors loaded
    cases read : readCatalog content with
    | error e =>
      rw [loadFile_of_error read] at loaded
      contradiction
    | ok catalog =>
      rw [loadFile_of_ok read] at loaded ⊢
      cases loaded
      obtain ⟨bytes, text, found, decoded, parsed⟩ := readCatalog_eq_ok_iff.1 read
      refine ⟨bytes, text, catalog, found, decoded, parsed, fun stamp' => ?_⟩
      have now := r.registerAll_undated stamp catalog.automata
      have later := r.registerAll_undated stamp' catalog.automata
      obtain ⟨errors, registry, -⟩ := Outcome.mk.inj (now.symm.trans later)
      exact ⟨errors, registry⟩

/-- The start state is none of the states. -/
def misplaced : Definition := { Catalog.stars.definition with startState := 24 }

/-- A list that begins with a definition as it should be and goes on with a number. -/
def half : Json := .record [("automata", .arr [Catalog.bets.toJson, .ofNat 5])]

/-- One of its definitions is misplaced, one is there already, and one is new. -/
def mixed : Catalog :=
  ⟨[⟨"late", none, misplaced⟩, Catalog.bets, ⟨"late", none, Catalog.stars.definition⟩]⟩

theorem legible_half : half.Legible := by
  have items : ∀ v ∈ [Catalog.bets.toJson, .ofNat 5], Json.Legible v := by
    simp only [List.forall_mem_cons]
    exact ⟨Catalog.bets.legible_toJson, Json.legible_ofNat 5, by simp⟩
  refine Json.legible_record ?_
  simp only [List.forall_mem_cons]
  exact ⟨.arr items, by simp⟩

def stored (v : Json) : Option Text.Bytes := some v.compact.toByteArray.data.toList

theorem unloadable_half : Unloadable (stored half) .notACatalog := by
  refine .malformed (Text.ofUtf8?_toByteArray _) ?_
  rw [Catalog.parse?, Json.compact, Json.parse?_write _ legible_half]
  decide +kernel

def stocked : Registry := (withCatalog "now").registry

/-- A name that is taken, a list that is half read, and a list with failures of its own. -/
theorem stocked_failures_change_nothing :
    (stocked.register "later" ⟨"bets", none, misplaced⟩).value = .error (.duplicateName "bets") ∧
    (stocked.register "later" ⟨"bets", none, misplaced⟩).registry = stocked ∧
    (stocked.loadFile "later" "half.json" (stored half)).value = .error .notACatalog ∧
    (stocked.loadFile "later" "half.json" (stored half)).registry = stocked ∧
    (stocked.loadFile "later" "half.json" (stored half)).log = [] ∧
    (stocked.loadFile "later" "mixed.json" (stored mixed.toJson)).value =
      .ok [.construction "late" (.unknownStartState 24), .duplicateName "bets"] ∧
    (stocked.loadFile "later" "mixed.json" (stored mixed.toJson)).registry.undated =
      (stocked.registerAll "even later" mixed.automata).registry.undated := by
  obtain ⟨registers, loads⟩ := failures_change_nothing stocked "later"
  obtain ⟨entry, held⟩ : ∃ entry, stocked.find? "bets" = some entry :=
    Option.isSome_iff_exists.1 (by decide +kernel)
  have duplicate := (registers ⟨"bets", none, misplaced⟩ _).1.2 (.duplicate held)
  obtain ⟨unchanged, -⟩ := (registers _ _).2 duplicate
  have unread := ((loads "half.json" (stored half)).1 _).1.2 unloadable_half
  obtain ⟨unaltered, silent⟩ := ((loads _ _).1 _).2 unread
  have read : readCatalog (stored mixed.toJson) = .ok mixed :=
    readCatalog_eq_ok_iff.2 ⟨_, _, rfl, Text.ofUtf8?_toByteArray _, mixed.parse?_write _⟩
  have value : (stocked.loadFile "later" "mixed.json" (stored mixed.toJson)).value =
      .ok (stocked.registerAll "later" mixed.automata).value := by rw [loadFile_of_ok read]
  have errors : (stocked.registerAll "later" mixed.automata).value =
      [.construction "late" (.unknownStartState 24), .duplicateName "bets"] := by decide +kernel
  obtain ⟨bytes, text, catalog, found, decoded, parsed, same⟩ := (loads _ _).2 _ value
  have again := readCatalog_eq_ok_iff.2 ⟨bytes, text, found, decoded, parsed⟩
  obtain rfl : catalog = mixed := Except.ok.inj (again.symm.trans read)
  rw [errors] at value
  exact ⟨duplicate, unchanged, unread, unaltered, silent, value, (same "even later").2⟩

end Registry

end Acceptor
