import Acceptor.Proofs.Registration

/-! Histories of a registry: any number of registrations, lists and files, one after the other.
All that they offer can be read as one list, and the registry answers every name by the first
definition in it that has the name and builds, whichever operation it came with. -/
namespace Acceptor

/-- An operation that can add entries, at the time of its stamp. -/
inductive Operation where
  | register (stamp : String) (n : NamedDefinition)
  | registerAll (stamp : String) (l : List NamedDefinition)
  | loadFile (stamp path : String) (content : Option Text.Bytes)

namespace Operation

def apply (r : Registry) : Operation → Registry
  | register stamp n => (r.register stamp n).registry
  | registerAll stamp l => (r.registerAll stamp l).registry
  | loadFile stamp path content => (r.loadFile stamp path content).registry

def stamp : Operation → String
  | register stamp _ => stamp
  | registerAll stamp _ => stamp
  | loadFile stamp _ _ => stamp

/-- A file offers all that it lists, or nothing if it cannot be read as a catalog. -/
def offered : Operation → List NamedDefinition
  | register _ n => [n]
  | registerAll _ l => l
  | loadFile _ _ content =>
    match Registry.readCatalog content with
    | .error _ => []
    | .ok catalog => catalog.automata

theorem find?_apply (op : Operation) (r : Registry) (name : String) :
    (op.apply r).find? name =
      (r.find? name).or (op.offered.findSome? (NamedDefinition.entry? op.stamp name)) := by
  cases op with
  | register stamp n => simp [apply, offered, Operation.stamp, Registry.find?_register]
  | registerAll stamp l => exact r.find?_registerAll stamp l name
  | loadFile stamp path content =>
    rw [apply, offered, Registry.find?_loadFile]
    cases Registry.readCatalog content with
    | error e => simp
    | ok catalog => rfl

end Operation

/-- Where a history begins. -/
inductive Origin where
  | empty
  | builtin (stamp : String)

namespace Origin

def registry : Origin → Registry
  | empty => ∅
  | builtin stamp => (Registry.withCatalog stamp).registry

def offered : Origin → List NamedDefinition
  | empty => []
  | builtin _ => Catalog.builtin

end Origin

structure History where
  origin : Origin
  operations : List Operation

namespace History

def registry (h : History) : Registry := h.operations.foldl Operation.apply h.origin.registry

/-- All definitions that were offered so far, in order. -/
def offered (h : History) : List NamedDefinition :=
  h.origin.offered ++ h.operations.flatMap Operation.offered

def continued (h : History) (later : List Operation) : History :=
  { h with operations := h.operations ++ later }

end History

namespace NamedDefinition

def offers (name : String) (n : NamedDefinition) : Bool :=
  n.name = name && n.definition.build.isOk

theorem offers_iff (name : String) (n : NamedDefinition) :
    n.offers name = true ↔ n.name = name ∧ ∃ a, n.definition.build = .ok a := by
  cases built : n.definition.build <;> simp [offers, built, Except.isOk, Except.toBool]

end NamedDefinition

def firstValid? (offered : List NamedDefinition) (name : String) : Option NamedDefinition :=
  offered.find? (NamedDefinition.offers name)

theorem firstValid?_append (xs ys : List NamedDefinition) (name : String) :
    firstValid? (xs ++ ys) name = (firstValid? xs name).or (firstValid? ys name) :=
  List.find?_append

/-- The entry is what the definition makes, at whatever time. -/
structure Entry.Of (e : Entry) (n : NamedDefinition) : Prop where
  name : e.name = n.name
  description : e.description = n.description
  automaton : n.definition.build = .ok e.automaton

theorem entry?_of (stamp name : String) (n : NamedDefinition) :
    Option.Rel Entry.Of (n.entry? stamp name) (if n.offers name then some n else none) := by
  unfold NamedDefinition.entry? NamedDefinition.offers
  by_cases same : n.name = name
  · cases built : n.definition.build with
    | error cause => simp [same, Except.isOk, Except.toBool]
    | ok a =>
      have made : Entry.Of ⟨n.name, n.description, a, stamp⟩ n := ⟨rfl, rfl, built⟩
      simpa [same, Except.isOk, Except.toBool] using made
  · simp [same]

theorem rel_or {α β : Type} {rel : α → β → Prop} {a a' : Option α} {b b' : Option β}
    (first : Option.Rel rel a b) (second : Option.Rel rel a' b') :
    Option.Rel rel (a.or a') (b.or b') := by
  cases first with
  | none => exact second
  | some related => exact .some related

/-- A list of definitions makes the entry of the first one that makes any. -/
theorem findSome?_entry?_of (stamp name : String) (l : List NamedDefinition) :
    Option.Rel Entry.Of (l.findSome? (NamedDefinition.entry? stamp name)) (firstValid? l name) := by
  induction l with
  | nil => exact .none
  | cons n l ih =>
    rw [← List.singleton_append, firstValid?_append, List.findSome?_append]
    refine rel_or ?_ ih
    rw [firstValid?, List.find?_singleton, List.findSome?_singleton]
    exact entry?_of stamp name n

namespace Registry

/-- Every name is answered by the first valid definition of it among those offered. -/
def Reflects (r : Registry) (offered : List NamedDefinition) : Prop :=
  ∀ name, Option.Rel Entry.Of (r.find? name) (firstValid? offered name)

section

variable {r : Registry} {offered : List NamedDefinition}

theorem Reflects.apply (reflects : r.Reflects offered) (op : Operation) :
    (op.apply r).Reflects (offered ++ op.offered) := by
  intro name
  rw [op.find?_apply, firstValid?_append]
  exact rel_or (reflects name) (findSome?_entry?_of op.stamp name op.offered)

theorem Reflects.foldl (reflects : r.Reflects offered) (ops : List Operation) :
    (ops.foldl Operation.apply r).Reflects (offered ++ ops.flatMap Operation.offered) := by
  induction ops generalizing r offered with
  | nil => simpa using reflects
  | cons op ops ih =>
    rw [List.flatMap_cons, ← List.append_assoc]
    exact ih (reflects.apply op)

theorem reflects_origin (origin : Origin) : origin.registry.Reflects origin.offered := by
  have empty : (∅ : Registry).Reflects [] := fun _ => .none
  cases origin with
  | empty => exact empty
  | builtin stamp => exact empty.apply (.registerAll stamp Catalog.builtin)

theorem Reflects.exists_find?_iff (reflects : r.Reflects offered) (name : String) :
    (∃ e, r.find? name = some e) ↔
      ∃ n ∈ offered, n.name = name ∧ ∃ a, n.definition.build = .ok a := by
  have answered : (r.find? name).isSome = (firstValid? offered name).isSome := by
    have related := reflects name
    generalize r.find? name = found at related
    generalize firstValid? offered name = first at related
    cases related <;> rfl
  simp only [← NamedDefinition.offers_iff]
  rw [← Option.isSome_iff_exists, answered, firstValid?, List.find?_isSome]

theorem find?_foldl {name : String} {e : Entry} (held : r.find? name = some e)
    (ops : List Operation) : (ops.foldl Operation.apply r).find? name = some e := by
  induction ops generalizing r with
  | nil => exact held
  | cons op ops ih =>
    apply ih
    rw [op.find?_apply, held]
    rfl

theorem value_get (name : String) :
    (r.get name).value = match r.find? name with
      | none => .error (.unknownAutomaton name)
      | some e => .ok e := by
  unfold get
  cases r.find? name <;> rfl

theorem value_run (name word : String) :
    (r.run name word).value = match r.find? name with
      | none => .error (.unknownAutomaton name)
      | some e => .ok (e.automaton.simulate word) := by
  unfold run
  cases r.find? name <;> rfl

theorem value_get_eq_ok_iff {name : String} {e : Entry} :
    (r.get name).value = .ok e ↔ r.find? name = some e := by
  rw [value_get]
  cases r.find? name <;> simp

end

end Registry

namespace History

theorem reflects (h : History) : h.registry.Reflects h.offered :=
  (Registry.reflects_origin h.origin).foldl h.operations

/-- `late` is offered in vain: its start state is none of its states. -/
def disputed : History where
  origin := .builtin "now"
  operations := [.register "now" ⟨"late", none, { Catalog.stars.definition with startState := 24 }⟩]

/-- A list offers `bets`, which is taken, and `late` as it should have been. -/
def settled : History :=
  disputed.continued [.registerAll "later"
    [⟨"bets", none, Catalog.stars.definition⟩, ⟨"late", none, Catalog.stars.definition⟩]]

end History

end Acceptor
