import Mathlib.Data.List.Forall2
import Acceptor.Proofs.Atomicity

/-! Loading in another order, and loading again. If no two definitions of a list that both build
contend for a name, the order decides which errors are answered and nothing else. What was loaded
once is refused when it comes again, be it valid or not. -/
namespace Acceptor

section FindSome

variable {α β : Type} {f : α → Option β} {l l' : List α}

/-- Where all answers are alike, the first of them is any of them. -/
theorem findSome?_eq_some_iff_of_agree
    (agree : ∀ a ∈ l, ∀ b ∈ l, ∀ x y, f a = some x → f b = some y → x = y) (x : β) :
    l.findSome? f = some x ↔ ∃ a ∈ l, f a = some x := by
  constructor
  · exact List.exists_of_findSome?_eq_some
  · rintro ⟨a, mem, answer⟩
    cases first : l.findSome? f with
    | none => simp [List.findSome?_eq_none_iff.1 first a mem] at answer
    | some y =>
      obtain ⟨b, mem', answer'⟩ := List.exists_of_findSome?_eq_some first
      rw [agree a mem b mem' x y answer answer']

theorem findSome?_perm
    (agree : ∀ a ∈ l, ∀ b ∈ l, ∀ x y, f a = some x → f b = some y → x = y) (perm : l.Perm l') :
    l.findSome? f = l'.findSome? f := by
  have agree' : ∀ a ∈ l', ∀ b ∈ l', ∀ x y, f a = some x → f b = some y → x = y :=
    fun a ha b hb => agree a (perm.mem_iff.2 ha) b (perm.mem_iff.2 hb)
  apply Option.ext
  intro x
  simp only [findSome?_eq_some_iff_of_agree agree, findSome?_eq_some_iff_of_agree agree',
    perm.mem_iff]

end FindSome

namespace NamedDefinition

theorem entry?_eq_some_iff (stamp name : String) (n : NamedDefinition) (e : Entry) :
    n.entry? stamp name = some e ↔ n.name = name ∧
      ∃ a, n.definition.build = .ok a ∧ e = ⟨n.name, n.description, a, stamp⟩ := by
  unfold entry?
  split
  next named => cases n.definition.build <;> simp [named, eq_comm]
  next other => simp [other]

theorem entry?_eq_none_iff (stamp : String) (n : NamedDefinition) :
    n.entry? stamp n.name = none ↔ ∃ cause, n.definition.build = .error cause := by
  unfold entry?
  cases n.definition.build <;> simp

end NamedDefinition

/-- Definitions that build and have one name are one definition. Those that do not build may have
any name. -/
def Consistent (l : List NamedDefinition) : Prop :=
  ∀ n ∈ l, ∀ m ∈ l, n.name = m.name → n.definition.build.isOk → m.definition.build.isOk → n = m

instance (l : List NamedDefinition) : Decidable (Consistent l) :=
  inferInstanceAs (Decidable (∀ n ∈ l, ∀ m ∈ l, _ → _ → _ → n = m))

theorem Consistent.entry?_agree {l : List NamedDefinition} (consistent : Consistent l)
    (stamp name : String) : ∀ n ∈ l, ∀ m ∈ l, ∀ e e', n.entry? stamp name = some e →
      m.entry? stamp name = some e' → e = e' := by
  intro n hn m hm e e' made made'
  obtain ⟨named, a, built, rfl⟩ := (n.entry?_eq_some_iff ..).1 made
  obtain ⟨named', a', built', rfl⟩ := (m.entry?_eq_some_iff ..).1 made'
  obtain rfl : n = m :=
    consistent n hn m hm (named.trans named'.symm) (by rw [built]; rfl) (by rw [built']; rfl)
  rw [Except.ok.inj (built.symm.trans built')]

namespace Registry

section

variable (r : Registry) (stamp : String) {l l' : List NamedDefinition}

theorem undated_registerAll (l : List NamedDefinition) :
    (r.registerAll stamp l).registry.undated = (r.undated.registerAll "" l).registry := by
  rw [registerAll_undated r stamp]

theorem registerAll_perm (consistent : Consistent l) (perm : l.Perm l') (stamp' : String) :
    (r.registerAll stamp l).registry.undated = (r.registerAll stamp' l').registry.undated := by
  rw [undated_registerAll, undated_registerAll]
  apply ext_find?
  intro name
  rw [find?_registerAll, find?_registerAll, findSome?_perm (consistent.entry?_agree "" name) perm]

/-- Nothing that was loaded can be loaded again: its name is taken, or else it does not build. -/
theorem refuses_of_registerAll {n : NamedDefinition} (mem : n ∈ l) :
    ∃ e, (r.registerAll stamp l).registry.Refuses n e := by
  cases found : (r.registerAll stamp l).registry.find? n.name with
  | some e => exact ⟨_, .duplicate found⟩
  | none =>
    have lookup := r.find?_registerAll stamp l n.name
    rw [found, eq_comm, Option.or_eq_none_iff, List.findSome?_eq_none_iff] at lookup
    obtain ⟨cause, refused⟩ := (n.entry?_eq_none_iff stamp).1 (lookup.2 n mem)
    exact ⟨_, .construction found refused⟩

/-- A list of which every element is refused leaves the registry as it is. -/
theorem registerAll_of_refuses (refused : ∀ n ∈ l, ∃ e, r.Refuses n e) :
    (r.registerAll stamp l).registry = r ∧
      List.Forall₂ r.Refuses l (r.registerAll stamp l).value := by
  induction l with
  | nil => exact ⟨rfl, .nil⟩
  | cons n l ih =>
    obtain ⟨e, refuses⟩ := refused n List.mem_cons_self
    obtain ⟨same, errors⟩ := ih fun m mem => refused m (List.mem_cons_of_mem n mem)
    have kept := r.registry_register_of_refuses stamp n refuses
    have failed := (r.value_register_eq_error_iff stamp n e).2 refuses
    rw [registerAll, kept, failed]
    exact ⟨same, .cons refuses errors⟩

end

/-- The order of a list does not count where no two valid definitions contend for a name, and a
list that is loaded again, contended or not, is refused definition by definition. -/
theorem loading_any_order_and_again (r : Registry) (stamp stamp' : String)
    (l : List NamedDefinition) :
    (Consistent l → ∀ l', l.Perm l' →
      (r.registerAll stamp l).registry.undated = (r.registerAll stamp' l').registry.undated) ∧
    let loaded := (r.registerAll stamp l).registry
    (loaded.registerAll stamp' l).registry = loaded ∧
      List.Forall₂ loaded.Refuses l (loaded.registerAll stamp' l).value := by
  constructor
  · exact fun consistent l' perm => r.registerAll_perm stamp consistent perm stamp'
  · intro loaded
    exact loaded.registerAll_of_refuses stamp' fun n mem => r.refuses_of_registerAll stamp mem

/-- Its invalid definition is refused for itself or for its name, as the order has it. -/
theorem mixed_any_order_and_again :
    let loaded := ((∅ : Registry).registerAll "now" mixed.automata).registry
    Consistent mixed.automata ∧ mixed.automata.Perm mixed.automata.reverse ∧
    ((∅ : Registry).registerAll "now" mixed.automata).value =
      [.construction "late" (.unknownStartState 24)] ∧
    ((∅ : Registry).registerAll "later" mixed.automata.reverse).value = [.duplicateName "late"] ∧
    loaded.undated =
      ((∅ : Registry).registerAll "later" mixed.automata.reverse).registry.undated ∧
    (loaded.registerAll "later" mixed.automata).registry = loaded ∧
    (loaded.registerAll "later" mixed.automata).value.length = 3 := by
  intro loaded
  obtain ⟨anyOrder, again, refused⟩ :=
    loading_any_order_and_again ∅ "now" "later" mixed.automata
  have consistent : Consistent mixed.automata := by decide +kernel
  have perm : mixed.automata.Perm mixed.automata.reverse := (List.reverse_perm _).symm
  refine ⟨consistent, perm, ?_, ?_, anyOrder consistent _ perm, again, refused.length_eq.symm⟩
  all_goals decide +kernel

end Registry

end Acceptor
