import Acceptor.Sorted.Ascending

/-! Finite sets kept in ascending order. Two sets with the same elements are equal
(`SortedSet.ext`), and their elements are listed in one order only. -/
namespace Acceptor

structure SortedSet (α : Type) [LT α] where
  toList : List α
  ascending : Ascending (fun a => a) toList

namespace SortedSet

section

variable {α : Type} [LT α]

instance [DecidableEq α] : DecidableEq (SortedSet α) := fun s t =>
  decidable_of_iff (s.toList = t.toList) (by cases s; cases t; simp)

instance : Membership α (SortedSet α) := ⟨fun s a => a ∈ s.toList⟩

theorem mem_toList (s : SortedSet α) (a : α) : a ∈ s.toList ↔ a ∈ s := Iff.rfl

instance [DecidableEq α] (a : α) (s : SortedSet α) : Decidable (a ∈ s) :=
  inferInstanceAs (Decidable (a ∈ s.toList))

/-- Elements are tried one by one, also where the type has an end of its own. -/
instance (s : SortedSet α) (p : α → Prop) [DecidablePred p] : Decidable (∀ a ∈ s, p a) :=
  inferInstanceAs (Decidable (∀ a ∈ s.toList, p a))

instance (s : SortedSet α) (p : α → Prop) [DecidablePred p] : Decidable (∃ a ∈ s, p a) :=
  inferInstanceAs (Decidable (∃ a ∈ s.toList, p a))

def empty : SortedSet α := ⟨[], ascending_nil _⟩

instance : EmptyCollection (SortedSet α) := ⟨empty⟩
instance : Inhabited (SortedSet α) := ⟨∅⟩

@[simp] theorem toList_empty : (∅ : SortedSet α).toList = [] := rfl

@[simp] theorem not_mem_empty (a : α) : a ∉ (∅ : SortedSet α) := List.not_mem_nil

def size (s : SortedSet α) : Nat := s.toList.length

def isEmpty (s : SortedSet α) : Bool := s.toList.isEmpty

theorem isEmpty_iff (s : SortedSet α) : s.isEmpty = true ↔ ∀ a, a ∉ s := by
  rw [isEmpty, List.isEmpty_iff]
  exact List.eq_nil_iff_forall_not_mem

theorem nodup_toList [LE α] [Std.IsLinearOrder α] [Std.LawfulOrderLT α] (s : SortedSet α) :
    s.toList.Nodup :=
  s.ascending.pairwise_ne

theorem ext [LE α] [Std.IsLinearOrder α] [Std.LawfulOrderLT α] {s t : SortedSet α}
    (same : ∀ a, a ∈ s ↔ a ∈ t) : s = t := by
  have := s.ascending.eq_of_mem_iff t.ascending same
  cases s; cases t; simpa using this

/-- Elements of `s` outside `t`. -/
def without [DecidableEq α] (s t : SortedSet α) : SortedSet α :=
  ⟨s.toList.filter fun a => a ∉ t, s.ascending.filter _⟩

@[simp] theorem mem_without [DecidableEq α] (s t : SortedSet α) (a : α) :
    a ∈ s.without t ↔ a ∈ s ∧ a ∉ t := by
  simp [without, ← mem_toList]

variable [DecidableLT α] [LE α] [Std.IsLinearOrder α] [Std.LawfulOrderLT α]

def insert (s : SortedSet α) (a : α) : SortedSet α :=
  ⟨place (fun a => a) a s.toList, ascending_place s.ascending a⟩

@[simp] theorem mem_insert (s : SortedSet α) (a b : α) : b ∈ s.insert a ↔ b = a ∨ b ∈ s := by
  have := mem_place s.ascending a b
  simp only [← mem_toList, insert]
  grind

def insertAll (s : SortedSet α) (l : List α) : SortedSet α := l.foldl insert s

@[simp] theorem mem_insertAll (s : SortedSet α) (l : List α) (a : α) :
    a ∈ s.insertAll l ↔ a ∈ s ∨ a ∈ l := by
  unfold insertAll
  induction l generalizing s with
  | nil => simp
  | cons b l ih => rw [List.foldl_cons, ih]; simp; grind

def ofList (l : List α) : SortedSet α := (∅ : SortedSet α).insertAll l

@[simp] theorem mem_ofList (l : List α) (a : α) : a ∈ ofList l ↔ a ∈ l := by simp [ofList]

@[simp] theorem ofList_toList (s : SortedSet α) : ofList s.toList = s :=
  ext fun a => by simp [mem_toList]

theorem toList_ofList {l : List α} (h : Ascending (fun a => a) l) : (ofList l).toList = l :=
  congrArg toList (ofList_toList ⟨l, h⟩)

end

end SortedSet

end Acceptor
