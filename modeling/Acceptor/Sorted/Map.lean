import Acceptor.Sorted.Ascending

/-! Finite tables kept in ascending order of their keys. Two tables that answer every
key alike are equal (`SortedMap.ext`); of two entries with one key the later wins. -/
namespace Acceptor

structure SortedMap (κ β : Type) [LT κ] where
  entries : List (κ × β)
  ascending : Ascending Prod.fst entries

namespace SortedMap

section

variable {κ β γ : Type} [LT κ]

instance [DecidableEq κ] [DecidableEq β] : DecidableEq (SortedMap κ β) := fun s t =>
  decidable_of_iff (s.entries = t.entries) (by cases s; cases t; simp)

def empty : SortedMap κ β := ⟨[], ascending_nil _⟩

instance : EmptyCollection (SortedMap κ β) := ⟨empty⟩
instance : Inhabited (SortedMap κ β) := ⟨∅⟩

@[simp] theorem entries_empty : (∅ : SortedMap κ β).entries = [] := rfl

def keys (m : SortedMap κ β) : List κ := m.entries.map Prod.fst

def values (m : SortedMap κ β) : List β := m.entries.map Prod.snd

def size (m : SortedMap κ β) : Nat := m.entries.length

def isEmpty (m : SortedMap κ β) : Bool := m.entries.isEmpty

theorem keys_ascending (m : SortedMap κ β) : Ascending (fun k => k) m.keys := by
  unfold Ascending keys
  rw [List.pairwise_map]
  exact m.ascending

def mapValues (f : β → γ) (m : SortedMap κ β) : SortedMap κ γ :=
  ⟨m.entries.map fun e => (e.1, f e.2), by
    unfold Ascending
    rw [List.pairwise_map]
    exact m.ascending⟩

variable [DecidableEq κ]

def find? (m : SortedMap κ β) (k : κ) : Option β :=
  (m.entries.find? fun e => e.1 = k).map Prod.snd

@[simp] theorem find?_empty (k : κ) : (∅ : SortedMap κ β).find? k = none := rfl

def contains (m : SortedMap κ β) (k : κ) : Bool := (m.find? k).isSome

@[simp] theorem find?_mapValues (f : β → γ) (m : SortedMap κ β) (k : κ) :
    (m.mapValues f).find? k = (m.find? k).map f := by
  simp only [find?, mapValues, List.find?_map, Option.map_map]
  rfl

section

variable [LE κ] [Std.IsLinearOrder κ] [Std.LawfulOrderLT κ]

omit [Std.IsLinearOrder κ] in
theorem mem_entries_iff (m : SortedMap κ β) (k : κ) (v : β) :
    (k, v) ∈ m.entries ↔ m.find? k = some v := by
  obtain ⟨l, h⟩ := m
  unfold find?
  dsimp only
  induction l with
  | nil => simp
  | cons e l ih =>
    rw [ascending_cons] at h
    have ih := ih h.2
    by_cases eq : e.1 = k
    · have later : (k, v) ∉ l := fun hm => Std.lt_irrefl (eq ▸ h.1 _ hm)
      simp [eq, later, Prod.ext_iff, eq_comm]
    · have : (k, v) ≠ e := fun same => eq (by rw [← same])
      simp [eq, this, ih]

omit [Std.IsLinearOrder κ] in
theorem mem_keys_iff (m : SortedMap κ β) (k : κ) : k ∈ m.keys ↔ (m.find? k).isSome := by
  simp only [keys, List.mem_map, Prod.exists, exists_and_right, exists_eq_right,
    mem_entries_iff, Option.isSome_iff_exists]

omit [DecidableEq κ] in
theorem nodup_entries (m : SortedMap κ β) : m.entries.Nodup := by
  refine m.ascending.pairwise_ne.imp ?_
  intro e f apart same
  exact apart (congrArg Prod.fst same)

theorem ext {m n : SortedMap κ β} (same : ∀ k, m.find? k = n.find? k) : m = n := by
  have := m.ascending.eq_of_mem_iff n.ascending fun e => by
    rw [mem_entries_iff m e.1 e.2, mem_entries_iff n e.1 e.2, same]
  cases m; cases n; simpa using this

variable [DecidableLT κ]

def insert (m : SortedMap κ β) (k : κ) (v : β) : SortedMap κ β :=
  ⟨place Prod.fst (k, v) m.entries, ascending_place m.ascending _⟩

theorem find?_insert (m : SortedMap κ β) (k l : κ) (v : β) :
    (m.insert k v).find? l = if l = k then some v else m.find? l := by
  apply Option.ext
  intro w
  have placed := mem_place m.ascending (k, v) (l, w)
  have shown : (l, w) ∈ place Prod.fst (k, v) m.entries ↔ _ :=
    mem_entries_iff (m.insert k v) l w
  rw [← shown, placed, mem_entries_iff]
  split <;> simp_all [eq_comm]

@[simp] theorem find?_insert_self (m : SortedMap κ β) (k : κ) (v : β) :
    (m.insert k v).find? k = some v := by
  simp [find?_insert]

def insertAll (m : SortedMap κ β) (l : List (κ × β)) : SortedMap κ β :=
  l.foldl (fun m e => m.insert e.1 e.2) m

omit [DecidableEq κ] in
@[simp] theorem insertAll_nil (m : SortedMap κ β) : m.insertAll [] = m := rfl

omit [DecidableEq κ] in
@[simp] theorem insertAll_cons (m : SortedMap κ β) (e : κ × β) (l : List (κ × β)) :
    m.insertAll (e :: l) = (m.insert e.1 e.2).insertAll l := rfl

/-- Entries that come later in the list win over earlier ones, and over the table. -/
theorem find?_insertAll (m : SortedMap κ β) (l : List (κ × β)) (k : κ) :
    (m.insertAll l).find? k =
      ((l.reverse.find? fun e => e.1 = k).map Prod.snd).or (m.find? k) := by
  induction l generalizing m with
  | nil => simp
  | cons e l ih =>
    rw [insertAll_cons, ih, find?_insert, List.reverse_cons, List.find?_append]
    by_cases eq : k = e.1
    · subst eq
      cases l.reverse.find? fun f => f.1 = e.1 <;> simp
    · have ne : ¬ e.1 = k := fun h => eq h.symm
      simp [eq, ne]

def ofList (l : List (κ × β)) : SortedMap κ β := (∅ : SortedMap κ β).insertAll l

theorem find?_ofList (l : List (κ × β)) (k : κ) :
    (ofList l).find? k = (l.reverse.find? fun e => e.1 = k).map Prod.snd := by
  simp [ofList, find?_insertAll]

/-- Where no key comes with two values, the order of the list does not count. -/
theorem find?_ofList_eq_some_iff {l : List (κ × β)}
    (functional : ∀ k v w, (k, v) ∈ l → (k, w) ∈ l → v = w) (k : κ) (v : β) :
    (ofList l).find? k = some v ↔ (k, v) ∈ l := by
  rw [find?_ofList]
  constructor
  · intro h
    obtain ⟨e, found, rfl⟩ := Option.map_eq_some_iff.1 h
    have key := List.find?_some found
    have member := List.mem_of_find?_eq_some found
    simp only [decide_eq_true_eq] at key
    rw [← key]
    exact List.mem_reverse.1 member
  · intro member
    cases found : l.reverse.find? fun e => e.1 = k with
    | none => simpa using List.find?_eq_none.1 found (k, v) (List.mem_reverse.2 member)
    | some e =>
      have key := List.find?_some found
      have inside := List.mem_reverse.1 (List.mem_of_find?_eq_some found)
      simp only [decide_eq_true_eq] at key
      exact congrArg some (functional k e.2 v (key ▸ inside) member)

@[simp] theorem ofList_entries (m : SortedMap κ β) : ofList m.entries = m := by
  apply ext
  intro k
  apply Option.ext
  intro v
  rw [find?_ofList_eq_some_iff, mem_entries_iff]
  intro k v w hv hw
  rw [mem_entries_iff] at hv hw
  exact Option.some.inj (hv.symm.trans hw)

theorem entries_ofList {l : List (κ × β)} (h : Ascending Prod.fst l) : (ofList l).entries = l :=
  congrArg entries (ofList_entries ⟨l, h⟩)

/-- Entries of another table win over those of this one. -/
theorem find?_insertAll_entries (m n : SortedMap κ β) (k : κ) :
    (m.insertAll n.entries).find? k = (n.find? k).or (m.find? k) := by
  rw [find?_insertAll, ← find?_ofList, ofList_entries]

theorem size_insert_of_none (m : SortedMap κ β) {k : κ} (absent : m.find? k = none) (v : β) :
    (m.insert k v).size = m.size + 1 := by
  refine length_place_of_absent fun e mem same => ?_
  have found := (m.mem_entries_iff e.1 e.2).1 mem
  rw [show e.1 = k from same, absent] at found
  contradiction

end

end

end SortedMap

end Acceptor
