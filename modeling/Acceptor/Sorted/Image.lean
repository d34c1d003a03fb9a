import Acceptor.Sorted.Map
import Acceptor.Sorted.Set
import Mathlib.Data.Set.Function

/-! Images of sets and tables under a function on elements or keys. The image is in the order of
its own elements, whatever the order was before. Where the function tells all of them apart,
what is looked up in the image is what was looked up before (`mem_image_of_injOn`,
`find?_image`). -/
namespace Acceptor

section

variable {α α' : Type} [LT α]
  [LT α'] [DecidableEq α'] [DecidableLT α'] [LE α'] [Std.IsLinearOrder α'] [Std.LawfulOrderLT α']

namespace SortedSet

def image (f : α → α') (s : SortedSet α) : SortedSet α' := .ofList (s.toList.map f)

omit [DecidableEq α'] in
@[simp] theorem mem_image (f : α → α') (s : SortedSet α) (b : α') :
    b ∈ s.image f ↔ ∃ a ∈ s, f a = b := by
  simp [image, mem_toList]

omit [DecidableEq α'] in
theorem mem_image_of_injOn {f : α → α'} {n : Set α} (apart : Set.InjOn f n) {s : SortedSet α}
    (inside : ∀ a ∈ s, a ∈ n) {a : α} (within : a ∈ n) : f a ∈ s.image f ↔ a ∈ s := by
  rw [mem_image]
  constructor
  · rintro ⟨b, member, same⟩
    obtain rfl := apart (inside b member) within same
    exact member
  · exact fun member => ⟨a, member, rfl⟩

end SortedSet

namespace SortedMap

variable {β γ : Type} {f : α → α'} {g : β → γ}

/-- Keys go by `f` and values by `g`. -/
def image (f : α → α') (g : β → γ) (m : SortedMap α β) : SortedMap α' γ :=
  .ofList (m.entries.map fun e => (f e.1, g e.2))

variable [DecidableEq α] [LE α] [Std.LawfulOrderLT α]

theorem find?_image_eq_some_iff {m : SortedMap α β} {n : Set α} (apart : Set.InjOn f n)
    (inside : ∀ k v, m.find? k = some v → k ∈ n) (k' : α') (v' : γ) :
    (m.image f g).find? k' = some v' ↔ ∃ k v, m.find? k = some v ∧ f k = k' ∧ g v = v' := by
  have listed (k' : α') (v' : γ) : (k', v') ∈ (m.entries.map fun e => (f e.1, g e.2)) ↔
      ∃ k v, m.find? k = some v ∧ f k = k' ∧ g v = v' := by
    simp [mem_entries_iff]
  rw [image, find?_ofList_eq_some_iff, listed]
  intro k' v' w' hv hw
  rw [listed] at hv hw
  obtain ⟨k, v, found, rfl, rfl⟩ := hv
  obtain ⟨l, w, found', same, rfl⟩ := hw
  obtain rfl := apart (inside l w found') (inside k v found) same
  rw [Option.some.inj (found.symm.trans found')]

theorem find?_image {m : SortedMap α β} {n : Set α} (apart : Set.InjOn f n)
    (inside : ∀ k v, m.find? k = some v → k ∈ n) {k : α} (within : k ∈ n) :
    (m.image f g).find? (f k) = (m.find? k).map g := by
  apply Option.ext
  intro v'
  rw [find?_image_eq_some_iff apart inside, Option.map_eq_some_iff]
  constructor
  · rintro ⟨l, v, found, same, rfl⟩
    obtain rfl := apart (inside l v found) within same
    exact ⟨v, found, rfl⟩
  · rintro ⟨v, found, rfl⟩
    exact ⟨k, v, found, rfl, rfl⟩

end SortedMap

end

end Acceptor
