/-! Lists in strictly ascending order of a key. Such a list is determined by its
elements (`eq_of_mem_iff`), so it is the one written form of a set or a table;
`place` is the only way in which one grows. -/
namespace Acceptor

section

variable {α κ : Type} [LT κ]

def Ascending (key : α → κ) (l : List α) : Prop :=
  l.Pairwise fun a b => key a < key b

theorem ascending_nil (key : α → κ) : Ascending key [] := .nil

theorem ascending_cons (key : α → κ) (a : α) (l : List α) :
    Ascending key (a :: l) ↔ (∀ b ∈ l, key a < key b) ∧ Ascending key l :=
  List.pairwise_cons

theorem Ascending.filter {key : α → κ} {l : List α} (h : Ascending key l) (p : α → Bool) :
    Ascending key (l.filter p) :=
  List.Pairwise.filter p h

theorem Ascending.map {β κ' : Type} [LT κ'] {key : α → κ} {key' : β → κ'} {g : α → β}
    (keeps : ∀ a b, key a < key b → key' (g a) < key' (g b)) {l : List α} (h : Ascending key l) :
    Ascending key' (l.map g) := by
  unfold Ascending
  rw [List.pairwise_map]
  exact h.imp (keeps _ _)

theorem Ascending.pairwise_ne [LE κ] [Std.IsLinearOrder κ] [Std.LawfulOrderLT κ]
    {key : α → κ} {l : List α} (h : Ascending key l) : l.Pairwise fun a b => key a ≠ key b := by
  refine h.imp ?_
  intro a b before same
  exact Std.lt_irrefl (same ▸ before)

/-- Elements determine the list. -/
theorem Ascending.eq_of_mem_iff [LE κ] [Std.IsLinearOrder κ] [Std.LawfulOrderLT κ]
    {key : α → κ} {l m : List α} (hl : Ascending key l) (hm : Ascending key m)
    (same : ∀ a, a ∈ l ↔ a ∈ m) : l = m := by
  induction l generalizing m with
  | nil =>
    cases m with
    | nil => rfl
    | cons b m => exact absurd ((same b).2 (by simp)) (by simp)
  | cons a l ih =>
    cases m with
    | nil => exact absurd ((same a).1 (by simp)) (by simp)
    | cons b m =>
      rw [ascending_cons] at hl hm
      have first : a = b := by
        rcases List.mem_cons.1 ((same a).1 (by simp)) with eq | inM
        · exact eq
        rcases List.mem_cons.1 ((same b).2 (by simp)) with eq | inL
        · exact eq.symm
        · exact absurd (Std.lt_trans (hm.1 a inM) (hl.1 b inL)) Std.lt_irrefl
      subst first
      congr 1
      apply ih hl.2 hm.2
      intro c
      have notL : c ∈ l → c ≠ a := fun h eq => Std.lt_irrefl (eq ▸ hl.1 c h)
      have notM : c ∈ m → c ≠ a := fun h eq => Std.lt_irrefl (eq ▸ hm.1 c h)
      have := same c
      grind

variable [DecidableLT κ]

/-- An element with the same key gives way to the one that is placed. -/
def place (key : α → κ) (x : α) : List α → List α
  | [] => [x]
  | y :: l =>
    if key x < key y then x :: y :: l
    else if key y < key x then y :: place key x l
    else x :: l

theorem mem_of_mem_place {key : α → κ} {x a : α} {l : List α} (h : a ∈ place key x l) :
    a = x ∨ a ∈ l := by
  induction l with
  | nil => simpa [place] using h
  | cons y l ih =>
    unfold place at h
    split at h
    · simpa using h
    split at h <;> grind

variable [LE κ] [Std.IsLinearOrder κ] [Std.LawfulOrderLT κ]

theorem ascending_place {key : α → κ} {l : List α} (h : Ascending key l) (x : α) :
    Ascending key (place key x l) := by
  induction l with
  | nil => simp [place, Ascending]
  | cons y l ih =>
    rw [ascending_cons] at h
    unfold place
    split
    next hx =>
      rw [ascending_cons, ascending_cons]
      refine ⟨fun b hb => ?_, h⟩
      rcases List.mem_cons.1 hb with rfl | hb
      · exact hx
      · exact Std.lt_trans hx (h.1 b hb)
    next hx =>
    split
    next hy =>
      rw [ascending_cons]
      refine ⟨fun b hb => ?_, ih h.2⟩
      rcases mem_of_mem_place hb with rfl | hb
      · exact hy
      · exact h.1 b hb
    next hy =>
      have same : key x = key y :=
        (Std.lt_trichotomy (key x) (key y)).resolve_left hx |>.resolve_right hy
      rw [ascending_cons, same]
      exact h

/-- What is in the list after `x` was placed: `x`, and all else that has another key. -/
theorem mem_place {key : α → κ} {l : List α} (h : Ascending key l) (x a : α) :
    a ∈ place key x l ↔ a = x ∨ (a ∈ l ∧ key a ≠ key x) := by
  induction l with
  | nil => simp [place]
  | cons y l ih =>
    rw [ascending_cons] at h
    have later : ∀ b ∈ l, key b ≠ key y := fun b hb eq => Std.lt_irrefl (eq ▸ h.1 b hb)
    unfold place
    split
    next hx =>
      have apart : ∀ b ∈ y :: l, key b ≠ key x := by
        intro b hb eq
        rcases List.mem_cons.1 hb with rfl | hb
        · exact Std.lt_irrefl (eq ▸ hx)
        · exact Std.lt_irrefl (eq ▸ Std.lt_trans hx (h.1 b hb))
      grind
    next hx =>
    split
    next hy =>
      have : key y ≠ key x := fun eq => Std.lt_irrefl (eq ▸ hy)
      have := ih h.2
      grind
    next hy =>
      have same : key x = key y :=
        (Std.lt_trichotomy (key x) (key y)).resolve_left hx |>.resolve_right hy
      grind

theorem length_place_of_absent {key : α → κ} {x : α} {l : List α}
    (absent : ∀ y ∈ l, key y ≠ key x) : (place key x l).length = l.length + 1 := by
  induction l with
  | nil => rfl
  | cons y l ih =>
    have later := ih fun z mem => absent z (List.mem_cons_of_mem y mem)
    unfold place
    split
    · rfl
    next hx =>
    split
    · rw [List.length_cons, later, List.length_cons]
    next hy =>
      have same : key x = key y :=
        (Std.lt_trichotomy (key x) (key y)).resolve_left hx |>.resolve_right hy
      exact absurd same.symm (absent y List.mem_cons_self)

end

end Acceptor
