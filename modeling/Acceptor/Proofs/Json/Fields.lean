import Acceptor.Json.Record
import Acceptor.Proofs.Json.RoundTrip

/-! Lists and records: they are legible if their parts are, they may be kept aside if their parts
may, and what they are made of is found in them again. -/
namespace Acceptor

theorem mapM_map_eq_some {α β γ : Type} {f : β → Option γ} {g : α → β} {h : α → γ} {as : List α}
    (each : ∀ a ∈ as, f (g a) = some (h a)) : (as.map g).mapM f = some (as.map h) := by
  induction as with
  | nil => rfl
  | cons a as ih =>
    rw [List.map_cons, List.mapM_cons, each a List.mem_cons_self,
      ih fun b mem => each b (List.mem_cons_of_mem a mem)]
    rfl

theorem mapM_map_eq_self {α β : Type} {f : β → Option α} {g : α → β} {as : List α}
    (inverse : ∀ a ∈ as, f (g a) = some a) : (as.map g).mapM f = some as := by
  rw [mapM_map_eq_some (h := id) inverse, List.map_id]

namespace Json

theorem legible_ofString (s : String) : (ofString s).Legible := by
  refine .str fun g mem => ?_
  obtain ⟨c, -, rfl⟩ := List.mem_map.1 mem
  exact Glyph.legible_ofChar c

theorem legible_ofNat (n : Nat) : (ofNat n).Legible := .num _

theorem legible_ofOption {α : Type} {f : α → Json} (each : ∀ a, (f a).Legible) (o : Option α) :
    (ofOption f o).Legible := by
  cases o with
  | none => exact .null
  | some a => exact each a

theorem legible_arr_map {α : Type} {f : α → Json} {as : List α} (each : ∀ a ∈ as, (f a).Legible) :
    (arr (as.map f)).Legible := by
  refine .arr fun v mem => ?_
  obtain ⟨a, inside, rfl⟩ := List.mem_map.1 mem
  exact each a inside

theorem legible_record {members : List (String × Json)} (each : ∀ m ∈ members, m.2.Legible) :
    (record members).Legible := by
  refine .obj (fun m mem g inside => ?_) fun m mem => ?_
  all_goals obtain ⟨m, given, rfl⟩ := List.mem_map.1 mem
  · obtain ⟨c, -, rfl⟩ := List.mem_map.1 inside
    exact Glyph.legible_ofChar c
  · exact each m given

theorem toList?_arr_map {α : Type} {f : α → Json} {g : Json → Option α}
    (inverse : ∀ a, g (f a) = some a) (as : List α) : (arr (as.map f)).toList? g = some as := by
  rw [toList?, mapM_map_eq_self fun a _ => inverse a]

theorem toOption?_ofOption {α : Type} {f : α → Json} {g : Json → Option α} {o : Option α}
    (inverse : ∀ a ∈ o, g (f a) = some a) (given : ∀ a, f a ≠ .null) :
    (ofOption f o).toOption? g = some o := by
  cases o with
  | none => rfl
  | some a =>
    unfold ofOption toOption?
    split
    next null => exact absurd null (given a)
    next => rw [inverse a rfl, Option.map_some]

theorem eq_some_of_toOption? {α : Type} {g : Json → Option α} {v : Json} {a : α}
    (read : v.toOption? g = some (some a)) : g v = some a := by
  unfold toOption? at read
  split at read
  · simp at read
  · simpa using read

theorem named?_record (members : List (String × Json)) :
    named? (members.map fun m => (Glyph.ofString m.1, m.2)) = some members := by
  rw [named?, mapM_map_eq_self fun m _ => by simp]

theorem single?_of_mem {members : List (String × Json)} (distinct : (members.map Prod.fst).Nodup)
    {m : String × Json} (mem : m ∈ members) : single? members m.1 = some (some m.2) := by
  have only : members.filter (fun n => n.1 = m.1) = [m] := by
    induction members with
    | nil => contradiction
    | cons n members ih =>
      rw [List.map_cons, List.nodup_cons, List.mem_map] at distinct
      rcases List.mem_cons.1 mem with rfl | later
      · have others : members.filter (fun n => n.1 = m.1) = [] := by
          simp only [List.filter_eq_nil_iff, decide_eq_true_eq]
          exact fun n inside same => distinct.1 ⟨n, inside, same⟩
        rw [List.filter_cons, others]
        simp
      · have apart : n.1 ≠ m.1 := fun same => distinct.1 ⟨m, later, same.symm⟩
        rw [List.filter_cons, ih distinct.2 later]
        simp [apart]
  rw [single?, only]

/-- In a record with distinct names, every member is found under its name. -/
theorem fields?_record (members chosen : List (String × Json))
    (distinct : (members.map Prod.fst).Nodup) (given : ∀ m ∈ chosen, m ∈ members)
    (required : Nat) :
    (record members).fields? (chosen.map Prod.fst) required =
      some (chosen.map fun m => some m.2) := by
  rw [record, fields?, named?_record]
  dsimp only
  rw [mapM_map_eq_some fun m mem => single?_of_mem distinct (given m mem)]

theorem fields?_record_all (members : List (String × Json))
    (distinct : (members.map Prod.fst).Nodup) (required : Nat) :
    (record members).fields? (members.map Prod.fst) required =
      some (members.map fun m => some m.2) :=
  fields?_record members members distinct (fun _ mem => mem) required

theorem keepableMembers_of_forall {members : List (List Glyph × Json)}
    (each : ∀ m ∈ members, (Glyph.toString? m.1).isSome = true ∧ m.2.keepable = true) :
    keepableMembers members = true := by
  induction members with
  | nil => rfl
  | cons m members ih =>
    obtain ⟨k, v⟩ := m
    have first := each (k, v) List.mem_cons_self
    rw [keepableMembers, first.1, first.2, ih fun n mem => each n (List.mem_cons_of_mem _ mem)]
    rfl

theorem keepable_record {members : List (String × Json)}
    (each : ∀ m ∈ members, m.2.keepable = true) : (record members).keepable = true := by
  refine keepableMembers_of_forall fun m mem => ?_
  obtain ⟨n, given, rfl⟩ := List.mem_map.1 mem
  exact ⟨by simp, each n given⟩

theorem depth_record_le {members : List (String × Json)} (n : Nat)
    (each : ∀ m ∈ members, m.2.depth ≤ n) : (record members).depth ≤ n + 1 := by
  rw [record, depth]
  apply Nat.succ_le_succ
  induction members with
  | nil => exact Nat.zero_le n
  | cons m members ih =>
    rw [List.map_cons, depthMembers]
    exact Nat.max_le.2
      ⟨each m List.mem_cons_self, ih fun k mem => each k (List.mem_cons_of_mem m mem)⟩

theorem keepable_ofString (s : String) : (ofString s).keepable = true := by
  simp [ofString, keepable]

theorem keepable_ofNat {n : Nat} (fits : n < UInt64.size) : (ofNat n).keepable = true := by
  rw [ofNat, keepable, Numeral.fitsDouble_ofNat n fits]

section

variable {α : Type} {encode : α → Json} {decode : Json → Option α}

theorem decode_write (l : Layout) {a : α} (legible : (encode a).Legible)
    (inverse : decode (encode a) = some a) :
    (parse? ((encode a).write l)).bind decode = some a := by
  rw [parse?_write l legible, Option.bind_some, inverse]

/-- A text from which every value is read back belongs to one value only. -/
theorem write_inj (l : Layout)
    (reads : ∀ a, (parse? ((encode a).write l)).bind decode = some a) (a b : α) :
    (encode a).write l = (encode b).write l ↔ a = b := by
  constructor
  · intro same
    have first := reads a
    rw [same, reads b] at first
    exact (Option.some.inj first).symm
  · rintro rfl
    rfl

end

end Json

end Acceptor
