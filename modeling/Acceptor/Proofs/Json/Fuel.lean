import Acceptor.Json.Reader

/-! Fuel does not limit what is read. The readers go through a text from front to back, and for
each character they call each other at most twice. So what can be read with any fuel at all is
read with fuel for twice the length of the text (`parse?_eq_some_iff`). -/
namespace Acceptor

/-- What is not read is the end of the text. -/
def LeavesEnd {α : Type} (read : List Char → Option (α × List Char)) : Prop :=
  ∀ {s a rest}, read s = some (a, rest) → rest <:+ s

theorem Glyph.leavesEnd_readText : LeavesEnd readText := by
  intro s
  fun_induction readText s with
  | case2 rest =>
    rintro _ _ ⟨⟩
    exact List.suffix_cons _ _
  | case3 a b c d rest u t rest' read _ ih =>
    rintro _ _ ⟨⟩
    exact (ih read).trans ⟨['\\', 'u', a, b, c, d], rfl⟩
  | case5 l rest _ m t rest' read _ ih =>
    rintro _ _ ⟨⟩
    exact (ih read).trans ⟨['\\', l], rfl⟩
  | case8 c rest _ _ _ _ t rest' read ih =>
    rintro _ _ ⟨⟩
    exact (ih read).trans (List.suffix_cons _ _)
  | _ => nofun

namespace Numeral

variable {s ds rest : List Char}

theorem suffix_of_splitDigits (split : splitDigits s = (ds, rest)) : rest <:+ s := by
  cases split
  exact List.dropWhile_suffix _

theorem leavesEnd_readWhole : LeavesEnd readWhole := by
  intro s ds rest read
  unfold readWhole at read
  split at read
  · contradiction
  · contradiction
  · exact suffix_of_splitDigits (Option.some.inj read)

theorem leavesEnd_readFraction : LeavesEnd readFraction := by
  intro s ds rest read
  unfold readFraction at read
  split at read
  · split at read
    · contradiction
    · exact (suffix_of_splitDigits (Option.some.inj read)).trans (List.suffix_cons _ _)
  · cases read
    exact List.suffix_refl _

theorem readSign_suffix (s : List Char) : (readSign s).2 <:+ s := by
  unfold readSign
  split
  · exact List.suffix_cons _ _
  · exact List.suffix_cons _ _
  · exact List.suffix_refl _

theorem leavesEnd_readExponent : LeavesEnd readExponent := by
  intro s e rest read
  unfold readExponent at read
  split at read
  next c s =>
    split at read
    · split at read
      · contradiction
      next split =>
        cases read
        exact ((suffix_of_splitDigits split).trans (readSign_suffix s)).trans (List.suffix_cons _ _)
    · cases read
      exact List.suffix_refl _
  · cases read
    exact List.suffix_refl _

theorem leavesEnd_readUnsigned (negative : Bool) : LeavesEnd (readUnsigned negative) := by
  intro s n rest read
  unfold readUnsigned at read
  split at read
  · contradiction
  next whole =>
  split at read
  · contradiction
  next fraction =>
  split at read
  · contradiction
  next exponent =>
  cases read
  exact ((leavesEnd_readExponent exponent).trans (leavesEnd_readFraction fraction)).trans
    (leavesEnd_readWhole whole)

theorem leavesEnd_read : LeavesEnd read := by
  intro s n rest taken
  unfold read at taken
  split at taken
  · exact (leavesEnd_readUnsigned true taken).trans (List.suffix_cons _ _)
  · exact leavesEnd_readUnsigned false taken

end Numeral

namespace Json

theorem skipSpace_suffix (s : List Char) : skipSpace s <:+ s := List.dropWhile_suffix _

theorem suffix_of_skipSpace {s rest : List Char} {c : Char} (skipped : skipSpace s = c :: rest) :
    rest <:+ s :=
  (List.suffix_cons c rest).trans (skipped ▸ skipSpace_suffix s)

theorem length_lt_of_skipSpace {s rest : List Char} {c : Char} (skipped : skipSpace s = c :: rest) :
    rest.length < s.length := by
  have := (skipSpace_suffix s).length_le
  rw [skipped, List.length_cons] at this
  omega

theorem length_skipSpace_lt_of_skipSpace {s rest : List Char} {c : Char}
    (skipped : skipSpace s = c :: rest) : (skipSpace rest).length < s.length :=
  Nat.lt_of_le_of_lt (skipSpace_suffix rest).length_le (length_lt_of_skipSpace skipped)

section NoFuel

variable (s : List Char)

@[simp] theorem readValue_zero : readValue 0 s = none := by rw [readValue]

@[simp] theorem readItems_zero : readItems 0 s = none := by rw [readItems]

@[simp] theorem readMembers_zero : readMembers 0 s = none := by rw [readMembers]

end NoFuel

section Ends

variable {fuel : Nat}

theorem leavesEnd_readValue_succ (items : LeavesEnd (readItems fuel))
    (members : LeavesEnd (readMembers fuel)) : LeavesEnd (readValue (fuel + 1)) := by
  intro s v rest read
  rw [readValue] at read
  split at read
  next skipped =>
    split at read
    · contradiction
    next text =>
      cases read
      exact (Glyph.leavesEnd_readText text).trans (suffix_of_skipSpace skipped)
  next skipped =>
    split at read
    next closed =>
      cases read
      exact (suffix_of_skipSpace closed).trans (suffix_of_skipSpace skipped)
    next t _ =>
      split at read
      · contradiction
      next more =>
        cases read
        exact ((items more).trans (skipSpace_suffix _)).trans (suffix_of_skipSpace skipped)
  next skipped =>
    split at read
    next closed =>
      cases read
      exact (suffix_of_skipSpace closed).trans (suffix_of_skipSpace skipped)
    next =>
      split at read
      · contradiction
      next more =>
        cases read
        exact ((members more).trans (skipSpace_suffix _)).trans (suffix_of_skipSpace skipped)
  next skipped =>
    cases read
    exact (List.suffix_append ['u', 'l', 'l'] _).trans (suffix_of_skipSpace skipped)
  next skipped =>
    cases read
    exact (List.suffix_append ['r', 'u', 'e'] _).trans (suffix_of_skipSpace skipped)
  next skipped =>
    cases read
    exact (List.suffix_append ['a', 'l', 's', 'e'] _).trans (suffix_of_skipSpace skipped)
  next =>
    split at read
    · contradiction
    next number =>
      cases read
      exact (Numeral.leavesEnd_read number).trans (skipSpace_suffix s)

theorem leavesEnd_readItems_succ (value : LeavesEnd (readValue fuel))
    (items : LeavesEnd (readItems fuel)) : LeavesEnd (readItems (fuel + 1)) := by
  intro s v rest read
  rw [readItems] at read
  split at read
  · contradiction
  next first =>
  split at read
  next closed =>
    cases read
    exact (suffix_of_skipSpace closed).trans (value first)
  next comma =>
    split at read
    · contradiction
    next more =>
      cases read
      exact ((items more).trans (suffix_of_skipSpace comma)).trans (value first)
  · contradiction

theorem leavesEnd_readMembers_succ (value : LeavesEnd (readValue fuel))
    (members : LeavesEnd (readMembers fuel)) : LeavesEnd (readMembers (fuel + 1)) := by
  intro s v rest read
  rw [readMembers] at read
  split at read
  next quote =>
    split at read
    · contradiction
    next key =>
    split at read
    next colon =>
      split at read
      · contradiction
      next first =>
      have before := (((value first).trans (suffix_of_skipSpace colon)).trans
        (Glyph.leavesEnd_readText key)).trans (suffix_of_skipSpace quote)
      split at read
      next closed =>
        cases read
        exact (suffix_of_skipSpace closed).trans before
      next comma =>
        split at read
        · contradiction
        next more =>
          cases read
          exact ((members more).trans (suffix_of_skipSpace comma)).trans before
      · contradiction
    · contradiction
  · contradiction

theorem leavesEnd_readers (fuel : Nat) :
    LeavesEnd (readValue fuel) ∧ LeavesEnd (readItems fuel) ∧ LeavesEnd (readMembers fuel) := by
  induction fuel with
  | zero =>
    refine ⟨?_, ?_, ?_⟩ <;> (intro s v rest read; simp at read)
  | succ fuel ih =>
    obtain ⟨value, items, members⟩ := ih
    exact ⟨leavesEnd_readValue_succ items members, leavesEnd_readItems_succ value items,
      leavesEnd_readMembers_succ value members⟩

end Ends

/-- `read'` reads all that `read` does, of texts shorter than `s`. -/
def Covers {α : Type} (s : List Char) (read' read : List Char → Option α) : Prop :=
  ∀ {t r}, t.length < s.length → read t = some r → read' t = some r

section Fuel

variable {f g : Nat} {s : List Char}

theorem readValue_succ_of_covers (items : Covers s (readItems g) (readItems f))
    (members : Covers s (readMembers g) (readMembers f)) {r : Json × List Char}
    (read : readValue (f + 1) s = some r) : readValue (g + 1) s = some r := by
  revert read
  rw [readValue, readValue]
  split
  next => exact id
  next t skipped =>
    split
    next => exact id
    next =>
      have shorter := length_skipSpace_lt_of_skipSpace skipped
      cases more : readItems f (skipSpace t) with
      | none => nofun
      | some r =>
        rw [items shorter more]
        exact id
  next t skipped =>
    split
    next => exact id
    next =>
      have shorter := length_skipSpace_lt_of_skipSpace skipped
      cases more : readMembers f (skipSpace t) with
      | none => nofun
      | some r =>
        rw [members shorter more]
        exact id
  all_goals exact id

theorem readItems_succ_of_covers
    (value : ∀ {r}, readValue f s = some r → readValue g s = some r)
    (items : Covers s (readItems g) (readItems f)) {r : List Json × List Char}
    (read : readItems (f + 1) s = some r) : readItems (g + 1) s = some r := by
  revert read
  rw [readItems, readItems]
  cases first : readValue f s with
  | none => nofun
  | some w =>
    rw [value first]
    have left := ((leavesEnd_readers f).1 first).length_le
    dsimp only
    split
    next => exact id
    next t comma =>
      have := length_lt_of_skipSpace comma
      cases more : readItems f t with
      | none => nofun
      | some r =>
        rw [items (by omega) more]
        exact id
    next => exact id

theorem readMembers_succ_of_covers (value : Covers s (readValue g) (readValue f))
    (members : Covers s (readMembers g) (readMembers f))
    {r : List (List Glyph × Json) × List Char} (read : readMembers (f + 1) s = some r) :
    readMembers (g + 1) s = some r := by
  revert read
  rw [readMembers, readMembers]
  split
  next t quote =>
    have := length_lt_of_skipSpace quote
    cases key : Glyph.readText t with
    | none => nofun
    | some k =>
      have := (Glyph.leavesEnd_readText key).length_le
      dsimp only
      split
      next u colon =>
        have := length_lt_of_skipSpace colon
        cases first : readValue f u with
        | none => nofun
        | some w =>
          have := ((leavesEnd_readers f).1 first).length_le
          rw [value (by omega) first]
          dsimp only
          split
          next => exact id
          next x comma =>
            have := length_lt_of_skipSpace comma
            cases more : readMembers f x with
            | none => nofun
            | some r =>
              rw [members (by omega) more]
              exact id
          next => exact id
      next => exact id
  next => exact id

/-- The induction is on the fuel that was used; the fuel that is enough goes down by one with it,
and the length of the text by one in at most two calls. -/
theorem read_of_enough (f : Nat) : ∀ (g : Nat) (s : List Char),
    (2 * s.length < g → ∀ r, readValue f s = some r → readValue g s = some r) ∧
    (2 * s.length + 1 < g → ∀ r, readItems f s = some r → readItems g s = some r) ∧
    (2 * s.length + 1 < g → ∀ r, readMembers f s = some r → readMembers g s = some r) := by
  induction f with
  | zero =>
    intro g s
    simp
  | succ f ih =>
    intro g s
    cases g with
    | zero => omega
    | succ g =>
      refine ⟨fun enough r => ?value, fun enough r => ?items, fun enough r => ?members⟩
      case value =>
        exact readValue_succ_of_covers (fun shorter => (ih g _).2.1 (by omega) _)
          (fun shorter => (ih g _).2.2 (by omega) _)
      case items =>
        exact readItems_succ_of_covers ((ih g s).1 (by omega) _)
          (fun shorter => (ih g _).2.1 (by omega) _)
      case members =>
        exact readMembers_succ_of_covers (fun shorter => (ih g _).1 (by omega) _)
          (fun shorter => (ih g _).2.2 (by omega) _)

end Fuel

/-- A text is read if and only if it can be read with some fuel. -/
theorem parse?_eq_some_iff (s : String) (v : Json) :
    parse? s = some v ↔
      ∃ fuel rest, readValue fuel s.toList = some (v, rest) ∧ skipSpace rest = [] := by
  constructor
  · intro parsed
    unfold parse? at parsed
    split at parsed
    · contradiction
    next w rest read =>
      split at parsed
      next ended =>
        cases parsed
        exact ⟨_, rest, read, List.isEmpty_iff.1 ended⟩
      next => contradiction
  · rintro ⟨fuel, rest, read, ended⟩
    have enough := (read_of_enough fuel (2 * s.toList.length + 2) s.toList).1 (by omega) _ read
    simp [parse?, enough, ended]

end Json

end Acceptor
