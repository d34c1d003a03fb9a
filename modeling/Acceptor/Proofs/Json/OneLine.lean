import Acceptor.Proofs.Json.RoundTrip

/-! A compact text is one line. The layout adds no blanks, and a break inside of a text is
spelled by an escape. -/
namespace Acceptor

namespace Text

def isBreak (c : Char) : Bool := c = '\n' || c = '\r'

def OneLine (s : List Char) : Prop := ∀ c ∈ s, isBreak c = false

@[simp] theorem oneLine_nil : OneLine [] := nofun

@[simp] theorem oneLine_cons {c : Char} {s : List Char} :
    OneLine (c :: s) ↔ isBreak c = false ∧ OneLine s :=
  List.forall_mem_cons

@[simp] theorem oneLine_append {s t : List Char} :
    OneLine (s ++ t) ↔ OneLine s ∧ OneLine t :=
  List.forall_mem_append

theorem oneLine_flatMap {α : Type} {f : α → List Char} {l : List α}
    (each : ∀ a ∈ l, OneLine (f a)) : OneLine (l.flatMap f) := by
  intro c mem
  obtain ⟨a, held, inside⟩ := List.mem_flatMap.1 mem
  exact each a held c inside

theorem oneLine_of_isDigit {s : List Char} (digits : ∀ d ∈ s, d.isDigit = true) : OneLine s := by
  intro d mem
  have digit := digits d mem
  simp only [isBreak, Bool.or_eq_false_iff, decide_eq_false_iff_not]
  constructor <;> (rintro rfl; simp at digit)

end Text

open Text

namespace Glyph

theorem oneLine_write {g : Glyph} (legible : g.Legible) : OneLine g.write := by
  cases g with
  | plain c =>
    have control : 0x20 ≤ c.toNat := legible.1
    simp only [write, oneLine_cons, oneLine_nil, and_true, isBreak, Bool.or_eq_false_iff,
      decide_eq_false_iff_not]
    constructor <;> (rintro rfl; simp at control)
  | short l =>
    have letters : ∀ e ∈ shortEscapes, OneLine ['\\', e.1] := by simp [shortEscapes, isBreak]
    obtain ⟨e, mem, same⟩ : ∃ e ∈ shortEscapes, e.1 = l := by
      simpa [Legible, meaning?, List.find?_isSome] using legible
    exact same ▸ letters e mem
  | unit u =>
    have digit : ∀ n < 16, isBreak (hexDigit n) = false := by decide +kernel
    have small := u.toNat_lt
    have backslash : isBreak '\\' = false ∧ isBreak 'u' = false := by simp [isBreak]
    simp (disch := omega) only [write, hexDigits, oneLine_cons, oneLine_nil, digit, backslash,
      and_self]

theorem oneLine_writeText {t : List Glyph} (legible : ∀ g ∈ t, g.Legible) :
    OneLine (writeText t) := by
  have inside : OneLine (t.flatMap write) :=
    oneLine_flatMap fun g mem => oneLine_write (legible g mem)
  have quote : isBreak '"' = false := by simp [isBreak]
  simp [writeText, inside, quote]

end Glyph

theorem Numeral.oneLine_write (n : Numeral) : OneLine n.write := by
  have digits : ∀ m, OneLine (Nat.toDigits 10 m) := fun m =>
    oneLine_of_isDigit fun d => isDigit_of_mem_toDigits
  have fraction : OneLine n.fractionDigits :=
    oneLine_of_isDigit fun d => n.isDigit_of_mem_fractionDigits
  have sign : ∀ negative : Prop, [Decidable negative] →
      OneLine (if negative then ['-'] else []) := by
    intro negative _
    split <;> simp [isBreak]
  have marks : isBreak '.' = false ∧ isBreak 'e' = false := by simp [isBreak]
  rw [write_eq, unsignedText, pointText]
  simp only [oneLine_append, sign, digits, true_and]
  constructor
  · split <;> simp [marks, fraction]
  · cases n.exponent? <;> simp [exponentText, marks, sign, digits]

namespace Json

/-- A layout that never begins a new line. -/
structure Layout.Single (l : Layout) : Prop where
  gap : ∀ depth, OneLine (l.gap depth)
  afterColon : OneLine l.afterColon

theorem Layout.single_compact : compact.Single := ⟨fun _ => oneLine_nil, oneLine_nil⟩

section

variable {l : Layout} (single : l.Single)

include single

theorem oneLine_writeItems {items : List Json}
    (each : ∀ v ∈ items, ∀ depth, OneLine (writeAt l depth v)) (depth : Nat) :
    OneLine (writeItems l depth items) := by
  have marks : isBreak ',' = false ∧ isBreak ']' = false := by simp [isBreak]
  induction items with
  | nil => simp [writeItems, single.gap, marks]
  | cons v items ih =>
    have later := ih fun u mem => each u (List.mem_cons_of_mem v mem)
    simp [writeItems, single.gap, marks, each v List.mem_cons_self, later]

theorem oneLine_writeMembers {members : List (List Glyph × Json)}
    (names : ∀ m ∈ members, ∀ g ∈ m.1, g.Legible)
    (each : ∀ m ∈ members, ∀ depth, OneLine (writeAt l depth m.2)) (depth : Nat) :
    OneLine (writeMembers l depth members) := by
  have marks : isBreak ',' = false ∧ isBreak ':' = false ∧ isBreak '\x7d' = false := by
    simp [isBreak]
  induction members with
  | nil => simp [writeMembers, single.gap, marks]
  | cons m members ih =>
    have key := Glyph.oneLine_writeText (names m List.mem_cons_self)
    have value := each m List.mem_cons_self
    have later := ih (fun u mem => names u (List.mem_cons_of_mem m mem))
      (fun u mem => each u (List.mem_cons_of_mem m mem))
    simp [writeMembers, single.gap, single.afterColon, marks, key, value, later]

theorem oneLine_writeAt {v : Json} (legible : v.Legible) (depth : Nat) :
    OneLine (writeAt l depth v) := by
  induction legible generalizing depth with
  | null => exact (by simp [isBreak] : OneLine ['n', 'u', 'l', 'l'])
  | bool b =>
    cases b with
    | true => exact (by simp [isBreak] : OneLine ['t', 'r', 'u', 'e'])
    | false => exact (by simp [isBreak] : OneLine ['f', 'a', 'l', 's', 'e'])
  | num n => exact n.oneLine_write
  | str text => exact Glyph.oneLine_writeText text
  | @arr items each ih =>
    cases items with
    | nil => exact (by simp [isBreak] : OneLine ['[', ']'])
    | cons v items =>
      -- behind its first character, an array is what follows an item, but for the comma
      have inside := oneLine_writeItems single ih depth
      simp only [writeItems, oneLine_cons] at inside
      exact oneLine_cons.2 ⟨by simp [isBreak], inside.2⟩
  | @obj members names each ih =>
    cases members with
    | nil => exact (by simp [isBreak] : OneLine ['\x7b', '\x7d'])
    | cons m members =>
      have inside := oneLine_writeMembers single names ih depth
      simp only [writeMembers, oneLine_cons] at inside
      exact oneLine_cons.2 ⟨by simp [isBreak], inside.2⟩

end

theorem oneLine_compact {v : Json} (legible : v.Legible) : OneLine v.compact.toList := by
  rw [compact, write, String.toList_ofList]
  exact oneLine_writeAt Layout.single_compact legible 0

end Json

end Acceptor
