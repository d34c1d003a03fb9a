import Acceptor.BuildError
import Acceptor.Proofs.Wording
import Acceptor.Trace

/-! Messages identify their causes. Every message of a rejection or of a build error is fixed words
with values between them. The shapes of any two kinds part at a word, and in messages of one kind
every value can be read off, so the text of a message tells all of it (`messages_injective`). -/
namespace Acceptor

open Wording

theorem toList_toString_text (x : String) : (toString x).toList = x.toList := rfl

theorem toList_toString_symbol (c : Char) : (toString c).toList = [c] := String.toList_singleton c

theorem toList_toString_number (n : Nat) : (toString n).toList = Nat.toDigits 10 n :=
  Nat.toList_repr

theorem toList_toString_state (s : State) : (toString s).toList = Nat.toDigits 10 s.toNat :=
  Nat.toList_repr

namespace Rejection

/-- The message, with its words and its values apart. -/
def parts : Rejection → List Part
  | invalidSymbol c i =>
    words "Symbol '" ++ [.symbol c] ++ words "' at position " ++ [.number i] ++
      words " is not in the alphabet"
  | noTransition s i =>
    words "State '" ++ [.number s.toNat] ++
      words "' has no defined transitions (symbol at position " ++ [.number i] ++ words ")"
  | invalidTarget s c i =>
    words "State '" ++ [.number s.toNat] ++ words "' has no transition on symbol '" ++
      [.symbol c] ++ words "' at position " ++ [.number i]
  | trapState s c i =>
    words "Symbol '" ++ [.symbol c] ++ words "' at position " ++ [.number i] ++
      words " leads to trap state '" ++ [.number s.toNat] ++ words "'"

def blank : Rejection → Rejection
  | invalidSymbol .. => invalidSymbol 'a' 0
  | noTransition .. => noTransition 0 0
  | invalidTarget .. => invalidTarget 0 'a' 0
  | trapState .. => trapState 0 'a' 0

def blanks : List Rejection :=
  [invalidSymbol 'a' 0, noTransition 0 0, invalidTarget 0 'a' 0, trapState 0 'a' 0]

theorem text_parts (r : Rejection) : text r.parts = r.message.toList := by
  cases r <;> simp only [parts, message, text_append, text_words, text_singleton, Part.text,
    String.toList_append, toList_toString_text, toList_toString_symbol, toList_toString_number,
    toList_toString_state]

/-- Among messages of one kind, the values are what can differ. -/
theorem eq_of_parts {r r' : Rejection} (sameKind : r.blank = r'.blank)
    (sameParts : r.parts = r'.parts) : r = r' := by
  cases r <;> cases r' <;> try contradiction
  all_goals simp_all [parts, UInt32.toNat_inj]

theorem message_injective : Function.Injective message := by
  have listed : ∀ r, blank r ∈ blanks := by intro r; cases r <;> simp [blank, blanks]
  have shapes : ∀ r, r.parts.map Part.slot = (blank r).parts.map Part.slot := by
    intro r; cases r <;> rfl
  exact injective_of_parts text_parts eq_of_parts listed shapes (by decide +kernel)

end Rejection

namespace BuildError

def parts : BuildError → List Part
  | emptyStates => words "The states of a valid DFA cannot be empty"
  | missingStartState => words "Start state not specified. Call .start(state) before .build()"
  | unknownStartState s =>
    words "Start state '" ++ [.number s.toNat] ++ words "' is not in the set of states"
  | unknownFinalState s =>
    words "Final state '" ++ [.number s.toNat] ++ words "' is not in the set of states"
  | unknownTrapState s =>
    words "Trap state '" ++ [.number s.toNat] ++ words "' is not in the set of states"
  | emptyAlphabet => words "The alphabet of a valid DFA cannot be empty"
  | malformedSymbol x => words "Symbol " ++ [.quote x] ++ words " is not a single character"
  | unknownSourceState s =>
    words "Transition defined for an unknown source state '" ++ [.number s.toNat] ++ words "'"
  | unknownSymbol s c =>
    words "Transition from state '" ++ [.number s.toNat] ++ words "' uses symbol '" ++
      [.symbol c] ++ words "' not in the alphabet"
  | unknownTargetState s c t =>
    words "Transition from state '" ++ [.number s.toNat] ++ words "' on symbol '" ++
      [.symbol c] ++ words "' leads to an unknown state '" ++ [.number t.toNat] ++ words "'"
  | missingTransition s c =>
    words "Missing transition for state '" ++ [.number s.toNat] ++ words "' and symbol '" ++
      [.symbol c] ++ words "'. " ++ words
      "Every non-final state needs a transition for every symbol (or one into a trap state)"
  | trapEscape p c t =>
    words "Trap state '" ++ [.number p.toNat] ++ words "' escapes to '" ++ [.number t.toNat] ++
      words "' on symbol '" ++ [.symbol c] ++ words "'"

def blank : BuildError → BuildError
  | emptyStates => emptyStates
  | missingStartState => missingStartState
  | unknownStartState _ => unknownStartState 0
  | unknownFinalState _ => unknownFinalState 0
  | unknownTrapState _ => unknownTrapState 0
  | emptyAlphabet => emptyAlphabet
  | malformedSymbol _ => malformedSymbol ""
  | unknownSourceState _ => unknownSourceState 0
  | unknownSymbol .. => unknownSymbol 0 'a'
  | unknownTargetState .. => unknownTargetState 0 'a' 0
  | missingTransition .. => missingTransition 0 'a'
  | trapEscape .. => trapEscape 0 'a' 0

def blanks : List BuildError :=
  [emptyStates, missingStartState, unknownStartState 0, unknownFinalState 0, unknownTrapState 0,
    emptyAlphabet, malformedSymbol "", unknownSourceState 0, unknownSymbol 0 'a',
    unknownTargetState 0 'a' 0, missingTransition 0 'a', trapEscape 0 'a' 0]

theorem text_parts (e : BuildError) : text e.parts = e.message.toList := by
  unfold message
  cases e <;> simp only [parts, text_append, text_words, text_singleton, Part.text,
    String.toList_append, toList_toString_text, toList_toString_symbol, toList_toString_state]

theorem eq_of_parts {e e' : BuildError} (sameKind : e.blank = e'.blank)
    (sameParts : e.parts = e'.parts) : e = e' := by
  cases e <;> cases e' <;> try contradiction
  all_goals simp_all [parts, UInt32.toNat_inj]

theorem message_injective : Function.Injective message := by
  have listed : ∀ e, blank e ∈ blanks := by intro e; cases e <;> simp [blank, blanks]
  have shapes : ∀ e, e.parts.map Part.slot = (blank e).parts.map Part.slot := by
    intro e; cases e <;> rfl
  exact injective_of_parts text_parts eq_of_parts listed shapes (by decide +kernel)

end BuildError

/-- Messages identify their causes, though symbols stand raw in them. -/
theorem messages_injective :
    Function.Injective Rejection.message ∧ Function.Injective BuildError.message :=
  ⟨Rejection.message_injective, BuildError.message_injective⟩

end Acceptor
