import Acceptor.Definition
import Acceptor.Text.Quoted

/-! Why a definition is no automaton: one constructor for each way to break a rule. -/
namespace Acceptor

inductive BuildError where
  | emptyStates
  | missingStartState
  | unknownStartState (state : State)
  | unknownFinalState (state : State)
  | unknownTrapState (state : State)
  | emptyAlphabet
  | malformedSymbol (spelled : String)
  | unknownSourceState (state : State)
  | unknownSymbol (state : State) (symbol : Char)
  | unknownTargetState (state : State) (symbol : Char) (target : State)
  | missingTransition (state : State) (symbol : Char)
  | trapEscape (trap : State) (symbol : Char) (target : State)
  deriving DecidableEq

namespace BuildError

/-- A malformed symbol is shown quoted; every other symbol stands raw between apostrophes. -/
def message : BuildError → String
  | emptyStates => "The states of a valid DFA cannot be empty"
  | missingStartState => "Start state not specified. Call .start(state) before .build()"
  | unknownStartState s => s!"Start state '{s}' is not in the set of states"
  | unknownFinalState s => s!"Final state '{s}' is not in the set of states"
  | unknownTrapState s => s!"Trap state '{s}' is not in the set of states"
  | emptyAlphabet => "The alphabet of a valid DFA cannot be empty"
  | malformedSymbol x => s!"Symbol {Text.quoted x} is not a single character"
  | unknownSourceState s => s!"Transition defined for an unknown source state '{s}'"
  | unknownSymbol s c => s!"Transition from state '{s}' uses symbol '{c}' not in the alphabet"
  | unknownTargetState s c t =>
    s!"Transition from state '{s}' on symbol '{c}' leads to an unknown state '{t}'"
  | missingTransition s c =>
    s!"Missing transition for state '{s}' and symbol '{c}'. " ++
      "Every non-final state needs a transition for every symbol (or one into a trap state)"
  | trapEscape p c t => s!"Trap state '{p}' escapes to '{t}' on symbol '{c}'"

end BuildError

end Acceptor
