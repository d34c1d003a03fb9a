import Acceptor.Sorted.Set
import Acceptor.Sorted.Map

/-! A definition lists the parts of an automaton as an author gives them. Nothing about
it has been checked: states may be missing and symbols may be strings of any length. -/
namespace Acceptor

/-- States are opaque: they are only compared, ordered and shown as decimal numbers. -/
abbrev State := UInt32

/-- From a source state and a spelled symbol to the target state. A row may be empty, which
is not the same as no row. -/
abbrev Table := SortedMap State (SortedMap String State)

structure Definition where
  states : SortedSet State
  alphabet : SortedSet String
  transitions : Table
  startState : State
  finalStates : SortedSet State
  trapStates : SortedSet State
  deriving DecidableEq

namespace Definition

def row? (d : Definition) (s : State) : Option (SortedMap String State) :=
  d.transitions.find? s

def target? (d : Definition) (s : State) (x : String) : Option State :=
  (d.row? s).bind (·.find? x)

end Definition

end Acceptor
