import Acceptor.Registry.Basic

/-! The JSON form of compiled automata and of registry entries. An automaton is written with
the fields of a definition, so its text can be read as one. -/
namespace Acceptor

namespace Automaton

def symbolToJson (c : Char) : Json := .ofString (String.singleton c)

def rowToJson (row : SortedMap Char State) : Json :=
  .record (row.entries.map fun e => (String.singleton e.1, State.toJson e.2))

def transitionsToJson (a : Automaton) : Json :=
  .record (a.transitions.entries.map fun e => (State.rowName e.1, rowToJson e.2))

def toJson (a : Automaton) : Json :=
  .record [
    ("states", a.states.toJson State.toJson),
    ("alphabet", a.alphabet.toJson symbolToJson),
    ("transitions", a.transitionsToJson),
    ("start_state", State.toJson a.startState),
    ("final_states", a.finalStates.toJson State.toJson),
    ("trap_states", a.trapStates.toJson State.toJson)]

end Automaton

namespace Entry

/-- States are counted and not listed. -/
def summary (e : Entry) : List (String × Json) := [
  ("name", .ofString e.name),
  ("description", .ofOption Json.ofString e.description),
  ("states", .ofNat e.automaton.states.size),
  ("alphabet", e.automaton.alphabet.toJson Automaton.symbolToJson),
  ("start_state", State.toJson e.automaton.startState),
  ("final_states", e.automaton.finalStates.toJson State.toJson),
  ("trap_states", e.automaton.trapStates.toJson State.toJson)]

def stamped (e : Entry) : List (String × Json) :=
  e.summary ++ [("registered_at", .ofString e.registeredAt)]

def summaryToJson (e : Entry) : Json := .record e.stamped

def describe (e : Entry) : Json :=
  .record (e.stamped ++ [("properties", e.automaton.toJson)])

end Entry

end Acceptor
