import Acceptor.Automaton

/-! Collecting the parts of a definition call by call. Nothing is checked until the parts
are put together, and only the start state and the states are asked for then. -/
namespace Acceptor

structure Builder where
  states : SortedSet State
  alphabet : SortedSet String
  transitions : Table
  startState? : Option State
  finalStates : SortedSet State
  trapStates : SortedSet State
  deriving DecidableEq

namespace Builder

def empty : Builder := ⟨∅, ∅, ∅, none, ∅, ∅⟩

instance : EmptyCollection Builder := ⟨empty⟩

def state (b : Builder) (s : State) : Builder :=
  { b with states := b.states.insert s }

def addStates (b : Builder) (l : List State) : Builder :=
  { b with states := b.states.insertAll l }

def symbol (b : Builder) (c : Char) : Builder :=
  { b with alphabet := b.alphabet.insert (String.singleton c) }

def symbols (b : Builder) (l : List Char) : Builder :=
  { b with alphabet := b.alphabet.insertAll (l.map String.singleton) }

/-- Entries are added to the row that the source has already, if it has one. -/
def mergeRow (t : Table) (source : State) (entries : List (String × State)) : Table :=
  t.insert source (((t.find? source).getD ∅).insertAll entries)

/-- An earlier transition from the same state on the same symbol is replaced. -/
def transition (b : Builder) (source : State) (c : Char) (target : State) : Builder :=
  { b with transitions := mergeRow b.transitions source [(String.singleton c, target)] }

/-- Rows are merged entry by entry; an empty row is kept. -/
def table (b : Builder) (t : Table) : Builder :=
  { b with
    transitions := t.entries.foldl (fun u e => mergeRow u e.1 e.2.entries) b.transitions }

/-- The last start state counts. -/
def start (b : Builder) (s : State) : Builder := { b with startState? := some s }

def finalState (b : Builder) (s : State) : Builder :=
  { b with finalStates := b.finalStates.insert s }

def finals (b : Builder) (l : List State) : Builder :=
  { b with finalStates := b.finalStates.insertAll l }

def trap (b : Builder) (s : State) : Builder :=
  { b with trapStates := b.trapStates.insert s }

def traps (b : Builder) (l : List State) : Builder :=
  { b with trapStates := b.trapStates.insertAll l }

/-- One step of collecting, as a value. -/
inductive Call where
  | state (s : State)
  | states (l : List State)
  | symbol (c : Char)
  | symbols (l : List Char)
  | transition (source : State) (c : Char) (target : State)
  | table (t : Table)
  | start (s : State)
  | finalState (s : State)
  | finals (l : List State)
  | trap (s : State)
  | traps (l : List State)
  deriving DecidableEq

def call (b : Builder) : Call → Builder
  | .state s => b.state s
  | .states l => b.addStates l
  | .symbol c => b.symbol c
  | .symbols l => b.symbols l
  | .transition s c t => b.transition s c t
  | .table t => b.table t
  | .start s => b.start s
  | .finalState s => b.finalState s
  | .finals l => b.finals l
  | .trap s => b.trap s
  | .traps l => b.traps l

def callAll (b : Builder) (calls : List Call) : Builder := calls.foldl call b

/-- That there are no states is reported before a missing start state. -/
def definition (b : Builder) : Except BuildError Definition :=
  if b.states.isEmpty then .error .emptyStates
  else match b.startState? with
    | none => .error .missingStartState
    | some s => .ok ⟨b.states, b.alphabet, b.transitions, s, b.finalStates, b.trapStates⟩

def build (b : Builder) : Except BuildError Automaton :=
  match b.definition with
  | .error e => .error e
  | .ok d => d.build

end Builder

end Acceptor
