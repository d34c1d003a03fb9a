import Acceptor.Registry.Event
import Acceptor.Simulation
import Acceptor.Text.Utf8

/-! Built automata under their names. A name is given once and for all: no operation takes an
entry out or puts another in its place. Every operation says what it logs, and the stamp is
the time at which an entry goes in. -/
namespace Acceptor

structure Entry where
  name : String
  description : Option String
  automaton : Automaton
  registeredAt : String
  deriving DecidableEq

structure Registry where
  entries : SortedMap String Entry
  deriving DecidableEq

/-- What an operation answers, the registry it leaves, and the events it logs. -/
structure Outcome (α : Type) where
  value : α
  registry : Registry
  log : List Event

namespace Registry

def empty : Registry := ⟨∅⟩

instance : EmptyCollection Registry := ⟨empty⟩

def size (r : Registry) : Nat := r.entries.size

def isEmpty (r : Registry) : Bool := r.entries.isEmpty

def names (r : Registry) : List String := r.entries.keys

def find? (r : Registry) (name : String) : Option Entry := r.entries.find? name

/-- A name that is taken is refused before the definition is looked at. -/
def register (r : Registry) (stamp : String) (n : NamedDefinition) :
    Outcome (Except RegistryError Entry) :=
  if r.entries.contains n.name then
    ⟨.error (.duplicateName n.name), r, [.duplicateName n.name]⟩
  else match n.definition.build with
    | .error cause =>
      ⟨.error (.construction n.name cause), r, [.constructionFailed n.name cause]⟩
    | .ok a =>
      let entry : Entry := ⟨n.name, n.description, a, stamp⟩
      ⟨.ok entry, ⟨r.entries.insert n.name entry⟩,
        [.registered n.name a.states.size a.alphabet.size]⟩

def failure? {α : Type} : Except RegistryError α → Option RegistryError
  | .error e => some e
  | .ok _ => none

/-- Goes on behind a failure; answers the failures in order. -/
def registerAll (r : Registry) (stamp : String) :
    List NamedDefinition → Outcome (List RegistryError)
  | [] => ⟨[], r, []⟩
  | n :: rest =>
    let first := r.register stamp n
    let others := first.registry.registerAll stamp rest
    ⟨(failure? first.value).toList ++ others.value, others.registry, first.log ++ others.log⟩

def withCatalog (stamp : String) : Outcome (List RegistryError) :=
  (∅ : Registry).registerAll stamp Catalog.builtin

/-- Without bytes there is no file. -/
def readCatalog (content : Option Text.Bytes) : Except RegistryError Catalog :=
  match content with
  | none => .error (.unreadable .notFound)
  | some bytes =>
    match Text.ofUtf8? bytes with
    | none => .error (.unreadable .notUtf8)
    | some text =>
      match Catalog.parse? text with
      | none => .error .notACatalog
      | some catalog => .ok catalog

/-- Fails only if the file cannot be read as a catalog; the registry is then left as it is. -/
def loadFile (r : Registry) (stamp path : String) (content : Option Text.Bytes) :
    Outcome (Except RegistryError (List RegistryError)) :=
  match readCatalog content with
  | .error e => ⟨.error e, r, []⟩
  | .ok catalog =>
    let loaded := r.registerAll stamp catalog.automata
    ⟨.ok loaded.value, loaded.registry,
      .fileLoaded path catalog.automata.length :: loaded.log⟩

def get (r : Registry) (name : String) : Outcome (Except RegistryError Entry) :=
  match r.find? name with
  | none => ⟨.error (.unknownAutomaton name), r, [.notFound name]⟩
  | some entry => ⟨.ok entry, r, []⟩

/-- A word that is not accepted is an answer; only an unknown name is an error. -/
def run (r : Registry) (name word : String) : Outcome (Except RegistryError Trace) :=
  match r.find? name with
  | none => ⟨.error (.unknownAutomaton name), r, [.notFound name]⟩
  | some entry =>
    let trace := entry.automaton.simulate word
    ⟨.ok trace, r, [.run name trace.accepted trace.consumed trace.halt?]⟩

end Registry

end Acceptor
