import Acceptor.Registry.Error
import Acceptor.Format.Trace
import Acceptor.Json.Writer

/-! Events that are logged, with the level and the label under which each is shown. -/
namespace Acceptor

inductive Level where
  | error
  | warn
  | info
  | debug
  deriving DecidableEq

namespace Level

def name : Level → String
  | error => "ERROR"
  | warn => "WARN"
  | info => "INFO"
  | debug => "DEBUG"

/-- The more verbose, the higher. -/
def rank : Level → Nat
  | error => 1
  | warn => 2
  | info => 3
  | debug => 4

end Level

inductive Event where
  | registered (name : String) (states symbols : Nat)
  | duplicateName (name : String)
  | constructionFailed (name : String) (cause : BuildError)
  | notFound (name : String)
  | fileLoaded (path : String) (definitions : Nat)
  | run (name : String) (accepted : Bool) (consumed : Nat) (halt? : Option Halt)
  | skipped (failure : RegistryError)
  | ready (automata : Nat)
  deriving DecidableEq

namespace Event

def level : Event → Level
  | registered .. => .info
  | duplicateName _ => .warn
  | constructionFailed .. => .error
  | notFound _ => .warn
  | fileLoaded .. => .debug
  | run .. => .debug
  | skipped _ => .warn
  | ready _ => .info

def label : Event → String
  | registered .. => "automaton_registered"
  | duplicateName _ => "automaton_duplicate_name"
  | constructionFailed .. => "automaton_construction_failed"
  | notFound _ => "automaton_not_found"
  | fileLoaded .. => "definition_file_loaded"
  | run .. => "automaton_run"
  | skipped _ => "definition_skipped"
  | ready _ => "registry_ready"

/-- The part of the program that an event comes from, under the name that filters use. -/
def target : Event → String
  | skipped _ => "dfa_trace"
  | ready _ => "dfa_trace"
  | registered .. => "dfa_trace::registry"
  | duplicateName _ => "dfa_trace::registry"
  | constructionFailed .. => "dfa_trace::registry"
  | notFound _ => "dfa_trace::registry"
  | fileLoaded .. => "dfa_trace::registry"
  | run .. => "dfa_trace::registry"

def haltText : Option Halt → String
  | none => "None"
  | some .invalidSymbol => "Some(InvalidSymbol)"
  | some .noTransition => "Some(NoTransition)"
  | some .invalidTarget => "Some(InvalidTarget)"
  | some .trapState => "Some(TrapState)"

def fields : Event → List (String × Json)
  | registered name states symbols =>
    [("automaton", .ofString name), ("states", .ofNat states), ("symbols", .ofNat symbols)]
  | duplicateName name => [("automaton", .ofString name)]
  | constructionFailed name cause =>
    [("automaton", .ofString name), ("error", .ofString cause.message)]
  | notFound name => [("automaton", .ofString name)]
  | fileLoaded path definitions =>
    [("path", .ofString path), ("definitions", .ofNat definitions)]
  | run name accepted consumed halt? =>
    [("automaton", .ofString name), ("accepted", .bool accepted), ("consumed", .ofNat consumed),
      ("halt", .ofString (haltText halt?))]
  | skipped failure => [("error", .ofString failure.message)]
  | ready automata => [("automata", .ofNat automata)]

/-- The label counts as a field. -/
def fieldNames (e : Event) : List String := "message" :: e.fields.map Prod.fst

/-- Level and label come first, then each field with its value. -/
def line (e : Event) : String :=
  let shown := e.fields.map fun f => " " ++ f.1 ++ "=" ++ f.2.compact
  e.level.name ++ " " ++ e.label ++ String.join shown ++ "\n"

end Event

end Acceptor
