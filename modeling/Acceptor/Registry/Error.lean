import Acceptor.BuildError

/-! Why a registry refuses a request. -/
namespace Acceptor

inductive FileFailure where
  | notFound
  | notUtf8
  deriving DecidableEq

inductive RegistryError where
  | unknownAutomaton (name : String)
  | duplicateName (name : String)
  | construction (name : String) (cause : BuildError)
  | unreadable (failure : FileFailure)
  | notACatalog
  deriving DecidableEq

namespace FileFailure

def message : FileFailure → String
  | notFound => "no such file"
  | notUtf8 => "stream did not contain valid UTF-8"

end FileFailure

namespace RegistryError

def message : RegistryError → String
  | unknownAutomaton name => s!"Unknown automaton '{name}'"
  | duplicateName name => s!"An automaton named '{name}' is already registered"
  | construction name cause => s!"Error compiling automaton '{name}': {cause.message}"
  | unreadable failure => s!"i/o error: {failure.message}"
  | notACatalog => "definition file parse error: not a catalog of automata"

end RegistryError

end Acceptor
