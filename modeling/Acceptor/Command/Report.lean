import Acceptor.Format.Automaton

/-! What a command leaves behind: the text it prints, the error that ends it, if any, and the
events it logs. -/
namespace Acceptor.Command

structure Report where
  stdout : String
  error? : Option String
  log : List Event
  deriving DecidableEq

namespace Report

def code (r : Report) : UInt32 := if r.error?.isSome then 1 else 0

def printed (text : String) (log : List Event) : Report := ⟨text, none, log⟩

def failed (error : String) (log : List Event) : Report := ⟨"", some error, log⟩

/-- What was printed and logged before comes first. -/
def after (text : String) (log : List Event) (r : Report) : Report :=
  ⟨text ++ r.stdout, r.error?, log ++ r.log⟩

end Report

end Acceptor.Command
