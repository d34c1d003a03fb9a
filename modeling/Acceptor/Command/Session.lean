import Acceptor.Command.Arguments
import Acceptor.Command.Audit
import Acceptor.Command.Repl

/-! Carrying out a request. Every command but `audit` begins by filling a registry with the
built-in automata, unless they are declined, and with those of the definition file. -/
namespace Acceptor.Command

namespace Invocation

/-- The one file that an invocation reads. -/
def path? (i : Invocation) : Option String :=
  match i.action with
  | .audit path => some path
  | .query _ => i.definitions?

end Invocation

def emptyMessage : String := "No automata registered. Pass --definitions or drop --no-catalog"

def builtins (i : Invocation) (stamp : String) : Outcome (List RegistryError) :=
  if i.withBuiltin then Registry.withCatalog stamp else ⟨[], ∅, []⟩

/-- The definition file, if one is named, adds to what is there. -/
def addDefinitions (r : Registry) (i : Invocation) (stamp : String)
    (content : Option Text.Bytes) : Outcome (Except String Unit) :=
  match i.definitions? with
  | none => ⟨.ok (), r, []⟩
  | some path =>
    let loaded := r.loadFile stamp path content
    match loaded.value with
    | .error _ => ⟨.error s!"Failed to load definitions from {path}", r, loaded.log⟩
    | .ok failures => ⟨.ok (), loaded.registry, loaded.log ++ failures.map .skipped⟩

def fillRegistry (i : Invocation) (stamp : String) (content : Option Text.Bytes) :
    Outcome (Except String Unit) :=
  let start := builtins i stamp
  let filled := addDefinitions start.registry i stamp content
  let log := start.log ++ filled.log
  match filled.value with
  | .error e => ⟨.error e, filled.registry, log⟩
  | .ok _ =>
    if filled.registry.isEmpty then ⟨.error emptyMessage, filled.registry, log⟩
    else ⟨.ok (), filled.registry, log ++ [.ready filled.registry.size]⟩

def runWord (r : Registry) (name word : String) (pretty : Bool) : Report :=
  let run := r.run name word
  match run.value with
  | .error e => .failed e.message run.log
  | .ok trace =>
    let text := if pretty then trace.toJson.pretty else trace.toJson.compact
    .printed (text ++ "\n") run.log

def list (r : Registry) : Report :=
  .printed ((Json.arr (r.entries.values.map Entry.summaryToJson)).pretty ++ "\n") []

def describe (r : Registry) (name : String) : Report :=
  let found := r.get name
  match found.value with
  | .error e => .failed e.message found.log
  | .ok entry => .printed (entry.describe.pretty ++ "\n") found.log

def ask (r : Registry) : Query → Opening
  | .run name word pretty => .settled (runWord r name word pretty)
  | .list => .settled (list r)
  | .describe name => .settled (describe r name)
  | .repl => greeting r

/-- The content is that of the file at `path?`; without bytes there is no such file. -/
def start (i : Invocation) (stamp : String) (content : Option Text.Bytes) : Opening :=
  match i.action with
  | .audit path => .settled (audit path content)
  | .query q =>
    let filled := fillRegistry i stamp content
    match filled.value with
    | .error e => .settled (.failed e filled.log)
    | .ok _ => (ask filled.registry q).after filled.log

def perform (i : Invocation) (stamp : String) (content : Option Text.Bytes)
    (stdin : Text.Bytes) : Report :=
  (start i stamp content).finish stdin

section

variable {i : Invocation} (stamp : String) (content : Option Text.Bytes) (stdin : Text.Bytes)

theorem perform_audit {path : String} (asked : i.action = .audit path) :
    perform i stamp content stdin = audit path content := by
  rw [perform, start, asked]
  rfl

/-- A query is answered about the registry as it was filled. -/
theorem perform_query {q : Query} (asked : i.action = .query q) :
    perform i stamp content stdin =
      match (fillRegistry i stamp content).value with
      | .error e => .failed e (fillRegistry i stamp content).log
      | .ok _ => .after "" (fillRegistry i stamp content).log
          ((ask (fillRegistry i stamp content).registry q).finish stdin) := by
  rw [perform, start, asked]
  dsimp only
  cases (fillRegistry i stamp content).value with
  | error e => rfl
  | ok => exact Opening.finish_after ..

end

end Acceptor.Command
