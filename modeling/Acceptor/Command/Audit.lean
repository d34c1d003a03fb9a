import Acceptor.Command.Report

/-! Auditing a definition file: every definition gets a report, in file order, and any that
fails fails the file. Nothing is registered and nothing is logged. -/
namespace Acceptor.Command

def auditText (n : NamedDefinition) : String :=
  match n.definition.audit with
  | .passed => s!"{n.name}: ok\n"
  | .failed first rest =>
    s!"{n.name}: {rest.length + 1} violation(s)\n" ++
      String.join ((first :: rest).map fun e => s!"  - {e.message}\n")

def auditFailures (c : Catalog) : Nat :=
  c.automata.countP fun n => n.definition.audit ≠ .passed

def auditCatalog (c : Catalog) : Report where
  stdout := String.join (c.automata.map auditText)
  error? :=
    if auditFailures c = 0 then none
    else some s!"{auditFailures c} of {c.automata.length} definition(s) failed validation"
  log := []

def audit (path : String) (content : Option Text.Bytes) : Report :=
  match content.bind Text.ofUtf8? with
  | none => .failed s!"Failed to read {path}" []
  | some text =>
    match Catalog.parse? text with
    | none => .failed s!"Failed to parse {path}" []
    | some catalog => auditCatalog catalog

end Acceptor.Command
