import Acceptor.Command.Arguments
import Acceptor.Command.Directive

/-! Which events are shown. Of the directives that cover an event the most specific one
decides. Directives in the environment win over the flags, and quiet wins over verbose. -/
namespace Acceptor.Command

namespace Directive

def fieldNames (d : Directive) : List String := d.fields.map FieldPattern.name

/-- Events belong to no span and are not looked up by the values of their fields, so a
directive that asks for either covers none. -/
def covers (d : Directive) (e : Event) : Bool :=
  d.span?.isNone &&
    (d.target?.all fun t => t.toList.isPrefixOf e.target.toList) &&
    d.fields.all fun f => f.value?.isNone && e.fieldNames.contains f.name

/-- Grows with the target; least without one. -/
def reach (d : Directive) : Nat :=
  match d.target? with
  | none => 0
  | some t => t.utf8ByteSize + 1

/-- A longer target counts most, then more fields, then their names in dictionary order. -/
def outranks (a b : Directive) : Bool :=
  b.reach < a.reach ∨ (b.reach = a.reach ∧
    (b.fields.length < a.fields.length ∨ (b.fields.length = a.fields.length ∧
      b.fieldNames < a.fieldNames)))

/-- Among equals the last one. -/
def mostSpecific? : List Directive → Option Directive
  | [] => none
  | d :: rest =>
    match mostSpecific? rest with
    | none => some d
    | some later => if d.outranks later then some d else some later

end Directive

structure LogFilter where
  directives : List Directive
  deriving DecidableEq

namespace LogFilter

/-- Directives stand between commas. One that cannot be read spoils the filter, and a filter
without any shows nothing. -/
def ofString? (s : String) : Option LogFilter :=
  (((s.splitOn ",").filter (· ≠ "")).mapM fun p => Directive.read? p.toList).map mk

def ofFlags (i : Invocation) : LogFilter :=
  let level : Level := if i.quiet then .error else if i.verbose then .debug else .warn
  ⟨[⟨some level, none, none, []⟩]⟩

/-- A text that is no filter is as good as none. -/
def choose (text? : Option String) (i : Invocation) : LogFilter :=
  match text?.bind ofString? with
  | some f => f
  | none => ofFlags i

def shows (f : LogFilter) (e : Event) : Bool :=
  match Directive.mostSpecific? (f.directives.filter fun d => d.covers e) with
  | none => false
  | some d => d.threshold.allows e.level

end LogFilter

end Acceptor.Command
