import Acceptor.Command.Report
import Acceptor.Text.Blank

/-! A conversation about a registry: each line names an automaton and a word and is answered
by one line. No line has an effect on the answers to later ones. -/
namespace Acceptor.Command

/-- What a line is taken for. -/
inductive Remark where
  | garbled
  | blank
  | farewell
  | request (name word : String)
  deriving DecidableEq

def isFarewell (text : List Char) : Bool :=
  let lower := text.map Char.toLower
  lower = "exit".toList || lower = "quit".toList

/-- Blanks inside the word are kept, those around it are not. -/
def hear (line : Text.Bytes) : Remark :=
  match Text.ofUtf8? line with
  | none => .garbled
  | some text =>
    let text := Text.trim text.toList
    if text.isEmpty then .blank
    else if isFarewell text then .farewell
    else
      let (name, rest) := Text.splitWord text
      .request (.ofList name) (.ofList (Text.trim rest))

/-- What follows a prompt, and whether another prompt does. -/
structure Turn where
  report : Report
  goesOn : Bool
  deriving DecidableEq

def answer (r : Registry) (name word : String) : Report :=
  let run := r.run name word
  match run.value with
  | .ok trace => .printed (trace.toJson.compact ++ "\n") run.log
  | .error e => .printed s!"error: {e.message}\n" run.log

def turn (r : Registry) (line : Text.Bytes) : Turn :=
  match hear line with
  | .garbled => ⟨.failed "stream did not contain valid UTF-8" [], false⟩
  | .blank => ⟨.printed "" [], true⟩
  | .farewell => ⟨.printed "" [], false⟩
  | .request name word => ⟨answer r name word, true⟩

def banner (r : Registry) : String :=
  "Automata: " ++ ", ".intercalate r.names ++ "\n" ++
    "Enter `<name> <word>` to validate a word, or `exit` to quit.\n"

/-- The prompt stands before every line that is read, and before the end of the input. -/
def prompt : String := ">> "

def converse (r : Registry) : List Text.Bytes → Report
  | [] => .printed prompt []
  | line :: rest =>
    let said := turn r line
    if said.goesOn then .after (prompt ++ said.report.stdout) said.report.log (converse r rest)
    else .after prompt [] said.report

/-- What is done before any input is read, and the registry that is then talked about, if any. -/
structure Opening where
  report : Report
  about? : Option Registry

namespace Opening

/-- There is no more to come. -/
def settled (report : Report) : Opening := ⟨report, none⟩

/-- What was logged before comes first. -/
def after (log : List Event) (o : Opening) : Opening := { o with report := .after "" log o.report }

/-- All that is printed and logged when the input is over. -/
def finish (o : Opening) (stdin : Text.Bytes) : Report :=
  match o.about? with
  | none => o.report
  | some r => .after o.report.stdout o.report.log (converse r (Text.lines stdin))

@[simp] theorem finish_settled (report : Report) (stdin : Text.Bytes) :
    (settled report).finish stdin = report := rfl

theorem finish_after (log : List Event) (o : Opening) (stdin : Text.Bytes) :
    (o.after log).finish stdin = .after "" log (o.finish stdin) := by
  obtain ⟨report, about?⟩ := o
  cases about? with
  | none => rfl
  | some r => simp [finish, after, Report.after]

end Opening

def greeting (r : Registry) : Opening := ⟨.printed (banner r) [], some r⟩

def repl (r : Registry) (stdin : Text.Bytes) : Report := (greeting r).finish stdin

end Acceptor.Command
