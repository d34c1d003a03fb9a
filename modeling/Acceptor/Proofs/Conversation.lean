import Mathlib.Data.List.Forall2
import Acceptor.Proofs.Cuts
import Acceptor.Proofs.RunCommand

/-! Conversations. What is printed is a header and then, for each line up to one that ends the
conversation, a prompt and an answer that depends on nothing but the line and the registry. -/
namespace Acceptor.Command

theorem isFarewell_iff {t : List Char} :
    isFarewell t = true ↔ String.ofList (t.map Char.toLower) ∈ ["exit", "quit"] := by
  simp [isFarewell, ← String.toList_inj]

/-- What a line has to be like to be taken for a remark. -/
inductive Means (line : Text.Bytes) : Remark → Prop
  | garbled (unreadable : Text.ofUtf8? line = none) : Means line .garbled
  | blank {text : String} (read : Text.ofUtf8? line = some text)
      (trimmed : Text.Trimmed text.toList []) : Means line .blank
  | farewell {text : String} {t : List Char} (read : Text.ofUtf8? line = some text)
      (trimmed : Text.Trimmed text.toList t)
      (leaves : String.ofList (t.map Char.toLower) ∈ ["exit", "quit"]) : Means line .farewell
  | request {text : String} {t : List Char} {name word : String}
      (read : Text.ofUtf8? line = some text) (trimmed : Text.Trimmed text.toList t)
      (some : t ≠ []) (stays : String.ofList (t.map Char.toLower) ∉ ["exit", "quit"])
      (asks : Text.Asks t name.toList word.toList) : Means line (.request name word)

theorem means_hear (line : Text.Bytes) : Means line (hear line) := by
  unfold hear
  split
  next unreadable => exact .garbled unreadable
  next text read =>
    have trimmed := Text.trimmed_trim text.toList
    dsimp only
    split
    next empty =>
      rw [List.isEmpty_iff.1 empty] at trimmed
      exact .blank read trimmed
    next some =>
      split
      next leaves => exact .farewell read trimmed (isFarewell_iff.1 leaves)
      next stays =>
        refine .request read trimmed (by simpa using some) (mt isFarewell_iff.2 stays) ?_
        rw [String.toList_ofList, String.toList_ofList]
        exact Text.asks_iff.2 ⟨rfl, rfl⟩

theorem Means.eq {line : Text.Bytes} {m : Remark} (means : Means line m) : m = hear line := by
  cases means with
  | garbled unreadable => simp [hear, unreadable]
  | blank read trimmed => simp [hear, read, ← trimmed.eq]
  | @farewell text t read trimmed leaves =>
    have leaves := isFarewell_iff.2 leaves
    have some : t ≠ [] := by rintro rfl; contradiction
    simp [hear, read, ← trimmed.eq, some, leaves]
  | request read trimmed some stays asks =>
    have stays := mt isFarewell_iff.1 stays
    obtain ⟨first, rest⟩ := Text.asks_iff.1 asks
    rw [trimmed.eq] at some stays first rest
    simp [hear, read, some, stays, ← first, ← rest]

theorem means_iff {line : Text.Bytes} {m : Remark} : Means line m ↔ m = hear line :=
  ⟨Means.eq, fun h => h ▸ means_hear line⟩

theorem forall₂_means_iff {ls : List Text.Bytes} {ms : List Remark} :
    List.Forall₂ Means ls ms ↔ ms = ls.map hear := by
  have heard : Means = fun line m => hear line = m := by
    funext line m
    exact propext (means_iff.trans eq_comm)
  rw [heard, ← List.forall₂_map_left_iff, List.forall₂_eq_eq_eq, eq_comm]

namespace Remark

/-- Behind it there is another prompt. -/
def goesOn (m : Remark) : Bool := m ≠ .garbled ∧ m ≠ .farewell

/-- What is printed behind the prompt. -/
def echo (r : Registry) : Remark → String
  | request name word =>
    if name ∈ r.names then (runWord r name word false).stdout
    else "error: " ++ ("Unknown automaton '" ++ name ++ "'") ++ "\n"
  | _ => ""

end Remark

theorem answer_eq (r : Registry) (name word : String) :
    answer r name word = .printed ((Remark.request name word).echo r) (r.run name word).log := by
  have registered := r.mem_names_iff name
  have answered := Registry.value_run (r := r) name word
  rw [Remark.echo]
  cases found : r.find? name with
  | none =>
    rw [found] at registered answered
    simp only [answer, answered, registered]
    rfl
  | some e =>
    rw [found] at registered answered
    simp only [answer, answered, registered, runWord_of_find? found]
    rfl

theorem converse_cons (r : Registry) (line : Text.Bytes) (rest : List Text.Bytes) :
    converse r (line :: rest) = match hear line with
      | .garbled => ⟨">> ", some "stream did not contain valid UTF-8", []⟩
      | .farewell => .printed ">> " []
      | .blank => .after ">> " [] (converse r rest)
      | .request name word => .after (">> " ++ (Remark.request name word).echo r)
          (r.run name word).log (converse r rest) := by
  rw [converse, turn]
  cases hear line with
  | request name word =>
    dsimp only
    rw [answer_eq]
    rfl
  | _ => rfl

/-- Up to the remark that ends the conversation. -/
def transcript (r : Registry) (ms : List Remark) : String :=
  String.join ((ms.takeWhile Remark.goesOn).map fun m => ">> " ++ m.echo r) ++ ">> "

def fatal? (ms : List Remark) : Option String :=
  if ms.find? (!·.goesOn) = some .garbled then some "stream did not contain valid UTF-8" else none

section

variable (r : Registry) {m : Remark} (goes : m.goesOn = true) (ms : List Remark)

include goes

theorem transcript_cons : transcript r (m :: ms) = ">> " ++ m.echo r ++ transcript r ms := by
  simp [transcript, goes, String.append_assoc]

theorem fatal?_cons : fatal? (m :: ms) = fatal? ms := by
  simp [fatal?, goes]

end

theorem converse_eq (r : Registry) (ls : List Text.Bytes) :
    (converse r ls).stdout = transcript r (ls.map hear) ∧
      (converse r ls).error? = fatal? (ls.map hear) := by
  induction ls with
  | nil => exact ⟨rfl, rfl⟩
  | cons line rest ih =>
    rw [converse_cons, List.map_cons]
    cases hear line with
    | garbled => exact ⟨rfl, rfl⟩
    | farewell => exact ⟨rfl, rfl⟩
    | blank =>
      rw [transcript_cons r rfl, fatal?_cons rfl, ← ih.1, ← ih.2]
      exact ⟨by simp [Report.after, Remark.echo], rfl⟩
    | request name word =>
      rw [transcript_cons r rfl, fatal?_cons rfl, ← ih.1, ← ih.2]
      exact ⟨rfl, rfl⟩

theorem oneLine_of_plain {s : List Char} (plain : ∀ c ∈ s, Text.isBlank c = false) :
    Text.OneLine s := by
  intro c mem
  have blank := plain c mem
  simp only [Text.isBreak, Bool.or_eq_false_iff, decide_eq_false_iff_not]
  constructor <;> (rintro rfl; exact absurd blank (by decide))

/-- An answer is one line: a trace has no breaks in it, and neither has a name. -/
theorem exists_line_echo (r : Registry) {line : Text.Bytes} {name word : String}
    (means : Means line (.request name word)) : ∃ text,
      (Remark.request name word).echo r = text ++ "\n" ∧ Text.OneLine text.toList := by
  have registered := r.mem_names_iff name
  rw [Remark.echo]
  cases found : r.find? name with
  | some e =>
    rw [found] at registered
    rw [if_pos (registered.2 rfl), runWord_of_find? found]
    exact ⟨_, rfl, oneLine_answerText e word⟩
  | none =>
    rw [found] at registered
    rw [if_neg (by simp [registered])]
    refine ⟨_, rfl, ?_⟩
    cases means with
    | request read trimmed some stays asks =>
      have before : Text.OneLine "error: Unknown automaton '".toList := by simp [Text.isBreak]
      have behind : Text.OneLine "'".toList := by simp [Text.isBreak]
      have plain := oneLine_of_plain asks.plain
      rw [← String.append_assoc, ← String.append_assoc, String.toList_append, String.toList_append,
        Text.oneLine_append, Text.oneLine_append]
      exact ⟨⟨before, plain⟩, behind⟩

/-- A conversation is a line with the names, a line of help, a prompt and an answer for each line
up to the one that ends it, and a last prompt. Nothing but a line that cannot be read is an error.
The lines and their meanings are determined by the input, and every answer is a line of its own. -/
theorem repl_answers_each_line (r : Registry) (stdin : Text.Bytes) :
    ∃ ls ms, (∀ ls', Text.InLines stdin ls' ↔ ls' = ls) ∧
      (∀ ms', List.Forall₂ Means ls ms' ↔ ms' = ms) ∧
      (repl r stdin).stdout =
        "Automata: " ++ ", ".intercalate r.names ++ "\n" ++
          "Enter `<name> <word>` to validate a word, or `exit` to quit.\n" ++
          String.join ((ms.takeWhile Remark.goesOn).map fun m => ">> " ++ m.echo r) ++ ">> " ∧
      (repl r stdin).error? = fatal? ms ∧
      (repl r stdin).code = (if ms.find? (!·.goesOn) = some .garbled then 1 else 0) ∧
      ∀ name word, .request name word ∈ ms → ∃ text,
        (Remark.request name word).echo r = text ++ "\n" ∧ Text.OneLine text.toList := by
  obtain ⟨printed, ended⟩ := converse_eq r (Text.lines stdin)
  have error : (repl r stdin).error? = fatal? ((Text.lines stdin).map hear) := ended
  have greeted : (repl r stdin).stdout = banner r ++ (converse r (Text.lines stdin)).stdout := rfl
  refine ⟨Text.lines stdin, (Text.lines stdin).map hear, fun _ => Text.inLines_iff,
    fun _ => forall₂_means_iff, ?stdout, error, ?code, ?lines⟩
  case stdout =>
    rw [greeted, printed, banner, transcript]
    simp only [String.append_assoc]
  case code =>
    rw [Report.code, error, fatal?]
    split <;> rfl
  case lines =>
    intro name word mem
    obtain ⟨line, -, heard⟩ := List.mem_map.1 mem
    exact exists_line_echo r (heard ▸ means_hear line)

/-- The last line has no effect: the one before it has ended the conversation. -/
example : (repl ∅ "nobody a b\n \nQUIT\nnobody".toByteArray.data.toList).stdout =
    banner ∅ ++ ">> error: Unknown automaton 'nobody'\n>> >> " := by decide +kernel

end Acceptor.Command
