import Acceptor.Command.Session
import Acceptor.Proofs.History
import Acceptor.Proofs.Json.OneLine
import Acceptor.Proofs.DefinitionText
import Acceptor.Proofs.TraceText

/-! The command `run` from end to end. It answers by the first definition of the name that
builds, among the built-in ones and those of the file, and what it prints is read back as the
trace of the word. It fails for one of three reasons, and then it prints nothing. -/
namespace Acceptor

theorem eq_none_of_rel {α β : Type} {rel : α → β → Prop} {b : Option β}
    (related : Option.Rel rel none b) : b = none := by
  cases related
  rfl

theorem exists_of_rel {α β : Type} {rel : α → β → Prop} {a : α} {o : Option β}
    (related : Option.Rel rel (some a) o) : ∃ b, o = some b ∧ rel a b := by
  cases related with
  | some held => exact ⟨_, rfl, held⟩

theorem firstValid?_eq_none_iff {l : List NamedDefinition} {name : String} :
    firstValid? l name = none ↔ ∀ n ∈ l, n.name = name → ∀ a, n.definition.build ≠ .ok a := by
  rw [firstValid?, List.find?_eq_none]
  simp [NamedDefinition.offers_iff]

namespace Registry

theorem isEmpty_iff (r : Registry) : r.isEmpty = true ↔ ∀ name, r.find? name = none := by
  have names : r.isEmpty = true ↔ r.names = [] := by
    rw [names, SortedMap.keys, List.map_eq_nil_iff]
    exact List.isEmpty_iff
  rw [names, List.eq_nil_iff_forall_not_mem]
  simp [mem_names_iff]

/-- A registry is empty if nothing that was offered builds. -/
theorem Reflects.isEmpty_iff {r : Registry} {offered : List NamedDefinition}
    (reflects : r.Reflects offered) :
    r.isEmpty = true ↔ ∀ n ∈ offered, ∀ a, n.definition.build ≠ .ok a := by
  have held := reflects.exists_find?_iff
  rw [r.isEmpty_iff]
  constructor
  · intro none n mem a built
    obtain ⟨e, found⟩ := (held n.name).2 ⟨n, mem, rfl, a, built⟩
    simp [none] at found
  · intro none name
    cases found : r.find? name with
    | none => rfl
    | some e =>
      obtain ⟨n, mem, -, a, built⟩ := (held name).1 ⟨e, found⟩
      exact absurd built (none n mem a)

theorem Reflects.loadFile {r : Registry} {offered : List NamedDefinition}
    (reflects : r.Reflects offered) (stamp path : String) {content : Option Text.Bytes}
    {catalog : Catalog} (read : readCatalog content = .ok catalog) :
    (r.loadFile stamp path content).registry.Reflects (offered ++ catalog.automata) := by
  have loaded := reflects.apply (.loadFile stamp path content)
  rwa [Operation.offered, read] at loaded

end Registry

namespace Command

/-- The built-in definitions, unless they are declined. -/
def kept (withBuiltin : Bool) : List NamedDefinition :=
  if withBuiltin then Catalog.builtin else []

/-- All that is offered to a registry, if there is no file to be read or if the file that is
named has the text of a catalog. -/
inductive Offers (withBuiltin : Bool) (content : Option Text.Bytes) :
    Option String → List NamedDefinition → Prop
  | unnamed : Offers withBuiltin content none (kept withBuiltin)
  | file {path : String} {bytes : Text.Bytes} {text : String} {catalog : Catalog}
      (found : content = some bytes) (read : Text.ofUtf8? bytes = some text)
      (parsed : Catalog.parse? text = some catalog) :
      Offers withBuiltin content (some path) (kept withBuiltin ++ catalog.automata)

theorem Offers.unique {withBuiltin : Bool} {content : Option Text.Bytes} {path? : Option String}
    {l l' : List NamedDefinition} (offers : Offers withBuiltin content path? l)
    (offers' : Offers withBuiltin content path? l') : l = l' := by
  cases offers with
  | unnamed => cases offers'; rfl
  | file found read parsed =>
    cases offers' with
    | file found' read' parsed' =>
      obtain rfl := Option.some.inj (found.symm.trans found')
      obtain rfl := Option.some.inj (read.symm.trans read')
      rw [Option.some.inj (parsed.symm.trans parsed')]

theorem reflects_builtins (i : Invocation) (stamp : String) :
    (builtins i stamp).registry.Reflects (kept i.withBuiltin) := by
  unfold builtins kept
  split
  · exact Registry.reflects_origin (.builtin stamp)
  · exact Registry.reflects_origin .empty

section

variable {i : Invocation} {content : Option Text.Bytes}

theorem addDefinitions_of_offers {r : Registry} (reflects : r.Reflects (kept i.withBuiltin))
    {l : List NamedDefinition} (offers : Offers i.withBuiltin content i.definitions? l)
    (stamp : String) :
    (addDefinitions r i stamp content).value = .ok () ∧
      (addDefinitions r i stamp content).registry.Reflects l := by
  unfold addDefinitions
  generalize i.definitions? = path? at offers
  cases offers with
  | unnamed => exact ⟨rfl, reflects⟩
  | @file path bytes text catalog found read parsed =>
    have read : Registry.readCatalog content = .ok catalog :=
      Registry.readCatalog_eq_ok_iff.2 ⟨bytes, text, found, read, parsed⟩
    have loaded := reflects.loadFile stamp path read
    simp only [Registry.loadFile, read, true_and] at loaded ⊢
    exact loaded

/-- The registry is filled with all that is offered, and it is an error if it is still empty. -/
theorem fillRegistry_of_offers {l : List NamedDefinition}
    (offers : Offers i.withBuiltin content i.definitions? l) (stamp : String) :
    let filled := fillRegistry i stamp content
    filled.registry.Reflects l ∧
      filled.value = if filled.registry.isEmpty then .error emptyMessage else .ok () := by
  obtain ⟨added, reflects⟩ := addDefinitions_of_offers (reflects_builtins i stamp) offers stamp
  simp only [fillRegistry, added]
  split
  all_goals exact ⟨reflects, rfl⟩

/-- A file that offers nothing ends the command, and so it does not matter what else there is. -/
theorem fillRegistry_of_not_offers (nothing : ∀ l, ¬ Offers i.withBuiltin content i.definitions? l)
    (stamp : String) : ∃ path, i.definitions? = some path ∧
      (fillRegistry i stamp content).value = .error s!"Failed to load definitions from {path}" := by
  unfold fillRegistry addDefinitions
  cases named : i.definitions? with
  | none =>
    rw [named] at nothing
    exact absurd .unnamed (nothing _)
  | some path =>
    refine ⟨path, rfl, ?_⟩
    cases read : Registry.readCatalog content with
    | error e => simp [Registry.loadFile, read]
    | ok catalog =>
      rw [named] at nothing
      obtain ⟨bytes, text, found, decoded, parsed⟩ := Registry.readCatalog_eq_ok_iff.1 read
      exact absurd (.file found decoded parsed) (nothing _)

end

/-- A word is answered by the text of its trace, on a line of its own. -/
def answerText (e : Entry) (word : String) (pretty : Bool) : String :=
  let trace := (e.automaton.simulate word).toJson
  if pretty then trace.pretty else trace.compact

theorem runWord_of_find? {r : Registry} {name : String} {e : Entry} (found : r.find? name = some e)
    (word : String) (pretty : Bool) : runWord r name word pretty =
      .printed (answerText e word pretty ++ "\n") (r.run name word).log := by
  have answered := Registry.value_run (r := r) name word
  rw [found] at answered
  simp only [runWord, answered]
  rfl

theorem runWord_of_find?_eq_none {r : Registry} {name : String} (unknown : r.find? name = none)
    (word : String) (pretty : Bool) : runWord r name word pretty =
      .failed (RegistryError.unknownAutomaton name).message (r.run name word).log := by
  have answered := Registry.value_run (r := r) name word
  rw [unknown] at answered
  simp only [runWord, answered]

theorem parse?_answerText (e : Entry) {word : String} (fits : word.length ≤ UInt64.size)
    (pretty : Bool) :
    Trace.parse? (answerText e word pretty) = some (e.automaton.simulate word) := by
  unfold answerText
  cases pretty <;> exact e.automaton.parse?_simulate fits _

theorem oneLine_answerText (e : Entry) (word : String) :
    Text.OneLine (answerText e word false).toList :=
  Json.oneLine_compact (Trace.legible_toJson _)

/-- Messages are told apart by how they begin. -/
theorem append_ne_emptyMessage {c : Char} (other : c ≠ 'N') (text : String)
    (starts : text.toList.head? = some c) (rest : String) : text ++ rest ≠ emptyMessage := by
  intro same
  have heads : (text ++ rest).toList.head? = some 'N' := same ▸ (by decide)
  rw [String.toList_append, List.head?_append, starts] at heads
  exact other (Option.some.inj heads)

/-- Why `run` fails. A reason is only looked at if those before it do not hold. -/
inductive Fails (withBuiltin : Bool) (content : Option Text.Bytes) (name : String) :
    Option String → String → Prop
  | load {path : String} (nothing : ∀ l, ¬ Offers withBuiltin content (some path) l) :
      Fails withBuiltin content name (some path) s!"Failed to load definitions from {path}"
  | empty {path? : Option String} {l : List NamedDefinition}
      (offers : Offers withBuiltin content path? l)
      (none : ∀ n ∈ l, ∀ a, n.definition.build ≠ .ok a) :
      Fails withBuiltin content name path?
        "No automata registered. Pass --definitions or drop --no-catalog"
  | unknown {path? : Option String} {l : List NamedDefinition}
      (offers : Offers withBuiltin content path? l)
      (some : ∃ n ∈ l, ∃ a, n.definition.build = .ok a)
      (none : ∀ n ∈ l, n.name = name → ∀ a, n.definition.build ≠ .ok a) :
      Fails withBuiltin content name path? s!"Unknown automaton '{name}'"

theorem Report.after_printed (log log' : List Event) (text : String) :
    Report.after "" log (.printed text log') = .printed text (log ++ log') := by
  simp [after, printed]

theorem Report.after_failed (log log' : List Event) (error : String) :
    Report.after "" log (.failed error log') = .failed error (log ++ log') := by
  simp [after, failed]

section

variable {i : Invocation} {name word : String} {pretty : Bool} (content : Option Text.Bytes)
  (asked : i.action = .query (.run name word pretty)) (stamp : String) (stdin : Text.Bytes)

include asked

/-- Either the command fails, or it prints the answer by the first valid definition. -/
theorem perform_run :
    (∃ error log, perform i stamp content stdin = .failed error log ∧
      Fails i.withBuiltin content name i.definitions? error) ∨
    ∃ l n e log, Offers i.withBuiltin content i.definitions? l ∧ firstValid? l name = some n ∧
      n.definition.build = .ok e.automaton ∧
      perform i stamp content stdin = .printed (answerText e word pretty ++ "\n") log := by
  rw [perform_query stamp content stdin asked]
  by_cases offers : ∃ l, Offers i.withBuiltin content i.definitions? l
  · obtain ⟨l, offers⟩ := offers
    obtain ⟨reflects, filled⟩ := fillRegistry_of_offers offers stamp
    have builds := reflects.isEmpty_iff
    have related := reflects name
    generalize fillRegistry i stamp content = outcome at filled builds related
    by_cases empty : outcome.registry.isEmpty
    · rw [if_pos empty] at filled
      simp only [filled]
      exact .inl ⟨_, _, rfl, .empty offers (builds.1 empty)⟩
    · rw [if_neg empty] at filled
      simp only [filled, ask, Opening.finish_settled]
      cases found : outcome.registry.find? name with
      | none =>
        rw [runWord_of_find?_eq_none found, Report.after_failed]
        rw [found] at related
        have missing := firstValid?_eq_none_iff.1 (eq_none_of_rel related)
        exact .inl ⟨_, _, rfl, .unknown offers (by simpa using mt builds.2 empty) missing⟩
      | some e =>
        rw [runWord_of_find? found, Report.after_printed]
        rw [found] at related
        obtain ⟨n, first, made⟩ := exists_of_rel related
        exact .inr ⟨l, n, e, _, offers, first, made.automaton, rfl⟩
  · obtain ⟨path, named, failed⟩ :=
      fillRegistry_of_not_offers (fun l h => offers ⟨l, h⟩) stamp
    simp only [failed]
    rw [named] at offers ⊢
    exact .inl ⟨_, _, rfl, .load fun l h => offers ⟨l, h⟩⟩

end

section

variable {withBuiltin : Bool} {content : Option Text.Bytes} {name error : String}
  {path? : Option String} (fails : Fails withBuiltin content name path? error)

include fails

theorem Fails.missing {l : List NamedDefinition} (offers : Offers withBuiltin content path? l) :
    firstValid? l name = none := by
  rw [firstValid?_eq_none_iff]
  cases fails with
  | load nothing => exact absurd offers (nothing l)
  | empty offers' none =>
    rw [offers.unique offers']
    exact fun n mem _ => none n mem
  | unknown offers' _ none =>
    rw [offers.unique offers']
    exact none

theorem Fails.eq_emptyMessage_iff : error = emptyMessage ↔
    ∃ l, Offers withBuiltin content path? l ∧ ∀ n ∈ l, ∀ a, n.definition.build ≠ .ok a := by
  cases fails with
  | @load path nothing =>
    have other := append_ne_emptyMessage (c := 'F') (by decide)
      "Failed to load definitions from " (by decide) path
    refine ⟨fun same => absurd same other, ?_⟩
    rintro ⟨l, offers, -⟩
    exact absurd offers (nothing l)
  | empty offers none => exact ⟨fun _ => ⟨_, offers, none⟩, fun _ => rfl⟩
  | unknown offers some =>
    have other := append_ne_emptyMessage (c := 'U') (by decide)
      "Unknown automaton '" (by decide) (name ++ "'")
    rw [← String.append_assoc] at other
    refine ⟨fun same => absurd same other, ?_⟩
    rintro ⟨l, offers', none⟩
    obtain ⟨n, mem, a, built⟩ := some
    exact absurd built (none n (offers.unique offers' ▸ mem) a)

end

/-- `run` exits with code 0 if and only if the file, if any, is a catalog and some definition of the
name builds. Then the answer by the first such definition is all that is printed, else nothing
is printed. Positions are written as numbers of 64 bits, which leaves room for every word that a
machine can hold. -/
theorem run_end_to_end (verbose quiet withBuiltin pretty : Bool) (path? : Option String)
    (name word stamp : String) (content : Option Text.Bytes) (stdin : Text.Bytes) :
    let report := perform
      ⟨verbose, quiet, path?, withBuiltin, .query (.run name word pretty)⟩ stamp content stdin
    (report.code = 0 ↔ ∃ l, Offers withBuiltin content path? l ∧
      ∃ n ∈ l, n.name = name ∧ ∃ a, n.definition.build = .ok a) ∧
    (∀ l n a, Offers withBuiltin content path? l → firstValid? l name = some n →
      n.definition.build = .ok a → ∃ text, report.stdout = text ++ "\n" ∧
        (pretty = false → Text.OneLine text.toList) ∧
        (word.length ≤ UInt64.size → Trace.parse? text = some (a.simulate word))) ∧
    (report.code ≠ 0 → report.code = 1 ∧ report.stdout = "" ∧
      ∃ error, report.error? = some error ∧ Fails withBuiltin content name path? error) ∧
    (report.error? = some "No automata registered. Pass --definitions or drop --no-catalog" ↔
      ∃ l, Offers withBuiltin content path? l ∧
        ∀ n ∈ l, ∀ a, n.definition.build ≠ .ok a) := by
  intro report
  obtain ⟨error, log, failed, fails⟩ | ⟨l, n, e, log, offers, first, built, printed⟩ :=
    perform_run (i := ⟨verbose, quiet, path?, withBuiltin, .query (.run name word pretty)⟩)
      content rfl stamp stdin
  · have reported : report = .failed error log := failed
    rw [reported]
    refine ⟨⟨nofun, ?_⟩, ?_, fun _ => ⟨rfl, rfl, error, rfl, fails⟩, ?_⟩
    · rintro ⟨l, offers, n, mem, named, a, built⟩
      exact absurd built (firstValid?_eq_none_iff.1 (fails.missing offers) n mem named a)
    · intro l n a offers first
      rw [fails.missing offers] at first
      contradiction
    · rw [← fails.eq_emptyMessage_iff]
      exact Option.some_inj
  · have reported : report = .printed (answerText e word pretty ++ "\n") log := printed
    have mem := List.mem_of_find?_eq_some first
    have named := ((n.offers_iff name).1 (List.find?_some first)).1
    rw [reported]
    refine ⟨⟨fun _ => ⟨l, offers, n, mem, named, _, built⟩, fun _ => rfl⟩, ?_, ?_, ?_⟩
    · intro l' n' a offers' first' built'
      obtain rfl := offers.unique offers'
      obtain rfl := Option.some.inj (first.symm.trans first')
      obtain rfl := Except.ok.inj (built.symm.trans built')
      refine ⟨_, rfl, ?_, fun fits => parse?_answerText e fits pretty⟩
      rintro rfl
      exact oneLine_answerText e word
    · exact fun other => absurd rfl other
    · refine ⟨nofun, ?_⟩
      rintro ⟨l', offers', none⟩
      exact absurd built (none n (offers.unique offers' ▸ mem) _)

/-- It accepts the words of the letter `a` alone. -/
def loop : NamedDefinition where
  name := "loop"
  description := none
  definition := {
    states := .ofList [0]
    alphabet := .ofList ["a"]
    transitions := .ofList [(0, .ofList [("a", 0)])]
    startState := 0
    finalStates := .ofList [0]
    trapStates := ∅ }

def loopFile : Text.Bytes := (Catalog.toJson ⟨[loop]⟩).pretty.toByteArray.data.toList

/-- That a word is not accepted is no failure of the command. -/
theorem loop_run_end_to_end :
    let report := perform ⟨false, false, some "loop.json", false, .query (.run "loop" "b" false)⟩
      "now" (some loopFile) []
    report.code = 0 ∧ ∃ a text, loop.definition.build = .ok a ∧ (a.simulate "b").accepted = false ∧
      report.stdout = text ++ "\n" ∧ Text.OneLine text.toList ∧ "b".length ≤ UInt64.size ∧
      Trace.parse? text = some (a.simulate "b") := by
  obtain ⟨exits, prints, -⟩ := run_end_to_end false false false false (some "loop.json") "loop" "b"
    "now" (some loopFile) []
  have offers : Offers false (some loopFile) (some "loop.json") [loop] :=
    .file rfl (Text.ofUtf8?_toByteArray _) (Catalog.parse?_write ⟨[loop]⟩ _)
  obtain ⟨named, a, built⟩ := (loop.offers_iff "loop").1 (by decide +kernel)
  have first : firstValid? [loop] "loop" = some loop := by decide +kernel
  have fits : "b".length ≤ UInt64.size := by decide
  have rejected : loop.definition.build.toOption.map (·.accepts "b") = some false := by
    decide +kernel
  rw [built] at rejected
  obtain ⟨text, stdout, line, trace⟩ := prints [loop] loop a offers first built
  exact ⟨exits.2 ⟨_, offers, loop, List.mem_singleton_self loop, named, a, built⟩, a, text, built,
    Option.some.inj rejected, stdout, line rfl, fits, trace fits⟩

end Command

end Acceptor
