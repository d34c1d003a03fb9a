import Mathlib.Data.List.Forall2
import Acceptor.Command.Session
import Acceptor.Proofs.Agreement
import Acceptor.Proofs.Atomicity

/-! The command `audit`. It reports on every definition of a file, and fails if one of them would
not build. Loading the file says the same in its own way: where no name is taken, it fails for the
definitions that the audit finds fault with, and for the first of the faults. -/
namespace Acceptor

namespace NamedDefinition

def fails (n : NamedDefinition) : Bool := !n.definition.build.isOk

/-- Under a name that is free, a definition is refused only because it does not build. -/
def refusal? (n : NamedDefinition) : Option RegistryError :=
  match n.definition.build with
  | .error cause => some (.construction n.name cause)
  | .ok _ => none

variable (n : NamedDefinition)

theorem fails_iff : n.fails = true ↔ ∃ cause, n.definition.build = .error cause := by
  unfold fails
  cases n.definition.build <;> simp [Except.isOk, Except.toBool]

theorem fails_eq_false_iff : n.fails = false ↔ ∃ a, n.definition.build = .ok a := by
  unfold fails
  cases n.definition.build <;> simp [Except.isOk, Except.toBool]

/-- A definition fails if and only if an audit finds something. -/
theorem fails_iff_violations : n.fails = true ↔ n.definition.violations ≠ [] := by
  simp only [fails_iff, Definition.build_eq_error_iff]
  cases n.definition.violations <;> simp

theorem refusal?_eq_some_iff (e : RegistryError) : n.refusal? = some e ↔
    ∃ cause, n.definition.build = .error cause ∧ e = .construction n.name cause := by
  unfold refusal?
  cases n.definition.build <;> simp [eq_comm]

theorem isSome_refusal? : n.refusal?.isSome = n.fails := by
  unfold refusal? fails
  cases n.definition.build <;> rfl

end NamedDefinition

namespace Registry

variable (r : Registry) (stamp : String)

theorem failure?_register_of_free {n : NamedDefinition} (free : r.find? n.name = none) :
    failure? (r.register stamp n).value = n.refusal? := by
  unfold NamedDefinition.refusal?
  cases built : n.definition.build with
  | error cause => rw [register_of_error free built]; rfl
  | ok a => rw [register_of_ok free built]; rfl

/-- No definition stands in the way of another one if all names are distinct and free. -/
theorem value_registerAll_of_distinct {l : List NamedDefinition}
    (distinct : (l.map NamedDefinition.name).Nodup) (free : ∀ n ∈ l, r.find? n.name = none) :
    (r.registerAll stamp l).value = l.filterMap NamedDefinition.refusal? := by
  induction l generalizing r with
  | nil => rfl
  | cons n l ih =>
    rw [List.map_cons, List.nodup_cons] at distinct
    have first := r.failure?_register_of_free stamp (free n List.mem_cons_self)
    have others : ∀ m ∈ l, (r.register stamp n).registry.find? m.name = none := by
      intro m mem
      have other : n.name ≠ m.name := fun same => distinct.1 (same ▸ List.mem_map_of_mem mem)
      rw [find?_register, free m (List.mem_cons_of_mem n mem)]
      simp [NamedDefinition.entry?, other]
    rw [registerAll, first, ih _ distinct.2 others, List.filterMap_cons]
    cases n.refusal? <;> rfl

end Registry

namespace Command

/-- What is printed about one definition: a heading, and items below it. -/
structure Finding where
  heading : String
  items : List String

namespace Finding

def text (f : Finding) : String :=
  f.heading ++ "\n" ++ String.join (f.items.map fun item => "  - " ++ item ++ "\n")

/-- The finding that a definition calls for. -/
structure On (n : NamedDefinition) (f : Finding) : Prop where
  passed : f.heading = n.name ++ ": ok" ↔ ∃ a, n.definition.build = .ok a
  failed : ∀ cause, n.definition.build = .error cause →
    f.heading = n.name ++ ": " ++ toString n.definition.violations.length ++ " violation(s)"
  items : f.items = n.definition.violations.map BuildError.message

end Finding

def finding (n : NamedDefinition) : Finding where
  heading := n.name ++
    if n.fails then ": " ++ toString n.definition.violations.length ++ " violation(s)" else ": ok"
  items := n.definition.violations.map BuildError.message

theorem finding_on (n : NamedDefinition) : Finding.On n (finding n) where
  passed := by
    rw [finding, String.append_right_inj, ← n.fails_eq_false_iff]
    cases n.fails with
    | false => simp
    | true =>
      -- a heading that counts violations is longer than one that says that there are none
      simp only [if_true, Bool.true_eq_false, iff_false]
      intro same
      have lengths := congrArg String.length same
      have ok : ": ok".length = 4 := rfl
      have behind : " violation(s)".length = 13 := rfl
      rw [String.length_append, ok, behind] at lengths
      omega
  failed := by
    intro cause refused
    rw [finding, if_pos (n.fails_iff.2 ⟨cause, refused⟩), ← String.append_assoc,
      ← String.append_assoc]
  items := rfl

theorem auditText_eq (n : NamedDefinition) : auditText n = (finding n).text := by
  have fails := n.fails_iff_violations
  have listed := n.definition.errors_audit
  unfold auditText
  cases audited : n.definition.audit with
  | passed =>
    have none : n.definition.violations = [] := by rw [← listed, audited]; rfl
    have ok : n.fails = false := by simpa [none] using fails
    change n.name ++ ": ok\n" = _
    simp [finding, Finding.text, none, ok, String.append_assoc]
  | failed first rest =>
    have some : n.definition.violations = first :: rest := by rw [← listed, audited]; rfl
    have refused : n.fails = true := by simp [fails, some]
    change n.name ++ ": " ++ toString (rest.length + 1) ++ " violation(s)\n" ++
      String.join ((first :: rest).map fun e => "  - " ++ e.message ++ "\n") = _
    simp [finding, Finding.text, some, refused, String.append_assoc, Function.comp_def]

theorem auditFailures_eq (c : Catalog) :
    auditFailures c = c.automata.countP NamedDefinition.fails := by
  apply List.countP_congr
  intro n _
  have passed : n.definition.audit = .passed ↔ n.definition.violations = [] := by
    rw [← n.definition.errors_audit, ← Audit.errors_inj]
    rfl
  rw [n.fails_iff_violations, decide_eq_true_iff, ne_eq, passed]

theorem auditFailures_eq_zero_iff (c : Catalog) :
    auditFailures c = 0 ↔ ∀ n ∈ c.automata, ∃ a, n.definition.build = .ok a := by
  rw [auditFailures_eq, List.countP_eq_zero]
  simp only [Bool.not_eq_true, NamedDefinition.fails_eq_false_iff]

/-- An error for a definition, with a cause that comes first in the finding on it. -/
def Blames (e : RegistryError) (audited : NamedDefinition × Finding) : Prop :=
  ∃ cause, e = .construction audited.1.name cause ∧
    audited.1.definition.build = .error cause ∧ audited.2.items.head? = some cause.message

theorem forall₂_filterMap_filter {α β : Type} {rel : β → α → Prop} {f : α → Option β}
    {p : α → Bool} {l : List α} (kept : ∀ a ∈ l, ∀ b, f a = some b → p a = true ∧ rel b a)
    (dropped : ∀ a ∈ l, f a = none → p a = false) :
    List.Forall₂ rel (l.filterMap f) (l.filter p) := by
  induction l with
  | nil => exact .nil
  | cons a l ih =>
    have others := ih (fun b mem => kept b (List.mem_cons_of_mem a mem))
      fun b mem => dropped b (List.mem_cons_of_mem a mem)
    cases found : f a with
    | none => simpa [found, dropped a List.mem_cons_self found] using others
    | some b =>
      obtain ⟨holds, related⟩ := kept a List.mem_cons_self b found
      simpa [found, holds] using ⟨related, others⟩

/-- Loading refuses what the audit reports, in the same order and for the first cause. -/
theorem forall₂_blames (l : List NamedDefinition) :
    List.Forall₂ Blames (l.filterMap NamedDefinition.refusal?)
      ((l.zip (l.map finding)).filter fun audited => audited.2.items ≠ []) := by
  have paired : l.zip (l.map finding) = l.map fun n => (n, finding n) := by
    simpa using List.zip_map' (f := id) (g := finding) (l := l)
  have reported : ∀ n, (finding n).items ≠ [] ↔ n.fails = true := by
    simp [finding, NamedDefinition.fails_iff_violations]
  rw [paired, List.filter_map, List.forall₂_map_right_iff]
  apply forall₂_filterMap_filter
  · intro n _ e refused
    obtain ⟨cause, failed, rfl⟩ := (n.refusal?_eq_some_iff e).1 refused
    have first := (n.definition.build_eq_error_iff cause).1 failed
    refine ⟨decide_eq_true ((reported n).2 (n.fails_iff.2 ⟨cause, failed⟩)), ?_⟩
    exact ⟨cause, rfl, failed, by simp [finding, first]⟩
  · intro n _ built
    have passes : ¬ n.fails = true := by simp [← n.isSome_refusal?, built]
    exact decide_eq_false (mt (reported n).1 passes)

/-- An audit reports on each definition in turn, and fails by their number if some do not build. To
load the same file fails for these, if no two of its names are equal, each time for the cause that
the audit lists first. -/
theorem audit_agrees_with_loading (verbose quiet withBuiltin : Bool)
    (definitions? : Option String) (path stamp : String) (stdin bytes : Text.Bytes)
    (text : String) (catalog : Catalog) (read : Text.ofUtf8? bytes = some text)
    (parsed : Catalog.parse? text = some catalog) :
    let report := perform ⟨verbose, quiet, definitions?, withBuiltin, .audit path⟩ stamp
      (some bytes) stdin
    let failures := catalog.automata.countP NamedDefinition.fails
    ∃ findings, List.Forall₂ Finding.On catalog.automata findings ∧
      report.stdout = String.join (findings.map Finding.text) ∧
      (report.code = 0 ↔ ∀ n ∈ catalog.automata, ∃ a, n.definition.build = .ok a) ∧
      (report.code ≠ 0 → report.code = 1 ∧ report.error? =
        some s!"{failures} of {catalog.automata.length} definition(s) failed validation") ∧
      ((catalog.automata.map NamedDefinition.name).Nodup → ∃ errors,
        ((∅ : Registry).loadFile stamp path (some bytes)).value = .ok errors ∧
        errors.length = failures ∧
        List.Forall₂ Blames errors
          ((catalog.automata.zip findings).filter fun audited => audited.2.items ≠ [])) := by
  intro report failures
  have reported : report = auditCatalog catalog := by
    have audited : report = audit path (some bytes) := perform_audit stamp (some bytes) stdin rfl
    rw [audited]
    simp only [audit, Option.bind_some, read, parsed]
  have passes := auditFailures_eq_zero_iff catalog
  refine ⟨catalog.automata.map finding, ?on, ?stdout, ?code, ?error, ?loaded⟩
  case on =>
    rw [List.forall₂_map_right_iff, List.forall₂_same]
    exact fun n _ => finding_on n
  case stdout =>
    have texts : auditText = Finding.text ∘ finding := funext auditText_eq
    rw [reported, auditCatalog, texts, List.map_map]
  case code =>
    rw [reported, ← passes, Report.code, auditCatalog]
    split <;> simp_all
  case error =>
    rw [reported, Report.code, auditCatalog, auditFailures_eq]
    split
    · exact fun failed => absurd rfl failed
    · exact fun _ => ⟨rfl, rfl⟩
  case loaded =>
    intro distinct
    have loaded := Registry.readCatalog_eq_ok_iff.2 ⟨bytes, text, rfl, read, parsed⟩
    have refused := Registry.value_registerAll_of_distinct ∅ stamp distinct
      fun n _ => Registry.find?_empty n.name
    refine ⟨_, by rw [Registry.loadFile_of_ok loaded, refused], ?_, forall₂_blames _⟩
    rw [List.length_filterMap_eq_countP]
    simp only [NamedDefinition.isSome_refusal?]
    rfl

/-- The first definition is as it should be, and the other two are not. -/
def questionable : Catalog :=
  ⟨[Catalog.bets, ⟨"late", none, Registry.misplaced⟩, ⟨"astray", none, astray.startingAt 5⟩]⟩

theorem questionable_audit_agrees :
    let bytes := questionable.toJson.compact.toByteArray.data.toList
    let report := perform ⟨false, false, none, true, .audit "list.json"⟩ "now" (some bytes) []
    Text.ofUtf8? bytes = some questionable.toJson.compact ∧
    Catalog.parse? questionable.toJson.compact = some questionable ∧
    report.code = 1 ∧ report.error? = some "2 of 3 definition(s) failed validation" ∧
    (questionable.automata.map NamedDefinition.name).Nodup ∧
    ∃ errors, ((∅ : Registry).loadFile "now" "list.json" (some bytes)).value = .ok errors ∧
      errors.length = 2 := by
  intro bytes report
  have read : Text.ofUtf8? bytes = some questionable.toJson.compact :=
    Text.ofUtf8?_toByteArray _
  have parsed : Catalog.parse? questionable.toJson.compact = some questionable :=
    questionable.parse?_write _
  obtain ⟨findings, -, -, passes, fails, loads⟩ := audit_agrees_with_loading false false true none
    "list.json" "now" [] bytes _ questionable read parsed
  have failures : questionable.automata.countP NamedDefinition.fails = 2 := by decide +kernel
  have distinct : (questionable.automata.map NamedDefinition.name).Nodup := by decide
  have failed : report.code ≠ 0 := by
    intro exits
    obtain ⟨a, built⟩ := passes.1 exits ⟨"late", none, Registry.misplaced⟩ (by simp [questionable])
    have clean := ((Definition.build_eq_ok_iff _ a).1 built).1
    exact absurd clean (by decide +kernel)
  obtain ⟨code, error⟩ := fails failed
  obtain ⟨errors, loaded, counted, -⟩ := loads distinct
  rw [failures] at error counted
  exact ⟨read, parsed, code, error, distinct, errors, loaded, counted⟩

end Command

end Acceptor
