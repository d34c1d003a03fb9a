import Acceptor.Builder

/-! One order of violations for all who ask. Stopping at the first violation, listing all of them
and summing up checks come to the same, and so do the ways to an automaton: a builder that asks
for states on its own reports what its parts would be refused for (`build_of_startState?`). -/
namespace Acceptor

theorem Audit.errors_inj {a b : Audit} : a.errors = b.errors ↔ a = b := by
  cases a <;> cases b <;> simp [errors]

theorem Audit.exists_eq_failed_iff (a : Audit) (e : BuildError) :
    (∃ rest, a = .failed e rest) ↔ a.errors.head? = some e := by
  cases a <;> simp [errors]

/-- Checks are summed up by any rule that reports the violations of each in turn. -/
def Audit.Sums (sum : List Audit → Audit) : Prop :=
  ∀ checks, (sum checks).errors = checks.flatMap Audit.errors

namespace Definition

theorem build_eq_error_iff_first (d : Definition) (e : BuildError) :
    d.build = .error e ↔ d.firstViolation? = some e := by
  rw [build_eq_error_iff, firstViolation?_eq_head?]

theorem exists_audit_eq_failed_iff (d : Definition) (e : BuildError) :
    (∃ rest, d.audit = .failed e rest) ↔ d.firstViolation? = some e := by
  rw [Audit.exists_eq_failed_iff, errors_audit, firstViolation?_eq_head?]

theorem audit_eq_of_sums {sum : List Audit → Audit} (sums : Audit.Sums sum) (d : Definition) :
    sum (d.violations.map fun e => .failed e []) = d.audit := by
  rw [← Audit.errors_inj, audit, sums, Audit.errors_all]

/-- Where there are no states nothing else is looked at. -/
theorem firstViolation?_of_stateless {d : Definition} (none : ∀ s, s ∉ d.states) :
    d.firstViolation? = some .emptyStates := by
  have first : d.statesNonEmpty = [.emptyStates] := if_pos (d.states.isEmpty_iff.2 none)
  simp [firstViolation?, rules, first]

end Definition

namespace Builder

/-- The parts that were collected, with the start state that is still to be given. -/
def startingAt (b : Builder) (start : State) : Definition :=
  ⟨b.states, b.alphabet, b.transitions, start, b.finalStates, b.trapStates⟩

variable {b : Builder}

theorem definition_of_stateless (none : ∀ s, s ∉ b.states) :
    b.definition = .error .emptyStates :=
  if_pos (b.states.isEmpty_iff.2 none)

theorem definition_of_startState? {s : State} (known : ∃ s, s ∈ b.states)
    (start : b.startState? = some s) : b.definition = .ok (b.startingAt s) := by
  have some : ¬ b.states.isEmpty := by simpa [b.states.isEmpty_iff] using known
  rw [definition, if_neg some, start]
  rfl

theorem build_of_stateless (none : ∀ s, s ∉ b.states) : b.build = .error .emptyStates := by
  rw [build, definition_of_stateless none]

theorem build_of_definition {d : Definition} (parts : b.definition = .ok d) :
    b.build = d.build := by
  rw [build, parts]

/-- That the builder asks for states first changes nothing: so does the validation. -/
theorem build_of_startState? {s : State} (start : b.startState? = some s) :
    b.build = (b.startingAt s).build := by
  by_cases known : ∃ s, s ∈ b.states
  · exact build_of_definition (definition_of_startState? known start)
  · have none : ∀ s, s ∉ b.states := not_exists.1 known
    have refused : (b.startingAt s).build = .error .emptyStates :=
      (Definition.build_eq_error_iff_first ..).2 (Definition.firstViolation?_of_stateless none)
    rw [build_of_stateless none, refused]

end Builder

/-- What is refused at once is refused for the first of all violations, however the checks are
summed up and whether the definition was written down or collected by a builder. -/
theorem validations_agree :
    (∀ d : Definition,
      (∀ e, d.build = .error e ↔ d.firstViolation? = some e) ∧
      (∀ e, d.firstViolation? = some e ↔ ∃ rest, d.audit = .failed e rest) ∧
      d.audit.errors = d.violations ∧
      (∀ e, d.build = .error e ↔ d.violations.head? = some e) ∧
      ∀ sum, Audit.Sums sum → sum (d.violations.map fun e => .failed e []) = d.audit) ∧
    ∀ b : Builder,
      (∀ d, b.definition = .ok d → b.build = d.build) ∧
      (∀ s, b.startState? = some s → b.build = (b.startingAt s).build) ∧
      ((∀ s, s ∉ b.states) → b.build = .error .emptyStates ∧
        ∀ s, (b.startingAt s).firstViolation? = some .emptyStates) := by
  constructor
  · intro d
    refine ⟨d.build_eq_error_iff_first, ?_, d.errors_audit, d.build_eq_error_iff, ?_⟩
    · exact fun e => (d.exists_audit_eq_failed_iff e).symm
    · exact fun _ sums => Definition.audit_eq_of_sums sums d
  · intro b
    refine ⟨fun _ => Builder.build_of_definition, fun _ => Builder.build_of_startState?, ?_⟩
    intro none
    exact ⟨Builder.build_of_stateless none, fun s => Definition.firstViolation?_of_stateless none⟩

/-- Summing up from the left, as checks come in. -/
theorem Audit.sums_foldl : Audit.Sums fun checks => checks.foldl Audit.both .passed := by
  intro checks
  have behind : ∀ a : Audit, (checks.foldl Audit.both a).errors =
      a.errors ++ checks.flatMap Audit.errors := by
    induction checks with
    | nil => simp
    | cons check checks ih => simp [ih, List.append_assoc]
  exact behind .passed

/-- It starts outside its states, leads to an unknown state and leaves its trap. -/
def astray : Builder :=
  Builder.empty.callAll [.states [0, 1], .symbol 'a', .transition 0 'a' 7, .transition 1 'a' 0,
    .trap 1, .start 5]

def stateless : Builder := { astray with states := ∅ }

theorem astray_validations_agree :
    astray.startState? = some 5 ∧ astray.definition = .ok (astray.startingAt 5) ∧
    astray.build = .error (.unknownStartState 5) ∧
    ((astray.startingAt 5).violations.map fun e => .failed e []).foldl Audit.both .passed =
      .failed (.unknownStartState 5) [.unknownTargetState 0 'a' 7, .trapEscape 1 'a' 0] ∧
    stateless.startState? = some 5 ∧ stateless.build = (stateless.startingAt 5).build ∧
    (∀ s, s ∉ stateless.states) ∧ stateless.build = .error .emptyStates := by
  obtain ⟨ofDefinition, ofBuilder⟩ := validations_agree
  obtain ⟨first, -, listed, -, sums⟩ := ofDefinition (astray.startingAt 5)
  have start : astray.startState? = some 5 := by decide
  have parts : astray.definition = .ok (astray.startingAt 5) :=
    Builder.definition_of_startState? ⟨0, by decide +kernel⟩ start
  have none : ∀ s, s ∉ stateless.states := SortedSet.not_mem_empty
  obtain ⟨-, ofStart, ofNone⟩ := ofBuilder stateless
  refine ⟨start, parts, ?_, ?_, start, ofStart 5 start, none, (ofNone none).1⟩
  · rw [(ofBuilder astray).1 _ parts, first]
    decide +kernel
  · rw [sums _ Audit.sums_foldl, ← Audit.errors_inj, listed]
    decide +kernel

end Acceptor
