import Mathlib.Computability.RegularExpressions
import Mathlib.Order.CompletePartialOrder
import Acceptor.Proofs.PlainRun

/-! The words that lead from a state to a final one, as a language for each state. Over two
symbols these languages are the solution of a right-linear system with one equation for each
state: the equations are read off a table, and nothing else solves them. -/
namespace Acceptor

/-- The words of one symbol that is `c`. -/
abbrev letter (c : Char) : Language Char := {[c]}

theorem nil_notMem_letter (c : Char) : [] ∉ letter c := by
  intro member
  cases member

theorem nil_notMem_letter_mul (x : Char) (l : Language Char) : [] ∉ letter x * l := by
  rw [Language.mem_mul]
  rintro ⟨u, rfl, v, _, same⟩
  simp at same

theorem cons_mem_letter_mul (x : Char) (l : Language Char) (c : Char) (w : List Char) :
    c :: w ∈ letter x * l ↔ c = x ∧ w ∈ l := by
  rw [Language.mem_mul]
  constructor
  · rintro ⟨u, rfl, v, member, same⟩
    obtain ⟨rfl, rfl⟩ := List.cons.inj same
    exact ⟨rfl, member⟩
  · rintro ⟨rfl, member⟩
    exact ⟨[c], rfl, w, member, rfl⟩

def Uniform (k : Language Char) (n : Nat) : Prop := ∀ u ∈ k, u.length = n

theorem uniform_letter (c : Char) : Uniform (letter c) 1 := by
  rintro _ rfl
  rfl

theorem Uniform.add {k l : Language Char} {n : Nat} (hk : Uniform k n) (hl : Uniform l n) :
    Uniform (k + l) n := by
  rintro u (inK | inL)
  · exact hk u inK
  · exact hl u inL

theorem Uniform.mul {k l : Language Char} {m n : Nat} (hk : Uniform k m) (hl : Uniform l n) :
    Uniform (k * l) (m + n) := by
  rintro _ ⟨u, inK, v, inL, rfl⟩
  rw [List.length_append, hk u inK, hl v inL]

/-- A word splits in one way only where the length of one part is fixed. -/
theorem append_mem_mul_left {k l : Language Char} {n : Nat} (uniform : Uniform k n)
    {u : List Char} (length : u.length = n) (v : List Char) :
    u ++ v ∈ k * l ↔ u ∈ k ∧ v ∈ l := by
  constructor
  · rintro ⟨u', inK, v', inL, same⟩
    obtain ⟨rfl, rfl⟩ := List.append_inj same ((uniform u' inK).trans length.symm)
    exact ⟨inK, inL⟩
  · rintro ⟨inK, inL⟩
    exact Language.append_mem_mul inK inL

theorem append_mem_mul_right {l k : Language Char} {n : Nat} (uniform : Uniform k n)
    (u : List Char) {v : List Char} (length : v.length = n) :
    u ++ v ∈ l * k ↔ u ∈ l ∧ v ∈ k := by
  constructor
  · rintro ⟨u', inL, v', inK, same⟩
    obtain ⟨rfl, rfl⟩ := List.append_inj' same ((uniform v' inK).trans length.symm)
    exact ⟨inL, inK⟩
  · rintro ⟨inL, inK⟩
    exact Language.append_mem_mul inL inK

/-- Between parts of fixed lengths only the middle is left to decide. -/
theorem framed_mem_iff {k l t : Language Char} {m n : Nat} (hk : Uniform k m) (ht : Uniform t n)
    {u v : List Char} (inK : u ∈ k) (inT : v ∈ t) (x : List Char) :
    u ++ (x ++ v) ∈ k * (l * t) ↔ x ∈ l := by
  rw [append_mem_mul_left hk (hk u inK), append_mem_mul_right ht x (ht v inT)]
  simp [inK, inT]

open scoped Computability in
/-- Pieces that are made of `m` repeat to no more than `m` does. -/
theorem kstar_le_of_le_kstar {l m : Language Char} (inside : l ≤ m∗) : l∗ ≤ m∗ := by
  rw [← kstar_idem m]
  exact kstar_mono inside

open scoped Computability in
/-- An unfolded star, in front of a language. -/
theorem kstar_mul_eq (l m : Language Char) : l∗ * m = m + l * (l∗ * m) := by
  conv_lhs => rw [← Language.one_add_self_mul_kstar_eq_kstar, add_mul, one_mul, mul_assoc]

section Systems

variable {σ : Type} (next : σ → Char → Option σ) (final : σ → Prop)

/-- The words along which `next` leads from `s` to a final state. -/
def wordsFrom (s : σ) : Language Char := {w | ∃ t, w.foldlM next s = some t ∧ final t}

theorem nil_mem_wordsFrom (s : σ) : [] ∈ wordsFrom next final s ↔ final s := by
  constructor
  · rintro ⟨t, same, isFinal⟩
    obtain rfl := Option.some.inj same
    exact isFinal
  · intro isFinal
    exact ⟨s, rfl, isFinal⟩

theorem cons_mem_wordsFrom (s : σ) (c : Char) (w : List Char) :
    c :: w ∈ wordsFrom next final s ↔ ∃ t, next s c = some t ∧ w ∈ wordsFrom next final t := by
  constructor
  · rintro ⟨f, reached, isFinal⟩
    rw [List.foldlM_cons] at reached
    obtain ⟨t, moved, rest⟩ := Option.bind_eq_some_iff.1 reached
    exact ⟨t, moved, f, rest, isFinal⟩
  · rintro ⟨t, moved, f, rest, isFinal⟩
    refine ⟨f, ?_, isFinal⟩
    rw [List.foldlM_cons, moved]
    exact rest

theorem append_mem_wordsFrom (s : σ) (u v : List Char) :
    u ++ v ∈ wordsFrom next final s ↔
      ∃ t, u.foldlM next s = some t ∧ v ∈ wordsFrom next final t := by
  constructor
  · rintro ⟨f, reached, isFinal⟩
    rw [List.foldlM_append] at reached
    obtain ⟨t, led, rest⟩ := Option.bind_eq_some_iff.1 reached
    exact ⟨t, led, f, rest, isFinal⟩
  · rintro ⟨t, led, f, rest, isFinal⟩
    refine ⟨f, ?_, isFinal⟩
    rw [List.foldlM_append, led]
    exact rest

/-- `s` moves on `x` and on `y`, and on no other symbol. -/
structure Forks (x y : Char) (s t u : σ) : Prop where
  onX : next s x = some t
  onY : next s y = some u
  others : ∀ c, c ≠ x → c ≠ y → next s c = none

variable {next final} {x y : Char}

theorem cons_mem_of_forks (apart : x ≠ y) {s t u : σ} (forks : Forks next x y s t u)
    (l : σ → Language Char) (c : Char) (w : List Char) :
    (∃ v, next s c = some v ∧ w ∈ l v) ↔ c :: w ∈ letter x * l t + letter y * l u := by
  rw [Language.mem_add, cons_mem_letter_mul, cons_mem_letter_mul]
  by_cases isX : c = x
  · subst isX
    simp [forks.onX, apart]
  by_cases isY : c = y
  · subst isY
    simp [forks.onY, isX]
  simp [forks.others c isX isY, isX, isY]

theorem wordsFrom_of_not_final (apart : x ≠ y) {s t u : σ} (forks : Forks next x y s t u)
    (notFinal : ¬ final s) :
    wordsFrom next final s =
      letter x * wordsFrom next final t + letter y * wordsFrom next final u := by
  ext w
  cases w with
  | nil => simp [nil_mem_wordsFrom, notFinal, Language.mem_add, nil_notMem_letter_mul]
  | cons c w => rw [cons_mem_wordsFrom, cons_mem_of_forks apart forks]

theorem wordsFrom_of_final (apart : x ≠ y) {s t u : σ} (forks : Forks next x y s t u)
    (isFinal : final s) :
    wordsFrom next final s =
      1 + (letter x * wordsFrom next final t + letter y * wordsFrom next final u) := by
  ext w
  cases w with
  | nil => simp [nil_mem_wordsFrom, isFinal, Language.mem_add]
  | cons c w =>
    rw [cons_mem_wordsFrom, cons_mem_of_forks apart forks, Language.mem_add 1]
    simp [Language.mem_one]

/-- A family of languages that keeps every equation of the system is its solution. The
induction is on the word, and one equation takes one symbol off it. -/
theorem eq_wordsFrom (apart : x ≠ y) {onX onY : σ → σ}
    (forks : ∀ s, Forks next x y s (onX s) (onY s)) (l : σ → Language Char)
    (whenFinal : ∀ s, final s → l s = 1 + (letter x * l (onX s) + letter y * l (onY s)))
    (otherwise : ∀ s, ¬ final s → l s = letter x * l (onX s) + letter y * l (onY s))
    (s : σ) : l s = wordsFrom next final s := by
  ext w
  induction w generalizing s with
  | nil =>
    rw [nil_mem_wordsFrom]
    by_cases isFinal : final s
    · simp [whenFinal s isFinal, isFinal, Language.mem_add]
    · simp [otherwise s isFinal, isFinal, Language.mem_add, nil_notMem_letter_mul]
  | cons c w ih =>
    have taken : c :: w ∈ l s ↔ c :: w ∈ letter x * l (onX s) + letter y * l (onY s) := by
      by_cases isFinal : final s
      · rw [whenFinal s isFinal, Language.mem_add 1]
        simp [Language.mem_one]
      · rw [otherwise s isFinal]
    rw [taken, ← cons_mem_of_forks apart (forks s), cons_mem_wordsFrom]
    exact exists_congr fun t => and_congr_right fun _ => ih t

/-- Two machines that move in lockstep stop together or end in related states. -/
theorem foldlM_lockstep {τ : Type} {next' : τ → Char → Option τ} {related : σ → τ → Prop}
    (lockstep : ∀ s t, related s t → ∀ c, Option.Rel related (next s c) (next' t c))
    (w : List Char) {s : σ} {t : τ} (start : related s t) :
    Option.Rel related (w.foldlM next s) (w.foldlM next' t) := by
  induction w generalizing s t with
  | nil => exact .some start
  | cons c w ih =>
    rw [List.foldlM_cons, List.foldlM_cons]
    have moved := lockstep s t start c
    generalize next s c = s', next' t c = t' at moved ⊢
    cases moved with
    | none => exact .none
    | some arrived => exact ih arrived

end Systems

namespace Definition

def step (d : Definition) (s : State) (c : Char) : Option State :=
  d.target? s (String.singleton c)

theorem reach?_eq_foldlM (d : Definition) (s : State) (w : List Char) :
    d.reach? s w = w.foldlM d.step s := by
  induction w generalizing s with
  | nil => rfl
  | cons c w ih =>
    rw [reach?_cons, List.foldlM_cons]
    exact Option.bind_congr fun t _ => ih t

/-- The words whose plain run from `s` ends in a final state. -/
def words (d : Definition) (s : State) : Language Char :=
  wordsFrom d.step (· ∈ d.finalStates) s

theorem mem_words_iff (d : Definition) (s : State) (w : List Char) :
    w ∈ d.words s ↔ ∃ f, d.reach? s w = some f ∧ f ∈ d.finalStates := by
  simp only [reach?_eq_foldlM]
  rfl

instance (d : Definition) (s : State) (w : List Char) : Decidable (w ∈ d.words s) :=
  decidable_of_iff ((w.foldlM d.step s).any (· ∈ d.finalStates) = true) <| by
    rw [Option.any_eq_true]
    exact exists_congr fun f => and_congr_right fun _ => decide_eq_true_iff

/-- Where no trap is final, a built automaton accepts the language of its start state. -/
theorem accepts_iff_mem_words {d : Definition} (valid : d.Valid)
    (harmless : ∀ f ∈ d.finalStates, f ∉ d.trapStates) (w : String) :
    d.compile.accepts w = true ↔ w.toList ∈ d.words d.startState := by
  rw [accepts_iff_readsTo valid, mem_words_iff]
  refine exists_congr fun f => ?_
  constructor
  · rintro ⟨⟨reached, _⟩, isFinal⟩
    exact ⟨reached, isFinal⟩
  · rintro ⟨reached, isFinal⟩
    exact ⟨⟨reached, .inr (harmless f isFinal)⟩, isFinal⟩

/-- A valid definition over the two symbols `x` and `y`. -/
structure Binary (d : Definition) (x y : Char) : Prop where
  valid : d.Valid
  apart : x ≠ y
  symbols : ∀ z ∈ d.alphabet, z = String.singleton x ∨ z = String.singleton y

namespace Binary

open scoped Computability

variable {d : Definition} {x y : Char} {s t u : State}

theorem step_other (binary : d.Binary x y) (s : State) {c : Char} (notX : c ≠ x)
    (notY : c ≠ y) : d.step s c = none := by
  rw [Option.eq_none_iff_forall_ne_some]
  intro t found
  rcases binary.symbols _ (binary.valid.entries s _ t found).1 with same | same
  · exact notX (singleton_inj.1 same)
  · exact notY (singleton_inj.1 same)

theorem forks (binary : d.Binary x y)
    (row : d.row? s = some (.ofList [(String.singleton x, t), (String.singleton y, u)])) :
    Forks d.step x y s t u := by
  have apart : String.singleton x ≠ String.singleton y := fun same =>
    binary.apart (singleton_inj.1 same)
  constructor
  · simp [step, target?, row, SortedMap.find?_ofList, apart.symm]
  · simp [step, target?, row, SortedMap.find?_ofList]
  · intro c notX notY
    exact binary.step_other s notX notY

/-- A foreign symbol anywhere in a word keeps the word out. -/
theorem symbols_of_mem_words (binary : d.Binary x y) {w : List Char} {s : State}
    (member : w ∈ d.words s) : ∀ c ∈ w, c = x ∨ c = y := by
  induction w generalizing s with
  | nil => simp
  | cons c w ih =>
    obtain ⟨t, moved, rest⟩ := (cons_mem_wordsFrom d.step (· ∈ d.finalStates) s c w).1 member
    rw [List.forall_mem_cons]
    refine ⟨?_, ih rest⟩
    by_contra foreign
    rw [not_or] at foreign
    rw [binary.step_other s foreign.1 foreign.2] at moved
    contradiction

theorem words_of_not_final (binary : d.Binary x y)
    (row : d.row? s = some (.ofList [(String.singleton x, t), (String.singleton y, u)]))
    (notFinal : s ∉ d.finalStates) :
    d.words s = letter x * d.words t + letter y * d.words u :=
  wordsFrom_of_not_final binary.apart (binary.forks row) notFinal

theorem words_of_final (binary : d.Binary x y)
    (row : d.row? s = some (.ofList [(String.singleton x, t), (String.singleton y, u)]))
    (isFinal : s ∈ d.finalStates) :
    d.words s = 1 + (letter x * d.words t + letter y * d.words u) :=
  wordsFrom_of_final binary.apart (binary.forks row) isFinal

theorem nil_notMem_symbols (x y : Char) : [] ∉ letter x + letter y := by
  rw [Language.mem_add]
  exact not_or.2 ⟨nil_notMem_letter x, nil_notMem_letter y⟩

/-- A state that leads to itself alone accepts nothing, or all words over the two symbols. -/
theorem words_of_sink (binary : d.Binary x y)
    (row : d.row? s = some (.ofList [(String.singleton x, s), (String.singleton y, s)]))
    (notFinal : s ∉ d.finalStates) : d.words s = 0 := by
  have loop : d.words s = (letter x + letter y) * d.words s + 0 := by
    rw [add_mul, add_zero]
    exact binary.words_of_not_final row notFinal
  rw [Language.self_eq_mul_add_iff (nil_notMem_symbols x y), mul_zero] at loop
  exact loop

theorem words_of_final_sink (binary : d.Binary x y)
    (row : d.row? s = some (.ofList [(String.singleton x, s), (String.singleton y, s)]))
    (isFinal : s ∈ d.finalStates) : d.words s = (letter x + letter y)∗ := by
  have loop : d.words s = (letter x + letter y) * d.words s + 1 := by
    rw [add_mul, add_comm]
    exact binary.words_of_final row isFinal
  rw [Language.self_eq_mul_add_iff (nil_notMem_symbols x y), mul_one] at loop
  exact loop

end Binary

end Definition

end Acceptor
