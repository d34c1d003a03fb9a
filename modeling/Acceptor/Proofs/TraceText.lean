import Acceptor.Format.Trace
import Acceptor.Proofs.DefinitionText
import Acceptor.Proofs.Run

/-! Texts of traces. Of the six members that are written, `error` is for the human reader: it
says again what `rejection` says, and nobody who reads the text back relies on it. -/
namespace Acceptor

theorem Halt.ofJson?_toJson (h : Halt) : ofJson? h.toJson = some h := by
  simp [toJson, Json.ofString, ofJson?]

/-- A state is a number and a halt is a text, so neither is taken for the other. -/
theorem Step.ofJson?_toJson (x : Step) : ofJson? x.toJson = some x := by
  cases x with
  | state s => simp [toJson, ofJson?]
  | halt h =>
    have other : State.ofJson? h.toJson = none := rfl
    simp only [toJson, ofJson?, other, Halt.ofJson?_toJson, Option.map_some]

namespace Rejection

theorem symbol?_symbolToJson (c : Char) : symbol? (symbolToJson c) = some c := by
  simp [symbol?, symbolToJson]

theorem position?_ofNat {i : Nat} (fits : i < UInt64.size) : position? (.ofNat i) = some i := by
  simp [position?, fits]

def fields : Rejection → List (String × Json)
  | invalidSymbol c i => [("symbol", symbolToJson c), ("position", .ofNat i)]
  | noTransition s i => [("state", State.toJson s), ("position", .ofNat i)]
  | invalidTarget s c i =>
    [("state", State.toJson s), ("symbol", symbolToJson c), ("position", .ofNat i)]
  | trapState s c i =>
    [("state", State.toJson s), ("symbol", symbolToJson c), ("position", .ofNat i)]

theorem toJson_eq (r : Rejection) :
    r.toJson = .record (("kind", .ofString r.kind) :: r.fields) := by
  cases r <;> rfl

theorem distinct_fields (r : Rejection) :
    ((("kind", Json.ofString r.kind) :: r.fields).map Prod.fst).Nodup := by
  cases r <;> simp [fields]

theorem keepable_toJson (r : Rejection) (fits : r.position < UInt64.size) :
    r.toJson.keepable = true := by
  rw [toJson_eq]
  refine Json.keepable_record ?_
  have state : ∀ s : State, (State.toJson s).keepable = true := fun s =>
    Json.keepable_ofNat (Nat.lt_trans s.toNat_lt_size (by decide))
  have symbol : ∀ c, (symbolToJson c).keepable = true := fun c => Json.keepable_ofString _
  have position := Json.keepable_ofNat fits
  cases r <;>
    simpa [fields, Json.keepable_ofString, state, symbol, Rejection.position] using position

theorem ofKind?_kind (r : Rejection) (fits : r.position < UInt64.size) :
    ofKind? r.kind r.toJson = some r := by
  have found := Json.fields?_record _ r.fields r.distinct_fields
    (fun m mem => List.mem_cons_of_mem _ mem)
  rw [← toJson_eq] at found
  have position : position? (.ofNat r.position) = some r.position := position?_ofNat fits
  cases r
  all_goals
    simp only [fields, Rejection.position, List.map_cons, List.map_nil] at found position
    simp [ofKind?, kind, symbolFields?, stateFields?, allFields?, found, symbol?_symbolToJson,
      position]

theorem ofParts?_toJson (r : Rejection) (fits : r.position < UInt64.size) :
    ofParts? r.toJson = some r := by
  have kind := Json.fields?_record _ [("kind", Json.ofString r.kind)] r.distinct_fields
    (by simp) 1
  have read := r.ofKind?_kind fits
  rw [toJson_eq] at read ⊢
  rw [Json.record] at kind read ⊢
  rw [ofParts?]
  simp only [List.map_cons, List.map_nil] at kind read ⊢
  simp only [kind, Json.toString?_ofString, Option.bind_some, read]

theorem depth_toJson (r : Rejection) : r.toJson.depth ≤ 1 := by
  rw [toJson_eq]
  refine Json.depth_record_le 0 ?_
  cases r <;> simp [fields, symbolToJson, State.toJson, Json.ofString, Json.ofNat, Json.depth]

theorem ofJson?_toJson (r : Rejection) (fits : r.position < UInt64.size) {depth : Nat}
    (room : 0 < depth) : ofJson? depth r.toJson = some r := by
  rw [ofJson?, if_pos ⟨r.keepable_toJson fits, Nat.le_trans r.depth_toJson room⟩,
    r.ofParts?_toJson fits]

theorem legible_toJson (r : Rejection) : r.toJson.Legible := by
  rw [toJson_eq]
  refine Json.legible_record ?_
  have symbol : ∀ c, (symbolToJson c).Legible := fun c => Json.legible_ofString _
  cases r <;>
    simp [fields, Json.legible_ofString, Json.legible_ofNat, State.legible_toJson, symbol]

theorem position?_lt {v : Json} {i : Nat} (read : position? v = some i) : i < UInt64.size := by
  unfold position? at read
  split at read
  · contradiction
  · split at read
    · cases read; assumption
    · contradiction

theorem position_lt_of_ofKind? {kind : String} {v : Json} {r : Rejection}
    (read : ofKind? kind v = some r) : r.position < UInt64.size := by
  unfold ofKind? symbolFields? stateFields? allFields? at read
  repeat' split at read
  all_goals cases read
  all_goals exact position?_lt (by assumption)

/-- Whatever is read as a rejection has a position in range. -/
theorem position_lt_of_ofJson? {depth : Nat} {v : Json} {r : Rejection}
    (read : ofJson? depth v = some r) : r.position < UInt64.size := by
  unfold ofJson? ofParts? at read
  repeat' split at read
  all_goals first
    | contradiction
    | obtain ⟨kind, -, fields⟩ := Option.bind_eq_some_iff.1 read
      exact position_lt_of_ofKind? fields

end Rejection

namespace Trace

theorem ofJson?_toJson (t : Trace) (fits : ∀ r, t.rejection = some r → r.position < UInt64.size) :
    ofJson? t.toJson = some t := by
  have fields := Json.fields?_record_all [
    ("input", .ofString t.input),
    ("final_state", State.toJson t.finalState),
    ("accepted", .bool t.accepted),
    ("state_sequence", .arr (t.steps.map Step.toJson)),
    ("error", .ofOption Json.ofString t.errorMessage?),
    ("rejection", .ofOption Rejection.toJson t.rejection)] (by simp) 6
  simp only [List.map_cons, List.map_nil] at fields
  have error : error? (some (.ofOption Json.ofString t.errorMessage?)) = some t.errorMessage? :=
    Json.toOption?_ofOption (fun x _ => Json.toString?_ofString x) nofun
  have rejection : rejection? (some (.ofOption Rejection.toJson t.rejection)) =
      some t.rejection :=
    Json.toOption?_ofOption (fun r mem => r.ofJson?_toJson (fits r mem) (by decide)) nofun
  simp only [ofJson?, toJson, fieldNames, fields, error, rejection, Json.toString?_ofString,
    State.ofJson?_toJson, Json.toBool?, Json.toList?_arr_map Step.ofJson?_toJson]

theorem legible_toJson (t : Trace) : t.toJson.Legible := by
  have step : ∀ x ∈ t.steps, x.toJson.Legible := by
    intro x _
    cases x with
    | state s => exact State.legible_toJson s
    | halt h => exact Json.legible_ofString h.name
  refine Json.legible_record ?_
  simp only [List.forall_mem_cons]
  exact ⟨Json.legible_ofString t.input, State.legible_toJson t.finalState, .bool t.accepted,
    Json.legible_arr_map step, Json.legible_ofOption Json.legible_ofString t.errorMessage?,
    Json.legible_ofOption Rejection.legible_toJson t.rejection, by simp⟩

theorem parse?_write (t : Trace) (l : Json.Layout)
    (fits : ∀ r, t.rejection = some r → r.position < UInt64.size) :
    parse? (t.toJson.write l) = some t :=
  Json.decode_write l t.legible_toJson (t.ofJson?_toJson fits)

theorem position_lt_of_rejection? {o : Option Json} {r : Rejection}
    (read : rejection? o = some (some r)) : r.position < UInt64.size := by
  cases o with
  | none => simp [rejection?] at read
  | some v => exact Rejection.position_lt_of_ofJson? (Json.eq_some_of_toOption? read)

theorem position_lt_of_ofJson? {v : Json} {t : Trace} (read : ofJson? v = some t) :
    ∀ r, t.rejection = some r → r.position < UInt64.size := by
  unfold ofJson? at read
  split at read
  · split at read
    · next found =>
      cases read
      rintro r rfl
      exact position_lt_of_rejection? found
    · contradiction
  · contradiction

/-- What stands under `error` in a text of the trace. -/
theorem fields?_error (t : Trace) : t.toJson.fields? ["error"] 1 =
    some [some (.ofOption Json.ofString t.errorMessage?)] := by
  exact Json.fields?_record _ [("error", .ofOption Json.ofString t.errorMessage?)]
    (by simp) (by simp) 1

end Trace

namespace Automaton

variable (a : Automaton)

/-- A rejection points at a symbol of the word. -/
theorem position_lt_of_scan {s : State} {i : Nat} {w : List Char} {r : Rejection}
    (rejected : (a.scan s i w).rejection = some r) : r.position < i + w.length := by
  obtain ⟨k, c, atIndex, position, -, -⟩ := (a.scan_run s i w).stopped rejected
  have inside := (List.getElem?_eq_some_iff.1 atIndex).1
  omega

theorem parse?_simulate {word : String} (fits : word.length ≤ UInt64.size) (l : Json.Layout) :
    Trace.parse? ((a.simulate word).toJson.write l) = some (a.simulate word) := by
  refine Trace.parse?_write _ l fun r rejected => ?_
  have inside := a.position_lt_of_scan rejected
  rw [String.length_toList] at inside
  omega

end Automaton

/-- A trace is read back from both of its texts, if its position is one that can be written.
What a text says under `error` is lost: it is written anew from the rejection. -/
theorem trace_texts_read_back :
    (∀ t : Trace, (∀ r, t.rejection = some r → r.position < UInt64.size) →
      Trace.parse? t.toJson.compact = some t ∧ Trace.parse? t.toJson.pretty = some t) ∧
    ∀ s t, Trace.parse? s = some t → ∀ text, text = t.toJson.compact ∨ text = t.toJson.pretty →
      Trace.parse? text = some t ∧
      ∃ v e, Json.parse? text = some v ∧ v.fields? ["error"] 1 = some [some e] ∧
        (e = .null ↔ t.rejection = none) ∧
        ∀ r, t.rejection = some r → e.toString? = some r.message := by
  refine ⟨fun t fits => ⟨t.parse?_write _ fits, t.parse?_write _ fits⟩, ?_⟩
  intro s t read text written
  obtain ⟨v, -, decoded⟩ := Option.bind_eq_some_iff.1 read
  have fits := Trace.position_lt_of_ofJson? decoded
  obtain ⟨l, rfl⟩ : ∃ l, text = t.toJson.write l := by
    rcases written with rfl | rfl <;> exact ⟨_, rfl⟩
  refine ⟨t.parse?_write l fits, t.toJson, _, Json.parse?_write l t.legible_toJson,
    t.fields?_error, ?_, ?_⟩
  · cases rejected : t.rejection with
    | none => simp [Trace.errorMessage?, rejected, Json.ofOption]
    | some r => simp [Trace.errorMessage?, rejected, Json.ofOption, Json.ofString]
  · intro r rejected
    simp [Trace.errorMessage?, rejected, Json.ofOption]

def trapped : Trace :=
  ⟨"ab\n", 7, false, [.state 0, .state 7, .halt .trapState], some (.trapState 7 'a' 0)⟩

/-- A text of the same trace that gives another reason, and the rejection as an array. -/
def misreported : String :=
  "\x7b\"error\": \"no reason\", \"rejection\": [\"trap_state\", 7, \"\\u0061\", 0]," ++
  "\"state_sequence\": [0, 7, \x7b\"REJECT_STATE_TRAP_STATE\": null\x7d], \"accepted\": false," ++
  "\"final_state\": 7, \"input\": \"a\\u0062\\n\"\x7d"

theorem trapped_texts_read_back :
    (∀ r, trapped.rejection = some r → r.position < UInt64.size) ∧
    Trace.parse? trapped.toJson.pretty = some trapped ∧
    Trace.parse? misreported = some trapped ∧
    ∃ v e, Json.parse? trapped.toJson.compact = some v ∧ v.fields? ["error"] 1 = some [some e] ∧
      e.toString? = some "Symbol 'a' at position 0 leads to trap state '7'" := by
  have fits : ∀ r, trapped.rejection = some r → r.position < UInt64.size := by
    rintro r ⟨⟩
    decide
  have read : Trace.parse? misreported = some trapped := by decide +kernel
  obtain ⟨-, v, e, parsed, found, -, reason⟩ :=
    trace_texts_read_back.2 misreported trapped read _ (.inl rfl)
  exact ⟨fits, (trace_texts_read_back.1 trapped fits).2, read, v, e, parsed, found, reason _ rfl⟩

end Acceptor
