import LlmTelemetry.Proofs.Event.PayloadFields
import LlmTelemetry.Proofs.Redaction.Coverage
import LlmTelemetry.Proofs.Wire.RoundTrips
/-!
# A record is rebuilt from its events

Without redaction the two events of a call tell the whole record. The fields that the payloads leave out when they
are absent, the one that is `null` then, and the ones that are always there, are read back into the two payloads,
and these are put together again.

A collector may not tell all doubles apart, as those that differ in the sign of zero only. So values are also
compared up to any relation between doubles: what is alike in the events is alike in the records.
-/

namespace LlmTelemetry

/-! ## Reading the payloads -/

namespace Json

variable {α : Type}

/-- Read a field that is always there. -/
def read? (decode : Decode α) (key : String) (value : Json) : Option α :=
  (value.field? key).bind fun content => (decode content).toOption

/-- Read a field that is left out when it is absent. -/
def readOptional? (decode : Decode α) (key : String) (value : Json) : Option (Option α) :=
  match value.field? key with
  | none => some none
  | some content => (decode content).toOption.map some

end Json

def CallPayload.read? (value : Json) : Option CallPayload := do
  let callId ← value.read? .string "callId"
  let provider ← value.read? .string "provider"
  let model ← value.read? .string "model"
  let messages ← value.read? (.list Message.decode) "messages"
  let systemPrompt ← value.readOptional? .string "systemPrompt"
  let parameters ← value.readOptional? .any "parameters"
  let redacted ← value.readOptional? .bool "redacted"
  return ⟨callId, provider, model, messages, systemPrompt, parameters, redacted.getD false⟩

def ResponsePayload.read? (value : Json) : Option ResponsePayload := do
  let callId ← value.read? .string "callId"
  let provider ← value.read? .string "provider"
  let model ← value.read? .string "model"
  let completion ← value.read? (.optional .string) "completion"
  let finishReason ← value.read? .string "finishReason"
  let usage ← value.read? TokenUsage.decode "usage"
  let costUsd ← value.read? .float "costUsd"
  let latencyMs ← value.read? .float "latencyMs"
  let toolCalls ← value.readOptional? .any "toolCalls"
  let redacted ← value.readOptional? .bool "redacted"
  return ⟨callId, provider, model, completion, finishReason, usage, costUsd, latencyMs, toolCalls,
    redacted.getD false⟩

theorem CallPayload.read?_encode (payload : CallPayload) : read? payload.encode = some payload := by
  have messages : Decode.list Message.decode (.array (payload.messages.map Message.encode)) =
      .ok payload.messages := Decode.list_map fun message _ => message.decode_encode
  obtain ⟨callId, provider, model, _, systemPrompt, parameters, redacted⟩ := payload
  cases systemPrompt <;> cases parameters <;> cases redacted <;>
    simp [read?, Json.read?, Json.readOptional?, encode, KeyedList.find?_append, KeyedList.find?, messages,
      Except.toOption]

theorem ResponsePayload.read?_encode {payload : ResponsePayload} (cost : payload.costUsd.isFinite = true)
    (latency : payload.latencyMs.isFinite = true) : read? payload.encode = some payload := by
  obtain ⟨callId, provider, model, completion, finishReason, usage, costUsd, latencyMs, toolCalls, redacted⟩ :=
    payload
  have cost := Decode.float_ofFloat cost
  have latency := Decode.float_ofFloat latency
  cases toolCalls <;> cases redacted <;>
    simp [read?, Json.read?, Json.readOptional?, encode, KeyedList.find?_append, KeyedList.find?,
      usage.decode_encode, cost, latency, Except.toOption]

/-! ## Putting the record together -/

def CallRecord.ofPayloads? (call : CallPayload) (response : ResponsePayload) : Option CallRecord := do
  let toolCalls ←
    match response.toolCalls with
    | none => some none
    | some calls => ((Decode.list ToolCall.decode) calls).toOption.map some
  return {
    provider := call.provider
    model := call.model
    messages := call.messages
    systemPrompt := call.systemPrompt
    completion := response.completion
    toolCalls := toolCalls
    finishReason := response.finishReason
    usage := response.usage
    costUsd := response.costUsd
    latencyMs := response.latencyMs
    parameters := call.parameters }

/-- The record that two events tell. -/
def EventBatch.record? (batch : EventBatch) : Option CallRecord :=
  match batch.events with
  | [call, response] => do
    let call ← CallPayload.read? call.payload
    let response ← ResponsePayload.read? response.payload
    CallRecord.ofPayloads? call response
  | _ => none

namespace CallRecord

/-- What was asked, as it is sent without redaction. -/
def plainCall (record : CallRecord) (callId : String) : CallPayload :=
  ⟨callId, record.provider, record.model, record.messages, record.systemPrompt, record.parameters, false⟩

/-- What was answered, as it is sent without redaction. -/
def plainResponse (record : CallRecord) (callId : String) : ResponsePayload :=
  ⟨callId, record.provider, record.model, record.completion, record.finishReason, record.usage, record.costUsd,
    record.latencyMs, record.toolCallsValue, false⟩

variable (record : CallRecord)

theorem events_plain (labels : EventLabels) :
    record.events {} labels =
      .ok ⟨[labels.event .llmCall (record.plainCall labels.stamp.callId).encode,
        labels.event .llmResponse (record.plainResponse labels.stamp.callId).encode]⟩ := by
  have scrubs : Redaction.ScrubsBy {} id := fun _ => rfl
  have same : Json.mapStrings id = id := funext (Json.mapStrings_of_same fun _ => rfl)
  have call := callPayload_eq scrubs rfl record labels.stamp.callId
  have response := responsePayload_eq scrubs rfl record labels.stamp.callId
  simp only [same, Option.map_id, id_eq, List.map_id'] at call response
  exact events_eq_ok call response

theorem ofPayloads?_plain (callId : String) :
    ofPayloads? (record.plainCall callId) (record.plainResponse callId) = some record := by
  obtain ⟨provider, model, messages, systemPrompt, completion, toolCalls, finishReason, usage, costUsd, latencyMs,
    parameters⟩ := record
  cases toolCalls with
  | none => rfl
  | some calls =>
    have reads : Decode.list ToolCall.decode (.array (calls.map ToolCall.encode)) = .ok calls :=
      Decode.list_map fun call _ => call.decode_encode
    simp [ofPayloads?, plainResponse, plainCall, toolCallsValue, reads, Except.toOption]

end CallRecord

/-! ## Values up to a relation between doubles -/

section Alike

variable (same : Float → Float → Prop)

/-- The same values but for the doubles, which are related. -/
inductive Json.Alike : Json → Json → Prop
  | null : Alike .null .null
  | bool (value : Bool) : Alike (.bool value) (.bool value)
  | natural (value : UInt64) : Alike (.number (.natural value)) (.number (.natural value))
  | negative (value : Int64) : Alike (.number (.negative value)) (.number (.negative value))
  | double {x y : Float} (related : same x y) : Alike (.number (.double x)) (.number (.double y))
  | string (value : String) : Alike (.string value) (.string value)
  | array {first second : List Json} (items : List.Forall₂ Alike first second) :
    Alike (.array first) (.array second)
  | object {first second : List (String × Json)} (keys : KeyedList.keys first = KeyedList.keys second)
    (values : List.Forall₂ Alike (first.map Prod.snd) (second.map Prod.snd)) :
    Alike (.object first) (.object second)

/-- The events differ in nothing but payloads and metadata, which are alike. -/
structure Event.Alike (first second : Event) : Prop where
  sessionId : first.sessionId = second.sessionId
  agentId : first.agentId = second.agentId
  kind : first.kind = second.kind
  severity : first.severity = second.severity
  payload : first.payload.Alike same second.payload
  metadata : first.metadata.Alike same second.metadata
  timestamp : first.timestamp = second.timestamp

structure Message.Alike (first second : Message) : Prop where
  role : first.role = second.role
  content : first.content.Alike same second.content

structure ToolCall.Alike (first second : ToolCall) : Prop where
  id : first.id = second.id
  name : first.name = second.name
  arguments : first.arguments.Alike same second.arguments

/-- The same records but for the doubles, which are related. -/
structure CallRecord.Alike (first second : CallRecord) : Prop where
  provider : first.provider = second.provider
  model : first.model = second.model
  messages : List.Forall₂ (Message.Alike same) first.messages second.messages
  systemPrompt : first.systemPrompt = second.systemPrompt
  completion : first.completion = second.completion
  toolCalls : Option.Rel (List.Forall₂ (ToolCall.Alike same)) first.toolCalls second.toolCalls
  finishReason : first.finishReason = second.finishReason
  usage : first.usage = second.usage
  costUsd : same first.costUsd second.costUsd
  latencyMs : same first.latencyMs second.latencyMs
  parameters : Option.Rel (Json.Alike same) first.parameters second.parameters

end Alike

variable {same : Float → Float → Prop}

namespace Json

theorem alike_string {first second : String} :
    Alike same (.string first) (.string second) ↔ first = second := by
  constructor
  · rintro ⟨⟩
    rfl
  · rintro rfl
    exact .string first

theorem alike_array {first second : List Json} :
    Alike same (.array first) (.array second) ↔ List.Forall₂ (Alike same) first second :=
  ⟨fun | .array items => items, .array⟩

theorem alike_ofUInt64 {first second : UInt64} :
    Alike same (.ofUInt64 first) (.ofUInt64 second) ↔ first = second := by
  constructor
  · rintro ⟨⟩
    rfl
  · rintro rfl
    exact .natural first

theorem alike_ofFloat {first second : Float} (finite : first.isFinite = true) (finite' : second.isFinite = true) :
    Alike same (.ofFloat first) (.ofFloat second) ↔ same first second := by
  rw [ofFloat, ofFloat, if_pos finite, if_pos finite']
  constructor
  · intro alike
    cases alike with
    | double related => exact related
  · exact .double

theorem Alike.field? {first second : Json} (alike : first.Alike same second) (key : String) :
    Option.Rel (Alike same) (first.field? key) (second.field? key) := by
  cases alike with
  | @object fields fields' keys values =>
    -- Both objects have their keys in the same order, so the look-ups go side by side.
    show Option.Rel _ (KeyedList.find? key fields) (KeyedList.find? key fields')
    induction fields generalizing fields' with
    | nil =>
      cases fields' with
      | nil => exact .none
      | cons field rest => cases values
    | cons field rest ih =>
      cases fields' with
      | nil => cases values
      | cons field' rest' =>
        obtain ⟨k, value⟩ := field
        obtain ⟨k', value'⟩ := field'
        obtain ⟨here, others⟩ := List.cons.inj keys
        obtain ⟨head, tail⟩ := List.forall₂_cons.mp values
        obtain rfl : k = k' := here
        unfold KeyedList.find?
        split
        · exact .some head
        · exact ih others tail
  | _ => exact .none

end Json

/-- What two objects have under a key. -/
theorem Json.Alike.at {first second value value' : Json} (alike : first.Alike same second) (key : String)
    (found : first.field? key = some value) (found' : second.field? key = some value') :
    value.Alike same value' := by
  have related := alike.field? key
  rw [found, found'] at related
  exact Option.rel_some_some.mp related

theorem Message.alike_of_encode {first second : Message} (alike : first.encode.Alike same second.encode) :
    first.Alike same second where
  role := by simpa [encode, KeyedList.find?, Json.alike_string] using alike.field? "role"
  content := by simpa [encode, KeyedList.find?] using alike.field? "content"

theorem ToolCall.alike_of_encode {first second : ToolCall} (alike : first.encode.Alike same second.encode) :
    first.Alike same second where
  id := by simpa [encode, KeyedList.find?, Json.alike_string] using alike.field? "id"
  name := by simpa [encode, KeyedList.find?, Json.alike_string] using alike.field? "name"
  arguments := by simpa [encode, KeyedList.find?] using alike.field? "arguments"

theorem TokenUsage.eq_of_alike {first second : TokenUsage} (alike : first.encode.Alike same second.encode) :
    first = second := by
  have inputTokens := alike.field? "inputTokens"
  have outputTokens := alike.field? "outputTokens"
  have totalTokens := alike.field? "totalTokens"
  have thinkingTokens := alike.field? "thinkingTokens"
  obtain ⟨input, output, total, thinking⟩ := first
  obtain ⟨input', output', total', thinking'⟩ := second
  cases thinking <;> cases thinking' <;>
    simp_all [encode, KeyedList.find?, Json.alike_ofUInt64]

/-- Lists that are alike when written are alike. -/
theorem forall₂_of_alike {α : Type} {encode : α → Json} {related : α → α → Prop}
    (each : ∀ first second, (encode first).Alike same (encode second) → related first second)
    {first second : List α} (alike : (Json.array (first.map encode)).Alike same (.array (second.map encode))) :
    List.Forall₂ related first second := by
  have items := Json.alike_array.mp alike
  rw [List.forall₂_map_left_iff, List.forall₂_map_right_iff] at items
  exact items.imp fun first second => each first second

theorem Json.eq_of_alike_map {first second : Option String}
    (alike : Option.Rel (Alike same) (first.map .string) (second.map .string)) : first = second := by
  cases first <;> cases second <;> simp_all [alike_string]

theorem Json.eq_of_alike_ofOption {first second : Option String}
    (alike : (ofOption .string first).Alike same (ofOption .string second)) : first = second := by
  cases first <;> cases second
  · rfl
  · cases alike
  · cases alike
  · exact congrArg some (alike_string.mp alike)

theorem CallPayload.alike_of_encode {first second : CallPayload} (alike : first.encode.Alike same second.encode) :
    first.provider = second.provider ∧ first.model = second.model ∧
      List.Forall₂ (Message.Alike same) first.messages second.messages ∧
      first.systemPrompt = second.systemPrompt ∧
      Option.Rel (Json.Alike same) first.parameters second.parameters := by
  have messages := alike.at "messages" first.field?_messages second.field?_messages
  have systemPrompt := alike.field? "systemPrompt"
  have parameters := alike.field? "parameters"
  rw [field?_systemPrompt, field?_systemPrompt] at systemPrompt
  rw [field?_parameters, field?_parameters] at parameters
  refine ⟨?_, ?_, forall₂_of_alike (fun _ _ => Message.alike_of_encode) messages,
    Json.eq_of_alike_map systemPrompt, parameters⟩
  · simpa [encode, KeyedList.find?, KeyedList.find?_append, Json.alike_string] using alike.field? "provider"
  · simpa [encode, KeyedList.find?, KeyedList.find?_append, Json.alike_string] using alike.field? "model"

theorem ResponsePayload.alike_of_encode {first second : ResponsePayload}
    (alike : first.encode.Alike same second.encode)
    (cost : first.costUsd.isFinite = true ∧ second.costUsd.isFinite = true)
    (latency : first.latencyMs.isFinite = true ∧ second.latencyMs.isFinite = true) :
    first.completion = second.completion ∧ first.finishReason = second.finishReason ∧
      first.usage = second.usage ∧ same first.costUsd second.costUsd ∧ same first.latencyMs second.latencyMs ∧
      Option.Rel (Json.Alike same) first.toolCalls second.toolCalls := by
  have completion := alike.at "completion" first.field?_completion second.field?_completion
  have toolCalls := alike.field? "toolCalls"
  rw [field?_toolCalls, field?_toolCalls] at toolCalls
  have usage : first.usage.encode.Alike same second.usage.encode := by
    simpa [encode, KeyedList.find?, KeyedList.find?_append] using alike.field? "usage"
  refine ⟨Json.eq_of_alike_ofOption completion, ?_, TokenUsage.eq_of_alike usage,
    (Json.alike_ofFloat cost.1 cost.2).mp ?_, (Json.alike_ofFloat latency.1 latency.2).mp ?_, toolCalls⟩
  · simpa [encode, KeyedList.find?, KeyedList.find?_append, Json.alike_string] using alike.field? "finishReason"
  · simpa [encode, KeyedList.find?, KeyedList.find?_append] using alike.field? "costUsd"
  · simpa [encode, KeyedList.find?, KeyedList.find?_append] using alike.field? "latencyMs"

namespace CallRecord

/-- The cost and the latency are numbers. -/
structure IsFinite (record : CallRecord) : Prop where
  cost : record.costUsd.isFinite = true
  latency : record.latencyMs.isFinite = true

variable {first second : CallRecord}

theorem toolCalls_of_alike
    (alike : Option.Rel (Json.Alike same) first.toolCallsValue second.toolCallsValue) :
    Option.Rel (List.Forall₂ (ToolCall.Alike same)) first.toolCalls second.toolCalls := by
  unfold toolCallsValue at alike
  generalize first.toolCalls = calls, second.toolCalls = calls' at alike ⊢
  cases calls <;> cases calls'
  · exact .none
  · cases alike
  · cases alike
  · exact .some (forall₂_of_alike (fun _ _ => ToolCall.alike_of_encode) (Option.rel_some_some.mp alike))

theorem alike_of_payloads (finite : first.IsFinite) (finite' : second.IsFinite) {callId : String}
    (calls : (first.plainCall callId).encode.Alike same (second.plainCall callId).encode)
    (responses : (first.plainResponse callId).encode.Alike same (second.plainResponse callId).encode) :
    first.Alike same second := by
  obtain ⟨provider, model, messages, systemPrompt, parameters⟩ := CallPayload.alike_of_encode calls
  obtain ⟨completion, finishReason, usage, costUsd, latencyMs, toolCalls⟩ :=
    ResponsePayload.alike_of_encode responses ⟨finite.cost, finite'.cost⟩ ⟨finite.latency, finite'.latency⟩
  exact { provider, model, messages, systemPrompt, parameters, completion, finishReason, usage, costUsd, latencyMs,
          toolCalls := toolCalls_of_alike toolCalls }

theorem record?_plain (finite : first.IsFinite) (labels : EventLabels) :
    ∃ batch, first.events {} labels = .ok batch ∧ batch.record? = some first := by
  refine ⟨_, first.events_plain labels, ?_⟩
  have response : (first.plainResponse labels.stamp.callId).costUsd.isFinite = true := finite.cost
  simp [EventBatch.record?, EventLabels.event, CallPayload.read?_encode,
    ResponsePayload.read?_encode response finite.latency, ofPayloads?_plain]

/-- Without redaction the events of a call lose nothing of a record whose cost and latency are numbers: it is
rebuilt from them, so two records with the same events are the same. And however doubles are compared, by a
comparison that takes the two zeros for equal or by any other, records whose events compare equal compare equal. -/
theorem events_lossless (labels : EventLabels) (finite : first.IsFinite) (finite' : second.IsFinite) :
    ∃ batch batch', first.events {} labels = .ok batch ∧ second.events {} labels = .ok batch' ∧
      (batch.record? = some first ∧ batch'.record? = some second) ∧ (batch = batch' → first = second) ∧
        ∀ same, List.Forall₂ (Event.Alike same) batch.events batch'.events → first.Alike same second := by
  obtain ⟨batch, built, read⟩ := record?_plain finite labels
  obtain ⟨batch', built', read'⟩ := record?_plain finite' labels
  refine ⟨batch, batch', built, built', ⟨read, read'⟩, ?_, fun same alike => ?_⟩
  · rintro rfl
    exact Option.some.inj (read.symm.trans read')
  · cases (first.events_plain labels).symm.trans built
    cases (second.events_plain labels).symm.trans built'
    obtain ⟨calls, alike⟩ := List.forall₂_cons.mp alike
    obtain ⟨responses, -⟩ := List.forall₂_cons.mp alike
    exact alike_of_payloads finite finite' calls.payload responses.payload

/-- What is empty, `null` or zero is told apart from what is absent. -/
theorem events_lossless_of_nothing :
    ∃ (labels : EventLabels) (present absent : CallRecord) (batch batch' : EventBatch),
      present.toolCalls = some [] ∧ absent.toolCalls = none ∧ present.parameters.isSome = true ∧
        absent.parameters = none ∧ present.usage.thinkingTokens = some 0 ∧ absent.usage.thinkingTokens = none ∧
        present.completion = some "" ∧ absent.completion = none ∧
        present.events {} labels = .ok batch ∧ absent.events {} labels = .ok batch' ∧
        batch.record? = some present ∧ batch'.record? = some absent ∧ batch ≠ batch' := by
  let labels : EventLabels := ⟨"session", "agent", ⟨"call", "2026-01-01T00:00:00.000Z"⟩, .automatic⟩
  let absent := CallRecord.blank "openai" "gpt-4o"
  let present : CallRecord :=
    { absent with
      completion := some "", toolCalls := some [], parameters := some .null, usage := ⟨0, 0, 0, some 0⟩ }
  have finite : present.IsFinite := ⟨Decimal.zero_isFinite, Decimal.zero_isFinite⟩
  have finite' : absent.IsFinite := ⟨Decimal.zero_isFinite, Decimal.zero_isFinite⟩
  obtain ⟨batch, batch', built, built', ⟨read, read'⟩, same, -⟩ := events_lossless labels finite finite'
  refine ⟨labels, present, absent, batch, batch', rfl, rfl, rfl, rfl, rfl, rfl, rfl, rfl, built, built', read, read',
    ?_⟩
  intro equal
  exact nomatch congrArg toolCalls (same equal)

end CallRecord

end LlmTelemetry
