import LlmTelemetry.Proofs.Provider.Amounts
import LlmTelemetry.Proofs.Wire.Shapes
import LlmTelemetry.Wire.Models
/-!
# Written models are read back

Every model is written so that it is read back as it was. Three of them ask for a little: a cost and a latency
have to be numbers, and the parameters of a call must not be `null`. What was read from JSON is always so.
-/

namespace LlmTelemetry

open Shape

section Encoded

namespace Decode

@[simp] theorem any_eq (value : Json) : Decode.any value = .ok value := rfl

@[simp] theorem string_eq (value : String) : Decode.string (.string value) = .ok value := rfl

@[simp] theorem bool_eq (value : Bool) : Decode.bool (.bool value) = .ok value := rfl

@[simp] theorem uint64_ofUInt64 (value : UInt64) : Decode.uint64 (.ofUInt64 value) = .ok value := rfl

theorem float_ofFloat {value : Float} (finite : value.isFinite = true) :
    Decode.float (.ofFloat value) = .ok value := by
  rw [Json.ofFloat, if_pos finite]
  rfl

@[simp] theorem optional_string (value : Option String) :
    Decode.optional .string (.ofOption .string value) = .ok value :=
  optional_ofOption (fun _ _ => rfl) (by simp)

@[simp] theorem list_string (values : List String) :
    Decode.list .string (.array (values.map .string)) = .ok values :=
  list_map fun _ _ => rfl

end Decode

attribute [local simp] readField Field.required Field.optional Field.defaulted Field.nullable
  KeyedList.last? Except.bind Except.map

theorem Message.decode_encode (message : Message) : decode message.encode = .ok message := by
  refine decode_record "Message" ?_
  simp

theorem ToolCall.decode_encode (call : ToolCall) : decode call.encode = .ok call := by
  refine decode_record "ToolCall" ?_
  simp

theorem TokenUsage.decode_encode (usage : TokenUsage) : decode usage.encode = .ok usage := by
  refine decode_record "TokenUsage" ?_
  obtain ⟨inputTokens, outputTokens, totalTokens, thinkingTokens⟩ := usage
  cases thinkingTokens <;> simp [Decode.optional, Json.ofUInt64, Decode.uint64]

theorem CallRecord.decode_encode {record : CallRecord} (cost : record.costUsd.isFinite = true)
    (latency : record.latencyMs.isFinite = true) (parameters : record.parameters ≠ some .null) :
    decode record.encode = .ok record := by
  have messages : Decode.list Message.decode (.array (record.messages.map Message.encode)) =
      .ok record.messages :=
    Decode.list_map fun message _ => message.decode_encode
  have toolCalls : Decode.optional (.list ToolCall.decode)
      (.ofOption (fun calls => .array (calls.map ToolCall.encode)) record.toolCalls) = .ok record.toolCalls :=
    Decode.optional_ofOption (fun calls _ => Decode.list_map fun call _ => call.decode_encode) (by simp)
  have parameters : Decode.optional .any (.ofOption id record.parameters) = .ok record.parameters :=
    Decode.optional_ofOption (fun _ _ => rfl) fun content given null => parameters (given.trans (by rw [← null]; rfl))
  refine decode_record "CapturedCallRecord" ?_
  simp [messages, toolCalls, parameters, record.usage.decode_encode, Decode.float_ofFloat cost,
    Decode.float_ofFloat latency]

theorem EventKind.decode_name (kind : EventKind) : decode (.string kind.name) = .ok kind := by
  cases kind <;> rfl

theorem Severity.decode_name (severity : Severity) : decode (.string severity.name) = .ok severity := by
  cases severity <;> rfl

theorem Event.decode_encode (event : Event) : decode event.encode = .ok event := by
  refine decode_record "Event" ?_
  simp [event.kind.decode_name, event.severity.decode_name]

theorem EventBatch.decode_encode (batch : EventBatch) : decode batch.encode = .ok batch := by
  refine decode_record "EventBatch" ?_
  simp [Decode.list_map fun event _ => Event.decode_encode event]

theorem StoredEvent.decode_encode (event : StoredEvent) : decode event.encode = .ok event := by
  refine decode_record "StoredEvent" ?_
  simp

theorem EventQueryResult.decode_encode (result : EventQueryResult) : decode result.encode = .ok result := by
  refine decode_record "EventQueryResult" ?_
  simp [Decode.list_map fun event _ => StoredEvent.decode_encode event]

theorem SessionSummary.decode_encode {session : SessionSummary} (cost : session.totalCostUsd.isFinite = true) :
    decode session.encode = .ok session := by
  refine decode_record "Session" ?_
  simp [Decode.float_ofFloat cost]

theorem SessionQueryResult.decode_encode {result : SessionQueryResult}
    (costs : ∀ session ∈ result.sessions, session.totalCostUsd.isFinite = true) :
    decode result.encode = .ok result := by
  have sessions : Decode.list SessionSummary.decode (.array (result.sessions.map SessionSummary.encode)) =
      .ok result.sessions :=
    Decode.list_map fun session among => SessionSummary.decode_encode (costs session among)
  refine decode_record "SessionQueryResult" ?_
  simp [sessions]

theorem Timeline.decode_encode (timeline : Timeline) : decode timeline.encode = .ok timeline := by
  refine decode_record "TimelineResult" ?_
  simp [Decode.list_map fun event _ => StoredEvent.decode_encode event]

theorem Health.decode_encode (health : Health) : decode health.encode = .ok health := by
  refine decode_record "HealthResult" ?_
  simp

theorem LoggedCall.decode_encode (logged : LoggedCall) : decode logged.encode = .ok logged := by
  refine decode_record "LogLlmCallResult" ?_
  simp

theorem Settings.decode_encode (settings : Settings) : decode settings.encode = .ok settings := by
  have integrations : Decode.optional (.list .string)
      (.ofOption (fun names => .array (names.map .string)) settings.integrations) = .ok settings.integrations :=
    Decode.optional_ofOption (fun names _ => Decode.list_string names) (by simp)
  refine decode_record "AgentLensConfig" ?_
  simp [integrations]

end Encoded

/-! ## What was read -/

section Read

theorem CallRecord.decode_ensures : CallRecord.decode.Ensures fun record =>
    record.costUsd.isFinite = true ∧ record.latencyMs.isFinite = true ∧ record.parameters ≠ some .null := by
  refine Shape.decode_ensures "CapturedCallRecord" ?_
  refine ensures_field (Field.ensures_defaulted Decode.optional_any_ensures (by simp)) ?_
  refine ensures_field (Field.ensures_required Decode.float_ensures) ?_
  refine ensures_field (Field.ensures_required Decode.float_ensures) ?_
  iterate 8 refine ensures_field_any ?_
  exact ensures_build fun _ _ _ _ _ _ _ _ _ cost _ latency _ parameters => ⟨cost, latency, parameters⟩

theorem SessionSummary.decode_ensures :
    SessionSummary.decode.Ensures fun session => session.totalCostUsd.isFinite = true := by
  refine Shape.decode_ensures "Session" ?_
  iterate 4 refine ensures_field_any ?_
  refine ensures_field (Field.ensures_defaulted Decode.float_ensures Decimal.zero_isFinite) ?_
  iterate 9 refine ensures_field_any ?_
  exact ensures_build fun _ _ _ _ _ _ _ _ _ _ cost _ _ _ _ => cost

theorem SessionQueryResult.decode_ensures : SessionQueryResult.decode.Ensures fun result =>
    ∀ session ∈ result.sessions, session.totalCostUsd.isFinite = true := by
  refine Shape.decode_ensures "SessionQueryResult" ?_
  iterate 2 refine ensures_field_any ?_
  refine ensures_field (Field.ensures_required (Decode.list_ensures SessionSummary.decode_ensures)) ?_
  exact ensures_build fun _ costs _ _ => costs

end Read

/-! ## Round trips -/

/-- Whatever is read from a JSON value is written so that it is read back as it was. -/
def RoundTrips {α : Type} (decode : Decode α) (encode : α → Json) : Prop :=
  ∀ found value, found.isFinite = true → decode found = .ok value → decode (encode value) = .ok value

theorem CallRecord.roundTrips : RoundTrips CallRecord.decode CallRecord.encode := by
  intro found record finite read
  obtain ⟨cost, latency, parameters⟩ := CallRecord.decode_ensures found record finite read
  exact CallRecord.decode_encode cost latency parameters

theorem Provider.decode_encode_extraction {provider : Provider} {response args : Json} {latencyMs : Float}
    {extraction : Extraction} (known : provider ∈ [Provider.openai, Provider.anthropic])
    (latency : latencyMs.isFinite = true) (read : provider.extract response args latencyMs = .ok extraction) :
    CallRecord.decode extraction.record.encode = .ok extraction.record := by
  have measured : Measured latencyMs extraction.record := by
    rcases List.mem_pair.mp known with rfl | rfl
    · exact OpenAI.measured_of_extract read
    · exact Anthropic.measured_of_extract read
  exact CallRecord.decode_encode measured.1 (measured.2.1.symm ▸ latency) measured.2.2

/-- What any model is read from, it is written so that it is read back as it was: an object with fields left out or
with others among them, an array of the fields, an integer in place of a double. So is every record that is
extracted from a call which took some number of milliseconds. -/
theorem models_round_trip :
    (RoundTrips CallRecord.decode CallRecord.encode ∧ RoundTrips Message.decode Message.encode ∧
      RoundTrips ToolCall.decode ToolCall.encode ∧ RoundTrips TokenUsage.decode TokenUsage.encode ∧
      RoundTrips Event.decode Event.encode ∧ RoundTrips EventBatch.decode EventBatch.encode ∧
      RoundTrips StoredEvent.decode StoredEvent.encode ∧
      RoundTrips EventQueryResult.decode EventQueryResult.encode ∧
      RoundTrips SessionSummary.decode SessionSummary.encode ∧
      RoundTrips SessionQueryResult.decode SessionQueryResult.encode ∧
      RoundTrips Timeline.decode Timeline.encode ∧ RoundTrips Health.decode Health.encode ∧
      RoundTrips LoggedCall.decode LoggedCall.encode ∧ RoundTrips Settings.decode Settings.encode) ∧
    ∀ provider ∈ [Provider.openai, Provider.anthropic], ∀ response args latencyMs extraction,
      latencyMs.isFinite = true → provider.extract response args latencyMs = .ok extraction →
        CallRecord.decode extraction.record.encode = .ok extraction.record := by
  refine ⟨⟨CallRecord.roundTrips, fun _ message _ _ => message.decode_encode,
    fun _ call _ _ => call.decode_encode, fun _ usage _ _ => usage.decode_encode,
    fun _ event _ _ => event.decode_encode, fun _ batch _ _ => batch.decode_encode,
    fun _ event _ _ => event.decode_encode, fun _ result _ _ => result.decode_encode, ?_, ?_,
    fun _ timeline _ _ => timeline.decode_encode, fun _ health _ _ => health.decode_encode,
    fun _ logged _ _ => logged.decode_encode, fun _ settings _ _ => settings.decode_encode⟩, ?_⟩
  · intro found session finite read
    exact SessionSummary.decode_encode (SessionSummary.decode_ensures found session finite read)
  · intro found result finite read
    exact SessionQueryResult.decode_encode (SessionQueryResult.decode_ensures found result finite read)
  · intro provider known response args latencyMs extraction latency read
    exact Provider.decode_encode_extraction known latency read

/-- The fields of a record in order, with a negative integer for its cost and without the last one. -/
def listedRecord : Json :=
  .array [.string "openai", .string "gpt-4o", .array [.array [.string "user", .null]], .null, .null, .array [],
    .string "stop", .array [.ofUInt64 1, .ofUInt64 2, .ofUInt64 3], .number (.negative (-1)), .ofUInt64 20]

theorem models_round_trip_array :
    ∃ (record : CallRecord) (extraction : Extraction),
      CallRecord.decode listedRecord = .ok record ∧ record.costUsd = -1.0 ∧
        CallRecord.decode record.encode = .ok record ∧
        Provider.anthropic.extract (.object [("content", .array [])])
          (.object [("top_k", .ofUInt64 5), ("top_p", .null)]) 0.5 = .ok extraction ∧
        CallRecord.decode extraction.record.encode = .ok extraction.record := by
  let response : Json := .object [("content", .array [])]
  let args : Json := .object [("top_k", .ofUInt64 5), ("top_p", .null)]
  have extracted : Provider.anthropic.extract response args 0.5 =
      .ok (Provider.priced (Provider.Anthropic.record response args [] 0.5)) := rfl
  have half : (0.5 : Float).isFinite = true := by decide +kernel
  have read : CallRecord.decode listedRecord = .ok
      ⟨"openai", "gpt-4o", [⟨"user", .null⟩], none, none, some [], "stop", ⟨1, 2, 3, none⟩,
        Decode.nearestDouble (-1), UInt64.toFloat 20, none⟩ := rfl
  exact ⟨_, _, read, by decide +kernel, models_round_trip.1.1 listedRecord _ (by decide) read, extracted,
    models_round_trip.2 _ (by simp) response args 0.5 _ half extracted⟩

end LlmTelemetry
