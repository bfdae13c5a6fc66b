import LlmTelemetry.Proofs.Redaction.Coverage
import LlmTelemetry.Proofs.Pattern.Literal
/-!
# Redaction as a change of the events

Without blackout, to redact a record and then to build its events is to build the events and then to change the
strings in them, in the contents of the messages, the system prompt, the completion, the parameters and the tool
calls. Everything else of the events is built from the record alone.
-/

namespace LlmTelemetry

theorem map_optionalField {α : Type} (key other : String) (encode : α → Json) (change : Json → Json)
    (value : Option α) :
    (optionalField key encode value).map
        (fun field => (field.1, if field.1 = other then change field.2 else field.2)) =
      optionalField key (fun content => if key = other then change (encode content) else encode content)
        value := by
  cases value <;> rfl

theorem map_redactedField (redacted : Bool) {other : String} (apart : "redacted" ≠ other)
    (change : Json → Json) :
    (redactedField redacted).map
        (fun field => (field.1, if field.1 = other then change field.2 else field.2)) =
      redactedField redacted := by
  cases redacted <;> simp [redactedField, apart]

/-! ## The covered places -/

namespace Json

variable (change : String → String)

/-- Change the strings in the contents of the messages, the system prompt and the parameters. -/
def mapCallTexts (payload : Json) : Json :=
  ((payload.mapField "messages" (mapEach (mapField "content" (mapStrings change)))).mapField
    "systemPrompt" (mapStrings change)).mapField "parameters" (mapStrings change)

/-- Change the strings in the completion and the tool calls. -/
def mapResponseTexts (payload : Json) : Json :=
  (payload.mapField "completion" (mapStrings change)).mapField "toolCalls" (mapStrings change)

end Json

/-- Change the strings at the places of an event that redaction covers. -/
def Event.mapTexts (change : String → String) (event : Event) : Event :=
  { event with
    payload := match event.kind with
      | .llmCall => event.payload.mapCallTexts change
      | .llmResponse => event.payload.mapResponseTexts change }

section Encoded

variable (change : String → String)

theorem Message.encode_mapStrings (message : Message) :
    encode ⟨message.role, message.content.mapStrings change⟩ =
      message.encode.mapField "content" (Json.mapStrings change) := by
  simp [encode, Json.mapField_record]

theorem CallPayload.encode_mapTexts (payload : CallPayload) :
    encode { payload with
        messages := payload.messages.map fun message => ⟨message.role, message.content.mapStrings change⟩
        systemPrompt := payload.systemPrompt.map change
        parameters := payload.parameters.map (Json.mapStrings change) } =
      payload.encode.mapCallTexts change := by
  have messages : (payload.messages.map fun message =>
      (⟨message.role, message.content.mapStrings change⟩ : Message)).map Message.encode =
        (payload.messages.map Message.encode).map (Json.mapField "content" (Json.mapStrings change)) := by
    rw [List.map_map, List.map_map]
    exact List.map_congr_left fun message _ => message.encode_mapStrings change
  have systemPrompt : optionalField "systemPrompt" Json.string (payload.systemPrompt.map change) =
      optionalField "systemPrompt" (fun text => (Json.string text).mapStrings change) payload.systemPrompt := by
    cases payload.systemPrompt <;> rfl
  have parameters : optionalField "parameters" id (payload.parameters.map (Json.mapStrings change)) =
      optionalField "parameters" (Json.mapStrings change) payload.parameters := by
    cases payload.parameters <;> rfl
  rw [encode, encode, messages, systemPrompt, parameters]
  simp (disch := decide) only [Json.mapCallTexts, Json.mapField_record, List.map_append, List.map_cons,
    List.map_nil, map_optionalField, map_redactedField]
  simp [Json.mapEach, Json.mapStrings]

theorem ResponsePayload.encode_mapTexts (payload : ResponsePayload) :
    encode { payload with
        completion := payload.completion.map change
        toolCalls := payload.toolCalls.map (Json.mapStrings change) } =
      payload.encode.mapResponseTexts change := by
  have completion : Json.ofOption .string (payload.completion.map change) =
      (Json.ofOption .string payload.completion).mapStrings change := by
    cases payload.completion <;> rfl
  have toolCalls : optionalField "toolCalls" id (payload.toolCalls.map (Json.mapStrings change)) =
      optionalField "toolCalls" (Json.mapStrings change) payload.toolCalls := by
    cases payload.toolCalls <;> rfl
  rw [encode, encode, completion, toolCalls]
  simp (disch := decide) only [Json.mapResponseTexts, Json.mapField_record, List.map_append, List.map_cons,
    List.map_nil, map_optionalField, map_redactedField]
  simp

end Encoded

/-! ## The events -/

namespace Redaction

/-- A filter that never aborts, or none, makes scrubbing a function. -/
theorem exists_scrubsBy {redaction : Redaction}
    (calm : ∀ filter ∈ redaction.filter, ∀ text, ∃ result, filter text = .ok result) :
    ∃ change, redaction.ScrubsBy change := by
  unfold ScrubsBy scrubText
  cases given : redaction.filter with
  | none => exact ⟨redaction.maskText, fun _ => rfl⟩
  | some filter =>
    choose change filtered using calm filter given
    exact ⟨fun text => change (redaction.maskText text), fun text => filtered _⟩

theorem scrubsBy_nothing : ScrubsBy {} id := fun _ => rfl

end Redaction

namespace CallRecord

variable {redaction : Redaction} {change : String → String} (record : CallRecord) (labels : EventLabels)

theorem events_eq_mapTexts (scrubs : redaction.ScrubsBy change) (shown : redaction.blackout = false) :
    ∃ plain, record.events {} labels = .ok plain ∧
      record.events redaction labels = .ok ⟨plain.events.map (Event.mapTexts change)⟩ := by
  have plainCall := callPayload_eq Redaction.scrubsBy_nothing rfl record labels.stamp.callId
  have plainResponse := responsePayload_eq Redaction.scrubsBy_nothing rfl record labels.stamp.callId
  have same : Json.mapStrings id = id := funext (Json.mapStrings_of_same fun _ => rfl)
  simp only [same, Option.map_id, id_eq, List.map_id'] at plainCall plainResponse
  have call := callPayload_eq scrubs shown record labels.stamp.callId
  have response := responsePayload_eq scrubs shown record labels.stamp.callId
  refine ⟨_, events_eq_ok plainCall plainResponse, ?_⟩
  rw [events_eq_ok call response]
  simp only [List.map_cons, List.map_nil, Event.mapTexts, EventLabels.event, ← CallPayload.encode_mapTexts,
    ← ResponsePayload.encode_mapTexts]

/-- Without blackout, and with a filter that never aborts, the events are the ones that are built without
redaction, with every string scrubbed in the contents of the messages, the system prompt, the completion, the
parameters and the tool calls, and with nothing else changed. -/
theorem redaction_commutes (shown : redaction.blackout = false)
    (calm : ∀ filter ∈ redaction.filter, ∀ text, ∃ result, filter text = .ok result) :
    ∃ change, redaction.ScrubsBy change ∧ ∃ plain, record.events {} labels = .ok plain ∧
      record.events redaction labels = .ok ⟨plain.events.map (Event.mapTexts change)⟩ := by
  obtain ⟨change, scrubs⟩ := Redaction.exists_scrubsBy calm
  exact ⟨change, scrubs, record.events_eq_mapTexts labels scrubs shown⟩

/-- A pattern, then a filter, over nested parts of a message and the arguments of a tool. -/
theorem redaction_commutes_with_filter :
    ∃ (record : CallRecord) (redaction : Redaction) (labels : EventLabels) (change : String → String)
      (plain : EventBatch),
      redaction.patterns = [Pattern.literal "pa$$"] ∧ redaction.ScrubsBy change ∧
        change "my pa$$" = "my [REDACTED]!" ∧ record.events {} labels = .ok plain ∧
        record.events redaction labels = .ok ⟨plain.events.map (Event.mapTexts change)⟩ := by
  let record : CallRecord := { CallRecord.blank "openai" "gpt-4o" with
    messages := [⟨"user", .array [.object [("text", .string "my pa$$"), ("type", .string "text")], .null]⟩]
    toolCalls := some [⟨"1", "login", .array [.string "pa$$"]⟩] }
  let redaction : Redaction :=
    { patterns := [Pattern.literal "pa$$"], filter := some fun text => .ok (text ++ "!") }
  have calm : ∀ filter ∈ redaction.filter, ∀ text, ∃ result, filter text = .ok result := by
    rintro filter ⟨⟩ text
    exact ⟨text ++ "!", rfl⟩
  obtain ⟨change, scrubs, plain, built, sent⟩ :=
    record.redaction_commutes ⟨"s", "a", ⟨"c", "t"⟩, .explicit⟩ rfl calm
  have scrubbed : redaction.scrubText "my pa$$" = .ok "my [REDACTED]!" := by decide +kernel
  exact ⟨record, redaction, _, change, plain, rfl, scrubs,
    Except.ok.inj ((scrubs "my pa$$").symm.trans scrubbed), built, sent⟩

end CallRecord

end LlmTelemetry
