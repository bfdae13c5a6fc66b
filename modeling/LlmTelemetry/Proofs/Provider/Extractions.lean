import LlmTelemetry.Instrument.Handler
import LlmTelemetry.Proofs.Provider.Amounts
import Mathlib.Data.List.Forall2
/-!
# What an extraction keeps

A provider reads the messages among the arguments of a call, each in its place and with all of its texts, and the
completion and the tool calls of the response. A response without the part that it needs is refused. There are no
other ends: no response and no arguments make it abort, or leave out one of the messages or of the tool calls.

What there is to be read is told by the keys under which it stands (`Json.at?`), not by the functions that read it.
-/

namespace LlmTelemetry

/-! ## What stands under keys -/

namespace Json

/-- What stands under the keys, each of them inside what stands under the one before. -/
def at? : (keys : List String) → Json → Option Json
  | [], value => some value
  | key :: keys, value => (value.field? key).bind (at? keys)

def textAt? (keys : List String) (value : Json) : Option String :=
  match value.at? keys with
  | some (.string text) => some text
  | _ => none

/-- The items of the array under the keys; none of them when there is no array. -/
def itemsAt (keys : List String) (value : Json) : List Json :=
  match value.at? keys with
  | some (.array items) => items
  | _ => []

theorem at?_singleton (key : String) (value : Json) : value.at? [key] = value.field? key := by
  rw [at?]
  cases value.field? key <;> rfl

theorem at?_pair (first second : String) (value : Json) :
    value.at? [first, second] = (value.field? first).bind (field? second) := by
  rw [at?]
  exact congrArg _ (funext fun inner => at?_singleton second inner)

/-- A missing value has nothing inside, as `null` has. -/
theorem at?_getD_null (first second : String) (keys : List String) (value : Json) :
    ((value.field? first).getD .null).at? (second :: keys) = value.at? (first :: second :: keys) := by
  rw [at?, at?]
  cases value.field? first <;> rfl

theorem textAt?_eq (keys : List String) (value : Json) : value.textAt? keys = (value.at? keys).bind asString? := by
  rw [textAt?]
  match value.at? keys with
  | some (.string _) | some .null | some (.bool _) | some (.number _) | some (.array _) | some (.object _) | none =>
    rfl

theorem itemsAt_eq (keys : List String) (value : Json) :
    value.itemsAt keys = ((value.at? keys).bind asArray?).getD [] := by
  rw [itemsAt]
  match value.at? keys with
  | some (.string _) | some .null | some (.bool _) | some (.number _) | some (.array _) | some (.object _) | none =>
    rfl

theorem stringField?_eq (key : String) (value : Json) : value.stringField? key = value.textAt? [key] := by
  rw [stringField?, textAt?_eq, at?_singleton]

end Json

/-! ## Texts in their order -/

/-- The pieces stand in the text one after another, each of them whole. -/
inductive InOrder : (pieces : List String) → (text : List Char) → Prop
  | nil (text : List Char) : InOrder [] text
  | cons (before : List Char) (piece : String) {pieces : List String} {rest : List Char}
      (later : InOrder pieces rest) : InOrder (piece :: pieces) (before ++ piece.toList ++ rest)

namespace InOrder

theorem behind {pieces : List String} {text : List Char} (stands : InOrder pieces text) (before : List Char) :
    InOrder pieces (before ++ text) := by
  cases stands with
  | nil => exact .nil _
  | cons gap piece later =>
    rw [← List.append_assoc, ← List.append_assoc]
    exact .cons (before ++ gap) piece later

theorem single (text : String) : InOrder [text] text.toList := by
  simpa using InOrder.cons [] text (.nil [])

/-- The texts of several items, joined, have what was found in each item in the order of the items. -/
theorem intercalate {α : Type} {piece? : α → Option String} {textOf : α → String}
    (whole : ∀ item piece, piece? item = some piece → textOf item = piece) (separator : String) (items : List α) :
    InOrder (items.filterMap piece?) (String.intercalate separator (items.map textOf)).toList := by
  rw [String.toList_intercalate]
  induction items with
  | nil => exact .nil _
  | cons item items ih =>
    -- What follows the text of an item is nothing or the separator and the other texts; neither matters to the item.
    have front (rest : List Char) (stands : InOrder (items.filterMap piece?) rest) :
        InOrder ((item :: items).filterMap piece?) ((textOf item).toList ++ rest) := by
      cases found : piece? item with
      | none =>
        rw [List.filterMap_cons_none found]
        exact stands.behind _
      | some piece =>
        rw [List.filterMap_cons_some found, whole item piece found]
        exact .cons [] piece stands
    cases items with
    | nil => simpa using front [] (.nil [])
    | cons next items =>
      simp only [List.map_cons, List.intercalate_cons_cons] at ih ⊢
      rw [List.append_assoc]
      exact front _ (ih.behind separator.toList)

end InOrder

namespace Provider

/-! ## Messages -/

/-- The messages among the arguments, as they are given. -/
def givenMessages (args : Json) : List Json :=
  args.itemsAt ["messages"]

/-- The texts in a content: a string, or what is found in the parts of a list. -/
def textsIn (partText? : Json → Option String) : Option Json → List String
  | some (.string text) => [text]
  | some (.array parts) => parts.filterMap partText?
  | _ => []

/-- A message has the role of the element that it was read from, or is one of the user, and its content has the
texts of the element whole and in their order. -/
structure Transcribes (partText? : Json → Option String) (element : Json) (message : Message) : Prop where
  role : message.role = (element.textAt? ["role"]).getD "user"
  texts : ∃ text, message.content = .string text ∧
    InOrder (textsIn partText? (element.at? ["content"])) text.toList
  whole : ∀ text, element.textAt? ["content"] = some text → message.content = .string text

theorem messages_eq (contentText : Option Json → String) (args : Json) :
    messages contentText args = (givenMessages args).map fun element =>
      .ofText ((element.textAt? ["role"]).getD "user") (contentText (element.at? ["content"])) := by
  simp only [messages, givenMessages, Json.itemsAt_eq, Json.at?_singleton, Json.stringField?_eq]

theorem exists_content_of_mem_messages {contentText : Option Json → String} {args : Json} {message : Message}
    (among : message ∈ messages contentText args) : ∃ text, message.content = .string text := by
  rw [messages_eq] at among
  obtain ⟨element, -, rfl⟩ := List.mem_map.mp among
  exact ⟨_, rfl⟩

theorem transcribes_messages {partText? : Json → Option String} {contentText : Option Json → String}
    (string : ∀ text, contentText (some (.string text)) = text)
    (parts : ∀ items, InOrder (items.filterMap partText?) (contentText (some (.array items))).toList) (args : Json) :
    List.Forall₂ (Transcribes partText?) (givenMessages args) (messages contentText args) := by
  rw [messages_eq, List.forall₂_map_right_iff, List.forall₂_same]
  intro element _
  refine ⟨rfl, ⟨_, rfl, ?_⟩, fun text found => ?_⟩
  · match element.at? ["content"] with
    | some (.string text) =>
      rw [string]
      exact .single text
    | some (.array items) => exact parts items
    | some .null | some (.bool _) | some (.number _) | some (.object _) | none => exact .nil _
  · rw [Json.textAt?_eq] at found
    obtain ⟨content, here, is_string⟩ := Option.bind_eq_some_iff.mp found
    cases content with
    | string other =>
      cases is_string
      rw [here, string]
      rfl
    | null | bool _ | number _ | array _ | object _ => cases is_string

/-! ## Tool calls -/

/-- A tool call with the identifier, the name and the arguments that the value has under these keys. -/
structure Reads (nameKeys argumentKeys : List String) (given : Json) (call : ToolCall) : Prop where
  id : call.id = (given.textAt? ["id"]).getD ""
  name : call.name = (given.textAt? nameKeys).getD ""
  arguments : call.arguments = (given.at? argumentKeys).getD .null

/-- Tool calls that were read: one for each that is given, in their order, or nothing when there are none. -/
def Lists (reads : Json → ToolCall → Prop) (given : List Json) (kept : Option (List ToolCall)) : Prop :=
  kept ≠ some [] ∧ List.Forall₂ reads given (kept.getD [])

theorem lists_map {reads : Json → ToolCall → Prop} {toolCall : Json → ToolCall}
    (each : ∀ given, reads given (toolCall given)) (given : List Json) :
    Lists reads given (if given = [] then none else some (given.map toolCall)) := by
  split
  · rename_i empty
    rw [empty]
    exact ⟨nofun, .nil⟩
  · rename_i some_given
    refine ⟨by simpa using some_given, ?_⟩
    rw [Option.getD_some, List.forall₂_map_right_iff, List.forall₂_same]
    exact fun given _ => each given

/-! ## Chat completions -/

namespace OpenAI

/-- The first choice of a chat completion. -/
def givenChoice? (response : Json) : Option Json :=
  (response.itemsAt ["choices"]).head?

/-- The tool calls in the first choice, as they are given. -/
def givenCalls (response : Json) : List Json :=
  match givenChoice? response with
  | some choice => choice.itemsAt ["message", "tool_calls"]
  | none => []

/-- What a record keeps of the arguments of a call and of the chat completion. -/
structure Keeps (response args : Json) (record : CallRecord) : Prop where
  messages : List.Forall₂ (Transcribes (Json.textAt? ["text"])) (givenMessages args) record.messages
  /-- The system prompt is the content of the last message of the system. -/
  systemPrompt_eq_some : ∀ text, record.systemPrompt = some text ↔
    ∃ before message after, record.messages = before ++ message :: after ∧ message.role = "system" ∧
      message.content = .string text ∧ ∀ later ∈ after, later.role ≠ "system"
  systemPrompt_eq_none : record.systemPrompt = none ↔ ∀ message ∈ record.messages, message.role ≠ "system"
  completion : record.completion = (givenChoice? response).bind (Json.textAt? ["message", "content"])
  finishReason : record.finishReason = ((givenChoice? response).bind (Json.textAt? ["finish_reason"])).getD "unknown"
  toolCalls : Lists (Reads ["function", "name"] ["function", "arguments"]) (givenCalls response) record.toolCalls

theorem inOrder_contentText (items : List Json) :
    InOrder (items.filterMap (Json.textAt? ["text"])) (contentText (some (.array items))).toList := by
  refine InOrder.intercalate (fun item piece found => ?_) " " items
  rw [textOrEmpty, Json.stringField?_eq, found, Option.getD_some]

theorem find?_reverse_system {messages : List Message} {message : Message} :
    messages.reverse.find? (fun message => message.role = "system") = some message ↔
      ∃ before after, messages = before ++ message :: after ∧ message.role = "system" ∧
        ∀ later ∈ after, later.role ≠ "system" := by
  simp only [List.find?_eq_some_iff_append, decide_eq_true_eq, List.reverse_eq_append_iff, List.reverse_cons,
    Bool.not_eq_true', decide_eq_false_iff_not]
  constructor
  · rintro ⟨is_system, after, before, rfl, others⟩
    exact ⟨before.reverse, after.reverse, by simp, is_system, fun later among =>
      others later (List.mem_reverse.mp among)⟩
  · rintro ⟨before, after, rfl, is_system, others⟩
    exact ⟨is_system, after.reverse, before.reverse, by simp, fun later among =>
      others later (List.mem_reverse.mp among)⟩

theorem systemPrompt_eq_some {messages : List Message} {text : String} :
    systemPrompt messages = some text ↔
      ∃ before message after, messages = before ++ message :: after ∧ message.role = "system" ∧
        message.content = .string text ∧ ∀ later ∈ after, later.role ≠ "system" := by
  have content_eq (message : Message) : message.content.asString? = some text ↔ message.content = .string text := by
    cases message.content <;> simp [Json.asString?]
  simp only [systemPrompt, Option.bind_eq_some_iff, find?_reverse_system, content_eq]
  constructor
  · rintro ⟨message, ⟨before, after, split, is_system, others⟩, content⟩
    exact ⟨before, message, after, split, is_system, content, others⟩
  · rintro ⟨before, message, after, split, is_system, content, others⟩
    exact ⟨message, ⟨before, after, split, is_system, others⟩, content⟩

theorem systemPrompt_eq_none {messages : List Message}
    (texts : ∀ message ∈ messages, ∃ text, message.content = .string text) :
    systemPrompt messages = none ↔ ∀ message ∈ messages, message.role ≠ "system" := by
  have found_none : systemPrompt messages = none ↔
      messages.reverse.find? (fun message => message.role = "system") = none := by
    rw [systemPrompt, Option.bind_eq_none_iff]
    constructor
    · intro no_text
      -- Every message that was read has a text, so the prompt can not be missing once a message is found.
      by_contra some_message
      obtain ⟨message, found⟩ := Option.ne_none_iff_exists'.mp some_message
      obtain ⟨text, content⟩ := texts message (List.mem_reverse.mp (List.mem_of_find?_eq_some found))
      have absent := no_text message found
      rw [content] at absent
      cases absent
    · intro no_message message found
      rw [no_message] at found
      cases found
  rw [found_none, List.find?_eq_none]
  simp

theorem firstChoice?_eq (response : Json) : firstChoice? response = givenChoice? response := by
  rw [firstChoice?, givenChoice?, Json.itemsAt_eq, Json.at?_singleton]
  cases (response.field? "choices").bind Json.asArray? <;> rfl

theorem reads_toolCall (given : Json) :
    Reads ["function", "name"] ["function", "arguments"] given (toolCall given) where
  id := congrArg (Option.getD · "") (Json.stringField?_eq "id" given)
  name := by
    rw [toolCall, Json.textAt?_eq, Json.at?_pair, Option.bind_assoc]
    rfl
  arguments := by rw [toolCall, Json.at?_pair]

theorem toolCalls_eq (message : Json) :
    toolCalls message = if message.itemsAt ["tool_calls"] = [] then none
      else some ((message.itemsAt ["tool_calls"]).map toolCall) := by
  rw [toolCalls, Json.itemsAt_eq, Json.at?_singleton]
  match (message.field? "tool_calls").bind Json.asArray? with
  | none | some [] | some (_ :: _) => rfl

theorem completion_record (response args : Json) (latencyMs : Float) :
    (record response args latencyMs).completion =
      (givenChoice? response).bind (Json.textAt? ["message", "content"]) := by
  have kept : (record response args latencyMs).completion = (givenChoice? response).bind fun choice =>
      ((choice.field? "message").getD .null).stringField? "content" := by
    rw [record_eq, firstChoice?_eq]
  rw [kept]
  refine congrArg _ (funext fun choice => ?_)
  rw [Json.stringField?_eq, Json.textAt?_eq, Json.at?_getD_null, ← Json.textAt?_eq]

theorem lists_record (response args : Json) (latencyMs : Float) :
    Lists (Reads ["function", "name"] ["function", "arguments"]) (givenCalls response)
      (record response args latencyMs).toolCalls := by
  have kept : (record response args latencyMs).toolCalls =
      (givenChoice? response).bind fun choice => toolCalls ((choice.field? "message").getD .null) := by
    rw [record_eq, firstChoice?_eq]
  rw [kept, givenCalls]
  cases givenChoice? response with
  | none => exact ⟨nofun, .nil⟩
  | some choice =>
    have inside : ((choice.field? "message").getD .null).itemsAt ["tool_calls"] =
        choice.itemsAt ["message", "tool_calls"] := by
      rw [Json.itemsAt_eq, Json.at?_getD_null, ← Json.itemsAt_eq]
    rw [Option.bind_some, toolCalls_eq, inside]
    exact lists_map reads_toolCall _

theorem keeps_priced_record (response args : Json) (latencyMs : Float) :
    Keeps response args (priced (record response args latencyMs)).record := by
  have transcribed : List.Forall₂ (Transcribes (Json.textAt? ["text"])) (givenMessages args)
      (messages contentText args) :=
    transcribes_messages (fun _ => rfl) inOrder_contentText args
  rw [record_priced]
  refine ⟨?_, fun text => ?_, ?_, ?_, ?_, lists_record response args latencyMs⟩
  · rw [record_eq]
    exact transcribed
  · rw [record_eq]
    exact systemPrompt_eq_some
  · rw [record_eq]
    exact systemPrompt_eq_none fun message among => exists_content_of_mem_messages among
  · exact completion_record response args latencyMs
  · rw [record_eq, firstChoice?_eq]
    simp only [Json.stringField?_eq]

end OpenAI

/-! ## Messages with blocks -/

namespace Anthropic

/-- The text of a text part. -/
def partText? (part : Json) : Option String :=
  if part.textAt? ["type"] = some "text" then part.textAt? ["text"] else none

/-- The blocks of one type, as they are given. -/
def givenBlocks (type : String) (blocks : List Json) : List Json :=
  blocks.filter fun block => block.textAt? ["type"] = some type

/-- What a record keeps of the arguments of a call and of the blocks of the response. -/
structure Keeps (blocks : List Json) (args : Json) (record : CallRecord) : Prop where
  messages : List.Forall₂ (Transcribes partText?) (givenMessages args) record.messages
  completion_eq_none : record.completion = none ↔ ∀ block ∈ blocks, block.textAt? ["type"] ≠ some "text"
  completion_eq_some : ∀ text, record.completion = some text →
    text = String.intercalate "\n" ((givenBlocks "text" blocks).map fun block => (block.textAt? ["text"]).getD "")
  toolCalls : Lists (Reads ["name"] ["input"]) (givenBlocks "tool_use" blocks) record.toolCalls
  totalTokens : record.usage.totalTokens.toNat =
    min (record.usage.inputTokens.toNat + record.usage.outputTokens.toNat) (UInt64.size - 1)

theorem inOrder_contentText (items : List Json) :
    InOrder (items.filterMap partText?) (contentText (some (.array items))).toList := by
  refine InOrder.intercalate (fun item piece found => ?_) " " items
  rw [partText?] at found
  rw [partText, textOrEmpty, Json.stringField?_eq, Json.stringField?_eq]
  split at found
  · rename_i is_text
    rw [if_pos is_text, found, Option.getD_some]
  · cases found

theorem ofType_eq (type : String) (blocks : List Json) : ofType type blocks = givenBlocks type blocks := by
  simp only [ofType, givenBlocks, Json.stringField?_eq]

theorem completion_eq_none (blocks : List Json) :
    completion blocks = none ↔ ∀ block ∈ blocks, block.textAt? ["type"] ≠ some "text" := by
  have no_text : givenBlocks "text" blocks = [] ↔ ∀ block ∈ blocks, block.textAt? ["type"] ≠ some "text" := by
    simp [givenBlocks, List.filter_eq_nil_iff]
  rw [← no_text, completion, ofType_eq]
  split
  · rename_i empty
    exact iff_of_true rfl empty
  · rename_i some_text
    exact iff_of_false nofun some_text

theorem completion_eq_some {blocks : List Json} {text : String} (known : completion blocks = some text) :
    text = String.intercalate "\n"
      ((givenBlocks "text" blocks).map fun block => (block.textAt? ["text"]).getD "") := by
  rw [completion, ofType_eq] at known
  split at known
  · cases known
  · simp only [textOrEmpty, Json.stringField?_eq] at known
    exact (Option.some.inj known).symm

theorem reads_toolCall (given : Json) : Reads ["name"] ["input"] given (toolCall given) where
  id := congrArg (Option.getD · "") (Json.stringField?_eq "id" given)
  name := congrArg (Option.getD · "") (Json.stringField?_eq "name" given)
  arguments := by rw [toolCall, Json.at?_singleton]

theorem lists_toolCalls (blocks : List Json) :
    Lists (Reads ["name"] ["input"]) (givenBlocks "tool_use" blocks) (toolCalls blocks) := by
  have kept : toolCalls blocks = if givenBlocks "tool_use" blocks = [] then none
      else some ((givenBlocks "tool_use" blocks).map toolCall) := by
    rw [toolCalls, ofType_eq]
    cases givenBlocks "tool_use" blocks <;> rfl
  rw [kept]
  exact lists_map reads_toolCall _

theorem toNat_saturatedSum (a b : UInt64) :
    (saturatedSum a b).toNat = min (a.toNat + b.toNat) (UInt64.size - 1) := by
  have small : min (a.toNat + b.toNat) (UInt64.size - 1) < UInt64.size := by
    have : 0 < UInt64.size := by decide
    omega
  rw [saturatedSum]
  exact UInt64.toNat_ofNat_of_lt' small

theorem totalTokens_usage (usage? : Option Json) :
    let counts := (usage?.map usage).getD .none
    counts.totalTokens.toNat = min (counts.inputTokens.toNat + counts.outputTokens.toNat) (UInt64.size - 1) := by
  cases usage? with
  | none => decide
  | some counts => exact toNat_saturatedSum _ _

theorem keeps_priced_record (response args : Json) (blocks : List Json) (latencyMs : Float) :
    Keeps blocks args (priced (record response args blocks latencyMs)).record := by
  rw [record_priced]
  exact {
    messages := transcribes_messages (fun _ => rfl) inOrder_contentText args
    completion_eq_none := completion_eq_none blocks
    completion_eq_some := fun _ => completion_eq_some
    toolCalls := lists_toolCalls blocks
    totalTokens := totalTokens_usage (response.field? "usage") }

end Anthropic

/-! ## Both providers -/

/-- A response that has the part that its provider needs is read, and the record keeps all of what was given. Every
other response is refused. -/
theorem extraction_keeps_all {σ : Type} (state : σ) (response args : Json) (latencyMs : Float) :
    (match response with
      | .object _ => ∃ extraction,
        Provider.openai.interceptor.extract response args latencyMs state = (.ok extraction, state) ∧
          OpenAI.Keeps response args extraction.record
      | _ => Provider.openai.interceptor.extract response args latencyMs state =
          (.error (.error Unreadable.notAnObject.text), state)) ∧
    (match response.field? "content" with
      | some (.array blocks) => ∃ extraction,
        Provider.anthropic.interceptor.extract response args latencyMs state = (.ok extraction, state) ∧
          Anthropic.Keeps blocks args extraction.record
      | _ => Provider.anthropic.interceptor.extract response args latencyMs state =
          (.error (.error Unreadable.missingBlocks.text), state)) := by
  constructor
  · split
    · exact ⟨_, rfl, OpenAI.keeps_priced_record _ args latencyMs⟩
    · rename_i no_object
      cases response with
      | object fields => exact absurd rfl (no_object fields)
      | null | bool _ | number _ | string _ | array _ => rfl
  · split
    · rename_i blocks found
      have read : Anthropic.extract response args latencyMs =
          .ok (priced (Anthropic.record response args blocks latencyMs)) := by
        rw [Anthropic.extract, found]
        rfl
      refine ⟨_, ?_, Anthropic.keeps_priced_record response args blocks latencyMs⟩
      simp only [interceptor, anthropic, read]
    · rename_i no_blocks
      have refused : Anthropic.extract response args latencyMs = .error .missingBlocks := by
        rw [Anthropic.extract]
        cases found : response.field? "content" with
        | none => rfl
        | some value =>
          cases value with
          | array blocks => exact absurd found (no_blocks blocks)
          | null | bool _ | number _ | string _ | object _ => rfl
      simp only [interceptor, anthropic, refused]

/-- Two messages are sent. The chat completion has two choices, of which the first has a text and two tool calls, and
the other answer has two text blocks around its tool call. -/
theorem extraction_keeps_two_answers :
    let args : Json := .object [("messages", .array
      [.object [("content", .string "Be brief."), ("role", .string "system")],
        .object [("content", .string "Where?")]])]
    let call (id : String) : Json := .object
      [("function", .object [("arguments", .string "q"), ("name", .string "look")]), ("id", .string id)]
    let chat : Json := .object [("choices", .array
      [.object [("finish_reason", .string "tool_calls"), ("message", .object
          [("content", .string "Let me see."), ("tool_calls", .array [call "1", call "2"])])],
        .object [("message", .object [("content", .string "No.")])]])]
    let blocks : List Json :=
      [.object [("text", .string "Let me"), ("type", .string "text")],
        .object [("id", .string "1"), ("input", .bool true), ("name", .string "look"), ("type", .string "tool_use")],
        .object [("text", .string "see."), ("type", .string "text")]]
    let answer : Json := .object [("content", .array blocks),
      ("usage", .object [("input_tokens", .ofUInt64 3), ("output_tokens", .ofUInt64 4)])]
    (∃ extraction, Provider.openai.interceptor.extract chat args 0.0 () = (.ok extraction, ()) ∧
      OpenAI.Keeps chat args extraction.record ∧
      extraction.record.messages = [.ofText "system" "Be brief.", .ofText "user" "Where?"] ∧
      extraction.record.systemPrompt = some "Be brief." ∧ extraction.record.completion = some "Let me see." ∧
      extraction.record.toolCalls = some [⟨"1", "look", .string "q"⟩, ⟨"2", "look", .string "q"⟩]) ∧
    ∃ extraction, Provider.anthropic.interceptor.extract answer args 0.0 () = (.ok extraction, ()) ∧
      Anthropic.Keeps blocks args extraction.record ∧
      extraction.record.completion = some "Let me\nsee." ∧
      extraction.record.toolCalls = some [⟨"1", "look", .bool true⟩] ∧ extraction.record.usage.totalTokens = 7 := by
  intro args call chat blocks answer
  obtain ⟨extraction, read, keeps⟩ := (extraction_keeps_all () chat args 0.0).1
  obtain ⟨extraction', read', keeps'⟩ := (extraction_keeps_all () answer args 0.0).2
  refine ⟨⟨extraction, read, keeps, ?_⟩, extraction', read', keeps', ?_⟩
  · cases read
    rw [record_priced]
    exact ⟨rfl, rfl, rfl, rfl⟩
  · cases read'
    rw [record_priced]
    exact ⟨rfl, rfl, rfl⟩

/-- A part without a text leaves a gap between the texts. -/
example : OpenAI.contentText (some (.array [.object [("text", .string "Capital of"), ("type", .string "text")],
    .object [("type", .string "image_url")], .object [("text", .string "France?")]])) = "Capital of  France?" := by
  rfl

end Provider

end LlmTelemetry
