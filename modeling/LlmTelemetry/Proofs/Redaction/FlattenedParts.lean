import LlmTelemetry.Proofs.Redaction.LiteralPattern
import LlmTelemetry.Proofs.Redaction.NumbersInText
import LlmTelemetry.Provider.Anthropic
/-!
# Numbers in the contents of messages

A message is read as one text before anything is redacted: the texts of its text parts as they are, and its other
parts as JSON text. With the pattern for social security numbers alone, a number that the pattern finds in the
contents is then sent in those messages where an escape stands at it in a part that was turned into JSON text, and
in no others. An escape such as the `\n` of a line break before the number makes it the end of a longer word, and it
is sent as it is, although the same characters are redacted in a text part.
-/

namespace LlmTelemetry

open Sensitive

namespace Sensitive

variable {number : List Char}

theorem takesSome_socialSecurity : socialSecurity.regex.TakesSome := by
  intro place matched
  exact absurd (exists_of_matchesAt matched).1 (by decide)

theorem IsNumber.not_infix_scrubbed (is_number : IsNumber number) {text : String}
    (isolated : Isolated number text.toList) :
    ¬ number <:+: (socialSecurity.regex.replaceAll redactedText text).toList := by
  have plain : redactedText.toList.all (fun c => !Unicode.isDigit c && c != '-') = true := by decide
  have apart : ∀ c ∈ redactedText.toList, c ∉ number := by
    intro c here
    have no_part := List.all_eq_true.mp plain c here
    rw [Bool.and_eq_true, Bool.not_eq_true', bne_iff_ne] at no_part
    exact is_number.not_mem no_part.1 no_part.2
  exact Regex.not_infix_replaceAll takesSome_socialSecurity (finds_number is_number isolated) is_number.ne_nil
    (by decide) apart

theorem IsNumber.infix_scrubbed (is_number : IsNumber number) {text : String} (attached : Attached number text.toList) :
    number <:+: (socialSecurity.regex.replaceAll redactedText text).toList :=
  infix_of_replaced is_number (Regex.replaced_replaceAll takesSome_socialSecurity redactedText text) attached

end Sensitive

namespace Provider.Anthropic

/-- The contents of the messages in the arguments. -/
def contents (args : Json) : List (Option Json) :=
  (((args.field? "messages").bind Json.asArray?).getD []).map (Json.field? "content")

/-- The values in a content that are turned into JSON text. -/
def flattened : Option Json → List Json
  | some (.string _) => []
  | some (.array parts) => parts.filter fun part => part.stringField? "type" ≠ some "text"
  | some .null => []
  | none => []
  | some other => [other]

theorem getElem?_messages (args : Json) (index : Nat) :
    (messages contentText args)[index]?.map Message.content =
      (contents args)[index]?.map fun content => .string (contentText content) := by
  rw [messages, contents, List.getElem?_map, List.getElem?_map, Option.map_map, Option.map_map]
  rfl

theorem messages_of_extract {response args : Json} {latencyMs : Float} {extraction : Extraction}
    (read : extract response args latencyMs = .ok extraction) :
    extraction.record.messages = messages contentText args := by
  obtain ⟨blocks, -, rfl⟩ := extract_eq_ok.mp read
  rw [record_priced, record]

/-! ## Numbers in a content -/

variable {number : List Char} (is_number : IsNumber number)
include is_number

theorem isolated_partText {part : Json}
    (each : ∀ text ∈ part.strings ++ part.keys, Isolated number text.toList)
    (clear : part.stringField? "type" ≠ some "text" →
      ∀ text ∈ part.strings ++ part.keys, ¬ Json.Merges number text.toList) :
    Isolated number (partText part).toList := by
  rw [partText]
  split
  · rw [textOrEmpty]
    cases found : part.stringField? "text" with
    | none => exact is_number.isolated_nil
    | some text => exact each text (List.mem_append_left _ (Json.mem_strings_of_stringField? found))
  · rename_i other
    exact Json.isolated_text is_number part fun text among =>
      Json.isolated_escape is_number (each text among) (clear other text among)

theorem isolated_contentText {content : Option Json}
    (each : ∀ value ∈ content, ∀ text ∈ value.strings ++ value.keys, Isolated number text.toList)
    (clear : ∀ value ∈ flattened content, ∀ text ∈ value.strings ++ value.keys, ¬ Json.Merges number text.toList) :
    Isolated number (contentText content).toList := by
  cases content with
  | none => exact is_number.isolated_nil
  | some content =>
    specialize each content rfl
    have whole (one : flattened (some content) = [content]) : Isolated number content.text.toList :=
      Json.isolated_text is_number content fun text among =>
        Json.isolated_escape is_number (each text among) (clear content (by simp [one]) text among)
    cases content with
    | string text => exact each text (List.mem_singleton_self text)
    | array parts =>
      have texts : ∀ text ∈ parts.map partText, Isolated number text.toList := by
        rw [List.forall_mem_map]
        intro part among
        refine isolated_partText is_number (fun text here => each text ?_) fun other =>
          clear part (List.mem_filter.mpr ⟨among, decide_eq_true other⟩)
        rw [List.mem_append] at here ⊢
        exact here.imp (Json.mem_stringsOfItems among) (Json.mem_keysOfItems among)
      exact is_number.isolated_intercalate texts rfl (by decide)
    | null => exact is_number.isolated_nil
    | bool value => exact whole rfl
    | number value => exact whole rfl
    | object fields => exact whole rfl

omit is_number in
theorem infix_contentText {content : Option Json} {value : Json} (among : value ∈ flattened content) :
    value.text.toList <:+: (contentText content).toList := by
  match content with
  | none => cases among
  | some (.string _) => cases among
  | some .null => cases among
  | some (.array parts) =>
    obtain ⟨member, other⟩ := List.mem_filter.mp among
    have same : partText value = value.text := if_neg (of_decide_eq_true other)
    rw [← same]
    exact Json.infix_intercalate (List.mem_map_of_mem member)
  | some (.bool _) | some (.number _) | some (.object _) =>
    rw [List.mem_singleton.mp among]
    exact List.infix_rfl

theorem attached_contentText {content : Option Json} {value : Json} {string : String}
    (among : value ∈ flattened content) (here : string ∈ value.strings ++ value.keys)
    (merges : Json.Merges number string.toList) : Attached number (contentText content).toList :=
  (Json.attached_escape is_number merges).widen ((Json.escape_infix_text value here).trans (infix_contentText among))

end Provider.Anthropic

/-! ## Numbers in what is sent -/

namespace CallRecord

open Provider.Anthropic

/-- With the pattern for social security numbers alone, a number that stands in the contents of the messages, and only
where the pattern matches it, is sent in a message if and only if an escape stands at it in a part of the message
that was turned into JSON text. -/
theorem number_sent_iff_escaped {redaction : Redaction} (one : redaction.patterns = [socialSecurity])
    (plain : redaction.filter = none) (shown : redaction.blackout = false) {response args : Json} {latencyMs : Float}
    {extraction : Extraction} (read : Provider.anthropic.extract response args latencyMs = .ok extraction)
    {number : List Char}
    (found : ∃ content, some content ∈ contents args ∧ ∃ text ∈ content.strings, number <:+: text.toList)
    (only : ∀ content, some content ∈ contents args → ∀ text ∈ content.strings ++ content.keys,
      Matched number text.toList) (labels : EventLabels) :
    ∃ call answer, extraction.record.events redaction labels = .ok ⟨[call, answer]⟩ ∧
      ∀ index content, (contents args)[index]? = some content →
        ∃ text, (CoveredPart.content index).ofEvents? call answer = some (.string text) ∧
          (number <:+: text.toList ↔
            ∃ value ∈ flattened content, ∃ string ∈ value.strings ++ value.keys,
              Json.Merges number string.toList) := by
  have is_number : IsNumber number := by
    obtain ⟨content, among, text, here, before, after, same⟩ := found
    have matched := only content among text (List.mem_append_left _ here)
    have begins : number <+: text.toList.drop before.length := by
      rw [← same, List.append_assoc, List.drop_left]
      exact List.prefix_append number after
    have place := matched before.length begins
    rw [← Place.rest_skip ⟨none, text.toList⟩] at begins
    exact isNumber_of_matchesAt begins place
  obtain ⟨call, answer, sent, covered⟩ :=
    events_cover (Redaction.scrubsBy_of_pattern one plain) shown extraction.record labels
  refine ⟨call, answer, sent, fun index content here => ?_⟩
  refine ⟨socialSecurity.regex.replaceAll redactedText (contentText content), ?_, ?_⟩
  · rw [covered, CoveredPart.ofRecord?, messages_of_extract read, getElem?_messages, here]
    rfl
  constructor
  · intro occurs
    by_contra clear
    simp only [not_exists, not_and] at clear
    refine is_number.not_infix_scrubbed (isolated_contentText is_number ?_ clear) occurs
    rintro value rfl text among
    exact (matched_iff_isolated is_number).mp (only value (List.mem_of_getElem? here) text among)
  · rintro ⟨value, among, string, inside, merges⟩
    exact is_number.infix_scrubbed (attached_contentText is_number among inside merges)

/-- A content of one part, with a number behind a line break. -/
def secondLine (key type : String) : Json :=
  .array [.object [(key, .string "\n123-45-6789"), ("type", .string type)]]

def secondLines : Json :=
  .object [("messages", .array
    [.object [("content", secondLine "text" "text")], .object [("content", secondLine "content" "tool_result")]])]

theorem contents_secondLines :
    contents secondLines = [some (secondLine "text" "text"), some (secondLine "content" "tool_result")] := rfl

theorem isNumber_secondLine : IsNumber "123-45-6789".toList :=
  ⟨['1', '2', '3'], ['4', '5'], ['6', '7', '8', '9'], ⟨rfl, List.all_eq_true.mp (by decide)⟩,
    ⟨rfl, List.all_eq_true.mp (by decide)⟩, ⟨rfl, List.all_eq_true.mp (by decide)⟩, rfl⟩

theorem matched_secondLine {key type : String} (plain : '-' ∉ key.toList) (plain' : '-' ∉ type.toList) :
    ∀ text ∈ (secondLine key type).strings ++ (secondLine key type).keys,
      Matched "123-45-6789".toList text.toList := by
  have same : (secondLine key type).strings ++ (secondLine key type).keys = ["\n123-45-6789", type, key, "type"] := rfl
  have others {text : String} (plain : '-' ∉ text.toList) : Isolated "123-45-6789".toList text.toList :=
    .of_absent (isNumber_secondLine.not_infix_of_tail fun among => plain (List.mem_of_mem_tail among))
  have line : Isolated "123-45-6789".toList "\n123-45-6789".toList :=
    isNumber_secondLine.isolated_append_cons isNumber_secondLine.isolated_nil (.self _) (by decide : Separates '\n')
  rw [same]
  simp only [List.forall_mem_cons, matched_iff_isolated isNumber_secondLine]
  exact ⟨line, others plain', others plain, others (by decide), by simp⟩

/-- Behind a line break the same number is redacted in a text part, and sent in the result of a tool. -/
theorem number_sent_in_tool_result :
    ∃ (redaction : Redaction) (extraction : Extraction) (call answer : Event) (first second : String),
      redaction.patterns = [socialSecurity] ∧ redaction.blackout = false ∧
        Provider.anthropic.extract (.object [("content", .array [])]) secondLines 1.0 = .ok extraction ∧
        extraction.record.events redaction ⟨"s", "a", ⟨"c", "t"⟩, .automatic⟩ = .ok ⟨[call, answer]⟩ ∧
        (CoveredPart.content 0).ofEvents? call answer = some (.string first) ∧
        ¬ "123-45-6789".toList <:+: first.toList ∧
        (CoveredPart.content 1).ofEvents? call answer = some (.string second) ∧
        "123-45-6789".toList <:+: second.toList := by
  let redaction : Redaction := { patterns := [socialSecurity] }
  have one : redaction.patterns = [socialSecurity] := rfl
  obtain ⟨extraction, read⟩ : ∃ extraction,
      Provider.anthropic.extract (.object [("content", .array [])]) secondLines 1.0 = .ok extraction := ⟨_, rfl⟩
  have found : ∃ content, some content ∈ contents secondLines ∧
      ∃ text ∈ content.strings, "123-45-6789".toList <:+: text.toList :=
    ⟨secondLine "text" "text", by rw [contents_secondLines]; exact List.mem_cons_self, "\n123-45-6789",
      List.mem_cons_self, (List.suffix_cons '\n' "123-45-6789".toList).isInfix⟩
  have only : ∀ content, some content ∈ contents secondLines → ∀ text ∈ content.strings ++ content.keys,
      Matched "123-45-6789".toList text.toList := by
    intro content among
    rw [contents_secondLines, List.mem_pair, Option.some_inj, Option.some_inj] at among
    rcases among with rfl | rfl
    · exact matched_secondLine (by decide) (by decide)
    · exact matched_secondLine (by decide) (by decide)
  obtain ⟨call, answer, sent, each⟩ :=
    number_sent_iff_escaped one rfl rfl read found only ⟨"s", "a", ⟨"c", "t"⟩, .automatic⟩
  obtain ⟨first, shown, hidden⟩ := each 0 _ (congrArg (·[0]?) contents_secondLines)
  obtain ⟨second, shown', leaked⟩ := each 1 _ (congrArg (·[1]?) contents_secondLines)
  refine ⟨redaction, extraction, call, answer, first, second, one, rfl, read, sent, shown, ?_, shown', ?_⟩
  · intro occurs
    obtain ⟨value, among, -⟩ := hidden.mp occurs
    cases among
  · refine leaked.mpr ⟨_, List.mem_cons_self, "\n123-45-6789", List.mem_cons_self, ?_⟩
    exact ⟨[], '\n', "123-45-6789".toList, [], rfl, by decide, List.nil_suffix, List.prefix_rfl⟩

end CallRecord

end LlmTelemetry
