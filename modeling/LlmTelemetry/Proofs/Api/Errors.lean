import LlmTelemetry.Api.Error
import Mathlib.Tactic.Common
/-!
# What a failed response tells

A response that is no success becomes one error. Its status alone decides which kind that is, and so whether the
request may be tried again; its body gives the message, and for the kinds that have room for them the details. The
message is never empty: what the body states of the error is not, the body is not when it stands in for it, and
otherwise the status does.
-/

namespace LlmTelemetry

/-! ## Texts of values -/

section Written

variable {first second : String}

theorem append_ne_empty_left (written : first ≠ "") : first ++ second ≠ "" :=
  fun none => written (String.append_eq_empty_iff.mp none).1

theorem append_ne_empty_right (written : second ≠ "") : first ++ second ≠ "" :=
  fun none => written (String.append_eq_empty_iff.mp none).2

theorem toString_ne_empty (count : Nat) : toString count ≠ "" := by
  intro none
  have written := congrArg String.toList none
  rw [Nat.toString_eq_repr, Nat.toList_repr] at written
  exact Nat.toDigits_ne_nil written

end Written

theorem Decimal.Layout.write_ne_empty (layout : Layout) (value : Float) : layout.write value ≠ "" := by
  rw [write]
  -- The sign may be empty, and what follows it is not.
  apply append_ne_empty_right
  split
  · exact append_ne_empty_left (by decide)
  split
  · split
    · exact append_ne_empty_left (append_ne_empty_left (toString_ne_empty _))
    split
    · exact append_ne_empty_left (append_ne_empty_right (by decide))
    · exact append_ne_empty_right (toString_ne_empty _)
  · dsimp only
    split
    · exact append_ne_empty_right (toString_ne_empty _)
    · exact append_ne_empty_right (toString_ne_empty _)

theorem Number.text_ne_empty (value : Number) : value.text ≠ "" := by
  cases value with
  | natural value => exact toString_ne_empty value.toNat
  | negative value =>
    rw [text]
    cases value.toInt with
    | ofNat magnitude => exact toString_ne_empty magnitude
    | negSucc magnitude => exact append_ne_empty_left (by decide)
  | double value => exact layout.write_ne_empty value

theorem Json.text_ne_empty (value : Json) : value.text ≠ "" := by
  cases value with
  | null => decide
  | bool value => cases value <;> decide
  | number value => exact value.text_ne_empty
  | string value => exact append_ne_empty_left (append_ne_empty_left (by decide))
  | array items => exact append_ne_empty_left (append_ne_empty_left (by decide))
  | object fields => exact append_ne_empty_left (append_ne_empty_left (by decide))

namespace ApiError

/-! ## Bodies -/

/-- A field of a body that is a JSON object. -/
def bodyField? (key : String) (body : String) : Option Json :=
  (Json.parse? body).bind (Json.field? key)

/-- The body states the message of its error: as a text that is not empty, or as any other value but `null`, which
is then written out. -/
inductive States (body : String) : (message : String) → Prop
  | text {message : String} (found : bodyField? "error" body = some (.string message))
    (written : message ≠ "") : States body message
  | value {value : Json} (found : bodyField? "error" body = some value) (present : value ≠ .null)
    (untextual : value.asString? = none) : States body value.text

section Body

variable {body message other : String}

theorem States.ne_empty (states : States body message) : message ≠ "" := by
  cases states with
  | text _ written => exact written
  | value _ _ _ => exact Json.text_ne_empty _

/-- What a body states depends on its field only. -/
theorem States.exists_field (states : States body message) :
    ∃ value, bodyField? "error" body = some value ∧ value ≠ .null ∧ value ≠ .string "" ∧
      message = value.asString?.getD value.text := by
  cases states with
  | text found written => exact ⟨_, found, nofun, fun same => written (Json.string.inj same), rfl⟩
  | value found present untextual =>
    refine ⟨_, found, present, ?_, by rw [untextual]; rfl⟩
    rintro rfl
    cases untextual

theorem States.unique (states : States body message) (also : States body other) : other = message := by
  obtain ⟨value, found, -, -, rfl⟩ := states.exists_field
  obtain ⟨again, foundAgain, -, -, rfl⟩ := also.exists_field
  rw [found] at foundAgain
  cases foundAgain
  rfl

/-- The body counts by its two fields. -/
theorem bodyParts_eq (status : Nat) (body : String) :
    bodyParts status body =
      ((match bodyField? "error" body with
        | none => fallbackMessage status body
        | some .null => fallbackMessage status body
        | some (.string value) => if value.isEmpty then fallbackMessage status body else value
        | some value => value.text),
        match bodyField? "details" body with
        | some .null => none
        | other => other) := by
  unfold bodyParts bodyField?
  cases Json.parse? body with
  | none => rfl
  | some value => cases value <;> rfl

/-- The message is what the body states, or what stands in for it. -/
theorem bodyParts_message (status : Nat) (body : String) :
    States body (bodyParts status body).1 ∨
      (∀ message, ¬ States body message) ∧ (bodyParts status body).1 = fallbackMessage status body := by
  have silent (unstated : ∀ value, bodyField? "error" body = some value → value = .null ∨ value = .string "")
      (message : String) : ¬ States body message := by
    intro states
    obtain ⟨value, found, present, written, -⟩ := states.exists_field
    exact (unstated value found).elim present written
  rw [bodyParts_eq]
  split
  · rename_i absent
    exact .inr ⟨silent (by simp [absent]), rfl⟩
  · rename_i found
    exact .inr ⟨silent (by simp [found]), rfl⟩
  · rename_i text found
    by_cases empty : text = ""
    · subst empty
      exact .inr ⟨silent (by simp [found]), rfl⟩
    · rw [if_neg (by simpa using empty)]
      exact .inl (.text found empty)
  · rename_i value absent untextual found
    refine .inl (.value found absent ?_)
    cases value with
    | string text => exact absurd rfl (untextual text)
    | _ => rfl

theorem bodyParts_details (status : Nat) (body : String) (value : Json) :
    (bodyParts status body).2 = some value ↔ bodyField? "details" body = some value ∧ value ≠ .null := by
  rw [bodyParts_eq]
  cases bodyField? "details" body with
  | none => simp
  | some details =>
    cases details with
    | null => simp [eq_comm]
    | _ =>
      rw [iff_self_and]
      rintro ⟨⟩
      exact nofun

end Body

/-! ## Kinds -/

/-- The statuses that have a kind of their own. -/
def classified : List Nat := [400, 401, 402, 404, 429, 503]

/-- The error that a status stands for, with what the body and the header of the response say. -/
inductive Classifies (message : String) (details : Option Json) (retryAfter : Option Float) :
    (status : Nat) → ApiError → Prop
  | authentication : Classifies message details retryAfter 401 (.authentication message)
  | quotaExceeded : Classifies message details retryAfter 402 (.quotaExceeded message)
  | rateLimited : Classifies message details retryAfter 429 (.rateLimited message retryAfter)
  | backpressure : Classifies message details retryAfter 503 (.backpressure message)
  | validation : Classifies message details retryAfter 400 (.validation message details)
  | notFound : Classifies message details retryAfter 404 (.notFound message)
  | api {status : Nat} (other : status ∉ classified) :
    Classifies message details retryAfter status (.api status message details)

theorem classifies_ofResponse (status : Nat) (body : String) (retryAfter : Option Float) :
    Classifies (bodyParts status body).1 (bodyParts status body).2 retryAfter status
      (ofResponse status body retryAfter) := by
  unfold ofResponse
  cases bodyParts status body with
  | mk message details =>
    dsimp only
    split
    · subst status; exact .authentication
    split
    · subst status; exact .quotaExceeded
    split
    · subst status; exact .rateLimited
    split
    · subst status; exact .backpressure
    split
    · subst status; exact .validation
    split
    · subst status; exact .notFound
    · refine .api ?_
      simp [classified, *]

namespace Classifies

variable {status : Nat} {message : String} {details : Option Json} {retryAfter : Option Float} {error : ApiError}

theorem status_eq (classifies : Classifies message details retryAfter status error) : error.status = status := by
  cases classifies <;> rfl

theorem message_eq (classifies : Classifies message details retryAfter status error) :
    error.message = message := by
  cases classifies <;> rfl

theorem isRetryable_iff (classifies : Classifies message details retryAfter status error) :
    error.isRetryable = true ↔ status = 429 ∨ status = 503 := by
  cases classifies with
  | api other =>
    rw [classified] at other
    simp_all [isRetryable]
  | _ => simp [isRetryable]

theorem details_eq (classifies : Classifies message details retryAfter status error) :
    error.details = if status = 400 ∨ status ∉ classified then details else none := by
  cases classifies with
  | api other => rw [if_pos (.inr other)]; rfl
  | _ => rfl

theorem retryAfter_eq (classifies : Classifies message details retryAfter status error) :
    error.retryAfter = if status = 429 then retryAfter else none := by
  cases classifies with
  | api other =>
    rw [if_neg]
    · rfl
    · rintro rfl
      exact other (by decide)
  | _ => rfl

end Classifies

theorem isRetryable_ofResponse (status : Nat) (body : String) (retryAfter : Option Float) :
    (ofResponse status body retryAfter).isRetryable = true ↔ status = 429 ∨ status = 503 :=
  (classifies_ofResponse status body retryAfter).isRetryable_iff

/-! ## The error of a response -/

/-- Every response has an error of its status, and it is just rate limits and backpressure that may be tried again.
The message is not empty: it is what the body states, and when the body states nothing the body itself, or the status
when there is no body. Details are told by the kinds that have room for them, when the body has any. How long to wait
is told by a rate limit only. -/
theorem response_classified (status : Nat) (body : String) (retryAfter : Option Float) :
    let error := ofResponse status body retryAfter
    error.status = status ∧ (error.isRetryable = true ↔ status = 429 ∨ status = 503) ∧ error.message ≠ "" ∧
      (∀ message, States body message → error.message = message) ∧
      ((∀ message, ¬ States body message) →
        error.message = if body = "" then "HTTP " ++ toString status else body) ∧
      (∀ details, error.details = some details ↔
        (status = 400 ∨ status ∉ classified) ∧ bodyField? "details" body = some details ∧ details ≠ .null) ∧
      error.retryAfter = if status = 429 then retryAfter else none := by
  intro error
  have classifies : Classifies _ _ retryAfter status error := classifies_ofResponse status body retryAfter
  have message := classifies.message_eq
  have standIn : fallbackMessage status body = if body = "" then "HTTP " ++ toString status else body := by
    simp [fallbackMessage]
  refine ⟨classifies.status_eq, classifies.isRetryable_iff, ?_, ?_, ?_, ?_, classifies.retryAfter_eq⟩
  · rw [message]
    obtain states | ⟨-, same⟩ := bodyParts_message status body
    · exact states.ne_empty
    · rw [same, standIn]
      split
      · exact append_ne_empty_left (by decide)
      · assumption
  · intro stated states
    rw [message]
    obtain also | ⟨silent, -⟩ := bodyParts_message status body
    · exact states.unique also
    · exact absurd states (silent stated)
  · intro silent
    rw [message]
    obtain states | ⟨-, same⟩ := bodyParts_message status body
    · exact absurd states (silent _)
    · exact same.trans standIn
  · intro details
    rw [classifies.details_eq, ← bodyParts_details status body details]
    split
    · rename_i roomy
      exact (and_iff_right roomy).symm
    · rename_i narrow
      simp [narrow]

/-- A rate limit that states its error as a value, and a missing resource without a body. -/
theorem response_classified_of_limit :
    let limit := "\x7b\"details\":1,\"error\":[\"slow\"]\x7d"
    States limit "[\"slow\"]" ∧ (ofResponse 429 limit (some 2.0)).message = "[\"slow\"]" ∧
      (ofResponse 429 limit (some 2.0)).details = none ∧
      (ofResponse 429 limit (some 2.0)).retryAfter = some 2.0 ∧
      (∀ message, ¬ States "" message) ∧ (ofResponse 404 "" (some 2.0)).message = "HTTP 404" := by
  intro limit
  have states : States limit "[\"slow\"]" := by
    have written : (bodyField? "error" limit).map Json.text = some "[\"slow\"]" := by decide +kernel
    have untextual : (bodyField? "error" limit).bind Json.asString? = none := by decide +kernel
    obtain ⟨value, found, text⟩ := Option.map_eq_some_iff.mp written
    rw [found, Option.bind_some] at untextual
    rw [← text]
    refine .value found ?_ untextual
    rintro rfl
    exact absurd text (by decide)
  have silent (message : String) : ¬ States "" message := by
    intro states
    obtain ⟨value, found, -⟩ := states.exists_field
    cases found
  obtain ⟨-, -, -, stated, -, details, hint⟩ := response_classified 429 limit (some 2.0)
  obtain ⟨-, -, -, -, unstated, -⟩ := response_classified 404 "" (some 2.0)
  refine ⟨states, stated _ states, ?_, hint, silent, (unstated silent).trans (by decide)⟩
  rw [Option.eq_none_iff_forall_ne_some]
  intro value told
  exact absurd ((details value).mp told).1 (by decide)

end ApiError

end LlmTelemetry
