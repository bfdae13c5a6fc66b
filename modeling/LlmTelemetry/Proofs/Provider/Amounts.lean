import LlmTelemetry.Proofs.Decimal.Finite
import LlmTelemetry.Provider.Anthropic
import LlmTelemetry.Provider.OpenAI
/-!
# The amounts of an extracted record

A cost is computed from two counts and a price in the tables, and stays far below the largest double. So the cost
of every record that a provider reads is a number. The parameters of such a record are an object or absent.
-/

namespace LlmTelemetry

namespace Pricing

theorem mem_of_foldl_longer {prices : List Price} {first : Option Price} {price : Price}
    (best : prices.foldl Price.longer first = some price) : price ∈ prices ∨ first = some price := by
  induction prices generalizing first with
  | nil => exact .inr best
  | cons next rest ih =>
    rcases ih best with among | kept
    · exact .inl (List.mem_cons_of_mem _ among)
    · rw [Price.longer.eq_def] at kept
      split at kept
      · exact .inl (Option.some.inj kept ▸ List.mem_cons_self)
      · split at kept
        · exact .inr kept
        · exact .inl (Option.some.inj kept ▸ List.mem_cons_self)

theorem mem_of_best? {prices : List Price} {model : String} {price : Price}
    (best : best? prices model = some price) : price ∈ prices := by
  rcases mem_of_foldl_longer best with among | none
  · exact (List.mem_filter.mp among).1
  · cases none

/-- The prices of both tables are small doubles. -/
theorem prices_bounded : ∀ prices ∈ [openai, anthropic, mistral, cohere], ∀ price ∈ prices,
    Decimal.Bounded 0 price.input ∧ Decimal.Bounded 0 price.output := by
  decide +kernel

theorem mem_tables {provider : String} {prices : List Price} (known : table? provider = some prices) :
    prices ∈ [openai, anthropic, mistral, cohere] := by
  rw [table?] at known
  repeat' split at known
  all_goals first | cases known; simp | cases known

theorem million_above : Decimal.Above 33 (1000000.0 : Float).toModel.unpack := by
  decide +kernel

theorem Price.cost_isFinite {price : Price} (input : Decimal.Bounded 0 price.input)
    (output : Decimal.Bounded 0 price.output) (inputTokens outputTokens : UInt64) :
    (price.cost inputTokens outputTokens).isFinite = true := by
  have inputCost := (Decimal.bounded_toFloat inputTokens).mul input (by decide)
  have outputCost := (Decimal.bounded_toFloat outputTokens).mul output (by decide)
  have sum := inputCost.add outputCost (by decide)
  exact (sum.div million_above (by decide)).isFinite

theorem cost_isFinite {provider model : String} {inputTokens outputTokens : UInt64} {amount : Float}
    (priced : cost provider model inputTokens outputTokens = .ok amount) : amount.isFinite = true := by
  rw [cost] at priced
  split at priced
  · cases priced
    exact Decimal.zero_isFinite
  split at priced
  · cases priced
  · rename_i prices known
    split at priced
    · cases priced
    · rename_i price best
      cases priced
      have bounded := prices_bounded _ (mem_tables known) price (mem_of_best? best)
      exact price.cost_isFinite bounded.1 bounded.2 inputTokens outputTokens

end Pricing

namespace Provider

variable {response args : Json} {latencyMs : Float} {extraction : Extraction}

theorem costUsd_priced (record : CallRecord) : (priced record).record.costUsd.isFinite = true := by
  rw [priced]
  split
  · rename_i amount known
    exact Pricing.cost_isFinite known
  · exact Decimal.zero_isFinite

theorem parameters_ne_null (keys : List String) (args : Json) : parameters keys args ≠ some .null := by
  rw [parameters]
  split <;> simp [Json.record]

/-- The amounts of a record are a number for the cost and the time that was measured, and its parameters are not
`null`. -/
def Measured (latencyMs : Float) (record : CallRecord) : Prop :=
  record.costUsd.isFinite = true ∧ record.latencyMs = latencyMs ∧ record.parameters ≠ some .null

theorem OpenAI.measured_of_extract (read : OpenAI.extract response args latencyMs = .ok extraction) :
    Measured latencyMs extraction.record := by
  obtain ⟨-, rfl⟩ := OpenAI.extract_eq_ok.mp read
  refine ⟨costUsd_priced _, ?_, ?_⟩
  · rw [record_priced, OpenAI.record_eq]
  · rw [record_priced, OpenAI.record_eq]
    exact parameters_ne_null _ args

theorem Anthropic.measured_of_extract (read : Anthropic.extract response args latencyMs = .ok extraction) :
    Measured latencyMs extraction.record := by
  obtain ⟨blocks, -, rfl⟩ := Anthropic.extract_eq_ok.mp read
  refine ⟨costUsd_priced _, ?_, ?_⟩
  · rw [record_priced, Anthropic.record]
  · rw [record_priced, Anthropic.record]
    exact parameters_ne_null _ args

end Provider

end LlmTelemetry
