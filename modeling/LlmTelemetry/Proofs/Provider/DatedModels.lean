import LlmTelemetry.Proofs.Provider.Amounts
import LlmTelemetry.Unicode.Digit
import Mathlib.Data.List.Perm.Basic
/-!
# Prices of dated models

The entry for a model is the one with the longest name that the model's name starts with. The names of a table are
distinct, so there is no more than one such entry, wherever it stands in the table. Some names go on where another one
ends, but never as a date does; so a date after a name leaves its entry the longest.
-/

namespace LlmTelemetry.Pricing

/-! ## The longest entry -/

/-- The model's name starts with the name of the entry, and with no longer one of the table. -/
structure Chosen (prices : List Price) (model : String) (price : Price) : Prop where
  among : price ∈ prices
  starts : price.name.toList <+: model.toList
  longest : ∀ other ∈ prices, other.name.toList <+: model.toList → other.name.length ≤ price.name.length

variable {prices : List Price} {model : String} {price other : Price}

theorem Price.covers_iff : price.covers model = true ↔ price.name.toList <+: model.toList :=
  List.isPrefixOf_iff_prefix

theorem Price.exists_longer (first second : Price) :
    ∃ longest, Price.longer (some first) second = some longest ∧
      first.name.length ≤ longest.name.length ∧ second.name.length ≤ longest.name.length := by
  rw [Price.longer]
  split
  · rename_i above
    exact ⟨first, rfl, le_rfl, above.le⟩
  · rename_i below
    exact ⟨second, rfl, not_lt.mp below, le_rfl⟩

theorem exists_foldl_longer (prices : List Price) (first : Price) :
    ∃ longest, prices.foldl Price.longer (some first) = some longest ∧
      first.name.length ≤ longest.name.length ∧ ∀ price ∈ prices, price.name.length ≤ longest.name.length := by
  induction prices generalizing first with
  | nil => exact ⟨first, rfl, le_rfl, nofun⟩
  | cons next rest ih =>
    obtain ⟨longer, found, first_le, next_le⟩ := first.exists_longer next
    obtain ⟨longest, best, longer_le, rest_le⟩ := ih longer
    rw [List.foldl_cons, found]
    refine ⟨longest, best, le_trans first_le longer_le, fun price among => ?_⟩
    rcases List.mem_cons.mp among with rfl | later
    · exact le_trans next_le longer_le
    · exact rest_le price later

theorem mem_covering :
    price ∈ prices.filter (·.covers model) ↔ price ∈ prices ∧ price.name.toList <+: model.toList := by
  rw [List.mem_filter, Price.covers_iff]

/-- If the model's name starts with that of any entry, a longest such entry is found. -/
theorem exists_chosen (among : price ∈ prices) (starts : price.name.toList <+: model.toList) :
    ∃ longest, best? prices model = some longest ∧ Chosen prices model longest := by
  have member := mem_covering.mpr ⟨among, starts⟩
  rw [best?]
  cases covering : prices.filter (·.covers model) with
  | nil => simp [covering] at member
  | cons first rest =>
    obtain ⟨longest, best, first_le, rest_le⟩ := exists_foldl_longer rest first
    have found : (first :: rest).foldl Price.longer none = some longest := best
    have longest_among : longest ∈ prices.filter (·.covers model) := by
      rw [covering]
      exact (mem_of_foldl_longer found).resolve_right nofun
    refine ⟨longest, found, (mem_covering.mp longest_among).1, (mem_covering.mp longest_among).2, ?_⟩
    intro other other_among other_starts
    have other_member := mem_covering.mpr ⟨other_among, other_starts⟩
    rw [covering] at other_member
    rcases List.mem_cons.mp other_member with rfl | later
    · exact first_le
    · exact rest_le other later

namespace Chosen

/-- Names that one name starts with are the same if they are equally long. -/
theorem unique (distinct : (prices.map Price.name).Nodup) (chosen : Chosen prices model price)
    (also : Chosen prices model other) : other = price := by
  have same_length : other.name.toList.length = price.name.toList.length := by
    rw [String.length_toList, String.length_toList]
    apply le_antisymm
    · exact chosen.longest other also.among also.starts
    · exact also.longest price chosen.among chosen.starts
  have shorter := List.prefix_of_prefix_length_le also.starts chosen.starts same_length.le
  have same_name : other.name = price.name := String.toList_inj.mp (shorter.eq_of_length same_length)
  exact List.inj_on_of_nodup_map distinct also.among chosen.among same_name

theorem best?_eq_some (distinct : (prices.map Price.name).Nodup) (chosen : Chosen prices model price) :
    best? prices model = some price := by
  obtain ⟨longest, best, also⟩ := exists_chosen chosen.among chosen.starts
  rw [best, chosen.unique distinct also]

theorem perm {order : List Price} (reordered : order.Perm prices) (chosen : Chosen prices model price) :
    Chosen order model price where
  among := reordered.mem_iff.mpr chosen.among
  starts := chosen.starts
  longest other among := chosen.longest other (reordered.mem_iff.mp among)

end Chosen

theorem chosen_of_best? (best : best? prices model = some price) : Chosen prices model price := by
  have member := (mem_of_foldl_longer best).resolve_right nofun
  obtain ⟨among, starts⟩ := mem_covering.mp member
  obtain ⟨longest, found, chosen⟩ := exists_chosen among starts
  rw [best] at found
  cases found
  exact chosen

/-- The order of a table does not matter. -/
theorem best?_perm (distinct : (prices.map Price.name).Nodup) {order : List Price} (reordered : order.Perm prices)
    (model : String) : best? order model = best? prices model := by
  have distinct' : (order.map Price.name).Nodup := (reordered.map Price.name).nodup_iff.mpr distinct
  ext price
  constructor
  · intro best
    exact ((chosen_of_best? best).perm reordered.symm).best?_eq_some distinct
  · intro best
    exact ((chosen_of_best? best).perm reordered).best?_eq_some distinct'

/-! ## Dates -/

/-- The text begins with a hyphen and a digit of any script. -/
def StartsDate (text : List Char) : Prop :=
  ∃ digit rest, text = '-' :: digit :: rest ∧ Unicode.isDigit digit = true

/-- One name goes on where the other one ends, and as a date does so far. -/
def GoesOnAsDate (name longer : List Char) : Prop :=
  name ++ ['-'] <+: longer ∧ (longer.drop (name.length + 1)).head?.all Unicode.isDigit = true

instance (name longer : List Char) : Decidable (GoesOnAsDate name longer) :=
  inferInstanceAs (Decidable (_ ∧ _))

theorem tables_distinct : ∀ prices ∈ [openai, anthropic, mistral, cohere], (prices.map Price.name).Nodup := by
  decide +kernel

theorem tables_undated : ∀ prices ∈ [openai, anthropic, mistral, cohere], ∀ price ∈ prices, ∀ other ∈ prices,
    ¬ GoesOnAsDate price.name.toList other.name.toList := by
  decide +kernel

theorem goesOnAsDate_of_prefix (name : List Char) {rest date : List Char} (starts : StartsDate date)
    (within : rest <+: date) (some_more : rest ≠ []) : GoesOnAsDate name (name ++ rest) := by
  obtain ⟨digit, after, rfl, is_digit⟩ := starts
  cases rest with
  | nil => exact absurd rfl some_more
  | cons hyphen rest =>
    obtain ⟨rfl, later⟩ := List.cons_prefix_cons.mp within
    constructor
    · exact (List.prefix_append_right_inj name).mpr (List.cons_prefix_cons.mpr ⟨rfl, List.nil_prefix⟩)
    · cases rest with
      | nil => simp
      | cons first rest =>
        obtain ⟨rfl, -⟩ := List.cons_prefix_cons.mp later
        simpa using is_digit

/-- An entry is the one for its name followed by a text, if no other entry's name goes on into the text. -/
theorem chosen_append {suffix : String} (among : price ∈ prices)
    (alone : ∀ other ∈ prices, ∀ rest, other.name.toList = price.name.toList ++ rest → rest <+: suffix.toList →
      rest = []) : Chosen prices (price.name ++ suffix) price where
  among := among
  starts := by
    rw [String.toList_append]
    exact List.prefix_append _ _
  longest other other_among other_starts := by
    by_contra longer
    rw [not_le, ← String.length_toList, ← String.length_toList] at longer
    rw [String.toList_append] at other_starts
    -- Both names are beginnings of one text, so the longer one goes on where the other one ends.
    obtain ⟨rest, goes_on⟩ := List.prefix_of_prefix_length_le (List.prefix_append _ _) other_starts longer.le
    rw [← goes_on, List.prefix_append_right_inj] at other_starts
    have nothing := alone other other_among rest goes_on.symm other_starts
    rw [← goes_on, nothing, List.append_nil] at longer
    exact lt_irrefl _ longer

theorem chosen_base (among : price ∈ prices) : Chosen prices price.name price := by
  have chosen : Chosen prices (price.name ++ "") price :=
    chosen_append among fun _ _ rest _ within => List.prefix_nil.mp within
  rwa [String.append_empty] at chosen

theorem chosen_dated (known : prices ∈ [openai, anthropic, mistral, cohere]) (among : price ∈ prices)
    {suffix : String} (date : StartsDate suffix.toList) : Chosen prices (price.name ++ suffix) price := by
  refine chosen_append among fun other other_among rest goes_on within => ?_
  by_contra some_more
  have dated := goesOnAsDate_of_prefix price.name.toList date within some_more
  rw [← goes_on] at dated
  exact tables_undated prices known price among other other_among dated

/-! ## Costs -/

theorem cost?_of_chosen {provider : String} (known : table? provider = some prices)
    (chosen : Chosen prices model price) (inputTokens outputTokens : UInt64) :
    cost? provider model inputTokens outputTokens = some (price.cost inputTokens outputTokens) := by
  have remote : provider ≠ localProvider := by
    rintro rfl
    cases known
  have best := chosen.best?_eq_some (tables_distinct prices (mem_tables known))
  rw [cost?, cost, if_neg remote, known]
  dsimp only
  rw [best]
  rfl

/-- A call of a model that has the name of an entry and a date after it costs what the entry says, and so does a call
of the model without a date. Which entry is chosen for a model does not depend on the order of the table. -/
theorem dated_models_cost_as_base {provider : String} (known : table? provider = some prices) :
    (∀ price ∈ prices, ∀ suffix : String, StartsDate suffix.toList → ∀ inputTokens outputTokens,
      cost? provider (price.name ++ suffix) inputTokens outputTokens =
          cost? provider price.name inputTokens outputTokens ∧
        cost? provider price.name inputTokens outputTokens = some (price.cost inputTokens outputTokens)) ∧
      ∀ order : List Price, order.Perm prices → ∀ model, best? order model = best? prices model := by
  constructor
  · intro price among suffix date inputTokens outputTokens
    have base := cost?_of_chosen known (chosen_base among) inputTokens outputTokens
    have dated := cost?_of_chosen known (chosen_dated (mem_tables known) among date) inputTokens outputTokens
    exact ⟨dated.trans base.symm, base⟩
  · intro order reordered model
    exact best?_perm (tables_distinct prices (mem_tables known)) reordered model

/-- A dated model costs as its base does, and not as the shorter `gpt-4` does; with the table read backwards, the entry
for a dated small model is still its own. -/
theorem dated_models_cost_as_base_of_small_model :
    let small : Price := ⟨"gpt-4o-mini", 0.15, 0.6⟩
    table? "openai" = some openai ∧ small ∈ openai ∧ StartsDate "-2024-07-18".toList ∧
      cost? "openai" "gpt-4o-mini-2024-07-18" 1000 500 = some (small.cost 1000 500) ∧
        best? openai.reverse "gpt-4o-mini-2024-07-18" = best? openai "gpt-4o-mini-2024-07-18" := by
  intro small
  have known : table? "openai" = some openai := rfl
  have among : small ∈ openai := List.mem_cons_self
  have date : StartsDate "-2024-07-18".toList := ⟨'2', "024-07-18".toList, by decide, by decide⟩
  obtain ⟨costs, orders⟩ := dated_models_cost_as_base known
  obtain ⟨same, base⟩ := costs small among "-2024-07-18" date 1000 500
  exact ⟨known, among, date, same.trans base, orders _ openai.reverse_perm _⟩

end LlmTelemetry.Pricing
