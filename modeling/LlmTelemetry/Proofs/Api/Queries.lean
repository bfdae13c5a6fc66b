import LlmTelemetry.Api.Query
import Mathlib
/-!
# What the parameters tell of a query

Every filter is sent under a key of its own, or not at all, so the parameters tell of each filter whether it is set and
which text it is sent as. The text of a number tells the number. The text of a list tells its values up to the commas:
`a,b` as the only value is sent as the two values `a` and `b` are.
-/

namespace LlmTelemetry

namespace Params

/-! ## The text of a filter -/

/-- The text that a number is sent as. -/
def numberText (value : Option UInt32) : Option String :=
  value.map fun number => toString number.toNat

/-- The text that a list of values is sent as. -/
def listText : List String → Option String
  | [] => none
  | values => some (String.intercalate "," values)

/-- Both lists are empty, or neither is and their values joined by commas are the same text. -/
def SameJoined (first second : List String) : Prop :=
  first = [] ∧ second = [] ∨
    first ≠ [] ∧ second ≠ [] ∧ String.intercalate "," first = String.intercalate "," second

theorem number_eq_text (key : String) (value : Option UInt32) : number key value = text key (numberText value) := by
  cases value <;> rfl

theorem joined_eq_text (key : String) (values : List String) : joined key values = text key (listText values) := by
  cases values <;> rfl

theorem numberText_inj {first second : Option UInt32} : numberText first = numberText second ↔ first = second := by
  apply Function.Injective.eq_iff
  apply Option.map_injective
  intro first second same
  exact UInt32.toNat_inj.mp (Nat.repr_inj.mp same)

theorem listText_eq_iff {first second : List String} : listText first = listText second ↔ SameJoined first second := by
  cases first <;> cases second <;> simp [listText, SameJoined]

/-- Values without commas can be told from their joined text. -/
theorem SameJoined.eq_of_no_comma {first second : List String} (same : SameJoined first second)
    (plain : ∀ value ∈ first, ',' ∉ value.toList) (plain' : ∀ value ∈ second, ',' ∉ value.toList) :
    first = second := by
  have split_joined {values : List String} (some_value : values ≠ []) (plain : ∀ value ∈ values, ',' ∉ value.toList) :
      List.splitOn ',' (String.intercalate "," values).toList = values.map String.toList := by
    rw [String.toList_intercalate]
    exact List.splitOn_intercalate ',' (by simpa using plain) (by simpa using some_value)
  rcases same with ⟨rfl, rfl⟩ | ⟨some_value, some_value', same⟩
  · rfl
  · have texts := split_joined some_value plain
    rw [same, split_joined some_value' plain'] at texts
    exact (List.map_injective_iff.mpr (fun _ _ => String.toList_inj.mp) texts).symm

/-! ## Filters in order -/

/-- The parameters for filters that are given by their keys and the texts that they are sent as. -/
def ofFilters : List (String × Option String) → Params
  | [] => []
  | (key, sent) :: filters => text key sent ++ ofFilters filters

theorem keys_ofFilters_sublist (filters : List (String × Option String)) :
    ((ofFilters filters).map Prod.fst).Sublist (filters.map Prod.fst) := by
  induction filters with
  | nil => exact .slnil
  | cons filter filters ih =>
    obtain ⟨key, sent⟩ := filter
    cases sent with
    | none => exact ih.cons key
    | some value => exact ih.cons_cons key

/-- Filters without the key have no parameter under it. -/
theorem ofFilters_ne_cons {key : String} {filters : List (String × Option String)}
    (fresh : key ∉ filters.map Prod.fst) (value : String) (rest : Params) :
    ofFilters filters ≠ (key, value) :: rest := by
  intro sent
  have among : key ∈ (ofFilters filters).map Prod.fst := by
    rw [sent]
    exact List.mem_cons_self
  exact fresh ((keys_ofFilters_sublist filters).subset among)

/-- Filters with keys of their own can be told from their parameters. -/
theorem ofFilters_inj {filters others : List (String × Option String)}
    (keys : filters.map Prod.fst = others.map Prod.fst) (distinct : (filters.map Prod.fst).Nodup) :
    ofFilters filters = ofFilters others ↔ filters = others := by
  refine ⟨fun same => ?_, congrArg ofFilters⟩
  induction filters generalizing others with
  | nil => exact (List.map_eq_nil_iff.mp keys.symm).symm
  | cons filter filters ih =>
    obtain ⟨key, sent⟩ := filter
    cases others with
    | nil => cases keys
    | cons other others =>
      obtain ⟨_, otherSent⟩ := other
      obtain ⟨rfl, later⟩ := List.cons_eq_cons.mp keys
      obtain ⟨fresh, apart⟩ := List.nodup_cons.mp distinct
      have fresh' : key ∉ others.map Prod.fst := later ▸ fresh
      -- A later filter has another key, so it can not stand in for this one.
      cases sent with
      | none =>
        cases otherSent with
        | none => rw [ih later apart same]
        | some value => exact absurd same (ofFilters_ne_cons fresh value _)
      | some value =>
        cases otherSent with
        | none => exact absurd same.symm (ofFilters_ne_cons fresh' value _)
        | some other =>
          obtain ⟨first, rest⟩ := List.cons_eq_cons.mp same
          rw [ih later apart rest, (Prod.mk.inj first).2]

theorem nodup_keys_ofFilters {filters : List (String × Option String)} (distinct : (filters.map Prod.fst).Nodup) :
    ((ofFilters filters).map Prod.fst).Nodup :=
  distinct.sublist (keys_ofFilters_sublist filters)

end Params

/-! ## Queries -/

open Params

/-- The filters of a query for events with their keys, in order. -/
def EventQuery.filters (query : EventQuery) : List (String × Option String) :=
  [("sessionId", query.sessionId), ("agentId", query.agentId), ("eventType", listText query.eventTypes),
    ("severity", listText query.severities), ("from", query.earliest), ("to", query.latest),
    ("limit", numberText query.limit), ("offset", numberText query.offset), ("order", query.order),
    ("search", query.search)]

/-- The filters of a query for sessions with their keys, in order. -/
def SessionQuery.filters (query : SessionQuery) : List (String × Option String) :=
  [("agentId", query.agentId), ("status", listText query.statuses), ("from", query.earliest), ("to", query.latest),
    ("limit", numberText query.limit), ("offset", numberText query.offset), ("tags", listText query.tags)]

/-- The queries have the same scalar filters, and lists that are sent as the same text. -/
@[mk_iff]
structure EventQuery.Agrees (first second : EventQuery) : Prop where
  sessionId : first.sessionId = second.sessionId
  agentId : first.agentId = second.agentId
  eventTypes : SameJoined first.eventTypes second.eventTypes
  severities : SameJoined first.severities second.severities
  earliest : first.earliest = second.earliest
  latest : first.latest = second.latest
  limit : first.limit = second.limit
  offset : first.offset = second.offset
  order : first.order = second.order
  search : first.search = second.search

/-- The queries have the same scalar filters, and lists that are sent as the same text. -/
@[mk_iff]
structure SessionQuery.Agrees (first second : SessionQuery) : Prop where
  agentId : first.agentId = second.agentId
  statuses : SameJoined first.statuses second.statuses
  earliest : first.earliest = second.earliest
  latest : first.latest = second.latest
  limit : first.limit = second.limit
  offset : first.offset = second.offset
  tags : SameJoined first.tags second.tags

namespace EventQuery

variable (query : EventQuery) {first second : EventQuery}

theorem params_eq : query.params = ofFilters query.filters := by
  simp [params, ofFilters, filters, number_eq_text, joined_eq_text]

theorem distinct_filters : (query.filters.map Prod.fst).Nodup := by
  simp [filters]

theorem filters_eq_iff : first.filters = second.filters ↔ first.Agrees second := by
  simp [filters, agrees_iff, listText_eq_iff, numberText_inj]

theorem params_eq_iff : first.params = second.params ↔ first.Agrees second := by
  have keys : first.filters.map Prod.fst = second.filters.map Prod.fst := rfl
  rw [params_eq, params_eq, ofFilters_inj keys first.distinct_filters, filters_eq_iff]

end EventQuery

namespace SessionQuery

variable (query : SessionQuery) {first second : SessionQuery}

theorem params_eq : query.params = ofFilters query.filters := by
  simp [params, ofFilters, filters, number_eq_text, joined_eq_text]

theorem distinct_filters : (query.filters.map Prod.fst).Nodup := by
  simp [filters]

theorem filters_eq_iff : first.filters = second.filters ↔ first.Agrees second := by
  simp [filters, agrees_iff, listText_eq_iff, numberText_inj]

theorem params_eq_iff : first.params = second.params ↔ first.Agrees second := by
  have keys : first.filters.map Prod.fst = second.filters.map Prod.fst := rfl
  rw [params_eq, params_eq, ofFilters_inj keys first.distinct_filters, filters_eq_iff]

end SessionQuery

/-- Two queries have the same parameters exactly if all their scalar filters are the same, and each of their lists is
empty in both or has the same text when joined by commas. So a filter that is not set is never taken for an empty text,
nor a filter for another one or a number for another one. No key occurs twice. -/
theorem params_tell_queries :
    (∀ first second : EventQuery, first.params = second.params ↔ first.Agrees second) ∧
      (∀ first second : SessionQuery, first.params = second.params ↔ first.Agrees second) ∧
      (∀ query : EventQuery, (query.params.map Prod.fst).Nodup) ∧
      ∀ query : SessionQuery, (query.params.map Prod.fst).Nodup := by
  refine ⟨fun _ _ => EventQuery.params_eq_iff, fun _ _ => SessionQuery.params_eq_iff, fun query => ?_, fun query => ?_⟩
  · rw [query.params_eq]
    exact nodup_keys_ofFilters query.distinct_filters
  · rw [query.params_eq]
    exact nodup_keys_ofFilters query.distinct_filters

/-- A comma in a value can not be told from the comma between two values. -/
example : EventQuery.params { eventTypes := ["a,b"] } = EventQuery.params { eventTypes := ["a", "b"] } := by
  decide

/-! ## Lists without commas -/

/-- No value of a list of the query has a comma in it. -/
def EventQuery.Plain (query : EventQuery) : Prop :=
  ∀ values ∈ [query.eventTypes, query.severities], ∀ value ∈ values, ',' ∉ value.toList

/-- No value of a list of the query has a comma in it. -/
def SessionQuery.Plain (query : SessionQuery) : Prop :=
  ∀ values ∈ [query.statuses, query.tags], ∀ value ∈ values, ',' ∉ value.toList

theorem EventQuery.eq_of_params_eq {first second : EventQuery} (same : first.params = second.params)
    (plain : first.Plain) (plain' : second.Plain) : first = second := by
  obtain ⟨sessionId, agentId, eventTypes, severities, earliest, latest, limit, offset, order, search⟩ :=
    params_eq_iff.mp same
  have eventTypes := eventTypes.eq_of_no_comma (plain _ (by simp)) (plain' _ (by simp))
  have severities := severities.eq_of_no_comma (plain _ (by simp)) (plain' _ (by simp))
  cases first
  cases second
  simp only [mk.injEq]
  exact ⟨sessionId, agentId, eventTypes, severities, earliest, latest, limit, offset, order, search⟩

theorem SessionQuery.eq_of_params_eq {first second : SessionQuery} (same : first.params = second.params)
    (plain : first.Plain) (plain' : second.Plain) : first = second := by
  obtain ⟨agentId, statuses, earliest, latest, limit, offset, tags⟩ := params_eq_iff.mp same
  have statuses := statuses.eq_of_no_comma (plain _ (by simp)) (plain' _ (by simp))
  have tags := tags.eq_of_no_comma (plain _ (by simp)) (plain' _ (by simp))
  cases first
  cases second
  simp only [mk.injEq]
  exact ⟨agentId, statuses, earliest, latest, limit, offset, tags⟩

end LlmTelemetry
