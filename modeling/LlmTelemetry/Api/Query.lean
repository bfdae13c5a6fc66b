/-!
# Query parameters

The filters of a read request as key and value pairs, in a fixed order. A filter that is not set is not
sent, and a list of values is sent joined by commas.
-/

namespace LlmTelemetry

structure EventQuery where
  sessionId : Option String := none
  agentId : Option String := none
  eventTypes : List String := []
  severities : List String := []
  earliest : Option String := none
  latest : Option String := none
  limit : Option UInt32 := none
  offset : Option UInt32 := none
  order : Option String := none
  search : Option String := none
deriving DecidableEq

structure SessionQuery where
  agentId : Option String := none
  statuses : List String := []
  earliest : Option String := none
  latest : Option String := none
  limit : Option UInt32 := none
  offset : Option UInt32 := none
  tags : List String := []
deriving DecidableEq

abbrev Params := List (String × String)

namespace Params

def text (key : String) : Option String → Params
  | none => []
  | some value => [(key, value)]

def number (key : String) : Option UInt32 → Params
  | none => []
  | some value => [(key, toString value.toNat)]

def joined (key : String) : List String → Params
  | [] => []
  | values => [(key, String.intercalate "," values)]

end Params

def EventQuery.params (query : EventQuery) : Params :=
  Params.text "sessionId" query.sessionId
    ++ Params.text "agentId" query.agentId
    ++ Params.joined "eventType" query.eventTypes
    ++ Params.joined "severity" query.severities
    ++ Params.text "from" query.earliest
    ++ Params.text "to" query.latest
    ++ Params.number "limit" query.limit
    ++ Params.number "offset" query.offset
    ++ Params.text "order" query.order
    ++ Params.text "search" query.search

def SessionQuery.params (query : SessionQuery) : Params :=
  Params.text "agentId" query.agentId
    ++ Params.joined "status" query.statuses
    ++ Params.text "from" query.earliest
    ++ Params.text "to" query.latest
    ++ Params.number "limit" query.limit
    ++ Params.number "offset" query.offset
    ++ Params.joined "tags" query.tags

end LlmTelemetry
