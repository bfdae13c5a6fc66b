import LlmTelemetry.Delivery.Client
/-!
# Delivering a record

A captured record goes out under the snapshot of the session that it was captured in. Delivery never
fails for the caller: what goes wrong in redaction or on the network ends the delivery of this one
record.
-/

namespace LlmTelemetry

/-- The settings of a session, fixed when it begins. -/
structure Snapshot (ν : Type) where
  client : Client ν
  agentId : String
  sessionId : String
  redaction : Redaction := {}

namespace Snapshot

variable {ν : Type}

def withBlackout (snapshot : Snapshot ν) (blackout : Bool) : Snapshot ν :=
  { snapshot with redaction := { snapshot.redaction with blackout := blackout } }

def withPatterns (snapshot : Snapshot ν) (patterns : List Pattern) : Snapshot ν :=
  { snapshot with redaction := { snapshot.redaction with patterns := patterns } }

def withFilter (snapshot : Snapshot ν) (filter : TextFilter) : Snapshot ν :=
  { snapshot with redaction := { snapshot.redaction with filter := some filter } }

def events (snapshot : Snapshot ν) (record : CallRecord) (stamp : Stamp) :
    Except Panic EventBatch :=
  record.events snapshot.redaction ⟨snapshot.sessionId, snapshot.agentId, stamp, .automatic⟩

/-- Post the events of a record. When redaction aborts no attempt is made. -/
def deliver (snapshot : Snapshot ν) (record : CallRecord) (stamp : Stamp) (network : ν) :
    Run ν Json :=
  match snapshot.events record stamp with
  | .ok batch => snapshot.client.post batch network
  | .error reason => .immediate (.error (.panic reason.message)) network

end Snapshot

/-- A captured record with its snapshot. -/
structure Capture (ν : Type) where
  snapshot : Snapshot ν
  record : CallRecord

/-- The network as deliveries see it. -/
structure Outbox (ν : Type) where
  network : ν
  /-- The stamps of all deliveries, by number. -/
  stamps : Nat → Stamp
  /-- How many deliveries were begun. -/
  begun : Nat := 0
  attempts : List Attempt := []

/-- Deliver a record and swallow how it ended. -/
def Outbox.deliver {ν : Type} (outbox : Outbox ν) (capture : Capture ν) : Outbox ν :=
  let run := capture.snapshot.deliver capture.record (outbox.stamps outbox.begun) outbox.network
  { outbox with
    network := run.network
    begun := outbox.begun + 1
    attempts := outbox.attempts ++ run.attempts }

end LlmTelemetry
