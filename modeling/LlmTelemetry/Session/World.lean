import LlmTelemetry.Delivery.Sender
import LlmTelemetry.Instrument.Notice
/-!
# The world of a call

What a call through a wrapper can see and change: the state `σ` of the application, the active session, the
senders and the network `ν` behind them. A session that has ended keeps its sender, since calls that began
while it was active may still hand records to it.
-/

namespace LlmTelemetry

/-- A session: its settings, and the number of its sender. -/
structure ActiveSession (ν : Type) where
  snapshot : Snapshot ν
  sender : Nat

structure World (σ ν : Type) where
  host : σ
  /-- The clock of the application, in milliseconds. -/
  clock : σ → Float
  outbox : Outbox ν
  /-- The senders of all sessions so far. -/
  senders : List (Sender ν) := []
  session : Option (ActiveSession ν) := none
  notices : List Notice := []

namespace World

variable {σ ν : Type}

def setHost (host : σ) (world : World σ ν) : World σ ν :=
  { world with host := host }

def now (world : World σ ν) : Float :=
  world.clock world.host

def tell (world : World σ ν) (notices : List Notice) : World σ ν :=
  { world with notices := world.notices ++ notices }

/-- Change a sender together with the network. -/
def withSender (world : World σ ν) (number : Nat)
    (change : Sender ν → Outbox ν → Sender ν × Outbox ν) : World σ ν :=
  match world.senders[number]? with
  | none => world
  | some sender =>
    let (sender, outbox) := change sender world.outbox
    { world with senders := world.senders.set number sender, outbox := outbox }

/-- Hand a record to the sender of a session. -/
def send (world : World σ ν) (session : ActiveSession ν) (record : CallRecord) : World σ ν :=
  world.withSender session.sender fun sender outbox =>
    sender.send ⟨session.snapshot, record⟩ outbox

end World

end LlmTelemetry
