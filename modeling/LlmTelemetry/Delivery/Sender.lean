import LlmTelemetry.Delivery.Snapshot
/-!
# The sender

A sender takes captured records and never fails its caller. A synchronous one delivers each record at
once. An asynchronous one puts it into a queue that one worker empties, from `start` on until it comes to
the stop item, which `stop` puts last.

The worker goes round in three steps: `receive`, `deliver` and `finish`. Several callers and the worker may
take their steps in any order. `Sender.drain` is the worker running alone until it has nothing left to do.
-/

namespace LlmTelemetry

/-- Where a sender is in its life. -/
inductive Phase where
  | created
  | running
  | inline
  | stopped
deriving DecidableEq

/-- What the worker takes from the queue. -/
inductive QueueItem (ν : Type) where
  | deliver (capture : Capture ν)
  | stop

/-- What the worker does. -/
inductive Worker (ν : Type) where
  | absent
  | idle
  | delivering (capture : Capture ν)
  /-- The delivery is over, and the record still counts as pending. -/
  | settling
  | exited

structure Sender (ν : Type) where
  synchronous : Bool
  phase : Phase := .created
  queue : List (QueueItem ν) := []
  /-- The number of records accepted and not yet done. -/
  pending : Nat := 0
  worker : Worker ν := .absent

namespace Sender

variable {ν : Type}

def new (synchronous : Bool) : Sender ν :=
  { synchronous := synchronous }

/-- Let the worker begin. -/
def launch (sender : Sender ν) : Sender ν :=
  { sender with worker := .idle }

def enter (sender : Sender ν) (phase : Phase) : Sender ν :=
  { sender with phase := phase }

def push (sender : Sender ν) (item : QueueItem ν) : Sender ν :=
  { sender with queue := sender.queue ++ [item] }

def count (sender : Sender ν) : Sender ν :=
  { sender with pending := sender.pending + 1 }

/-- Begin to deliver. Only the first start counts. -/
def start (sender : Sender ν) : Sender ν :=
  if sender.phase = .created then
    if sender.synchronous then sender.enter .inline else sender.launch.enter .running
  else sender

/-- Put a record into the queue, unless the sender has stopped. -/
def accept (sender : Sender ν) (capture : Capture ν) : Sender ν :=
  if sender.phase = .stopped then sender else (sender.push (.deliver capture)).count

/-- Accept no more records and tell the worker to leave after those that are queued. -/
def close (sender : Sender ν) : Sender ν :=
  if sender.phase = .running then (sender.enter .stopped).push .stop else sender

/-- The idle worker takes the next item. -/
def receive (sender : Sender ν) : Sender ν :=
  match sender.worker, sender.queue with
  | .idle, .deliver capture :: rest =>
    { sender with worker := .delivering capture, queue := rest }
  | .idle, .stop :: rest => { sender with worker := .exited, queue := rest }
  | _, _ => sender

/-- The worker delivers what it has taken. -/
def deliver (sender : Sender ν) (outbox : Outbox ν) : Sender ν × Outbox ν :=
  match sender.worker with
  | .delivering capture => ({ sender with worker := .settling }, outbox.deliver capture)
  | _ => (sender, outbox)

/-- The worker is done with a record. -/
def finish (sender : Sender ν) : Sender ν :=
  match sender.worker with
  | .settling => { sender with worker := .idle, pending := sender.pending - 1 }
  | _ => sender

@[simp] theorem receive_phase (sender : Sender ν) : sender.receive.phase = sender.phase := by
  unfold receive
  split <;> rfl

@[simp] theorem receive_synchronous (sender : Sender ν) :
    sender.receive.synchronous = sender.synchronous := by
  unfold receive
  split <;> rfl

theorem deliver_of_delivering {sender : Sender ν} {capture : Capture ν}
    (taken : sender.worker = .delivering capture) (outbox : Outbox ν) :
    sender.deliver outbox = ({ sender with worker := .settling }, outbox.deliver capture) := by
  simp [deliver, taken]

theorem finish_of_settling {sender : Sender ν} (settling : sender.worker = .settling) :
    sender.finish = { sender with worker := .idle, pending := sender.pending - 1 } := by
  simp [finish, settling]

/-- What a flush reports when it looks at the sender now. -/
def drained (sender : Sender ν) : Bool :=
  match sender.phase with
  | .inline => true
  | .running => sender.pending == 0
  | _ => sender.synchronous || sender.pending == 0

/-- Take and deliver the next item, so many times. -/
def work : Nat → Sender ν → Outbox ν → Sender ν × Outbox ν
  | 0, sender, outbox => (sender, outbox)
  | n + 1, sender, outbox =>
    let received := sender.receive
    match received.worker with
    | .delivering _ =>
      let (delivered, outbox) := received.deliver outbox
      work n delivered.finish outbox
    | _ => (received, outbox)

/-- Let the worker do all that is queued. -/
def drain (sender : Sender ν) (outbox : Outbox ν) : Sender ν × Outbox ν :=
  sender.work (sender.queue.length + 1) outbox

/-- Hand over a record: deliver it at once or put it into the queue. -/
def send (sender : Sender ν) (capture : Capture ν) (outbox : Outbox ν) : Sender ν × Outbox ν :=
  if sender.phase = .stopped then (sender, outbox)
  else if sender.synchronous then (sender, outbox.deliver capture)
  else (sender.accept capture, outbox)

/-- Wait for the queue to be worked off, and tell whether it was. -/
def flush (sender : Sender ν) (outbox : Outbox ν) : Bool × Sender ν × Outbox ν :=
  if sender.phase = .running then
    let (sender, outbox) := sender.drain outbox
    (sender.drained, sender, outbox)
  else (sender.drained, sender, outbox)

/-- Stop, and wait for the worker to leave. -/
def stop (sender : Sender ν) (outbox : Outbox ν) : Sender ν × Outbox ν :=
  if sender.phase = .running then sender.close.drain outbox else (sender, outbox)

end Sender

end LlmTelemetry
