import LlmTelemetry.Delivery.Sender
import Mathlib.Logic.Function.Basic
/-!
# A sender with many callers

Any number of callers share one sender with its worker. Each of them is somewhere in a call, and a step of
the whole is one section of one call or one section of the worker's round. Sections of different parties
follow each other in any order that the two locks allow: the count of pending records is behind one of them,
and what begins and ends the worker is behind the other.

A send looks at the phase twice. It looks first without a lock, and then again with the count locked, before
it puts the record into the queue. A stop holds that lock while it enters the phase `stopped` and puts the
stop item into the queue. Between putting a record into the queue and counting it the worker may already
take it.

`accepted` and `delivered` are kept for the statements only: the records that were put into the queue, and
those that the worker has delivered, both in the order in which that happened.
-/

namespace LlmTelemetry

/-- Where a caller stands. -/
inductive Caller (ν : Type) where
  | outside
  /-- In a send that did not find the sender stopped at first. -/
  | sending (capture : Capture ν)
  /-- In a send whose record is in the queue and not counted yet. -/
  | counting
  /-- In a start that has taken the receiving end of the queue. -/
  | starting
  /-- In a start that has begun a worker. -/
  | launched
  /-- In a stop that found the sender running. -/
  | stopping
  /-- In a stop that has entered the phase `stopped`. -/
  | halting
  /-- In a stop that waits for the worker, for a limited time. -/
  | awaiting
  /-- In a flush that has to look at the count. -/
  | flushing

/-- Who has the receiving end of the queue. -/
inductive Receiver where
  | sender
  | starter
  | worker
  /-- Nobody, so that nothing can be put into the queue any more. -/
  | gone
deriving DecidableEq

/-- A sender, its worker and its callers, who are told apart by names from `ι`. -/
structure SharedSender (ι ν : Type) where
  sender : Sender ν
  outbox : Outbox ν
  callers : ι → Caller ν := fun _ => .outside
  receiver : Receiver := .sender
  /-- The caller in a section that begins or ends the worker. -/
  lifecycleLock : Option ι := none
  /-- The caller in a section on the count of pending records. -/
  countLock : Option ι := none
  /-- Whether the sender was given up, so that there will be no more calls. -/
  dropped : Bool := false
  accepted : List (Capture ν) := []
  delivered : List (Capture ν) := []

namespace SharedSender

variable {ι ν : Type} [DecidableEq ι]

def new (synchronous : Bool) (outbox : Outbox ν) : SharedSender ι ν :=
  { sender := .new synchronous, outbox := outbox }

/-- The caller goes on to another place. -/
def move (shared : SharedSender ι ν) (caller : ι) (place : Caller ν) : SharedSender ι ν :=
  { shared with callers := Function.update shared.callers caller place }

/-! ## Sending -/

def beginSend (shared : SharedSender ι ν) (caller : ι) (capture : Capture ν) : SharedSender ι ν :=
  if shared.sender.phase = .stopped then shared else shared.move caller (.sending capture)

def sendInline (shared : SharedSender ι ν) (caller : ι) (capture : Capture ν) : SharedSender ι ν :=
  { shared.move caller .outside with outbox := shared.outbox.deliver capture }

/-- Put the record into the queue, unless the sender has stopped meanwhile or nobody can receive it. -/
def enqueue (shared : SharedSender ι ν) (caller : ι) (capture : Capture ν) : SharedSender ι ν :=
  if shared.sender.phase = .stopped ∨ shared.receiver = .gone then shared.move caller .outside
  else
    { shared.move caller .counting with
      sender := shared.sender.push (.deliver capture)
      countLock := some caller
      accepted := shared.accepted ++ [capture] }

def countSent (shared : SharedSender ι ν) (caller : ι) : SharedSender ι ν :=
  { shared.move caller .outside with sender := shared.sender.count, countLock := none }

/-! ## Starting -/

def beginStart (shared : SharedSender ι ν) (caller : ι) : SharedSender ι ν :=
  if shared.sender.phase ≠ .created then shared
  else if shared.sender.synchronous then { shared with sender := shared.sender.enter .inline }
  else if shared.receiver ≠ .sender then shared
  else { shared.move caller .starting with receiver := .starter, lifecycleLock := some caller }

/-- The worker can not be prepared: the receiving end goes back. -/
def putBack (shared : SharedSender ι ν) (caller : ι) : SharedSender ι ν :=
  { shared.move caller .outside with receiver := .sender, lifecycleLock := none }

/-- The worker can not be begun: the receiving end is lost with it. -/
def lose (shared : SharedSender ι ν) (caller : ι) : SharedSender ι ν :=
  { shared.move caller .outside with receiver := .gone, lifecycleLock := none }

def launch (shared : SharedSender ι ν) (caller : ι) : SharedSender ι ν :=
  { shared.move caller .launched with sender := shared.sender.launch, receiver := .worker }

def run (shared : SharedSender ι ν) (caller : ι) : SharedSender ι ν :=
  { shared.move caller .outside with
    sender := shared.sender.enter .running
    lifecycleLock := none }

/-! ## Stopping -/

def beginStop (shared : SharedSender ι ν) (caller : ι) : SharedSender ι ν :=
  if shared.sender.phase = .running then
    { shared.move caller .stopping with lifecycleLock := some caller }
  else shared

def halt (shared : SharedSender ι ν) (caller : ι) : SharedSender ι ν :=
  { shared.move caller .halting with
    sender := shared.sender.enter .stopped
    countLock := some caller }

/-- Put the stop item into the queue, if anybody can receive it, and give up both locks. -/
def close (shared : SharedSender ι ν) (caller : ι) : SharedSender ι ν :=
  { shared.move caller .awaiting with
    sender := if shared.receiver = .gone then shared.sender else shared.sender.push .stop
    lifecycleLock := none
    countLock := none }

/-! ## Flushing -/

/-- A flush that has nothing to wait for ends at once. -/
def beginFlush (shared : SharedSender ι ν) (caller : ι) : SharedSender ι ν :=
  if shared.sender.phase ≠ .running ∧ shared.sender.synchronous then shared
  else shared.move caller .flushing

/-! ## The worker -/

/-- The worker takes the next item. It lets go of the queue when that is the stop item. -/
def receive (shared : SharedSender ι ν) : SharedSender ι ν :=
  { shared with
    sender := shared.sender.receive
    receiver :=
      match shared.sender.receive.worker with
      | .exited => .gone
      | _ => shared.receiver }

def deliver (shared : SharedSender ι ν) (capture : Capture ν) : SharedSender ι ν :=
  { shared with
    sender := (shared.sender.deliver shared.outbox).1
    outbox := (shared.sender.deliver shared.outbox).2
    delivered := shared.delivered ++ [capture] }

def finish (shared : SharedSender ι ν) : SharedSender ι ν :=
  { shared with sender := shared.sender.finish }

def abandon (shared : SharedSender ι ν) : SharedSender ι ν :=
  { shared with sender := { shared.sender with worker := .exited }, receiver := .gone }

def drop (shared : SharedSender ι ν) : SharedSender ι ν :=
  { shared with
    dropped := true
    receiver := if shared.receiver = .sender then .gone else shared.receiver }

/-- Whether the caller can begin a call. -/
def Free (shared : SharedSender ι ν) (caller : ι) : Prop :=
  shared.callers caller = .outside ∧ shared.dropped = false

/-- One section of a caller or of the worker. A worker that finds the queue empty changes nothing and comes
back later. A flush that waits for the count changes nothing before it ends. -/
inductive Step : SharedSender ι ν → SharedSender ι ν → Prop where
  | beginSend {shared} (caller capture) (free : shared.Free caller) :
    Step shared (shared.beginSend caller capture)
  | sendInline {shared} (caller capture) (place : shared.callers caller = .sending capture)
      (mode : shared.sender.synchronous = true) :
    Step shared (shared.sendInline caller capture)
  | enqueue {shared} (caller capture) (place : shared.callers caller = .sending capture)
      (mode : shared.sender.synchronous = false) (unlocked : shared.countLock = none) :
    Step shared (shared.enqueue caller capture)
  | countSent {shared} (caller) (place : shared.callers caller = .counting) :
    Step shared (shared.countSent caller)
  | beginStart {shared} (caller) (free : shared.Free caller)
      (unlocked : shared.lifecycleLock = none) :
    Step shared (shared.beginStart caller)
  | putBack {shared} (caller) (place : shared.callers caller = .starting) :
    Step shared (shared.putBack caller)
  | lose {shared} (caller) (place : shared.callers caller = .starting) :
    Step shared (shared.lose caller)
  | launch {shared} (caller) (place : shared.callers caller = .starting) :
    Step shared (shared.launch caller)
  | run {shared} (caller) (place : shared.callers caller = .launched) :
    Step shared (shared.run caller)
  | beginStop {shared} (caller) (free : shared.Free caller)
      (unlocked : shared.lifecycleLock = none) :
    Step shared (shared.beginStop caller)
  | halt {shared} (caller) (place : shared.callers caller = .stopping)
      (unlocked : shared.countLock = none) :
    Step shared (shared.halt caller)
  | close {shared} (caller) (place : shared.callers caller = .halting) :
    Step shared (shared.close caller)
  | endStop {shared} (caller) (place : shared.callers caller = .awaiting) :
    Step shared (shared.move caller .outside)
  | beginFlush {shared} (caller) (free : shared.Free caller) :
    Step shared (shared.beginFlush caller)
  | endFlush {shared} (caller) (place : shared.callers caller = .flushing)
      (unlocked : shared.countLock = none) :
    Step shared (shared.move caller .outside)
  | receive {shared} (idle : shared.sender.worker = .idle) :
    Step shared shared.receive
  | deliver {shared} (capture) (taken : shared.sender.worker = .delivering capture) :
    Step shared (shared.deliver capture)
  | finish {shared} (settling : shared.sender.worker = .settling)
      (unlocked : shared.countLock = none) :
    Step shared shared.finish
  | abandon {shared} (idle : shared.sender.worker = .idle) (empty : shared.sender.queue = [])
      (given : shared.dropped = true) :
    Step shared shared.abandon
  | drop {shared} (alone : ∀ caller, shared.callers caller = .outside) :
    Step shared shared.drop

/-- A run: any number of steps. -/
inductive Run : SharedSender ι ν → SharedSender ι ν → Prop where
  | refl (shared) : Run shared shared
  | step {first shared next} (run : Run first shared) (step : Step shared next) : Run first next

theorem Run.trans {first second third : SharedSender ι ν} (run : Run first second)
    (rest : Run second third) : Run first third := by
  induction rest with
  | refl => exact run
  | step _ step ih => exact ih.step step

/-! ## Calls that nobody interrupts

A call whose sections follow each other at once does what the operation of `Sender` does. -/

theorem start_uninterrupted {shared : SharedSender ι ν} {caller : ι} (free : shared.Free caller)
    (unlocked : shared.lifecycleLock = none)
    (held : shared.sender.phase = .created → shared.receiver = .sender) :
    ∃ next, Run shared next ∧ next.sender = shared.sender.start := by
  have first := (Run.refl shared).step (.beginStart caller free unlocked)
  by_cases created : shared.sender.phase = .created
  · by_cases mode : shared.sender.synchronous
    · refine ⟨_, first, ?_⟩
      simp [beginStart, Sender.start, created, mode]
    · have begun : shared.beginStart caller =
          { shared.move caller .starting with receiver := .starter, lifecycleLock := some caller } := by
        simp [beginStart, created, mode, held created]
      refine ⟨_, (first.step (.launch caller ?_)).step (.run caller ?_), ?_⟩
      · simp [begun, move]
      · simp [launch, move]
      · simp [run, launch, begun, move, Sender.start, created, mode]
  · refine ⟨_, first, ?_⟩
    simp [beginStart, Sender.start, created]

theorem send_uninterrupted {shared : SharedSender ι ν} {caller : ι} (capture : Capture ν)
    (free : shared.Free caller) (unlocked : shared.countLock = none)
    (received : shared.receiver ≠ .gone) :
    ∃ next, Run shared next ∧
      (next.sender, next.outbox) = shared.sender.send capture shared.outbox := by
  have first := (Run.refl shared).step (.beginSend caller capture free)
  by_cases stopped : shared.sender.phase = .stopped
  · refine ⟨_, first, ?_⟩
    simp [beginSend, Sender.send, stopped]
  · have begun : shared.beginSend caller capture = shared.move caller (.sending capture) := by
      simp [beginSend, stopped]
    rw [begun] at first
    by_cases mode : shared.sender.synchronous
    · refine ⟨_, first.step (.sendInline caller capture (by simp [move]) mode), ?_⟩
      simp [sendInline, move, Sender.send, stopped, mode]
    · have put := first.step
        (.enqueue caller capture (by simp [move]) (by simpa [move] using mode) unlocked)
      refine ⟨_, put.step (.countSent caller ?_), ?_⟩
      · simp [enqueue, move, stopped, received]
      · simp [countSent, enqueue, move, Sender.send, Sender.accept, stopped, mode, received]

theorem close_uninterrupted {shared : SharedSender ι ν} {caller : ι} (free : shared.Free caller)
    (unlocked : shared.lifecycleLock = none) (uncounted : shared.countLock = none)
    (received : shared.receiver ≠ .gone) :
    ∃ next, Run shared next ∧ next.sender = shared.sender.close := by
  have first := (Run.refl shared).step (.beginStop caller free unlocked)
  by_cases running : shared.sender.phase = .running
  · have begun : shared.beginStop caller =
        { shared.move caller .stopping with lifecycleLock := some caller } := by
      simp [beginStop, running]
    refine ⟨_, (first.step (.halt caller ?_ ?_)).step (.close caller ?_), ?_⟩
    · simp [begun, move]
    · simpa [begun, move] using uncounted
    · simp [halt, move]
    · simp [close, halt, begun, move, Sender.close, running, received]
  · refine ⟨_, first, ?_⟩
    simp [beginStop, Sender.close, running]

/-- The worker running alone. -/
theorem work_uninterrupted (count : Nat) {shared : SharedSender ι ν}
    (unlocked : shared.countLock = none) :
    ∃ next, Run shared next ∧
      (next.sender, next.outbox) = shared.sender.work count shared.outbox := by
  induction count generalizing shared with
  | zero => exact ⟨shared, .refl shared, rfl⟩
  | succ count ih =>
    obtain ⟨received, run, sender, outbox, still⟩ : ∃ received, Run shared received ∧
        received.sender = shared.sender.receive ∧ received.outbox = shared.outbox ∧
          received.countLock = none := by
      by_cases idle : shared.sender.worker = .idle
      · exact ⟨_, (Run.refl shared).step (.receive idle), rfl, rfl, unlocked⟩
      · refine ⟨shared, .refl shared, ?_, rfl, unlocked⟩
        simp only [Sender.receive]
        split <;> simp_all
    cases taken : received.sender.worker with
    | delivering capture =>
      have delivered := run.step (.deliver capture taken)
      have settling : (received.deliver capture).sender.worker = .settling := by
        simp [deliver, Sender.deliver_of_delivering taken]
      have finished := delivered.step (.finish settling still)
      have unlocked : (received.deliver capture).finish.countLock = none := still
      obtain ⟨next, rest, same⟩ := ih unlocked
      refine ⟨next, finished.trans rest, ?_⟩
      rw [same, Sender.work, ← sender, taken]
      simp [finish, deliver, outbox]
    | absent | idle | settling | exited =>
      refine ⟨received, run, ?_⟩
      rw [Sender.work, ← sender, taken, outbox]

end SharedSender

end LlmTelemetry
