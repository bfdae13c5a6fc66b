import LlmTelemetry.Proofs.Delivery.AcceptanceOrder
/-!
# What a flush tells

A record is counted after it was put into the queue, and taken off the count after it was delivered. Between
these two moments the worker may already have taken it, or may have put it away and not said so. All the same
the count is exact whenever nobody has its lock: the caller that puts a record into the queue keeps the lock
until it has counted it, and the worker needs the lock to be done with it.

The invariant is `Counted`: the count falls short of the records on their way by one exactly while the holder
of the lock has a record to count. A flush looks at the count under the lock, so when it finds nothing there,
nothing is on its way, and what was accepted is delivered.

What a start took along that could not begin the worker stays on the way for ever: the count tells it, and no
flush takes it for delivered.
-/

namespace LlmTelemetry

/-- How many records the worker has received and is not done with. -/
def Worker.unfinished {ν : Type} : Worker ν → Nat
  | .delivering _ => 1
  | .settling => 1
  | _ => 0

namespace Caller

variable {ν : Type}

/-- Whether the caller is in a section on the count of pending records. -/
def inCount : Caller ν → Bool
  | .counting | .halting => true
  | _ => false

/-- How many records the caller has put into the queue without counting them. -/
def uncounted : Caller ν → Nat
  | .counting => 1
  | _ => 0

end Caller

@[simp] theorem Sender.receive_pending {ν : Type} (sender : Sender ν) :
    sender.receive.pending = sender.pending := by
  unfold receive
  split <;> rfl

namespace SharedSender

variable {ι ν : Type}

/-! ## The lock of the count -/

/-- The one who is in a section on the count is the one who has the lock. -/
def Locked (callers : ι → Caller ν) (lock : Option ι) : Prop :=
  ∀ caller, (callers caller).inCount = true ↔ lock = some caller

/-- How many records are in the queue and not counted. -/
def uncounted (callers : ι → Caller ν) : Option ι → Nat
  | some holder => (callers holder).uncounted
  | none => 0

namespace Locked

variable [DecidableEq ι] {callers : ι → Caller ν} {lock : Option ι} {caller : ι} {place : Caller ν}

theorem move (locked : Locked callers lock) (out : (callers caller).inCount = false)
    (into : place.inCount = false) : Locked (Function.update callers caller place) lock := by
  intro other
  by_cases same : other = caller
  · subst same
    have apart := locked other
    rw [out] at apart
    rw [Function.update_self, into]
    exact apart
  · rw [Function.update_of_ne same]
    exact locked other

theorem uncounted_move (locked : Locked callers lock) (out : (callers caller).inCount = false) :
    uncounted (Function.update callers caller place) lock = uncounted callers lock := by
  cases lock with
  | none => rfl
  | some holder =>
    have inside := (locked holder).mpr rfl
    have apart : holder ≠ caller := by
      intro same
      rw [same, out] at inside
      contradiction
    show (Function.update callers caller place holder).uncounted = (callers holder).uncounted
    rw [Function.update_of_ne apart]

theorem acquire (locked : Locked callers none) (into : place.inCount = true) :
    Locked (Function.update callers caller place) (some caller) := by
  intro other
  by_cases same : other = caller
  · subst same
    simp [into]
  · have apart := locked other
    rw [Function.update_of_ne same]
    simp only [reduceCtorEq, iff_false] at apart
    simp [apart, Ne.symm same]

theorem release (locked : Locked callers lock) (inside : (callers caller).inCount = true)
    (out : place.inCount = false) : Locked (Function.update callers caller place) none := by
  have held := (locked caller).mp inside
  intro other
  by_cases same : other = caller
  · subst same
    simp [out]
  · have apart := locked other
    rw [held] at apart
    rw [Function.update_of_ne same]
    simpa [Ne.symm same] using apart

end Locked

/-! ## The count -/

/-- The records that were put into the queue and that the worker is not done with. -/
def onTheWay (shared : SharedSender ι ν) : Nat :=
  shared.sender.queued.length + shared.sender.worker.unfinished

structure Counted (shared : SharedSender ι ν) : Prop where
  locked : Locked shared.callers shared.countLock
  balance : shared.sender.pending + uncounted shared.callers shared.countLock = shared.onTheWay
  queueing : shared.sender.phase ≠ .inline

theorem counted_new (outbox : Outbox ν) : Counted (new false outbox : SharedSender ι ν) where
  locked := by
    intro caller
    simp [new, Caller.inCount]
  balance := rfl
  queueing := by simp [new, Sender.new]

/-- The count is exact while nobody has the lock. -/
theorem Counted.exact {shared : SharedSender ι ν} (counted : Counted shared)
    (unlocked : shared.countLock = none) : shared.sender.pending = shared.onTheWay := by
  have balance := counted.balance
  rw [unlocked] at balance
  exact balance

/-- What the count is made of, and its lock. -/
def tally (shared : SharedSender ι ν) : Option ι × Nat × Nat :=
  (shared.countLock, shared.sender.pending, shared.onTheWay)

/-- A step of the worker, or of nobody, that leaves the count right. -/
theorem Counted.frame {shared next : SharedSender ι ν} (counted : Counted shared)
    (callers : next.callers = shared.callers) (same : next.tally = shared.tally)
    (queueing : next.sender.phase ≠ .inline) : Counted next := by
  simp only [tally, Prod.mk.injEq] at same
  obtain ⟨lock, pending, onTheWay⟩ := same
  refine ⟨?_, ?_, queueing⟩
  · rw [callers, lock]
    exact counted.locked
  · rw [callers, lock, pending, onTheWay]
    exact counted.balance

/-- A caller goes on outside of the sections on the count. -/
theorem Counted.move [DecidableEq ι] {shared next : SharedSender ι ν} (counted : Counted shared)
    {caller : ι} {origin into : Caller ν} (place : shared.callers caller = origin)
    (callers : next.callers = Function.update shared.callers caller into)
    (out : origin.inCount = false ∧ into.inCount = false) (same : next.tally = shared.tally)
    (queueing : next.sender.phase ≠ .inline) : Counted next := by
  have outside : (shared.callers caller).inCount = false := by rw [place]; exact out.1
  simp only [tally, Prod.mk.injEq] at same
  obtain ⟨lock, pending, onTheWay⟩ := same
  refine ⟨?_, ?_, queueing⟩
  · rw [callers, lock]
    exact counted.locked.move outside out.2
  · rw [callers, lock, pending, onTheWay, counted.locked.uncounted_move outside]
    exact counted.balance

/-- The idle worker takes a record from the queue into its hands, or finds the stop item there. -/
theorem onTheWay_receive {shared : SharedSender ι ν} (idle : shared.sender.worker = .idle) :
    shared.receive.onTheWay = shared.onTheWay := by
  cases queue : shared.sender.queue with
  | nil => simp [onTheWay, SharedSender.receive, Sender.receive, idle, queue]
  | cons item rest =>
    cases item with
    | deliver capture =>
      simp [onTheWay, SharedSender.receive, Sender.receive, idle, queue, Sender.queued,
        QueueItem.capture?, Worker.unfinished]
    | stop =>
      have skipped : (QueueItem.stop :: rest).filterMap QueueItem.capture? =
          rest.filterMap QueueItem.capture? := List.filterMap_cons_none rfl
      simp [onTheWay, SharedSender.receive, Sender.receive, idle, queue, Sender.queued,
        Worker.unfinished, skipped]

variable [DecidableEq ι]

/-- What one step does to the count. -/
theorem Step.counted {shared next : SharedSender ι ν} (step : Step shared next)
    (orderly : Orderly shared) (counted : Counted shared) : Counted next := by
  have asynchronous := orderly.asynchronous
  have locked := counted.locked
  have balance := counted.balance
  have queueing := counted.queueing
  cases step with
  | beginSend caller capture free =>
    unfold SharedSender.beginSend
    split
    · exact counted
    · exact counted.move free.1 rfl ⟨rfl, rfl⟩ rfl queueing
  | sendInline caller capture place mode =>
    rw [asynchronous] at mode
    contradiction
  | enqueue caller capture place mode unlocked =>
    unfold SharedSender.enqueue
    split
    · exact counted.move place rfl ⟨rfl, rfl⟩ rfl queueing
    · rw [unlocked] at locked
      have agree := counted.exact unlocked
      refine ⟨locked.acquire rfl, ?_, queueing⟩
      simp only [onTheWay, Sender.queued_push_deliver, Sender.push_worker] at agree ⊢
      simp only [uncounted, move, Function.update_self, Caller.uncounted, Sender.push,
        List.length_append, List.length_singleton]
      omega
  | countSent caller place =>
    have inside : (shared.callers caller).inCount = true := by rw [place]; rfl
    have held := (locked caller).mp inside
    rw [held, uncounted, place] at balance
    refine ⟨locked.release inside rfl, ?_, queueing⟩
    exact balance
  | beginStart caller free unlocked =>
    unfold SharedSender.beginStart
    split
    · exact counted
    split
    · rename_i mode
      rw [asynchronous] at mode
      contradiction
    split
    · exact counted
    · exact counted.move free.1 rfl ⟨rfl, rfl⟩ rfl queueing
  | putBack caller place => exact counted.move place rfl ⟨rfl, rfl⟩ rfl queueing
  | lose caller place => exact counted.move place rfl ⟨rfl, rfl⟩ rfl queueing
  | launch caller place =>
    have absent := orderly.unbegun (.inr (orderly.relies place rfl).2)
    refine counted.move place rfl ⟨rfl, rfl⟩ ?_ queueing
    simp [tally, onTheWay, SharedSender.launch, Sender.launch, move, absent, Worker.unfinished,
      Sender.queued]
  | run caller place => exact counted.move place rfl ⟨rfl, rfl⟩ rfl (by simp [SharedSender.run, Sender.enter])
  | beginStop caller free unlocked =>
    unfold SharedSender.beginStop
    split
    · exact counted.move free.1 rfl ⟨rfl, rfl⟩ rfl queueing
    · exact counted
  | halt caller place unlocked =>
    rw [unlocked] at locked
    have agree := counted.exact unlocked
    refine ⟨locked.acquire rfl, ?_, by simp [SharedSender.halt, Sender.enter]⟩
    show shared.sender.pending + uncounted (Function.update shared.callers caller .halting) (some caller) =
      shared.onTheWay
    rw [uncounted, Function.update_self]
    exact agree
  | close caller place =>
    have inside : (shared.callers caller).inCount = true := by rw [place]; rfl
    have held := (locked caller).mp inside
    rw [held, uncounted, place] at balance
    refine ⟨locked.release inside rfl, ?_, ?_⟩
    · simp only [SharedSender.close, onTheWay]
      split
      · exact balance
      · rw [Sender.queued_push_stop, Sender.push_worker]
        exact balance
    · simp only [SharedSender.close]
      split <;> exact queueing
  | endStop caller place => exact counted.move place rfl ⟨rfl, rfl⟩ rfl queueing
  | beginFlush caller free =>
    unfold SharedSender.beginFlush
    split
    · exact counted
    · exact counted.move free.1 rfl ⟨rfl, rfl⟩ rfl queueing
  | endFlush caller place unlocked => exact counted.move place rfl ⟨rfl, rfl⟩ rfl queueing
  | receive idle =>
    refine counted.frame rfl ?_ (by simpa [SharedSender.receive] using queueing)
    show (shared.countLock, shared.sender.receive.pending, shared.receive.onTheWay) = shared.tally
    rw [Sender.receive_pending, onTheWay_receive idle, tally]
  | deliver capture taken =>
    have sender : (shared.deliver capture).sender = { shared.sender with worker := .settling } := by
      rw [SharedSender.deliver, Sender.deliver_of_delivering taken]
    refine counted.frame rfl ?_ ?_
    · rw [tally, tally, onTheWay, onTheWay, sender, taken]
      rfl
    · rw [sender]
      exact queueing
  | finish settling unlocked =>
    have agree := counted.exact unlocked
    have sender : shared.finish.sender =
        { shared.sender with worker := .idle, pending := shared.sender.pending - 1 } := by
      rw [SharedSender.finish, Sender.finish_of_settling settling]
    refine ⟨locked, ?_, ?_⟩
    · show shared.finish.sender.pending + uncounted shared.callers shared.countLock = _
      rw [unlocked, onTheWay, sender]
      simp only [onTheWay, settling, Worker.unfinished, uncounted, Sender.queued] at agree ⊢
      omega
    · rw [sender]
      exact queueing
  | abandon idle empty given =>
    refine counted.frame rfl ?_ queueing
    simp [tally, onTheWay, SharedSender.abandon, idle, Worker.unfinished, Sender.queued]
  | drop alone => exact counted.frame rfl rfl queueing

/-! ## Flushing -/

theorem Run.counted {first shared : SharedSender ι ν} (run : Run first shared)
    (orderly : Orderly first) (counted : Counted first) : Orderly shared ∧ Counted shared := by
  induction run with
  | refl => exact ⟨orderly, counted⟩
  | step run step ih => exact ⟨step.orderly ih.1, step.counted ih.1 ih.2⟩

theorem Step.accepted_extends {shared next : SharedSender ι ν} (step : Step shared next) :
    shared.accepted <+: next.accepted := by
  cases step with
  | enqueue caller capture place mode unlocked =>
    unfold SharedSender.enqueue
    split
    · exact List.prefix_rfl
    · exact List.prefix_append _ _
  | beginSend caller capture free =>
    unfold SharedSender.beginSend
    split <;> exact List.prefix_rfl
  | beginStart caller free unlocked =>
    unfold SharedSender.beginStart
    split
    · exact List.prefix_rfl
    split
    · exact List.prefix_rfl
    split <;> exact List.prefix_rfl
  | beginStop caller free unlocked =>
    unfold SharedSender.beginStop
    split <;> exact List.prefix_rfl
  | beginFlush caller free =>
    unfold SharedSender.beginFlush
    split <;> exact List.prefix_rfl
  | _ => exact List.prefix_rfl

theorem Run.accepted_extends {shared later : SharedSender ι ν} (run : Run shared later) :
    shared.accepted <+: later.accepted := by
  induction run with
  | refl => exact List.prefix_rfl
  | step run step ih => exact ih.trans step.accepted_extends

omit [DecidableEq ι] in
/-- When nothing is on its way, everything that was accepted is delivered. -/
theorem Lossless.delivered_of_onTheWay {outbox : Outbox ν} {shared : SharedSender ι ν}
    (lossless : Lossless outbox shared) (none : shared.onTheWay = 0) :
    shared.delivered = shared.accepted := by
  have flow := lossless.flow
  obtain ⟨queued, unfinished⟩ := Nat.add_eq_zero_iff.mp none
  have held : shared.sender.worker.held = [] := by
    cases worker : shared.sender.worker with
    | delivering capture =>
      rw [worker] at unfinished
      contradiction
    | _ => rfl
  rw [held, List.eq_nil_of_length_eq_zero queued] at flow
  simpa using flow.symm

/-- What a flush returns that looked at the phase when it began and looks at the count now. -/
def flushed (shared : SharedSender ι ν) (began : Phase) : Bool :=
  (shared.sender.enter began).drained

omit [DecidableEq ι] in
/-- A flush of a sender that queues records tells whether the count is zero, in every phase. -/
theorem pending_of_flushed {shared : SharedSender ι ν} {began : Phase} (queueing : began ≠ .inline)
    (mode : shared.sender.synchronous = false) (told : shared.flushed began = true) :
    shared.sender.pending = 0 := by
  cases began with
  | inline => contradiction
  | created | running | stopped => simpa [flushed, Sender.drained, Sender.enter, mode] using told

/-- Whenever nobody has the lock of the count, it is the number of records in the queue and in the hands of
the worker, so that the worker, when it takes one off, always finds it there. A flush that returns true, in
whatever phase it was called, returns after the delivery of every record that had been accepted before. -/
theorem flush_truthful (outbox : Outbox ν) {shared : SharedSender ι ν}
    (run : Run (new false outbox) shared) :
    (shared.countLock = none →
      shared.sender.pending = shared.sender.queued.length + shared.sender.worker.unfinished ∧
        (shared.sender.worker = .settling → shared.finish.sender.pending + 1 = shared.sender.pending)) ∧
      ∀ caller ended, shared.Free caller → Run (shared.beginFlush caller) ended →
        ended.callers caller = .flushing → ended.countLock = none →
          ended.flushed shared.sender.phase = true →
            shared.accepted <+: ended.delivered ∧
              ended.outbox = ended.delivered.foldl Outbox.deliver outbox := by
  have counted := (run.counted (orderly_new outbox) (counted_new outbox)).2
  refine ⟨fun unlocked => ⟨counted.exact unlocked, fun settling => ?_⟩, ?_⟩
  · have agree := counted.exact unlocked
    rw [onTheWay, settling] at agree
    rw [finish, Sender.finish_of_settling settling]
    simp only [Worker.unfinished] at agree ⊢
    omega
  · intro caller ended free rest place unlocked told
    have whole := (run.step (.beginFlush caller free)).trans rest
    obtain ⟨orderly, lossless⟩ := whole.invariant (orderly_new outbox) (lossless_new outbox)
    have later := (whole.counted (orderly_new outbox) (counted_new outbox)).2
    have empty : ended.onTheWay = 0 := by
      rw [← later.exact unlocked]
      exact pending_of_flushed counted.queueing orderly.asynchronous told
    have begun : shared.accepted <+: (shared.beginFlush caller).accepted :=
      (Step.beginFlush caller free).accepted_extends
    refine ⟨?_, lossless.network⟩
    rw [lossless.delivered_of_onTheWay empty]
    exact begun.trans rest.accepted_extends

/-- A flush of a running sender begins while the worker has a record in its hands, and one that looked at the
count at this moment would return false. It returns true once the record is delivered and taken off the
count. -/
theorem flush_truthful_in_hand :
    ∃ (outbox : Outbox Unit) (capture : Capture Unit) (shared ended : SharedSender Bool Unit),
      Run (new false outbox) shared ∧ Run (shared.beginFlush false) ended ∧
        shared.accepted = [capture] ∧ shared.flushed .running = false ∧
          ended.callers false = .flushing ∧ ended.countLock = none ∧
            ended.flushed shared.sender.phase = true ∧ [capture] <+: ended.delivered := by
  let client : Client Unit := ⟨⟨fun _ network => (.error (.panic "down"), network)⟩, .standard⟩
  let capture : Capture Unit :=
    ⟨{ client, agentId := "a", sessionId := "s" }, .blank "openai" "gpt-4o"⟩
  let outbox : Outbox Unit := { network := (), stamps := fun _ => ⟨"c", "t"⟩ }
  have taken := (Run.refl (new false outbox : SharedSender Bool Unit))
    |>.step (.beginStart true ⟨rfl, rfl⟩ rfl)
    |>.step (.launch true rfl)
    |>.step (.run true rfl)
    |>.step (.beginSend true capture ⟨rfl, rfl⟩)
    |>.step (.enqueue true capture rfl rfl rfl)
    |>.step (.receive rfl)
    |>.step (.countSent true rfl)
  have called {shared : SharedSender Bool Unit} (_ : Run (new false outbox) shared) :
      Run (shared.beginFlush false) (shared.beginFlush false) := .refl _
  have waited := (called taken)
    |>.step (.deliver capture rfl)
    |>.step (.finish rfl rfl)
  have truthful := (flush_truthful outbox taken).2 false _ ⟨rfl, rfl⟩ waited rfl rfl rfl
  exact ⟨outbox, capture, _, _, taken, waited, rfl, rfl, rfl, rfl, rfl, truthful.1⟩

end SharedSender

end LlmTelemetry
