import LlmTelemetry.Proofs.Delivery.SharedSender
/-!
# What a shared sender delivers

An asynchronous sender delivers exactly the records that were put into its queue, in that order, whatever
its callers and its worker do and in whatever order they do it.

The invariant has two halves. `Orderly` is about the callers: one that is in a section on the life of the
worker has the lock, and nobody else can take away the phase that the section began with. So the phase
`stopped` is final, and once the stop item is in the queue nobody is about to put anything behind it
(`Sealed`). `Lossless` is about the records: what was accepted is what was delivered, what the worker holds
and what is queued, one after the other.
-/

namespace LlmTelemetry

namespace QueueItem

variable {ν : Type}

def capture? : QueueItem ν → Option (Capture ν)
  | .deliver capture => some capture
  | .stop => none

end QueueItem

/-- The record that a worker has taken and not delivered yet. -/
def Worker.held {ν : Type} : Worker ν → List (Capture ν)
  | .delivering capture => [capture]
  | _ => []

namespace Sender

variable {ν : Type}

def queued (sender : Sender ν) : List (Capture ν) :=
  sender.queue.filterMap QueueItem.capture?

@[simp] theorem push_worker (sender : Sender ν) (item : QueueItem ν) :
    (sender.push item).worker = sender.worker := rfl

@[simp] theorem queued_push_deliver (sender : Sender ν) (capture : Capture ν) :
    (sender.push (.deliver capture)).queued = sender.queued ++ [capture] := by
  simp [queued, push, QueueItem.capture?]

@[simp] theorem queued_push_stop (sender : Sender ν) : (sender.push .stop).queued = sender.queued := by
  simp [queued, push, QueueItem.capture?]

end Sender

namespace Caller

variable {ν : Type}

/-- Whether the caller is in a section that begins or ends the worker. -/
def inLifecycle : Caller ν → Bool
  | .starting | .launched | .stopping | .halting => true
  | _ => false

/-- What a section that begins or ends the worker relies on. -/
def Relies : Caller ν → Phase → Receiver → Prop
  | .starting, phase, receiver => phase = .created ∧ receiver = .starter
  | .launched, phase, _ => phase = .created
  | .stopping, phase, _ => phase = .running
  | .halting, phase, _ => phase = .stopped
  | _, _, _ => True

end Caller

namespace SharedSender

variable {ι ν : Type}

/-! ## The life of the worker -/

/-- Who is in a section on the life of the worker has the lock and finds what the section relies on. -/
def Guarded (callers : ι → Caller ν) (lock : Option ι) (phase : Phase) (receiver : Receiver) : Prop :=
  ∀ caller, (callers caller).inLifecycle = true →
    lock = some caller ∧ (callers caller).Relies phase receiver

namespace Guarded

variable {callers : ι → Caller ν} {lock : Option ι} {phase : Phase}
  {receiver : Receiver} {caller : ι} {place : Caller ν}

theorem outside_move [DecidableEq ι] (guarded : Guarded callers lock phase receiver)
    (out : place.inLifecycle = false) :
    Guarded (Function.update callers caller place) lock phase receiver := by
  intro other inside
  by_cases same : other = caller
  · subst same
    rw [Function.update_self, out] at inside
    contradiction
  · rw [Function.update_of_ne same] at inside ⊢
    exact guarded other inside

theorem enter [DecidableEq ι] (guarded : Guarded callers none phase receiver) (phase' : Phase)
    (receiver' : Receiver) (relies : place.Relies phase' receiver') :
    Guarded (Function.update callers caller place) (some caller) phase' receiver' := by
  intro other inside
  by_cases same : other = caller
  · subst same
    rw [Function.update_self]
    exact ⟨rfl, relies⟩
  · rw [Function.update_of_ne same] at inside
    exact absurd (guarded other inside).1 (by simp)

theorem alone (guarded : Guarded callers lock phase receiver)
    (inside : (callers caller).inLifecycle = true) {other : ι} (different : other ≠ caller) :
    (callers other).inLifecycle = false := by
  rw [← Bool.not_eq_true]
  intro both
  have holder := (guarded caller inside).1.symm.trans (guarded other both).1
  exact different (Option.some.inj holder).symm

theorem advance [DecidableEq ι] (guarded : Guarded callers lock phase receiver)
    (inside : (callers caller).inLifecycle = true) (phase' : Phase) (receiver' : Receiver)
    (relies : place.Relies phase' receiver') :
    Guarded (Function.update callers caller place) lock phase' receiver' := by
  intro other inside'
  by_cases same : other = caller
  · subst same
    rw [Function.update_self]
    exact ⟨(guarded other inside).1, relies⟩
  · rw [Function.update_of_ne same, guarded.alone inside same] at inside'
    contradiction

theorem leave [DecidableEq ι] (guarded : Guarded callers lock phase receiver)
    (inside : (callers caller).inLifecycle = true) (out : place.inLifecycle = false)
    (lock' : Option ι) (phase' : Phase) (receiver' : Receiver) :
    Guarded (Function.update callers caller place) lock' phase' receiver' := by
  intro other inside'
  by_cases same : other = caller
  · subst same
    rw [Function.update_self, out] at inside'
    contradiction
  · rw [Function.update_of_ne same, guarded.alone inside same] at inside'
    contradiction

/-- Only a start relies on who has the receiving end. -/
theorem receiver_change (guarded : Guarded callers lock phase receiver)
    (held : receiver ≠ .starter) (receiver' : Receiver) :
    Guarded callers lock phase receiver' := by
  intro other inside
  obtain ⟨holder, relies⟩ := guarded other inside
  refine ⟨holder, ?_⟩
  cases place : callers other with
  | starting =>
    rw [place] at relies
    exact absurd relies.2 held
  | launched | stopping | halting =>
    rw [place] at relies
    exact relies
  | _ => trivial

end Guarded

/-- The order among the callers of an asynchronous sender. -/
structure Orderly (shared : SharedSender ι ν) : Prop where
  asynchronous : shared.sender.synchronous = false
  guarded : Guarded shared.callers shared.lifecycleLock shared.sender.phase shared.receiver
  unbegun : shared.receiver = .sender ∨ shared.receiver = .starter → shared.sender.worker = .absent
  left : shared.dropped = true → ∀ caller, shared.callers caller = .outside

theorem Orderly.receiver_ne {shared : SharedSender ι ν} (orderly : Orderly shared)
    (begun : shared.sender.worker ≠ .absent) :
    shared.receiver ≠ .sender ∧ shared.receiver ≠ .starter :=
  ⟨fun held => begun (orderly.unbegun (.inl held)), fun held => begun (orderly.unbegun (.inr held))⟩

theorem orderly_new (outbox : Outbox ν) : Orderly (new false outbox : SharedSender ι ν) where
  asynchronous := rfl
  guarded := by
    intro caller inside
    simp [new, Caller.inLifecycle] at inside
  unbegun := fun _ => rfl
  left := fun _ _ => rfl

/-- Nobody is in a call once the sender was given up. -/
theorem Orderly.kept {shared : SharedSender ι ν} (orderly : Orderly shared) (caller : ι)
    (inside : shared.callers caller ≠ .outside) : shared.dropped = false := by
  rw [← Bool.not_eq_true]
  exact fun dropped => inside (orderly.left dropped caller)

theorem Orderly.relies {shared : SharedSender ι ν} (orderly : Orderly shared) {caller : ι}
    {place : Caller ν} (found : shared.callers caller = place) (inside : place.inLifecycle = true) :
    place.Relies shared.sender.phase shared.receiver := by
  subst found
  exact (orderly.guarded caller inside).2

/-- A sender that was not given up stays orderly when its callers stay guarded. -/
theorem Orderly.next {shared next : SharedSender ι ν} (orderly : Orderly shared)
    (kept : shared.dropped = false) (dropped : next.dropped = shared.dropped)
    (mode : next.sender.synchronous = shared.sender.synchronous)
    (guarded : Guarded next.callers next.lifecycleLock next.sender.phase next.receiver)
    (unbegun : next.receiver = .sender ∨ next.receiver = .starter → next.sender.worker = .absent) :
    Orderly next where
  asynchronous := mode.trans orderly.asynchronous
  guarded := guarded
  unbegun := unbegun
  left := fun given => absurd (kept.symm.trans (dropped.symm.trans given)) (by simp)

variable [DecidableEq ι]

/-- What one step does to the order among the callers. -/
theorem Step.orderly {shared next : SharedSender ι ν} (step : Step shared next)
    (orderly : Orderly shared) : Orderly next := by
  have asynchronous := orderly.asynchronous
  have guarded := orderly.guarded
  have unbegun := orderly.unbegun
  have moved (caller : ι) (place : Caller ν) (out : place.inLifecycle = false)
      (kept : shared.dropped = false) : Orderly (shared.move caller place) :=
    orderly.next kept rfl rfl (guarded.outside_move out) unbegun
  cases step with
  | beginSend caller capture free =>
    unfold SharedSender.beginSend
    split
    · exact orderly
    · exact moved caller _ rfl free.2
  | sendInline caller capture place mode =>
    rw [asynchronous] at mode
    contradiction
  | enqueue caller capture place mode unlocked =>
    have kept := orderly.kept caller (by simp [place])
    unfold SharedSender.enqueue
    split
    · exact moved caller _ rfl kept
    · exact orderly.next kept rfl rfl (guarded.outside_move rfl) unbegun
  | countSent caller place =>
    have kept := orderly.kept caller (by simp [place])
    exact orderly.next kept rfl rfl (guarded.outside_move rfl) unbegun
  | beginStart caller free unlocked =>
    rw [unlocked] at guarded
    unfold SharedSender.beginStart
    split
    · exact orderly
    rename_i created
    split
    · rename_i mode
      rw [asynchronous] at mode
      contradiction
    split
    · exact orderly
    rename_i held
    rw [not_not] at created held
    exact orderly.next free.2 rfl rfl (guarded.enter _ _ ⟨created, rfl⟩)
      fun _ => unbegun (.inl held)
  | putBack caller place =>
    have kept := orderly.kept caller (by simp [place])
    have inside : (shared.callers caller).inLifecycle = true := by rw [place]; rfl
    exact orderly.next kept rfl rfl (guarded.leave inside rfl _ _ _)
      fun _ => unbegun (.inr (orderly.relies place rfl).2)
  | lose caller place =>
    have kept := orderly.kept caller (by simp [place])
    have inside : (shared.callers caller).inLifecycle = true := by rw [place]; rfl
    exact orderly.next kept rfl rfl (guarded.leave inside rfl _ _ _) (by simp [SharedSender.lose])
  | launch caller place =>
    have kept := orderly.kept caller (by simp [place])
    have inside : (shared.callers caller).inLifecycle = true := by rw [place]; rfl
    exact orderly.next kept rfl rfl (guarded.advance inside _ _ (orderly.relies place rfl).1)
      (by simp [SharedSender.launch])
  | run caller place =>
    have kept := orderly.kept caller (by simp [place])
    have inside : (shared.callers caller).inLifecycle = true := by rw [place]; rfl
    exact orderly.next kept rfl rfl (guarded.leave inside rfl _ _ _) unbegun
  | beginStop caller free unlocked =>
    rw [unlocked] at guarded
    unfold SharedSender.beginStop
    split
    · rename_i running
      exact orderly.next free.2 rfl rfl (guarded.enter _ _ running) unbegun
    · exact orderly
  | halt caller place unlocked =>
    have kept := orderly.kept caller (by simp [place])
    have inside : (shared.callers caller).inLifecycle = true := by rw [place]; rfl
    exact orderly.next kept rfl rfl (guarded.advance inside _ _ rfl) unbegun
  | close caller place =>
    have kept := orderly.kept caller (by simp [place])
    have inside : (shared.callers caller).inLifecycle = true := by rw [place]; rfl
    refine orderly.next kept rfl ?_ (guarded.leave inside rfl _ _ _) ?_
    · simp only [SharedSender.close]
      split <;> rfl
    · simp only [SharedSender.close]
      split <;> exact unbegun
  | endStop caller place => exact moved caller _ rfl (orderly.kept caller (by simp [place]))
  | beginFlush caller free =>
    unfold SharedSender.beginFlush
    split
    · exact orderly
    · exact moved caller _ rfl free.2
  | endFlush caller place unlocked =>
    exact moved caller _ rfl (orderly.kept caller (by simp [place]))
  | receive idle =>
    have begun := orderly.receiver_ne (by simp [idle])
    refine ⟨?_, ?_, ?_, orderly.left⟩
    · simpa [SharedSender.receive] using asynchronous
    · simpa [SharedSender.receive] using guarded.receiver_change begun.2 _
    · simp only [SharedSender.receive]
      split <;> simp [begun]
  | deliver capture taken =>
    have begun := orderly.receiver_ne (by simp [taken])
    refine ⟨?_, ?_, ?_, orderly.left⟩
    · simpa [SharedSender.deliver, Sender.deliver_of_delivering taken] using asynchronous
    · simpa [SharedSender.deliver, Sender.deliver_of_delivering taken] using guarded
    · simp [SharedSender.deliver, begun]
  | finish settling unlocked =>
    have begun := orderly.receiver_ne (by simp [settling])
    refine ⟨?_, ?_, ?_, orderly.left⟩
    · simpa [SharedSender.finish, Sender.finish_of_settling settling] using asynchronous
    · simpa [SharedSender.finish, Sender.finish_of_settling settling] using guarded
    · simp [SharedSender.finish, begun]
  | abandon idle empty given =>
    have begun := orderly.receiver_ne (by simp [idle])
    exact ⟨asynchronous, guarded.receiver_change begun.2 _, by simp [SharedSender.abandon], orderly.left⟩
  | drop alone =>
    refine ⟨asynchronous, ?_, ?_, fun _ => alone⟩
    · intro caller inside
      rw [show shared.drop.callers caller = .outside from alone caller] at inside
      contradiction
    · simp only [SharedSender.drop]
      split
      · simp
      · exact unbegun

/-! ## The stop item -/

/-- No record is accepted once the sender has stopped, and it does not start again. -/
theorem Step.stopped {shared next : SharedSender ι ν} (step : Step shared next)
    (orderly : Orderly shared) (stopped : shared.sender.phase = .stopped) :
    next.sender.phase = .stopped ∧ next.accepted = shared.accepted := by
  cases step with
  | beginSend caller capture free => simp [SharedSender.beginSend, stopped]
  | sendInline caller capture place mode => exact ⟨stopped, rfl⟩
  | enqueue caller capture place mode unlocked => simp [SharedSender.enqueue, stopped, move]
  | countSent caller place => exact ⟨stopped, rfl⟩
  | beginStart caller free unlocked => simp [SharedSender.beginStart, stopped]
  | putBack caller place => exact ⟨stopped, rfl⟩
  | lose caller place => exact ⟨stopped, rfl⟩
  | launch caller place => exact ⟨stopped, rfl⟩
  | run caller place =>
    -- A start is under way in the phase `created` only, so none is left to change the phase.
    have created : shared.sender.phase = .created := orderly.relies place rfl
    rw [stopped] at created
    contradiction
  | beginStop caller free unlocked => simp [SharedSender.beginStop, stopped]
  | halt caller place unlocked => exact ⟨rfl, rfl⟩
  | close caller place =>
    simp only [SharedSender.close]
    split <;> exact ⟨stopped, rfl⟩
  | endStop caller place => exact ⟨stopped, rfl⟩
  | beginFlush caller free =>
    simp only [SharedSender.beginFlush]
    split <;> exact ⟨stopped, rfl⟩
  | endFlush caller place unlocked => exact ⟨stopped, rfl⟩
  | receive idle => simpa [SharedSender.receive] using stopped
  | deliver capture taken =>
    simpa [SharedSender.deliver, Sender.deliver_of_delivering taken] using stopped
  | finish settling unlocked =>
    simpa [SharedSender.finish, Sender.finish_of_settling settling] using stopped
  | abandon idle empty given => exact ⟨stopped, rfl⟩
  | drop alone => exact ⟨stopped, rfl⟩

/-- The sender has stopped, and its stop item is in the queue or was. -/
def Sealed (shared : SharedSender ι ν) : Prop :=
  shared.sender.phase = .stopped ∧ ∀ caller, shared.callers caller ≠ .halting

theorem Sealed.move {shared next : SharedSender ι ν} (was : Sealed shared)
    (stopped : next.sender.phase = .stopped) {caller : ι} {place : Caller ν}
    (moved : next.callers = Function.update shared.callers caller place)
    (elsewhere : place ≠ .halting) : Sealed next := by
  refine ⟨stopped, fun other => ?_⟩
  rw [moved, Function.update_apply]
  split
  · exact elsewhere
  · exact was.2 other

theorem Step.sealed {shared next : SharedSender ι ν} (step : Step shared next)
    (orderly : Orderly shared) (was : Sealed shared) : Sealed next := by
  have stopped := (step.stopped orderly was.1).1
  cases step with
  | beginSend caller capture free =>
    simpa [SharedSender.beginSend, was.1] using was
  | sendInline caller capture place mode => exact was.move stopped rfl (by simp)
  | enqueue caller capture place mode unlocked =>
    have rejected : shared.enqueue caller capture = shared.move caller .outside := by
      simp [SharedSender.enqueue, was.1]
    exact was.move stopped (by rw [rejected]; rfl) (by simp)
  | countSent caller place => exact was.move stopped rfl (by simp)
  | beginStart caller free unlocked =>
    simpa [SharedSender.beginStart, was.1] using was
  | putBack caller place => exact was.move stopped rfl (by simp)
  | lose caller place => exact was.move stopped rfl (by simp)
  | launch caller place => exact was.move stopped rfl (by simp)
  | run caller place => exact was.move stopped rfl (by simp)
  | beginStop caller free unlocked =>
    simpa [SharedSender.beginStop, was.1] using was
  | halt caller place unlocked =>
    have running : shared.sender.phase = .running := orderly.relies place rfl
    rw [was.1] at running
    contradiction
  | close caller place => exact absurd place (was.2 caller)
  | endStop caller place => exact was.move stopped rfl (by simp)
  | beginFlush caller free =>
    revert stopped
    unfold SharedSender.beginFlush
    split
    · exact fun _ => was
    · exact fun stopped => was.move stopped rfl (by simp)
  | endFlush caller place unlocked => exact was.move stopped rfl (by simp)
  | receive idle => exact ⟨stopped, was.2⟩
  | deliver capture taken => exact ⟨stopped, was.2⟩
  | finish settling unlocked => exact ⟨stopped, was.2⟩
  | abandon idle empty given => exact ⟨stopped, was.2⟩
  | drop alone => exact ⟨stopped, was.2⟩

/-- The stop item comes into the queue in the step that ends the section of its stop, when nobody else
can be in such a section. -/
theorem Orderly.sealed_close {shared : SharedSender ι ν} (orderly : Orderly shared) {caller : ι}
    (place : shared.callers caller = .halting) : Sealed (shared.close caller) := by
  have stopped : shared.sender.phase = .stopped := orderly.relies place rfl
  have inside : (shared.callers caller).inLifecycle = true := by rw [place]; rfl
  refine ⟨?_, fun other => ?_⟩
  · simp only [close]
    split <;> exact stopped
  · by_cases same : other = caller
    · simp [close, move, same]
    · intro halting
      have elsewhere := orderly.guarded.alone inside same
      simp only [close, move, Function.update_of_ne same] at halting
      rw [halting] at elsewhere
      contradiction

/-! ## The records -/

/-- What becomes of the records of an asynchronous sender that began with the given network. -/
structure Lossless (outbox : Outbox ν) (shared : SharedSender ι ν) : Prop where
  network : shared.outbox = shared.delivered.foldl Outbox.deliver outbox
  flow : shared.accepted = shared.delivered ++ shared.sender.worker.held ++ shared.sender.queued
  closed : .stop ∈ shared.sender.queue → Sealed shared
  last : .stop ∉ shared.sender.queue.dropLast
  exited : shared.sender.worker = .exited →
    shared.sender.queue = [] ∧ (Sealed shared ∨ shared.dropped = true)

omit [DecidableEq ι] in
theorem lossless_new (outbox : Outbox ν) :
    Lossless outbox (new false outbox : SharedSender ι ν) where
  network := rfl
  flow := rfl
  closed := by simp [new, Sender.new]
  last := by simp [new, Sender.new]
  exited := by simp [new, Sender.new]

def goods (shared : SharedSender ι ν) :
    List (QueueItem ν) × Worker ν × Outbox ν × List (Capture ν) × List (Capture ν) × Bool :=
  (shared.sender.queue, shared.sender.worker, shared.outbox, shared.accepted, shared.delivered,
    shared.dropped)

omit [DecidableEq ι] in
/-- A step that leaves the records where they are. -/
theorem Lossless.frame {outbox : Outbox ν} {shared next : SharedSender ι ν}
    (lossless : Lossless outbox shared) (same : next.goods = shared.goods)
    (closed : Sealed shared → Sealed next) : Lossless outbox next := by
  simp only [goods, Prod.mk.injEq] at same
  obtain ⟨queue, worker, network, accepted, delivered, dropped⟩ := same
  refine ⟨?_, ?_, ?_, ?_, ?_⟩
  · rw [network, delivered]
    exact lossless.network
  · rw [accepted, delivered, worker, Sender.queued, queue]
    exact lossless.flow
  · rw [queue]
    exact fun stop => closed (lossless.closed stop)
  · rw [queue]
    exact lossless.last
  · rw [worker, queue, dropped]
    exact fun exited => (lossless.exited exited).imp_right (Or.imp_left closed)

omit [DecidableEq ι] in
/-- While the sender is open, there is no stop item in the queue and the worker is there. -/
theorem Lossless.opened {outbox : Outbox ν} {shared : SharedSender ι ν}
    (lossless : Lossless outbox shared) (opened : ¬ Sealed shared) :
    .stop ∉ shared.sender.queue ∧ (shared.dropped = false → shared.sender.worker ≠ .exited) := by
  refine ⟨fun stop => opened (lossless.closed stop), fun kept exited => ?_⟩
  obtain closed | dropped := (lossless.exited exited).2
  · exact opened closed
  · rw [kept] at dropped
    contradiction

omit [DecidableEq ι] in
/-- The worker takes the next record into its hands, or comes to the stop item and so to the end of the
queue. -/
theorem Lossless.receive {outbox : Outbox ν} {shared : SharedSender ι ν}
    (lossless : Lossless outbox shared) (idle : shared.sender.worker = .idle)
    (closed : Sealed shared → Sealed shared.receive) : Lossless outbox shared.receive := by
  have flow := lossless.flow
  have last := lossless.last
  have stop := lossless.closed
  rw [idle] at flow
  cases queue : shared.sender.queue with
  | nil =>
    have same : shared.sender.receive = shared.sender := by simp [Sender.receive, idle, queue]
    exact lossless.frame (by simp [goods, SharedSender.receive, same]) closed
  | cons item rest =>
    rw [queue] at last stop
    simp only [Sender.queued, queue] at flow
    cases item with
    | deliver capture =>
      have taken : shared.sender.receive =
          { shared.sender with worker := .delivering capture, queue := rest } := by
        simp [Sender.receive, idle, queue]
      refine ⟨lossless.network, ?_, fun later => closed (stop ?_), ?_, ?_⟩
      all_goals simp only [SharedSender.receive, taken] at *
      · simpa [Worker.held, Sender.queued, QueueItem.capture?] using flow
      · exact List.mem_cons_of_mem _ later
      · cases rest with
        | nil => simp
        | cons next rest => exact fun later => last (by simp [later])
      · simp
    | stop =>
      have taken : shared.sender.receive = { shared.sender with worker := .exited, queue := rest } := by
        simp [Sender.receive, idle, queue]
      have empty : rest = [] := by
        cases rest with
        | nil => rfl
        | cons next rest => simp at last
      subst empty
      refine ⟨lossless.network, ?_, ?_, ?_, fun _ => ⟨?_, .inl (closed (stop (by simp)))⟩⟩
      all_goals simp only [SharedSender.receive, taken]
      · simpa [Worker.held, Sender.queued, QueueItem.capture?, List.filterMap_cons] using flow
      · simp
      · simp

/-- What one step does to the records. -/
theorem Step.lossless {outbox : Outbox ν} {shared next : SharedSender ι ν}
    (step : Step shared next) (orderly : Orderly shared) (lossless : Lossless outbox shared) :
    Lossless outbox next := by
  have closed := step.sealed orderly
  cases step with
  | beginSend caller capture free =>
    refine lossless.frame ?_ closed
    unfold SharedSender.beginSend
    split <;> rfl
  | sendInline caller capture place mode =>
    rw [orderly.asynchronous] at mode
    contradiction
  | enqueue caller capture place mode unlocked =>
    by_cases rejected : shared.sender.phase = .stopped ∨ shared.receiver = .gone
    · refine lossless.frame ?_ closed
      rw [SharedSender.enqueue, if_pos rejected]
      rfl
    · -- The phase is looked at under the lock that a stop needs, so there is no stop item to get behind.
      have kept := orderly.kept caller (by simp [place])
      have opened := lossless.opened fun was => rejected (.inl was.1)
      rw [SharedSender.enqueue, if_neg rejected]
      refine ⟨lossless.network, ?_, ?_, ?_, fun exited => absurd exited (opened.2 kept)⟩
      · simp only [Sender.queued_push_deliver, lossless.flow, List.append_assoc]
        rfl
      · intro stop
        simp only [Sender.push, List.mem_append, List.mem_singleton, reduceCtorEq, or_false] at stop
        exact absurd stop opened.1
      · simpa [Sender.push] using opened.1
  | countSent caller place => exact lossless.frame rfl closed
  | beginStart caller free unlocked =>
    refine lossless.frame ?_ closed
    unfold SharedSender.beginStart
    split
    · rfl
    split
    · rfl
    split <;> rfl
  | putBack caller place => exact lossless.frame rfl closed
  | lose caller place => exact lossless.frame rfl closed
  | launch caller place =>
    have absent := orderly.unbegun (.inr (orderly.relies place rfl).2)
    have flow := lossless.flow
    rw [absent] at flow
    exact ⟨lossless.network, flow, fun stop => closed (lossless.closed stop), lossless.last,
      by simp [SharedSender.launch, Sender.launch]⟩
  | run caller place => exact lossless.frame rfl closed
  | beginStop caller free unlocked =>
    refine lossless.frame ?_ closed
    unfold SharedSender.beginStop
    split <;> rfl
  | halt caller place unlocked => exact lossless.frame rfl closed
  | close caller place =>
    -- The sender has stopped, and is not sealed as long as this caller is still to put in the stop item.
    have kept := orderly.kept caller (by simp [place])
    have opened := lossless.opened fun was => was.2 caller place
    have closed := orderly.sealed_close place
    refine ⟨lossless.network, ?_, fun _ => closed, ?_, ?_⟩
    all_goals simp only [SharedSender.close]
    · split <;> simpa [move] using lossless.flow
    · split
      · exact lossless.last
      · simpa [Sender.push] using opened.1
    · split <;> exact fun exited => absurd exited (opened.2 kept)
  | endStop caller place => exact lossless.frame rfl closed
  | beginFlush caller free =>
    refine lossless.frame ?_ closed
    unfold SharedSender.beginFlush
    split <;> rfl
  | endFlush caller place unlocked => exact lossless.frame rfl closed
  | receive idle => exact lossless.receive idle closed
  | deliver capture taken =>
    have flow := lossless.flow
    rw [taken] at flow
    refine ⟨?_, ?_, fun stop => closed (lossless.closed ?_), ?_, ?_⟩
    all_goals simp only [SharedSender.deliver, Sender.deliver_of_delivering taken] at *
    · rw [List.foldl_append, ← lossless.network]
      rfl
    · simpa [Worker.held, Sender.queued] using flow
    · exact stop
    · exact lossless.last
    · simp
  | finish settling unlocked =>
    have flow := lossless.flow
    rw [settling] at flow
    refine ⟨lossless.network, ?_, fun stop => closed (lossless.closed ?_), ?_, ?_⟩
    all_goals simp only [SharedSender.finish, Sender.finish_of_settling settling] at *
    · exact flow
    · exact stop
    · exact lossless.last
    · simp
  | abandon idle empty given =>
    have flow := lossless.flow
    rw [idle] at flow
    exact ⟨lossless.network, flow, fun stop => closed (lossless.closed stop), lossless.last,
      fun _ => ⟨empty, .inr given⟩⟩
  | drop alone =>
    exact ⟨lossless.network, lossless.flow, lossless.closed, lossless.last,
      fun exited => ⟨(lossless.exited exited).1, .inr rfl⟩⟩

/-! ## Runs -/

theorem Run.invariant {outbox : Outbox ν} {first shared : SharedSender ι ν} (run : Run first shared)
    (orderly : Orderly first) (lossless : Lossless outbox first) :
    Orderly shared ∧ Lossless outbox shared := by
  induction run with
  | refl => exact ⟨orderly, lossless⟩
  | step run step ih => exact ⟨step.orderly ih.1, step.lossless ih.1 ih.2⟩

theorem Run.stopped {shared later : SharedSender ι ν} (run : Run shared later)
    (orderly : Orderly shared) (stopped : shared.sender.phase = .stopped) :
    Orderly later ∧ later.sender.phase = .stopped ∧ later.accepted = shared.accepted := by
  induction run with
  | refl => exact ⟨orderly, stopped, rfl⟩
  | step run step ih =>
    obtain ⟨between, still, same⟩ := ih
    obtain ⟨stopped, accepted⟩ := step.stopped between still
    exact ⟨step.orderly between, stopped, accepted.trans same⟩

omit [DecidableEq ι] in
/-- Nothing stands behind the stop item. -/
theorem Lossless.stop_is_last {outbox : Outbox ν} {shared : SharedSender ι ν}
    (lossless : Lossless outbox shared) (earlier later : List (QueueItem ν))
    (queue : shared.sender.queue = earlier ++ .stop :: later) : later = [] := by
  cases later with
  | nil => rfl
  | cons item later =>
    have last := lossless.last
    rw [queue, List.dropLast_append_of_ne_nil (by simp)] at last
    simp at last

/-- At every moment of every run of an asynchronous sender, what its worker has delivered are the first of
the accepted records, in the order of acceptance, and the others are in its hands or in the queue. Nothing
stands behind the stop item. When the worker has left, all accepted records are delivered. A send that finds
the sender stopped, in its first look or in its second, leaves the sender and the deliveries as they are,
and after the stop no record is accepted any more. -/
theorem delivers_accepted (outbox : Outbox ν) {shared : SharedSender ι ν}
    (run : Run (new false outbox) shared) :
    shared.outbox = shared.delivered.foldl Outbox.deliver outbox ∧
      shared.delivered <+: shared.accepted ∧
      shared.accepted = shared.delivered ++ shared.sender.worker.held ++ shared.sender.queued ∧
      (∀ earlier later, shared.sender.queue = earlier ++ .stop :: later → later = []) ∧
      (shared.sender.worker = .exited → shared.delivered = shared.accepted) ∧
      (shared.sender.phase = .stopped →
        (∀ caller capture next,
          next = shared.beginSend caller capture ∨ next = shared.enqueue caller capture →
            next.sender = shared.sender ∧ next.outbox = shared.outbox ∧
              next.accepted = shared.accepted ∧ next.delivered = shared.delivered) ∧
        ∀ later, Run shared later →
          later.sender.phase = .stopped ∧ later.accepted = shared.accepted) := by
  obtain ⟨orderly, lossless⟩ := run.invariant (orderly_new outbox) (lossless_new outbox)
  refine ⟨lossless.network, ?_, lossless.flow, lossless.stop_is_last, fun exited => ?_, fun stopped =>
    ⟨fun caller capture next found => ?_, fun later run => (run.stopped orderly stopped).2⟩⟩
  · rw [lossless.flow, List.append_assoc]
    exact List.prefix_append _ _
  · have empty := (lossless.exited exited).1
    rw [lossless.flow, exited, Sender.queued, empty]
    simp [Worker.held]
  · rcases found with rfl | rfl
    · rw [beginSend, if_pos stopped]
      exact ⟨rfl, rfl, rfl, rfl⟩
    · rw [enqueue, if_pos (.inl stopped)]
      exact ⟨rfl, rfl, rfl, rfl⟩

/-- A record accepted before the start is delivered, and one whose send looks at the sender just before the
stop and again just after it is not accepted. -/
theorem delivers_accepted_around_stop :
    ∃ (outbox : Outbox Unit) (first : Capture Unit) (shared : SharedSender Bool Unit),
      Run (new false outbox) shared ∧ shared.sender.worker = .exited ∧
        shared.delivered = shared.accepted ∧ shared.accepted = [first] := by
  let client : Client Unit := ⟨⟨fun _ network => (.ok { status := 200 }, network)⟩, .standard⟩
  let snapshot : Snapshot Unit := { client, agentId := "a", sessionId := "s" }
  let first : Capture Unit := ⟨snapshot, .blank "openai" "first"⟩
  let second : Capture Unit := ⟨snapshot, .blank "openai" "second"⟩
  let outbox : Outbox Unit := { network := (), stamps := fun _ => ⟨"c", "t"⟩ }
  have accepted := (Run.refl (new false outbox : SharedSender Bool Unit))
    |>.step (.beginSend true first ⟨rfl, rfl⟩)
    |>.step (.enqueue true first rfl rfl rfl)
    |>.step (.countSent true rfl)
  have started := accepted
    |>.step (.beginStart false ⟨rfl, rfl⟩ rfl)
    |>.step (.launch false rfl)
    |>.step (.run false rfl)
  have delivered := started
    |>.step (.beginSend true second ⟨rfl, rfl⟩)
    |>.step (.receive rfl)
    |>.step (.deliver first rfl)
    |>.step (.finish rfl rfl)
  have stopped := delivered
    |>.step (.beginStop false ⟨rfl, rfl⟩ rfl)
    |>.step (.halt false rfl rfl)
    |>.step (.close false rfl)
  have left := stopped
    |>.step (.enqueue true second rfl rfl rfl)
    |>.step (.receive rfl)
  exact ⟨outbox, first, _, left, rfl, (delivers_accepted outbox left).2.2.2.2.1 rfl, rfl⟩

end SharedSender

end LlmTelemetry
