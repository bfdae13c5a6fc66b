import LlmTelemetry.Proofs.Delivery.AcceptanceOrder
import Mathlib.Data.Set.Subsingleton
/-!
# The life of a sender

A history is all that ever happens to one sender, whoever calls it and in whatever order the sections of the calls
and of the worker follow each other. The phase of the sender goes one way only, the way of its mode. A start gives the
receiving end of the queue to the worker that it begins, and nobody gives it back; so there is one worker at most, and
what is taken from the queue is taken by it. A stop puts its item into the queue when the sender has just stopped; so
there is one such item at most.

A synchronous sender has nothing of this: no worker, and nothing in its queue.
-/

namespace LlmTelemetry

namespace Phase

/-- The ways from one phase to the next, in each mode. -/
inductive Moves : (synchronous : Bool) → Phase → Phase → Prop
  | run : Moves false .created .running
  | stop : Moves false .running .stopped
  | inline : Moves true .created .inline

/-- The phases of each mode, in their order. -/
def course : (synchronous : Bool) → List Phase
  | false => [.created, .running, .stopped]
  | true => [.created, .inline]

theorem Moves.mem_course {synchronous : Bool} {phase next : Phase} (moves : Moves synchronous phase next) :
    next ∈ course synchronous := by
  cases moves <;> decide

end Phase

/-- Whether the worker was begun and has not left. -/
def Worker.isActive {ν : Type} : Worker ν → Bool
  | .absent | .exited => false
  | .idle | .delivering _ | .settling => true

/-- Who can receive from the queue of a sender, and what its worker does. -/
structure Custody (ν : Type) where
  receiver : Receiver
  worker : Worker ν

namespace Custody

variable {ν : Type} {custody next : Custody ν}

/-- How the receiving end of the queue passes from hand to hand, when no worker is begun. -/
inductive Next : Custody ν → Custody ν → Prop
  | stay (same : Custody ν) : Next same same
  | take : Next ⟨.sender, .absent⟩ ⟨.starter, .absent⟩
  | putBack : Next ⟨.starter, .absent⟩ ⟨.sender, .absent⟩
  | lose : Next ⟨.starter, .absent⟩ ⟨.gone, .absent⟩
  | work (receiver : Receiver) {worker worker' : Worker ν} (active : worker.isActive = true)
      (still : worker'.isActive = true) : Next ⟨receiver, worker⟩ ⟨receiver, worker'⟩
  | leave (receiver : Receiver) {worker : Worker ν} (active : worker.isActive = true) :
    Next ⟨receiver, worker⟩ ⟨.gone, .exited⟩
  | drop : Next ⟨.sender, .absent⟩ ⟨.gone, .absent⟩

/-- The receiving end was given to a worker, or is lost. -/
def Begun (custody : Custody ν) : Prop :=
  custody.receiver = .worker ∨ custody.receiver = .gone

/-- A worker that is at work has the receiving end. -/
def Held (custody : Custody ν) : Prop :=
  custody.worker.isActive = true → custody.receiver = .worker

namespace Next

theorem begun (step : Next custody next) (begun : custody.Begun) : next.Begun := by
  cases step with
  | take | putBack | lose | drop => simp [Begun] at begun ⊢
  | leave => exact .inr rfl
  | _ => exact begun

theorem held (step : Next custody next) (held : custody.Held) : next.Held := by
  cases step with
  | take | putBack | lose | drop | leave => simp [Held, Worker.isActive]
  | work _ active still => exact fun _ => held active
  | _ => exact held

theorem absent (step : Next custody next) (absent : custody.worker = .absent) : next.worker = .absent := by
  cases step with
  | work _ active still | leave _ active =>
    simp only at absent
    simp [absent, Worker.isActive] at active
  | take | putBack | lose | drop => rfl
  | _ => exact absent

end Next

end Custody

namespace SharedSender

variable {ι ν : Type} [DecidableEq ι]

/-- A start begins a worker. -/
def Spawns (shared next : SharedSender ι ν) : Prop :=
  ∃ caller, shared.callers caller = .starting ∧ next = shared.launch caller

/-- The number of stop items in the queue. -/
def stopItems (shared : SharedSender ι ν) : Nat :=
  shared.sender.queue.countP (·.capture?.isNone)

/-- A stop item is put into the queue. -/
def QueuesStop (shared next : SharedSender ι ν) : Prop :=
  shared.stopItems < next.stopItems

/-- An item is taken out of the queue. -/
def Takes (shared next : SharedSender ι ν) : Prop :=
  next.sender.queue.length < shared.sender.queue.length

/-! ## The queue -/

section Queue

variable {shared next : SharedSender ι ν}

/-- What a step does to the queue. -/
theorem Step.queue_cases (step : Step shared next) :
    next.sender.queue = shared.sender.queue ∨
      (∃ capture, next.sender.queue = shared.sender.queue ++ [.deliver capture]) ∨
      (∃ caller, shared.callers caller = .halting ∧ next = shared.close caller) ∨
      shared.sender.worker = .idle ∧ next.sender.queue = shared.sender.queue.tail := by
  cases step with
  | beginSend caller capture free =>
    unfold SharedSender.beginSend
    split <;> exact .inl rfl
  | enqueue caller capture place mode unlocked =>
    unfold SharedSender.enqueue
    split
    · exact .inl rfl
    · exact .inr (.inl ⟨capture, rfl⟩)
  | beginStart caller free unlocked =>
    unfold SharedSender.beginStart
    split
    · exact .inl rfl
    split
    · exact .inl rfl
    split <;> exact .inl rfl
  | beginStop caller free unlocked =>
    unfold SharedSender.beginStop
    split <;> exact .inl rfl
  | close caller place => exact .inr (.inr (.inl ⟨caller, place, rfl⟩))
  | beginFlush caller free =>
    unfold SharedSender.beginFlush
    split <;> exact .inl rfl
  | receive idle =>
    refine .inr (.inr (.inr ⟨idle, ?_⟩))
    cases queue : shared.sender.queue with
    | nil => simp [SharedSender.receive, Sender.receive, idle, queue]
    | cons item rest => cases item <;> simp [SharedSender.receive, Sender.receive, idle, queue]
  | deliver capture taken => exact .inl (by simp [SharedSender.deliver, Sender.deliver_of_delivering taken])
  | finish settling unlocked => exact .inl (by simp [SharedSender.finish, Sender.finish_of_settling settling])
  | _ => exact .inl rfl

/-- Only a stop that has entered the phase `stopped` puts a stop item into the queue. -/
theorem Step.halting_of_queuesStop (step : Step shared next) (stops : QueuesStop shared next) :
    ∃ caller, shared.callers caller = .halting ∧ next = shared.close caller := by
  unfold QueuesStop stopItems at stops
  obtain same | ⟨capture, put⟩ | closed | ⟨-, taken⟩ := step.queue_cases
  · rw [same] at stops
    omega
  · simp [put, QueueItem.capture?] at stops
  · exact closed
  · have fewer : next.sender.queue.countP (·.capture?.isNone) ≤ shared.sender.queue.countP (·.capture?.isNone) := by
      rw [taken]
      exact (List.tail_sublist _).countP_le
    omega

/-- Only an idle worker takes anything out of the queue. -/
theorem Step.idle_of_takes (step : Step shared next) (takes : Takes shared next) :
    shared.sender.worker = .idle := by
  unfold Takes at takes
  obtain same | ⟨capture, put⟩ | ⟨caller, -, rfl⟩ | ⟨idle, -⟩ := step.queue_cases
  · rw [same] at takes
    omega
  · rw [put, List.length_append] at takes
    omega
  · simp only [SharedSender.close] at takes
    split at takes
    · omega
    · rw [Sender.push, List.length_append] at takes
      omega
  · exact idle

omit [DecidableEq ι] in
/-- The stop item is the last in the queue, so there is no second one. -/
theorem Lossless.stopItems_le {outbox : Outbox ν} (lossless : Lossless outbox shared) : shared.stopItems ≤ 1 := by
  have none : shared.sender.queue.dropLast.countP (·.capture?.isNone) = 0 := by
    rw [List.countP_eq_zero]
    intro item found
    cases item with
    | deliver capture => simp [QueueItem.capture?]
    | stop => exact absurd found lossless.last
  unfold stopItems
  obtain empty | filled := eq_or_ne shared.sender.queue []
  · simp [empty]
  · rw [← List.dropLast_concat_getLast filled, List.countP_append, none, Nat.zero_add]
    exact List.countP_le_length

end Queue

/-! ## Receiving end and worker -/

def custody (shared : SharedSender ι ν) : Custody ν :=
  ⟨shared.receiver, shared.sender.worker⟩

section Custody

variable {shared next : SharedSender ι ν}

omit [DecidableEq ι] in
theorem custody_eq {receiver : Receiver} {worker : Worker ν} (held : shared.receiver = receiver)
    (works : shared.sender.worker = worker) : shared.custody = ⟨receiver, worker⟩ := by
  subst held works
  rfl

omit [DecidableEq ι] in
/-- The receiving end is with the start that has taken it. -/
theorem Orderly.custody_of_starting (orderly : Orderly shared) {caller : ι}
    (place : shared.callers caller = .starting) : shared.custody = ⟨.starter, .absent⟩ := by
  have starter := (orderly.relies place rfl).2
  exact custody_eq starter (orderly.unbegun (.inr starter))

/-- A step of an asynchronous sender begins a worker, or passes the receiving end on in one of the other ways. -/
theorem Step.custody (step : Step shared next) (orderly : Orderly shared) :
    Spawns shared next ∨ Custody.Next shared.custody next.custody := by
  have passes {before after : Custody ν} (begins : shared.custody = before) (ends : next.custody = after)
      (allowed : Custody.Next before after) : Spawns shared next ∨ Custody.Next shared.custody next.custody := by
    subst begins ends
    exact .inr allowed
  cases step with
  | launch caller place => exact .inl ⟨caller, place, rfl⟩
  | beginStart caller free unlocked =>
    by_cases taken : shared.sender.phase = .created ∧ shared.receiver = .sender
    · have absent := orderly.unbegun (.inl taken.2)
      refine passes (custody_eq taken.2 absent) (custody_eq ?_ ?_) .take <;>
        simp [SharedSender.beginStart, move, taken, orderly.asynchronous, absent]
    · have same : shared.beginStart caller = shared := by
        simp only [SharedSender.beginStart, orderly.asynchronous]
        grind
      exact passes rfl (by rw [same]) (.stay _)
  | putBack caller place =>
    have starting := orderly.custody_of_starting place
    exact passes starting (custody_eq rfl (congrArg Custody.worker starting)) .putBack
  | lose caller place =>
    have starting := orderly.custody_of_starting place
    exact passes starting (custody_eq rfl (congrArg Custody.worker starting)) .lose
  | receive idle =>
    have active : shared.sender.worker.isActive = true := by rw [idle]; rfl
    cases queue : shared.sender.queue with
    | nil =>
      have same : shared.receive.custody = shared.custody := by
        simp [SharedSender.custody, SharedSender.receive, Sender.receive, idle, queue]
      exact passes rfl same (.stay _)
    | cons item rest =>
      cases item with
      | deliver capture =>
        have takes : shared.receive.custody = ⟨shared.receiver, .delivering capture⟩ := by
          simp [SharedSender.custody, SharedSender.receive, Sender.receive, idle, queue]
        exact passes rfl takes (.work _ active rfl)
      | stop =>
        have leaves : shared.receive.custody = ⟨.gone, .exited⟩ := by
          simp [SharedSender.custody, SharedSender.receive, Sender.receive, idle, queue]
        exact passes rfl leaves (.leave _ active)
  | deliver capture taken =>
    have active : shared.sender.worker.isActive = true := by rw [taken]; rfl
    have settles : (shared.deliver capture).sender.worker = .settling := by
      simp [SharedSender.deliver, Sender.deliver_of_delivering taken]
    exact passes rfl (custody_eq rfl settles) (.work _ active rfl)
  | finish settling unlocked =>
    have active : shared.sender.worker.isActive = true := by rw [settling]; rfl
    have idle : shared.finish.sender.worker = .idle := by
      simp [SharedSender.finish, Sender.finish_of_settling settling]
    exact passes rfl (custody_eq rfl idle) (.work _ active rfl)
  | abandon idle empty given =>
    have active : shared.sender.worker.isActive = true := by rw [idle]; rfl
    exact passes rfl rfl (.leave _ active)
  | drop alone =>
    by_cases held : shared.receiver = .sender
    · have absent := orderly.unbegun (.inl held)
      refine passes (custody_eq held absent) (custody_eq ?_ absent) .drop
      simp [SharedSender.drop, held]
    · refine passes rfl (custody_eq ?_ rfl) (.stay _)
      simp [SharedSender.drop, held]
  | close caller place =>
    refine passes rfl ?_ (.stay _)
    simp only [SharedSender.close]
    split <;> rfl
  | beginSend caller capture free =>
    unfold SharedSender.beginSend
    split <;> exact .inr (.stay _)
  | enqueue caller capture place mode unlocked =>
    unfold SharedSender.enqueue
    split <;> exact .inr (.stay _)
  | beginStop caller free unlocked =>
    unfold SharedSender.beginStop
    split <;> exact .inr (.stay _)
  | beginFlush caller free =>
    unfold SharedSender.beginFlush
    split <;> exact .inr (.stay _)
  | sendInline | countSent | run | halt | endStop | endFlush => exact .inr (.stay _)

/-- Once a worker was begun or its receiving end is lost, this stays so. -/
theorem Step.begun (step : Step shared next) (orderly : Orderly shared) (begun : shared.custody.Begun) :
    next.custody.Begun := by
  obtain ⟨caller, -, rfl⟩ | passes := step.custody orderly
  · exact .inl rfl
  · exact passes.begun begun

theorem Step.held (step : Step shared next) (orderly : Orderly shared) (held : shared.custody.Held) :
    next.custody.Held := by
  obtain ⟨caller, -, rfl⟩ | passes := step.custody orderly
  · exact fun _ => rfl
  · exact passes.held held

end Custody

/-! ## The synchronous sender -/

/-- A synchronous sender has no worker and nothing in its queue, and nobody is about to change that. -/
structure Direct (shared : SharedSender ι ν) : Prop where
  synchronous : shared.sender.synchronous = true
  phase : shared.sender.phase = .created ∨ shared.sender.phase = .inline
  worker : shared.sender.worker = .absent
  queue : shared.sender.queue = []
  outside : ∀ caller, (shared.callers caller).inLifecycle = false

section Direct

variable {shared next : SharedSender ι ν}

omit [DecidableEq ι] in
theorem direct_new (outbox : Outbox ν) : Direct (new true outbox : SharedSender ι ν) :=
  ⟨rfl, .inl rfl, rfl, rfl, fun _ => rfl⟩

omit [DecidableEq ι] in
/-- Nobody is at a place in the life of the sender. -/
theorem Direct.not_inside (direct : Direct shared) {caller : ι} {place : Caller ν}
    (found : shared.callers caller = place) : place.inLifecycle ≠ true := by
  simp [← found, direct.outside caller]

/-- A caller goes somewhere else, and the sender stays as it is or counts a record. -/
theorem Direct.move (direct : Direct shared) {caller : ι} {place : Caller ν} (out : place.inLifecycle = false)
    (pending : Nat) (same : next.sender = { shared.sender with pending := pending })
    (moved : next.callers = Function.update shared.callers caller place) : Direct next := by
  refine ⟨?_, ?_, ?_, ?_, fun other => ?_⟩
  · rw [same]
    exact direct.synchronous
  · rw [same]
    exact direct.phase
  · rw [same]
    exact direct.worker
  · rw [same]
    exact direct.queue
  · rw [moved, Function.update_apply]
    split
    · exact out
    · exact direct.outside other

/-- What one step does to a synchronous sender. -/
theorem Step.direct (step : Step shared next) (direct : Direct shared) : Direct next := by
  have unworked (worker : Worker ν) (found : shared.sender.worker = worker) (begun : worker ≠ .absent) :
      Direct next := absurd (found.symm.trans direct.worker) begun
  cases step with
  | beginSend caller capture free =>
    unfold SharedSender.beginSend
    split
    · exact direct
    · exact direct.move rfl _ rfl rfl
  | sendInline | countSent | endStop | endFlush => exact direct.move rfl _ rfl rfl
  | enqueue caller capture place mode unlocked =>
    rw [direct.synchronous] at mode
    contradiction
  | beginStart caller free unlocked =>
    by_cases created : shared.sender.phase = .created
    · have begun : shared.beginStart caller = { shared with sender := shared.sender.enter .inline } := by
        simp [SharedSender.beginStart, created, direct.synchronous]
      rw [begun]
      exact ⟨direct.synchronous, .inr rfl, direct.worker, direct.queue, direct.outside⟩
    · simpa [SharedSender.beginStart, created] using direct
  | putBack caller place | lose caller place | launch caller place | run caller place =>
    exact absurd rfl (direct.not_inside place)
  | beginStop caller free unlocked =>
    have unstarted : shared.sender.phase ≠ .running := by
      obtain created | inline := direct.phase
      · simp [created]
      · simp [inline]
    simpa [SharedSender.beginStop, unstarted] using direct
  | halt caller place unlocked => exact absurd rfl (direct.not_inside place)
  | close caller place => exact absurd rfl (direct.not_inside place)
  | beginFlush caller free =>
    unfold SharedSender.beginFlush
    split
    · exact direct
    · exact direct.move rfl _ rfl rfl
  | receive idle => exact unworked _ idle (by simp)
  | deliver capture taken => exact unworked _ taken (by simp)
  | finish settling unlocked => exact unworked _ settling (by simp)
  | abandon idle empty given => exact unworked _ idle (by simp)
  | drop alone => exact ⟨direct.synchronous, direct.phase, direct.worker, direct.queue, direct.outside⟩

end Direct

/-! ## The phase -/

section Phase

variable {shared next : SharedSender ι ν}

/-- Only three sections change the phase: a start of a synchronous sender, the end of a start that has begun a
worker, and a stop that found the sender running. -/
theorem Step.phase_cases (step : Step shared next) :
    next.sender.phase = shared.sender.phase ∨
      (shared.sender.synchronous = true ∧ shared.sender.phase = .created ∧ next.sender.phase = .inline) ∨
      (∃ caller, shared.callers caller = .launched ∧ next.sender.phase = .running) ∨
      ∃ caller, shared.callers caller = .stopping ∧ next.sender.phase = .stopped := by
  cases step with
  | beginSend caller capture free =>
    unfold SharedSender.beginSend
    split <;> exact .inl rfl
  | enqueue caller capture place mode unlocked =>
    unfold SharedSender.enqueue
    split <;> exact .inl rfl
  | beginStart caller free unlocked =>
    unfold SharedSender.beginStart
    split
    · exact .inl rfl
    rename_i created
    split
    · rename_i mode
      exact .inr (.inl ⟨mode, not_not.mp created, rfl⟩)
    split <;> exact .inl rfl
  | run caller place => exact .inr (.inr (.inl ⟨caller, place, rfl⟩))
  | beginStop caller free unlocked =>
    unfold SharedSender.beginStop
    split <;> exact .inl rfl
  | halt caller place unlocked => exact .inr (.inr (.inr ⟨caller, place, rfl⟩))
  | close caller place =>
    simp only [SharedSender.close]
    split <;> exact .inl rfl
  | beginFlush caller free =>
    unfold SharedSender.beginFlush
    split <;> exact .inl rfl
  | receive idle => exact .inl (by simp [SharedSender.receive])
  | deliver capture taken => exact .inl (by simp [SharedSender.deliver, Sender.deliver_of_delivering taken])
  | finish settling unlocked => exact .inl (by simp [SharedSender.finish, Sender.finish_of_settling settling])
  | _ => exact .inl rfl

theorem Step.moves_of_orderly (step : Step shared next) (orderly : Orderly shared) :
    next.sender.phase = shared.sender.phase ∨ Phase.Moves false shared.sender.phase next.sender.phase := by
  obtain same | ⟨mode, -⟩ | ⟨caller, place, running⟩ | ⟨caller, place, stopped⟩ := step.phase_cases
  · exact .inl same
  · rw [orderly.asynchronous] at mode
    contradiction
  · have created : shared.sender.phase = .created := orderly.relies place rfl
    rw [created, running]
    exact .inr .run
  · have running : shared.sender.phase = .running := orderly.relies place rfl
    rw [running, stopped]
    exact .inr .stop

theorem Step.moves_of_direct (step : Step shared next) (direct : Direct shared) :
    next.sender.phase = shared.sender.phase ∨ Phase.Moves true shared.sender.phase next.sender.phase := by
  obtain same | ⟨-, created, inline⟩ | ⟨caller, place, -⟩ | ⟨caller, place, -⟩ := step.phase_cases
  · exact .inl same
  · rw [created, inline]
    exact .inr .inline
  all_goals exact absurd rfl (direct.not_inside place)

end Phase

/-! ## Histories -/

/-- What excludes itself from then on happens once at most. -/
theorem subsingleton_of_not_later {moments : Set Nat}
    (once : ∀ first ∈ moments, ∀ later, first < later → later ∉ moments) : moments.Subsingleton := by
  intro first found second again
  obtain before | same | after := Nat.lt_trichotomy first second
  · exact absurd again (once first found second before)
  · exact same
  · exact absurd found (once second again first after)

/-- All that happens to a sender: its states one after another, from the beginning on. Nothing need happen from one
moment to the next. -/
structure History (ι : Type) [DecidableEq ι] {ν : Type} (synchronous : Bool) (outbox : Outbox ν) where
  state : Nat → SharedSender ι ν
  start : state 0 = new synchronous outbox
  step : ∀ moment, state (moment + 1) = state moment ∨ Step (state moment) (state (moment + 1))

/-- Whatever a run comes to is a moment of some history, after which nothing happens. -/
theorem Run.exists_history {synchronous : Bool} {outbox : Outbox ν} {shared : SharedSender ι ν}
    (run : Run (new synchronous outbox) shared) :
    ∃ (history : History ι synchronous outbox) (moment : Nat), ∀ later ≥ moment, history.state later = shared := by
  generalize begins : new synchronous outbox = first at run
  induction run with
  | refl => exact ⟨⟨fun _ => first, begins.symm, fun _ => .inl rfl⟩, 0, fun _ _ => rfl⟩
  | @step shared next run step ih =>
    obtain ⟨history, moment, ends⟩ := ih
    refine ⟨⟨fun now => if now ≤ moment then history.state now else next, ?_, fun now => ?_⟩, moment + 1, ?_⟩
    · simpa using history.start
    · obtain before | rfl | after := Nat.lt_trichotomy now moment
      · simpa [before.le, Nat.succ_le_of_lt before] using history.step now
      · rw [if_pos le_rfl, if_neg (Nat.not_succ_le_self now), ends now le_rfl]
        exact .inr step
      · exact .inl (by simp [after.not_ge, (Nat.lt_succ_of_lt after).not_ge])
    · intro later after
      simp [Nat.not_le.mpr after]

namespace History

variable {synchronous : Bool} {outbox : Outbox ν}

/-- Where something changes from one moment to the next, there is a step. -/
theorem step_of_ne (history : History ι synchronous outbox) {moment : Nat}
    (changed : history.state (moment + 1) ≠ history.state moment) :
    Step (history.state moment) (history.state (moment + 1)) :=
  (history.step moment).resolve_left changed

/-- What every step keeps is kept from any moment on. -/
theorem stays (history : History ι synchronous outbox) (P : SharedSender ι ν → Prop)
    (keeps : ∀ moment, Step (history.state moment) (history.state (moment + 1)) →
      P (history.state moment) → P (history.state (moment + 1))) {first later : Nat} (ordered : first ≤ later)
    (was : P (history.state first)) : P (history.state later) := by
  induction later, ordered using Nat.le_induction with
  | base => exact was
  | succ moment ordered ih =>
    obtain same | step := history.step moment
    · rw [same]
      exact ih
    · exact keeps moment step ih

theorem run (history : History ι synchronous outbox) (moment : Nat) :
    Run (new synchronous outbox) (history.state moment) := by
  refine history.stays (Run _) (fun _ step run => run.step step) (Nat.zero_le moment) ?_
  rw [history.start]
  exact .refl _

theorem direct (history : History ι true outbox) (moment : Nat) : Direct (history.state moment) := by
  refine history.stays Direct (fun _ step => step.direct) (Nat.zero_le moment) ?_
  rw [history.start]
  exact direct_new outbox

section Asynchronous

variable (history : History ι false outbox)

theorem invariant (moment : Nat) : Orderly (history.state moment) ∧ Lossless outbox (history.state moment) :=
  (history.run moment).invariant (orderly_new outbox) (lossless_new outbox)

theorem orderly (moment : Nat) : Orderly (history.state moment) :=
  (history.invariant moment).1

theorem held (moment : Nat) : (history.state moment).custody.Held := by
  refine history.stays (·.custody.Held) (fun between step => step.held (history.orderly between)) (Nat.zero_le moment) ?_
  rw [history.start]
  simp [Custody.Held, custody, new, Sender.new, Worker.isActive]

/-- The receiving end does not come back from a worker. -/
theorem begun_of_spawns {begins later : Nat} (spawns : Spawns (history.state begins) (history.state (begins + 1)))
    (after : begins < later) : (history.state later).custody.Begun := by
  refine history.stays (·.custody.Begun) (fun between step => step.begun (history.orderly between)) after ?_
  obtain ⟨caller, -, next⟩ := spawns
  rw [next]
  exact .inl rfl

theorem not_spawns_after {begins later : Nat} (spawns : Spawns (history.state begins) (history.state (begins + 1)))
    (after : begins < later) : ¬ Spawns (history.state later) (history.state (later + 1)) := by
  rintro ⟨caller, place, -⟩
  have begun := history.begun_of_spawns spawns after
  rw [(history.orderly later).custody_of_starting place] at begun
  simp [Custody.Begun] at begun

theorem exists_spawns {moment : Nat} (there : (history.state moment).sender.worker ≠ .absent) :
    ∃ begins < moment, Spawns (history.state begins) (history.state (begins + 1)) := by
  induction moment with
  | zero =>
    rw [history.start] at there
    exact absurd rfl there
  | succ moment ih =>
    by_cases before : (history.state moment).sender.worker = .absent
    · have step := history.step_of_ne fun same => there (by rw [same, before])
      obtain spawns | passes := step.custody (history.orderly moment)
      · exact ⟨moment, Nat.lt_succ_self moment, spawns⟩
      · exact absurd (passes.absent before) there
    · obtain ⟨begins, earlier, spawns⟩ := ih before
      exact ⟨begins, Nat.lt_succ_of_lt earlier, spawns⟩

/-- The stop that puts its item into the queue leaves the sender sealed. -/
theorem sealed_of_queuesStop {stops : Nat} (queues : QueuesStop (history.state stops) (history.state (stops + 1))) :
    ¬ Sealed (history.state stops) ∧ Sealed (history.state (stops + 1)) := by
  have step := history.step_of_ne fun same => queues.ne (congrArg stopItems same.symm)
  obtain ⟨caller, place, next⟩ := step.halting_of_queuesStop queues
  rw [next]
  exact ⟨fun was => was.2 caller place, (history.orderly stops).sealed_close place⟩

theorem not_queuesStop_after {stops later : Nat}
    (queues : QueuesStop (history.state stops) (history.state (stops + 1))) (after : stops < later) :
    ¬ QueuesStop (history.state later) (history.state (later + 1)) := by
  intro again
  have was := history.stays Sealed (fun between step => step.sealed (history.orderly between)) after
    (history.sealed_of_queuesStop queues).2
  exact (history.sealed_of_queuesStop again).1 was

theorem worker_of_takes {moment : Nat} (takes : Takes (history.state moment) (history.state (moment + 1))) :
    (history.state moment).receiver = .worker ∧
      ∃ begins < moment, Spawns (history.state begins) (history.state (begins + 1)) := by
  have step := history.step_of_ne fun same => takes.ne (congrArg (·.sender.queue.length) same)
  have idle := step.idle_of_takes takes
  refine ⟨history.held moment ?_, history.exists_spawns ?_⟩
  · rw [show (history.state moment).custody.worker = .idle from idle]
    rfl
  · simp [idle]

end Asynchronous

theorem moves (history : History ι synchronous outbox) (moment : Nat) :
    (history.state (moment + 1)).sender.phase = (history.state moment).sender.phase ∨
      Phase.Moves synchronous (history.state moment).sender.phase (history.state (moment + 1)).sender.phase := by
  obtain same | step := history.step moment
  · exact .inl (by rw [same])
  · cases synchronous with
    | false => exact step.moves_of_orderly (history.orderly moment)
    | true => exact step.moves_of_direct (history.direct moment)

theorem mem_course (history : History ι synchronous outbox) (moment : Nat) :
    (history.state moment).sender.phase ∈ Phase.course synchronous := by
  refine history.stays (·.sender.phase ∈ Phase.course synchronous) (fun between _ was => ?_) (Nat.zero_le moment) ?_
  · obtain same | moves := history.moves between
    · rwa [same]
    · exact moves.mem_course
  · rw [history.start]
    change Phase.created ∈ Phase.course synchronous
    cases synchronous <;> decide

/-- Nothing of the queue and of the worker is ever there in a synchronous sender. -/
theorem none_of_direct (history : History ι true outbox) (moment : Nat) :
    ¬ Spawns (history.state moment) (history.state (moment + 1)) ∧
      ¬ Takes (history.state moment) (history.state (moment + 1)) ∧
      ¬ QueuesStop (history.state moment) (history.state (moment + 1)) := by
  have before := (history.direct moment).queue
  have after := (history.direct (moment + 1)).queue
  refine ⟨?_, by simp [Takes, before], by simp [QueuesStop, stopItems, after]⟩
  rintro ⟨caller, place, -⟩
  exact (history.direct moment).not_inside place rfl

end History

/-- The phase of a sender goes from `created` to `running` to `stopped` when it is asynchronous, and from `created` to
`inline` when it is synchronous. In all its history one worker at most is begun, from then on nobody but the worker has
the receiving end of the queue, and all that is taken from the queue is taken by it. One stop item at most is ever put
into the queue. A stop leaves a sender that is not running as it is. -/
theorem History.lifecycle {synchronous : Bool} {outbox : Outbox ν} (history : History ι synchronous outbox) :
    (∀ moment, (history.state moment).sender.phase ∈ Phase.course synchronous ∧
      ((history.state (moment + 1)).sender.phase = (history.state moment).sender.phase ∨
        Phase.Moves synchronous (history.state moment).sender.phase (history.state (moment + 1)).sender.phase)) ∧
    {moment | Spawns (history.state moment) (history.state (moment + 1))}.Subsingleton ∧
    (∀ begins later, Spawns (history.state begins) (history.state (begins + 1)) → begins < later →
      (history.state later).receiver = .worker ∨ (history.state later).receiver = .gone) ∧
    (∀ moment, Takes (history.state moment) (history.state (moment + 1)) →
      (history.state moment).receiver = .worker ∧
        ∃ begins < moment, Spawns (history.state begins) (history.state (begins + 1))) ∧
    {moment | QueuesStop (history.state moment) (history.state (moment + 1))}.Subsingleton ∧
    (∀ moment, (history.state moment).stopItems ≤ 1) ∧
    (synchronous = true → ∀ moment, ¬ Spawns (history.state moment) (history.state (moment + 1)) ∧
      (history.state moment).sender.worker = .absent ∧ (history.state moment).sender.queue = []) ∧
    ∀ moment caller, (history.state moment).sender.phase ≠ .running →
      (history.state moment).beginStop caller = history.state moment := by
  have unstarted (moment : Nat) (caller : ι) (phase : (history.state moment).sender.phase ≠ .running) :
      (history.state moment).beginStop caller = history.state moment := by
    rw [beginStop, if_neg phase]
  refine ⟨fun moment => ⟨history.mem_course moment, history.moves moment⟩, ?_⟩
  cases synchronous with
  | false =>
    refine ⟨?_, fun begins later spawns => history.begun_of_spawns spawns, fun moment => history.worker_of_takes, ?_,
      fun moment => (history.invariant moment).2.stopItems_le, by simp, unstarted⟩
    · exact subsingleton_of_not_later fun begins spawns later => history.not_spawns_after spawns
    · exact subsingleton_of_not_later fun stops queues later => history.not_queuesStop_after queues
  | true =>
    refine ⟨?_, fun begins later spawns => absurd spawns (history.none_of_direct begins).1,
      fun moment takes => absurd takes (history.none_of_direct moment).2.1, ?_, fun moment => ?_,
      fun _ moment => ⟨(history.none_of_direct moment).1, (history.direct moment).worker,
        (history.direct moment).queue⟩, unstarted⟩
    · exact fun moment spawns => absurd spawns (history.none_of_direct moment).1
    · exact fun moment queues => absurd queues (history.none_of_direct moment).2.2
    · simp [stopItems, (history.direct moment).queue]

/-- Two callers start a sender one after the other and stop it one after the other: it has begun one worker and has
one stop item in its queue. -/
theorem History.lifecycle_of_repeated_calls :
    ∃ (outbox : Outbox Unit) (history : History Bool false outbox) (moment : Nat),
      (history.state moment).sender.phase = .stopped ∧ (history.state moment).sender.worker = .idle ∧
        (history.state moment).stopItems = 1 ∧
        {moment | Spawns (history.state moment) (history.state (moment + 1))}.Subsingleton := by
  let outbox : Outbox Unit := { network := (), stamps := fun _ => ⟨"c", "t"⟩ }
  have started := (Run.refl (new false outbox : SharedSender Bool Unit))
    |>.step (.beginStart true ⟨rfl, rfl⟩ rfl)
    |>.step (.launch true rfl)
    |>.step (.run true rfl)
    |>.step (.beginStart false ⟨rfl, rfl⟩ rfl)
  have stopped := started
    |>.step (.beginStop true ⟨rfl, rfl⟩ rfl)
    |>.step (.halt true rfl rfl)
    |>.step (.close true rfl)
    |>.step (.beginStop false ⟨rfl, rfl⟩ rfl)
  obtain ⟨history, moment, ends⟩ := stopped.exists_history
  refine ⟨outbox, history, moment, ?_, ?_, ?_, history.lifecycle.2.1⟩
  all_goals
    rw [ends moment le_rfl]
    rfl

end SharedSender

end LlmTelemetry
