import LlmTelemetry.Proofs.Delivery.AcceptanceOrder
import LlmTelemetry.Proofs.Delivery.Stamps
/-!
# The two modes deliver alike

A sender delivers what it is sent in the order in which it is sent, in either mode: a synchronous one inside
each send, an asynchronous one by its worker, which is done when it has left. So the attempts of both are
those of delivering the records one after the other.

Here the calls of a sender come one after another, from any callers, and the worker works at any time between
and during them. `Trace` is a run that remembers the calls. The invariant of an asynchronous sender (`Tally`)
says that the accepted records are those of the sends so far, where a send that is under way has its record
still in its hands; a sender that lost the receiving end of its queue never has a worker. The invariant of a
synchronous sender (`Inline`) is that the network has seen the records of the sends so far, in the same sense.
-/

namespace LlmTelemetry

/-- The record that a send has not got rid of yet. -/
def Caller.inHand {ν : Type} : Caller ν → List (Capture ν)
  | .sending capture => [capture]
  | _ => []

namespace SharedSender

/-- What is asked of a sender. -/
inductive Call (ν : Type) where
  | start
  | send (capture : Capture ν)
  | flush
  | stop

namespace Call

variable {ν : Type}

def sent? : Call ν → Option (Capture ν)
  | .send capture => some capture
  | _ => none

/-- The records that are sent, in order. -/
def sends (calls : List (Call ν)) : List (Capture ν) :=
  calls.filterMap sent?

@[simp] theorem sends_append (calls later : List (Call ν)) :
    sends (calls ++ later) = sends calls ++ sends later :=
  List.filterMap_append

/-- There is a stop after a start. -/
def Stopped (calls : List (Call ν)) : Prop :=
  ∃ before after, calls = before ++ .stop :: after ∧ .start ∈ before

/-- Nothing is sent after a stop that comes after a start. -/
def Polite (calls : List (Call ν)) : Prop :=
  ∀ before after, calls = before ++ .stop :: after → .start ∈ before → sends after = []

theorem Stopped.append {calls : List (Call ν)} (stopped : Stopped calls) (later : List (Call ν)) :
    Stopped (calls ++ later) := by
  obtain ⟨before, after, rfl, started⟩ := stopped
  exact ⟨before, after ++ later, by simp, started⟩

theorem Polite.before {calls later : List (Call ν)} (polite : Polite (calls ++ later)) :
    Polite calls := by
  intro before after split started
  have none_left := polite before (after ++ later) (by simp [split]) started
  rw [sends_append] at none_left
  exact (List.append_eq_nil_iff.mp none_left).1

theorem Polite.not_stopped {calls : List (Call ν)} {capture : Capture ν}
    (polite : Polite (calls ++ [.send capture])) : ¬ Stopped calls := by
  rintro ⟨before, after, rfl, started⟩
  have none_left := polite before (after ++ [.send capture]) (by simp) started
  simp [sends, sent?] at none_left

/-- It is enough to look behind the first stop. -/
theorem polite_of_stop {calls later : List (Call ν)} (unstopped : .stop ∉ calls)
    (unsent : sends later = []) : Polite (calls ++ .stop :: later) := by
  intro before after split _
  obtain ⟨between, rfl, rest⟩ | ⟨between, rfl, rest⟩ := List.append_eq_append_iff.mp split
  · cases between with
    | nil =>
      rw [List.nil_append, List.cons_inj_right] at rest
      rwa [← rest]
    | cons head between =>
      obtain ⟨rfl, rfl⟩ := List.cons_eq_cons.mp rest
      have both : sends between ++ sends (.stop :: after) = [] := (sends_append ..).symm.trans unsent
      exact (List.append_eq_nil_iff.mp both).2
  · cases between with
    | nil =>
      rw [List.nil_append, List.cons_inj_right] at rest
      rwa [rest]
    | cons head between =>
      obtain ⟨rfl, -⟩ := List.cons_eq_cons.mp rest
      simp at unstopped

end Call

variable {ι ν : Type} [DecidableEq ι]

/-- A caller begins a call. -/
def begin (shared : SharedSender ι ν) (caller : ι) : Call ν → SharedSender ι ν
  | .start => shared.beginStart caller
  | .send capture => shared.beginSend caller capture
  | .flush => shared.beginFlush caller
  | .stop => shared.beginStop caller

/-- A run in which the calls come one after another, with the list of these calls. -/
inductive Trace (first : SharedSender ι ν) : List (Call ν) → SharedSender ι ν → Prop where
  | nil : Trace first [] first
  /-- A call begins when nobody is in one. -/
  | call {calls shared} (trace : Trace first calls shared) (caller) (call)
      (alone : ∀ other, shared.callers other = .outside) (step : Step shared (shared.begin caller call)) :
      Trace first (calls ++ [call]) (shared.begin caller call)
  /-- A call that is under way goes on, or the worker does. -/
  | inside {calls shared next} (trace : Trace first calls shared) (step : Step shared next)
      (within : ∀ caller, shared.callers caller = .outside → next.callers caller = .outside) :
      Trace first calls next

theorem Trace.run {first shared : SharedSender ι ν} {calls : List (Call ν)}
    (trace : Trace first calls shared) : Run first shared := by
  induction trace with
  | nil => exact .refl _
  | call _ _ _ _ step ih => exact ih.step step
  | inside _ step _ ih => exact ih.step step

/-- No caller but the given one is in a call, and this is where it stands. -/
def Alone (callers : ι → Caller ν) (caller : ι) (place : Caller ν) : Prop :=
  callers = Function.update (fun _ => .outside) caller place

namespace Alone

variable {callers : ι → Caller ν} {caller other : ι} {place found : Caller ν}

theorem same (alone : Alone callers caller place) (at_ : callers other = found)
    (inside : found ≠ .outside) : other = caller ∧ place = found := by
  rw [alone, Function.update_apply] at at_
  split at at_
  · rename_i same
    exact ⟨same, at_⟩
  · exact absurd at_.symm inside

theorem move (alone : Alone callers caller place) (next : Caller ν) :
    Alone (Function.update callers caller next) caller next := by
  rw [Alone, alone, Function.update_idem]

theorem enter (empty : ∀ other, callers other = .outside) (caller : ι) (next : Caller ν) :
    Alone (Function.update callers caller next) caller next := by
  rw [Alone, funext empty]

end Alone

/-! ## The asynchronous mode -/

/-- The receiving end of the queue went away before there was a worker. -/
def Lost (shared : SharedSender ι ν) : Prop :=
  shared.receiver = .gone ∧ shared.sender.worker = .absent

theorem Step.lost {shared next : SharedSender ι ν} (step : Step shared next) (orderly : Orderly shared)
    (lost : Lost shared) : Lost next := by
  obtain ⟨gone, absent⟩ := lost
  cases step with
  | beginSend caller capture free =>
    unfold SharedSender.beginSend
    split <;> exact ⟨gone, absent⟩
  | sendInline caller capture place mode => exact ⟨gone, absent⟩
  | enqueue caller capture place mode unlocked => simp [SharedSender.enqueue, gone, absent, move, Lost]
  | countSent caller place => exact ⟨gone, absent⟩
  | beginStart caller free unlocked =>
    unfold SharedSender.beginStart
    split
    · exact ⟨gone, absent⟩
    split
    · exact ⟨gone, absent⟩
    · simp [gone, absent, Lost]
  | putBack caller place | launch caller place =>
    have held : shared.receiver = .starter := (orderly.relies place rfl).2
    simp [held] at gone
  | lose caller place => exact ⟨rfl, absent⟩
  | run caller place => exact ⟨gone, absent⟩
  | beginStop caller free unlocked =>
    unfold SharedSender.beginStop
    split <;> exact ⟨gone, absent⟩
  | halt caller place unlocked => exact ⟨gone, absent⟩
  | close caller place => simp [SharedSender.close, gone, absent, move, Lost]
  | endStop caller place => exact ⟨gone, absent⟩
  | beginFlush caller free =>
    unfold SharedSender.beginFlush
    split <;> exact ⟨gone, absent⟩
  | endFlush caller place unlocked => exact ⟨gone, absent⟩
  | receive idle => simp [absent] at idle
  | deliver capture taken => simp [absent] at taken
  | finish settling unlocked => simp [absent] at settling
  | abandon idle empty given => simp [absent] at idle
  | drop alone => simp [SharedSender.drop, gone, absent, Lost]

/-- How an asynchronous sender that can have a worker stands after the calls, when the given caller is at the
given place. -/
structure Tally (calls : List (Call ν)) (shared : SharedSender ι ν) (caller : ι) (place : Caller ν) :
    Prop where
  alone : Alone shared.callers caller place
  started : shared.sender.phase ≠ .created ∨ place = .starting ∨ place = .launched → .start ∈ calls
  stopped : shared.sender.phase = .stopped ∨ place = .stopping → Call.Stopped calls
  sending : ∀ capture, place = .sending capture → shared.sender.phase ≠ .stopped
  received : shared.receiver = .gone → shared.sender.worker = .exited
  records : shared.accepted ++ place.inHand = Call.sends calls

namespace Tally

variable {calls : List (Call ν)} {shared next : SharedSender ι ν} {caller : ι} {place : Caller ν}

theorem outside (tally : Tally calls shared caller place)
    (empty : ∀ other, shared.callers other = .outside) (other : ι) : Tally calls shared other .outside := by
  have here : place = .outside := by
    have found := empty caller
    rwa [tally.alone, Function.update_self] at found
  subst here
  refine { tally with alone := ?_ }
  rw [Alone, funext empty, Function.update_eq_self]

/-- A call that ends at once. -/
theorem ignore (tally : Tally calls shared caller .outside) {call : Call ν} (none_sent : call.sent? = none) :
    Tally (calls ++ [call]) shared caller .outside where
  alone := tally.alone
  started moved := List.mem_append_left _ (tally.started moved)
  stopped ended := (tally.stopped ended).append _
  sending := by simp
  received := tally.received
  records := by simpa [Call.sends, none_sent] using tally.records

/-- The caller goes on to a place in no section on the life of the worker. -/
theorem go (tally : Tally calls shared caller place) {place' : Caller ν}
    (callers : next.callers = Function.update shared.callers caller place')
    (phase : next.sender.phase = shared.sender.phase)
    (received : next.receiver = .gone → next.sender.worker = .exited)
    (records : next.accepted ++ place'.inHand = shared.accepted ++ place.inHand)
    (elsewhere : place'.inLifecycle = false) (sent : ∀ capture, place' ≠ .sending capture) :
    Tally calls next caller place' where
  alone := callers ▸ tally.alone.move place'
  started moved := by
    refine tally.started (.inl ?_)
    obtain moved | rfl | rfl := moved
    · rwa [← phase]
    · simp [Caller.inLifecycle] at elsewhere
    · simp [Caller.inLifecycle] at elsewhere
  stopped ended := by
    refine tally.stopped (.inl ?_)
    obtain ended | rfl := ended
    · rwa [← phase]
    · simp [Caller.inLifecycle] at elsewhere
  sending capture found := absurd found (sent capture)
  received := received
  records := records.trans tally.records

/-- The worker, or a holder of the sender, takes a step outside of all calls. -/
theorem frame (tally : Tally calls shared caller place) (callers : next.callers = shared.callers)
    (phase : next.sender.phase = shared.sender.phase) (accepted : next.accepted = shared.accepted)
    (received : next.receiver = .gone → next.sender.worker = .exited) : Tally calls next caller place where
  alone := callers ▸ tally.alone
  started := phase ▸ tally.started
  stopped := phase ▸ tally.stopped
  sending := phase ▸ tally.sending
  received := received
  records := accepted ▸ tally.records

end Tally

theorem Tally.called {calls : List (Call ν)} {shared : SharedSender ι ν} {caller : ι}
    (tally : Tally calls shared caller .outside) (orderly : Orderly shared)
    (empty : ∀ other, shared.callers other = .outside) {call : Call ν}
    (polite : Call.Polite (calls ++ [call])) :
    ∃ place, Tally (calls ++ [call]) (shared.begin caller call) caller place := by
  cases call with
  | start =>
    show ∃ place, Tally _ (shared.beginStart caller) caller place
    unfold beginStart
    split
    · exact ⟨_, tally.ignore rfl⟩
    split
    · rename_i synchronous
      rw [orderly.asynchronous] at synchronous
      contradiction
    split
    · exact ⟨_, tally.ignore rfl⟩
    · rename_i created _ _
      rw [not_not] at created
      refine ⟨.starting, Alone.enter empty caller _, fun _ => by simp, ?_, by simp, by simp, ?_⟩
      · simp [move, created]
      · exact (tally.ignore rfl).records
  | send capture =>
    have running : shared.sender.phase ≠ .stopped :=
      fun stopped => polite.not_stopped (tally.stopped (.inl stopped))
    refine ⟨.sending capture, ?_⟩
    rw [SharedSender.begin, beginSend, if_neg running]
    refine ⟨Alone.enter empty caller _, fun moved => ?_, fun ended => ?_, fun _ _ => running,
      tally.received, ?_⟩
    · exact List.mem_append_left _ (tally.started (by simpa [move] using moved))
    · exact (tally.stopped (by simpa [move] using ended)).append _
    · have records := tally.records
      simp only [Caller.inHand, List.append_nil] at records
      rw [Call.sends_append, ← records]
      rfl
  | flush =>
    show ∃ place, Tally _ (shared.beginFlush caller) caller place
    unfold beginFlush
    split
    · exact ⟨_, tally.ignore rfl⟩
    · exact ⟨.flushing, (tally.ignore rfl).go rfl rfl tally.received rfl rfl (by simp)⟩
  | stop =>
    show ∃ place, Tally _ (shared.beginStop caller) caller place
    unfold beginStop
    split
    · rename_i running
      have started := tally.started (.inl (by simp [running]))
      refine ⟨.stopping, Alone.enter empty caller _, fun _ => ?_, fun _ => ?_, by simp, tally.received, ?_⟩
      · exact List.mem_append_left _ started
      · exact ⟨calls, [], rfl, started⟩
      · exact (tally.ignore rfl).records
    · exact ⟨_, tally.ignore rfl⟩

/-- A call that nobody is in after its beginning has left an asynchronous sender as it is. -/
theorem begin_of_within {shared : SharedSender ι ν} (orderly : Orderly shared) {caller : ι}
    (free : shared.Free caller) (call : Call ν)
    (within : ∀ other, shared.callers other = .outside →
      (shared.begin caller call).callers other = .outside) : shared.begin caller call = shared := by
  have still := within caller free.1
  revert still
  cases call with
  | start =>
    show (shared.beginStart caller).callers caller = _ → shared.beginStart caller = shared
    unfold beginStart
    split
    · exact fun _ => rfl
    split
    · rename_i synchronous
      rw [orderly.asynchronous] at synchronous
      contradiction
    split
    · exact fun _ => rfl
    · simp [move]
  | send capture =>
    show (shared.beginSend caller capture).callers caller = _ → shared.beginSend caller capture = shared
    unfold beginSend
    split
    · exact fun _ => rfl
    · simp [move]
  | flush =>
    show (shared.beginFlush caller).callers caller = _ → shared.beginFlush caller = shared
    unfold beginFlush
    split
    · exact fun _ => rfl
    · simp [move]
  | stop =>
    show (shared.beginStop caller).callers caller = _ → shared.beginStop caller = shared
    unfold beginStop
    split
    · simp [move]
    · exact fun _ => rfl

/-- A step inside of a call, or of the worker. -/
theorem Step.tally {outbox : Outbox ν} {calls : List (Call ν)} {shared next : SharedSender ι ν}
    (step : Step shared next)
    (within : ∀ caller, shared.callers caller = .outside → next.callers caller = .outside)
    (orderly : Orderly shared) (lossless : Lossless outbox shared) {caller : ι} {place : Caller ν}
    (tally : Tally calls shared caller place) :
    Lost next ∨ ∃ caller place, Tally calls next caller place := by
  cases step with
  | beginSend other capture free =>
    have same : shared.beginSend other capture = shared := begin_of_within orderly free (.send capture) within
    rw [same]
    exact .inr ⟨caller, place, tally⟩
  | beginStart other free unlocked =>
    have same : shared.beginStart other = shared := begin_of_within orderly free .start within
    rw [same]
    exact .inr ⟨caller, place, tally⟩
  | beginStop other free unlocked =>
    have same : shared.beginStop other = shared := begin_of_within orderly free .stop within
    rw [same]
    exact .inr ⟨caller, place, tally⟩
  | beginFlush other free =>
    have same : shared.beginFlush other = shared := begin_of_within orderly free .flush within
    rw [same]
    exact .inr ⟨caller, place, tally⟩
  | sendInline other capture found mode =>
    rw [orderly.asynchronous] at mode
    contradiction
  | enqueue other capture found mode unlocked =>
    obtain ⟨rfl, rfl⟩ := tally.alone.same found (by simp)
    have running := tally.sending capture rfl
    have received : shared.receiver ≠ .gone := by
      intro gone
      obtain stopped | dropped := (lossless.exited (tally.received gone)).2
      · exact running stopped.1
      · rw [orderly.kept other (by simp [found])] at dropped
        contradiction
    refine .inr ⟨other, .counting, ?_⟩
    rw [SharedSender.enqueue, if_neg (not_or.mpr ⟨running, received⟩)]
    exact tally.go rfl rfl tally.received (by simp [Caller.inHand]) rfl (by simp)
  | countSent other found =>
    obtain ⟨rfl, rfl⟩ := tally.alone.same found (by simp)
    exact .inr ⟨other, .outside, tally.go rfl rfl tally.received rfl rfl (by simp)⟩
  | putBack other found =>
    obtain ⟨rfl, rfl⟩ := tally.alone.same found (by simp)
    exact .inr ⟨other, .outside, tally.go rfl rfl (by simp [SharedSender.putBack]) rfl rfl (by simp)⟩
  | lose other found =>
    exact .inl ⟨rfl, orderly.unbegun (.inr (orderly.relies found rfl).2)⟩
  | launch other found =>
    obtain ⟨rfl, rfl⟩ := tally.alone.same found (by simp)
    have started := tally.started (.inr (.inl rfl))
    refine .inr ⟨other, .launched, tally.alone.move _, fun _ => started, fun ended => ?_, by simp,
      by simp [SharedSender.launch], tally.records⟩
    exact tally.stopped (.inl (by simpa [SharedSender.launch, Sender.launch] using ended))
  | run other found =>
    obtain ⟨rfl, rfl⟩ := tally.alone.same found (by simp)
    have started := tally.started (.inr (.inr rfl))
    exact .inr ⟨other, .outside, tally.alone.move _, fun _ => started,
      by simp [SharedSender.run, Sender.enter], by simp, tally.received, tally.records⟩
  | halt other found unlocked =>
    obtain ⟨rfl, rfl⟩ := tally.alone.same found (by simp)
    have running : shared.sender.phase = .running := orderly.relies found rfl
    have started := tally.started (.inl (by simp [running]))
    have stopped := tally.stopped (.inr rfl)
    exact .inr ⟨other, .halting, tally.alone.move _, fun _ => started, fun _ => stopped, by simp,
      tally.received, tally.records⟩
  | close other found =>
    obtain ⟨rfl, rfl⟩ := tally.alone.same found (by simp)
    refine .inr ⟨other, .awaiting, tally.go rfl ?_ ?_ rfl rfl (by simp)⟩
    all_goals simp only [SharedSender.close]
    · split <;> rfl
    · split <;> exact tally.received
  | endStop other found =>
    obtain ⟨rfl, rfl⟩ := tally.alone.same found (by simp)
    exact .inr ⟨other, .outside, tally.go rfl rfl tally.received rfl rfl (by simp)⟩
  | endFlush other found unlocked =>
    obtain ⟨rfl, rfl⟩ := tally.alone.same found (by simp)
    exact .inr ⟨other, .outside, tally.go rfl rfl tally.received rfl rfl (by simp)⟩
  | receive idle =>
    have held : shared.receiver ≠ .gone := fun gone => by simp [tally.received gone] at idle
    refine .inr ⟨caller, place, tally.frame rfl (Sender.receive_phase _) rfl ?_⟩
    simp only [SharedSender.receive]
    split
    · exact fun _ => ‹_›
    · exact fun gone => absurd gone held
  | deliver capture taken =>
    have held : shared.receiver ≠ .gone := fun gone => by simp [tally.received gone] at taken
    refine .inr ⟨caller, place, tally.frame rfl ?_ rfl fun gone => absurd gone held⟩
    simp only [SharedSender.deliver, Sender.deliver_of_delivering taken]
  | finish settling unlocked =>
    have held : shared.receiver ≠ .gone := fun gone => by simp [tally.received gone] at settling
    refine .inr ⟨caller, place, tally.frame rfl ?_ rfl fun gone => absurd gone held⟩
    simp only [SharedSender.finish, Sender.finish_of_settling settling]
  | abandon idle empty given => exact .inr ⟨caller, place, tally.frame rfl rfl rfl fun _ => rfl⟩
  | drop alone =>
    by_cases unstarted : shared.receiver = .sender
    · exact .inl ⟨by simp [SharedSender.drop, unstarted], orderly.unbegun (.inl unstarted)⟩
    · refine .inr ⟨caller, place, tally.frame rfl rfl rfl ?_⟩
      simpa [SharedSender.drop, unstarted] using tally.received

theorem tally_new (outbox : Outbox ν) (caller : ι) :
    Tally [] (new false outbox : SharedSender ι ν) caller .outside where
  alone := (Function.update_eq_self caller fun _ => (Caller.outside : Caller ν)).symm
  started := by simp [new, Sender.new]
  stopped := by simp [new, Sender.new]
  sending := by simp
  received := by simp [new]
  records := rfl

theorem Trace.tally [Nonempty ι] {outbox : Outbox ν} {calls : List (Call ν)} {shared : SharedSender ι ν}
    (trace : Trace (new false outbox) calls shared) (polite : Call.Polite calls) :
    Lost shared ∨ ∃ caller place, Tally calls shared caller place := by
  induction trace with
  | nil => exact .inr ⟨Classical.arbitrary ι, .outside, tally_new outbox _⟩
  | call trace caller call alone step ih =>
    have orderly := (trace.run.invariant (orderly_new outbox) (lossless_new outbox)).1
    obtain lost | ⟨other, place, tally⟩ := ih polite.before
    · exact .inl (step.lost orderly lost)
    · exact .inr ⟨caller, (tally.outside alone caller).called orderly alone polite⟩
  | inside trace step within ih =>
    obtain ⟨orderly, lossless⟩ := trace.run.invariant (orderly_new outbox) (lossless_new outbox)
    obtain lost | ⟨caller, place, tally⟩ := ih polite
    · exact .inl (step.lost orderly lost)
    · exact step.tally within orderly lossless tally

/-- An asynchronous sender whose worker has left has delivered what it was sent. -/
theorem Trace.delivered_of_exited [Nonempty ι] {outbox : Outbox ν} {calls : List (Call ν)}
    {shared : SharedSender ι ν} (trace : Trace (new false outbox) calls shared)
    (polite : Call.Polite calls) (exited : shared.sender.worker = .exited) :
    shared.outbox = (Call.sends calls).foldl Outbox.deliver outbox := by
  obtain ⟨orderly, lossless⟩ := trace.run.invariant (orderly_new outbox) (lossless_new outbox)
  obtain lost | ⟨caller, place, tally⟩ := trace.tally polite
  · rw [lost.2] at exited
    contradiction
  · have empty := (lossless.exited exited).1
    have idle : place.inHand = [] := by
      cases place with
      | sending capture =>
        obtain stopped | dropped := (lossless.exited exited).2
        · exact absurd stopped.1 (tally.sending capture rfl)
        · have outside := orderly.left dropped caller
          rw [tally.alone, Function.update_self] at outside
          contradiction
      | _ => rfl
    have records := tally.records
    rw [idle, List.append_nil, lossless.flow, exited, Sender.queued, empty] at records
    rw [lossless.network, ← records]
    simp [Worker.held]

/-! ## The synchronous mode -/

/-- How a synchronous sender stands after the calls, when the given caller is at the given place. -/
structure Inline (outbox : Outbox ν) (calls : List (Call ν)) (shared : SharedSender ι ν) (caller : ι)
    (place : Caller ν) : Prop where
  alone : Alone shared.callers caller place
  synchronous : shared.sender.synchronous = true
  phase : shared.sender.phase = .created ∨ shared.sender.phase = .inline
  absent : shared.sender.worker = .absent
  sending : place = .outside ∨ ∃ capture, place = .sending capture
  network : place.inHand.foldl Outbox.deliver shared.outbox = (Call.sends calls).foldl Outbox.deliver outbox

namespace Inline

variable {outbox : Outbox ν} {calls : List (Call ν)} {shared next : SharedSender ι ν} {caller other : ι}
  {place : Caller ν}

theorem phase_ne (inline : Inline outbox calls shared caller place) :
    shared.sender.phase ≠ .stopped ∧ shared.sender.phase ≠ .running := by
  obtain phase | phase := inline.phase <;> simp [phase]

/-- A caller is in a send or in no call at all. -/
theorem found (inline : Inline outbox calls shared caller place) {found : Caller ν}
    (at_ : shared.callers other = found) : found = .outside ∨ ∃ capture, found = .sending capture := by
  by_cases outside : found = .outside
  · exact .inl outside
  · rw [← (inline.alone.same at_ outside).2]
    exact inline.sending

theorem beginStart (inline : Inline outbox calls shared caller place) (other : ι) :
    Inline outbox calls (shared.beginStart other) caller place := by
  unfold SharedSender.beginStart
  split
  · exact inline
  · rw [if_pos inline.synchronous]
    exact ⟨inline.alone, inline.synchronous, .inr rfl, inline.absent, inline.sending, inline.network⟩

theorem beginStop (inline : Inline outbox calls shared caller place) (other : ι) :
    shared.beginStop other = shared := by
  rw [SharedSender.beginStop, if_neg inline.phase_ne.2]

theorem beginFlush (inline : Inline outbox calls shared caller place) (other : ι) :
    shared.beginFlush other = shared := by
  rw [SharedSender.beginFlush, if_pos ⟨inline.phase_ne.2, inline.synchronous⟩]

theorem outside (inline : Inline outbox calls shared caller place)
    (empty : ∀ other, shared.callers other = .outside) (other : ι) :
    Inline outbox calls shared other .outside := by
  have here : place = .outside := by
    have found := empty caller
    rwa [inline.alone, Function.update_self] at found
  subst here
  refine { inline with alone := ?_ }
  rw [Alone, funext empty, Function.update_eq_self]

theorem called (inline : Inline outbox calls shared caller .outside)
    (empty : ∀ other, shared.callers other = .outside) (call : Call ν) :
    ∃ place, Inline outbox (calls ++ [call]) (shared.begin caller call) caller place := by
  have ignore (none_sent : call.sent? = none) : Inline outbox (calls ++ [call]) shared caller .outside :=
    { inline with network := by simpa [Call.sends, none_sent] using inline.network }
  cases call with
  | start => exact ⟨_, (ignore rfl).beginStart caller⟩
  | send capture =>
    refine ⟨.sending capture, ?_⟩
    rw [SharedSender.begin, beginSend, if_neg inline.phase_ne.1]
    refine { inline with alone := Alone.enter empty caller _, sending := .inr ⟨capture, rfl⟩, network := ?_ }
    rw [Call.sends_append, List.foldl_append, ← inline.network]
    rfl
  | flush =>
    rw [SharedSender.begin, inline.beginFlush]
    exact ⟨_, ignore rfl⟩
  | stop =>
    rw [SharedSender.begin, inline.beginStop]
    exact ⟨_, ignore rfl⟩

end Inline

/-- A step inside of a send, which delivers the record. -/
theorem Step.inline {outbox : Outbox ν} {calls : List (Call ν)} {shared next : SharedSender ι ν}
    (step : Step shared next)
    (within : ∀ caller, shared.callers caller = .outside → next.callers caller = .outside)
    {caller : ι} {place : Caller ν} (inline : Inline outbox calls shared caller place) :
    ∃ place, Inline outbox calls next caller place := by
  have absent := inline.absent
  cases step with
  | beginSend other capture free =>
    rw [SharedSender.beginSend, if_neg inline.phase_ne.1] at within
    have outside := within other free.1
    simp [move] at outside
  | sendInline other capture found mode =>
    obtain ⟨rfl, rfl⟩ := inline.alone.same found (by simp)
    exact ⟨.outside, inline.alone.move _, inline.synchronous, inline.phase, absent, .inl rfl,
      inline.network⟩
  | enqueue other capture found mode unlocked =>
    rw [inline.synchronous] at mode
    contradiction
  | beginStart other free unlocked => exact ⟨_, inline.beginStart other⟩
  | beginStop other free unlocked =>
    rw [inline.beginStop]
    exact ⟨_, inline⟩
  | beginFlush other free =>
    rw [inline.beginFlush]
    exact ⟨_, inline⟩
  | countSent other found | putBack other found | lose other found | launch other found
  | run other found | halt other found unlocked | close other found | endStop other found
  | endFlush other found unlocked =>
    -- No caller of a synchronous sender is at any of these places.
    simpa using inline.found found
  | receive idle | abandon idle empty given => simp [absent] at idle
  | deliver capture taken => simp [absent] at taken
  | finish settling unlocked => simp [absent] at settling
  | drop alone => exact ⟨_, { inline with }⟩

theorem inline_new (outbox : Outbox ν) (caller : ι) :
    Inline outbox [] (new true outbox : SharedSender ι ν) caller .outside where
  alone := (Function.update_eq_self caller fun _ => (Caller.outside : Caller ν)).symm
  synchronous := rfl
  phase := .inl rfl
  absent := rfl
  sending := .inl rfl
  network := rfl

theorem Trace.inline [Nonempty ι] {outbox : Outbox ν} {calls : List (Call ν)} {shared : SharedSender ι ν}
    (trace : Trace (new true outbox) calls shared) :
    ∃ caller place, Inline outbox calls shared caller place := by
  induction trace with
  | nil => exact ⟨Classical.arbitrary ι, .outside, inline_new outbox _⟩
  | call trace caller call alone step ih =>
    obtain ⟨other, place, inline⟩ := ih
    exact ⟨caller, (inline.outside alone caller).called alone call⟩
  | inside trace step within ih =>
    obtain ⟨caller, place, inline⟩ := ih
    exact ⟨caller, step.inline within inline⟩

/-- A synchronous sender has delivered what it was sent in all sends that have returned. -/
theorem Trace.delivered_of_returned [Nonempty ι] {outbox : Outbox ν} {calls : List (Call ν)}
    {shared : SharedSender ι ν} (trace : Trace (new true outbox) calls shared)
    (returned : ∀ caller, shared.callers caller = .outside) :
    shared.outbox = (Call.sends calls).foldl Outbox.deliver outbox := by
  obtain ⟨caller, place, inline⟩ := trace.inline
  exact (inline.outside returned caller).network

/-! ## Both modes -/

/-- A sender is done with what it was asked. A synchronous one is as soon as all calls have returned. An
asynchronous one, to which nothing is sent after its stop, is when its worker has left. -/
def Finished (synchronous : Bool) (calls : List (Call ν)) (shared : SharedSender ι ν) : Prop :=
  if synchronous then ∀ caller, shared.callers caller = .outside
  else Call.Polite calls ∧ shared.sender.worker = .exited

theorem Trace.delivered_of_finished [Nonempty ι] {outbox : Outbox ν} {synchronous : Bool}
    {calls : List (Call ν)} {shared : SharedSender ι ν} (trace : Trace (new synchronous outbox) calls shared)
    (finished : Finished synchronous calls shared) :
    shared.outbox = (Call.sends calls).foldl Outbox.deliver outbox := by
  cases synchronous with
  | true => exact trace.delivered_of_returned finished
  | false => exact trace.delivered_of_exited finished.1 finished.2

/-- Two senders that are done and were sent the same records, in the same order, have made the same attempts,
up to the stamps of the deliveries. It does not matter which of them is synchronous, when an asynchronous one
was started, what its worker did meanwhile, nor what other calls there were. The transports may answer in any
way that does not look at stamps, such as by the number of the attempt. With the same stamps, the attempts are
the same altogether. -/
theorem attempts_of_sends [Nonempty ι] {network : ν} {stamps stamps' : Nat → Stamp}
    {synchronous synchronous' : Bool} {calls calls' : List (Call ν)} {shared shared' : SharedSender ι ν}
    (trace : Trace (new synchronous { network, stamps }) calls shared)
    (finished : Finished synchronous calls shared)
    (trace' : Trace (new synchronous' { network, stamps := stamps' }) calls' shared')
    (finished' : Finished synchronous' calls' shared')
    (same : Call.sends calls = Call.sends calls')
    (blind : ∀ capture ∈ Call.sends calls, capture.snapshot.client.transport.Blind) :
    shared.outbox.attempts.map Attempt.unstamped = shared'.outbox.attempts.map Attempt.unstamped ∧
      shared.outbox.network = shared'.outbox.network ∧
      (stamps = stamps' → shared.outbox.attempts = shared'.outbox.attempts) := by
  have delivered := trace.delivered_of_finished finished
  have delivered' := trace'.delivered_of_finished finished'
  rw [← same] at delivered'
  have fresh : Outbox.Alike { network, stamps } { network, stamps := stamps' } := ⟨rfl, rfl⟩
  have alike := fresh.deliver_all blind
  rw [← delivered, ← delivered'] at alike
  refine ⟨alike.attempts, alike.network, fun stamped => ?_⟩
  rw [delivered, delivered', stamped]

/-- A network whose first attempt aborts and whose second is answered with status 503. -/
def faltering : Transport Nat where
  attempt _ number :=
    match number with
    | 0 => (.error (.panic "connection lost"), 1)
    | 1 => (.ok { status := 503 }, 2)
    | number => (.ok { status := 200 }, number + 1)

/-- Two records, the first of them sent before the start, over a network that falters. -/
theorem attempts_of_two_sends :
    ∃ (calls calls' : List (Call Nat)) (direct behind : SharedSender Unit Nat),
      Trace (new true { network := 0, stamps := fun _ => ⟨"c", "t"⟩ }) calls direct ∧
        Trace (new false { network := 0, stamps := fun n => ⟨n.repr, "u"⟩ }) calls' behind ∧
        (Call.sends calls).length = 2 ∧ behind.sender.worker = .exited ∧
        direct.outbox.attempts.map Attempt.unstamped = behind.outbox.attempts.map Attempt.unstamped := by
  let snapshot : Snapshot Nat := { client := ⟨faltering, .standard⟩, agentId := "a", sessionId := "s" }
  let first : Capture Nat := ⟨snapshot, .blank "openai" "first"⟩
  let second : Capture Nat := ⟨snapshot, .blank "openai" "second"⟩
  let inline : Outbox Nat := { network := 0, stamps := fun _ => ⟨"c", "t"⟩ }
  let queued : Outbox Nat := { network := 0, stamps := fun n => ⟨n.repr, "u"⟩ }
  have direct := (Trace.nil : Trace (new true inline : SharedSender Unit Nat) [] _)
    |>.call () (.send first) (fun _ => rfl) (.beginSend () first ⟨rfl, rfl⟩)
    |>.inside (.sendInline () first rfl rfl) (fun _ _ => rfl)
    |>.call () .flush (fun _ => rfl) (.beginFlush () ⟨rfl, rfl⟩)
    |>.call () (.send second) (fun _ => rfl) (.beginSend () second ⟨rfl, rfl⟩)
    |>.inside (.sendInline () second rfl rfl) (fun _ _ => rfl)
  have started := (Trace.nil : Trace (new false queued : SharedSender Unit Nat) [] _)
    |>.call () (.send first) (fun _ => rfl) (.beginSend () first ⟨rfl, rfl⟩)
    |>.inside (.enqueue () first rfl rfl rfl) (fun _ => nofun)
    |>.inside (.countSent () rfl) (fun _ _ => rfl)
    |>.call () .start (fun _ => rfl) (.beginStart () ⟨rfl, rfl⟩ rfl)
    |>.inside (.launch () rfl) (fun _ => nofun)
    |>.inside (.run () rfl) (fun _ _ => rfl)
  -- The state between the two deliveries is written out, to keep the states behind it small.
  let halfway : SharedSender Unit Nat :=
    { sender := ⟨false, .running, [.deliver second], 1, .idle⟩
      outbox := queued.deliver first
      receiver := .worker
      accepted := [first, second]
      delivered := [first] }
  have delivered : Trace (new false queued) [.send first, .start, .send second] halfway := started
    |>.call () (.send second) (fun _ => rfl) (.beginSend () second ⟨rfl, rfl⟩)
    |>.inside (.receive rfl) (fun _ => id)
    |>.inside (.enqueue () second rfl rfl rfl) (fun _ => nofun)
    |>.inside (.countSent () rfl) (fun _ _ => rfl)
    |>.inside (.deliver first rfl) (fun _ => id)
    |>.inside (.finish rfl rfl) (fun _ => id)
  have behind := delivered
    |>.call () .stop (fun _ => rfl) (.beginStop () ⟨rfl, rfl⟩ rfl)
    |>.inside (.halt () rfl rfl) (fun _ => nofun)
    |>.inside (.close () rfl) (fun _ => nofun)
    |>.inside (.receive rfl) (fun _ => id)
    |>.inside (.deliver second rfl) (fun _ => id)
    |>.inside (.finish rfl rfl) (fun _ => id)
    |>.inside (.receive rfl) (fun _ => id)
    |>.inside (.endStop () rfl) (fun _ _ => rfl)
    |>.call () .start (fun _ => rfl) (.beginStart () ⟨rfl, rfl⟩ rfl)
  have polite : Call.Polite ([.send first, .start, .send second] ++ .stop :: [.start]) :=
    Call.polite_of_stop (by simp) rfl
  have blind : ∀ capture ∈ [first, second], capture.snapshot.client.transport.Blind := by
    have positional : faltering.Positional := fun _ _ _ => rfl
    intro capture member
    obtain rfl | rfl : capture = first ∨ capture = second := by simpa using member
    · exact positional.blind
    · exact positional.blind
  have agree := attempts_of_sends direct (fun _ => rfl) behind ⟨polite, rfl⟩ rfl blind
  exact ⟨_, _, _, _, direct, behind, rfl, rfl, agree.1⟩

end SharedSender

end LlmTelemetry
