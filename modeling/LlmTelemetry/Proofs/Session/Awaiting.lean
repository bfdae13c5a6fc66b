import LlmTelemetry.Proofs.Session.Captures
/-!
# Calls that are answered at once and calls that are awaited

A wrapper around a handler that answers at once and a wrapper around one that answers by tasks are written down
separately. They treat a call alike when the two handlers inside do: `Twins` are two handlers in the same wrappers,
such that to await a task of the second is to call the first.

What a wrapper makes of a call depends on time as well, since the interceptor is told how long the call took. So two
calls are compared in worlds with different clocks. Which calls the code inside has seen is told by `noting`, which
keeps a list of their arguments beside the state of the host.
-/

namespace LlmTelemetry

variable {σ ν : Type}

namespace Handler

/-- Two handlers in the same wrappers, the first answering at once what awaiting the second gives. -/
inductive Twins : Handler σ → Handler σ → Prop
  | body {body : Json → σ → Ending String Json × σ} {task : Json → Task σ (Ending String Json)} (id id' : Nat)
    (same : ∀ args host, (task args).await host = body args host) : Twins (.sync id body) (.async id' task)
  | wrapper {inner inner' : Handler σ} (id id' : Nat) (interceptor : Interceptor σ) (twins : Twins inner inner') :
    Twins (.wrapper id interceptor inner) (.wrapper id' interceptor inner')

theorem Twins.call {first second : Handler σ} (twins : Twins first second) (args : Json) (world : World σ ν) :
    second.call args world = first.call args world := by
  induction twins generalizing world with
  | @body body task id id' same =>
    show (hostTask (task args)).await world = runBody body args world
    rw [await_hostTask, same]
    rfl
  | wrapper id id' interceptor twins ih =>
    rw [Handler.call, Handler.call]
    cases world.treatment interceptor args with
    | passThrough => exact ih world
    | abort message => rfl
    | capture session => simp only [ih]

theorem Twins.await {first second : Handler σ} (twins : Twins first second) (args : Json) (world : World σ ν) :
    (second.task args).await world = first.call args world :=
  (await_task second args world).trans (twins.call args world)

end Handler

/-! ## Notes of the calls inside -/

/-- The interceptor in a program that keeps notes, of which it knows nothing. -/
def Interceptor.besideNotes (interceptor : Interceptor σ) : Interceptor (σ × List Json) where
  provider := interceptor.provider
  targets := interceptor.targets
  isStreaming := interceptor.isStreaming
  extract response args latencyMs whole :=
    let (ending, host) := interceptor.extract response args latencyMs whole.1
    (ending, (host, whole.2))

/-- A task that begins with a note of its arguments. -/
def Task.noting (args : Json) (task : Task σ (Ending String Json)) : Task (σ × List Json) (Ending String Json) :=
  .step (fun whole => (whole.1, whole.2 ++ [args])) fun _ =>
    task.onPart Prod.fst fun host whole => (host, whole.2)

theorem Task.await_noting (args : Json) (task : Task σ (Ending String Json)) (whole : σ × List Json) :
    (task.noting args).await whole =
      ((task.await whole.1).1, ((task.await whole.1).2, whole.2 ++ [args])) := by
  have onPart (notes : List Json) (host : σ) :
      (task.onPart Prod.fst fun host whole => (host, whole.2)).await (host, notes) =
        ((task.await host).1, ((task.await host).2, notes)) := by
    induction task generalizing host with
    | done ending => rfl
    | step effect next ih => exact ih host (effect host)
  exact onPart (whole.2 ++ [args]) whole.1

namespace Handler

/-- The same handler, whose code inside notes the arguments of its calls. -/
def noting : Handler σ → Handler (σ × List Json)
  | .sync id body => .sync id fun args whole =>
    let (ending, host) := body args whole.1
    (ending, (host, whole.2 ++ [args]))
  | .async id task => .async id fun args => (task args).noting args
  | .wrapper id interceptor inner => .wrapper id interceptor.besideNotes inner.noting

theorem Twins.noting {first second : Handler σ} (twins : Twins first second) :
    Twins first.noting second.noting := by
  induction twins with
  | body id id' same =>
    refine .body id id' fun args whole => ?_
    rw [Task.await_noting, same]
  | wrapper id id' interceptor twins ih => exact .wrapper id id' interceptor.besideNotes ih

end Handler

/-! ## One wrapper -/

/-- The arguments that the code inside of a wrapper is called with. -/
def Treatment.invocations (args : Json) : Treatment ν → List Json
  | .abort _ => []
  | .passThrough => [args]
  | .capture _ => [args]

/-- How a call ends whose code inside ends so. -/
def Treatment.ending (inside : Ending String Json) : Treatment ν → Ending String Json
  | .abort message => .error (.panic message)
  | .passThrough => inside
  | .capture _ => inside

/-- The world at the end of such a call, when it was `began` before and `ended` after the code inside. -/
def Treatment.world (interceptor : Interceptor σ) (args : Json) (inside : Ending String Json)
    (began ended : World σ ν) : Treatment ν → World σ ν
  | .abort _ => began
  | .passThrough => ended
  | .capture session =>
    match inside with
    | .error _ => ended
    | .ok response => ended.capture interceptor session response args (ended.now - began.now)

theorem Handler.call_wrapper (id : Nat) (interceptor : Interceptor σ) (inner : Handler σ) (args : Json)
    (world : World σ ν) :
    (wrapper id interceptor inner).call args world =
      ((world.treatment interceptor args).ending (inner.call args world).1,
        (world.treatment interceptor args).world interceptor args (inner.call args world).1 world
          (inner.call args world).2) := by
  rw [call]
  cases world.treatment interceptor args with
  | passThrough => rfl
  | abort message => rfl
  | capture session =>
    cases inner.call args world with
    | mk ending ended => cases ending <;> rfl

/-- What is done to the senders for a call that is treated so, ends so after so many milliseconds, and leaves the
host in the given state. -/
def Interceptor.jobs (interceptor : Interceptor σ) (args : Json) (ending : Ending String Json) (host : σ)
    (treatment : Treatment ν) (latencyMs : Float) : List (Job ν) :=
  match treatment, ending with
  | .capture session, .ok response =>
    match (interceptor.extract response args latencyMs host).1 with
    | .ok extraction => [.hand session.sender ⟨session.snapshot, extraction.record⟩]
    | .error _ => []
  | _, _ => []

theorem World.dispatch_capture (world : World σ ν) (interceptor : Interceptor σ) (session : ActiveSession ν)
    (args response : Json) (latencyMs : Float) :
    (world.capture interceptor session response args latencyMs).dispatch =
      (interceptor.jobs args (.ok response) world.host (.capture session) latencyMs).foldl Dispatch.perform
        world.dispatch := by
  unfold capture Interceptor.jobs
  dsimp only
  cases (interceptor.extract response args latencyMs world.host).1 with
  | error fault => cases fault <;> rfl
  | ok extraction =>
    dsimp only
    rw [send, withSender_eq]
    rfl

theorem World.notes_capture (world : World (σ × List Json) ν) (interceptor : Interceptor σ)
    (session : ActiveSession ν) (args response : Json) (latencyMs : Float) :
    (world.capture interceptor.besideNotes session response args latencyMs).host.2 = world.host.2 := by
  unfold capture
  dsimp only
  split
  · rw [send, withSender_eq]
    rfl
  · rfl
  · rfl

/-- What a wrapper leaves, in the notes and with the senders, of a call that ended so with the given host. -/
theorem Treatment.world_noting (treatment : Treatment ν) (interceptor : Interceptor σ) (args : Json)
    (inside : Ending String Json) (host : σ) (world : World (σ × List Json) ν) :
    let ended := (host, world.host.2 ++ [args])
    let after := treatment.world interceptor.besideNotes args inside world (world.setHost ended)
    after.host.2 = world.host.2 ++ treatment.invocations args ∧
      after.dispatch =
        (interceptor.jobs args inside host treatment (world.clock ended - world.now)).foldl Dispatch.perform
          world.dispatch := by
  cases treatment with
  | abort message => exact ⟨(List.append_nil _).symm, rfl⟩
  | passThrough => exact ⟨rfl, rfl⟩
  | capture session =>
    cases inside with
    | error fault => exact ⟨rfl, rfl⟩
    | ok response => exact ⟨World.notes_capture .., World.dispatch_capture ..⟩

/-- What is to be seen of a call through one wrapper. -/
theorem Handler.call_noting (id given : Nat) (interceptor : Interceptor σ)
    (body : Json → σ → Ending String Json × σ) (args : Json) (world : World (σ × List Json) ν) :
    let called := (wrapper id interceptor (.sync given body)).noting.call args world
    let treatment := world.treatment interceptor.besideNotes args
    let inside := body args world.host.1
    called.1 = treatment.ending inside.1 ∧
      called.2.host.2 = world.host.2 ++ treatment.invocations args ∧
      called.2.dispatch =
        (interceptor.jobs args inside.1 inside.2 treatment
          (world.clock (inside.2, world.host.2 ++ [args]) - world.now)).foldl Dispatch.perform
            world.dispatch := by
  intro called treatment inside
  have noted : (Handler.sync given body).noting.call args world =
      (inside.1, world.setHost (inside.2, world.host.2 ++ [args])) := rfl
  have through : called = _ :=
    call_wrapper id interceptor.besideNotes (Handler.sync given body).noting args world
  rw [noted] at through
  rw [through]
  exact ⟨rfl, treatment.world_noting interceptor args inside.1 inside.2 world⟩

/-- The same code in the wrapper for calls that are answered at once and in the wrapper for calls that are awaited.
Whatever the interceptor does, abort included, and whether a session is active or not: both calls end alike, both
call the code inside equally often, with the same arguments, and both do the same to the same sender, but for the
latency, which each reads off its own clock. With one clock they agree in everything. -/
theorem Handler.awaited_agrees_with_called (interceptor : Interceptor σ)
    (body : Json → σ → Ending String Json × σ) (task : Json → Task σ (Ending String Json))
    (same : ∀ args host, (task args).await host = body args host) (id id' given given' : Nat) (args : Json)
    (world : World (σ × List Json) ν) (clock : σ × List Json → Float) :
    let called := (wrapper id interceptor (.sync given body)).noting.call args world
    let awaited := ((wrapper id' interceptor (.async given' task)).noting.task args).await { world with clock }
    let treatment := world.treatment interceptor.besideNotes args
    let inside := body args world.host.1
    let ended := (inside.2, world.host.2 ++ [args])
    let jobs := interceptor.jobs args inside.1 inside.2 treatment
    (called.1 = treatment.ending inside.1 ∧ awaited.1 = called.1) ∧
      (called.2.host.2 = world.host.2 ++ treatment.invocations args ∧ awaited.2.host.2 = called.2.host.2) ∧
      (called.2.dispatch =
          (jobs (world.clock ended - world.clock world.host)).foldl Dispatch.perform world.dispatch ∧
        awaited.2.dispatch =
          (jobs (clock ended - clock world.host)).foldl Dispatch.perform world.dispatch) ∧
      (clock = world.clock → awaited = called) := by
  intro called awaited treatment inside ended jobs
  have twins : Twins (wrapper id interceptor (.sync given body)) (wrapper id' interceptor (.async given' task)) :=
    .wrapper id id' interceptor (.body given given' same)
  have answered : awaited = (wrapper id interceptor (.sync given body)).noting.call args { world with clock } :=
    twins.noting.await args { world with clock }
  obtain ⟨ending, notes, handed⟩ := call_noting id given interceptor body args world
  obtain ⟨ending', notes', handed'⟩ := call_noting id given interceptor body args { world with clock }
  rw [← answered] at ending' notes' handed'
  refine ⟨⟨ending, ending'.trans ending.symm⟩, ⟨notes, notes'.trans notes.symm⟩, ⟨handed, handed'⟩, ?_⟩
  rintro rfl
  exact answered

/-- The awaited code counts to two, and its clock goes three times as fast. -/
theorem Handler.awaited_agrees_with_called_in_two_steps :
    let body : Json → Nat → Ending String Json × Nat := fun args count => (.ok args, count + 2)
    let task : Json → Task Nat (Ending String Json) := fun args =>
      .step (· + 1) fun _ => .step (· + 1) fun _ => .done (.ok args)
    let interceptor : Interceptor Nat :=
      ⟨"echo", .ok [], fun _ => .ok false, fun _ _ latencyMs count =>
        (.ok ⟨{ CallRecord.blank "echo" "echo-1" with latencyMs }, none⟩, count)⟩
    let snapshot : Snapshot Unit :=
      { client := ⟨⟨fun _ state => (.error (.panic "no network"), state)⟩, .standard⟩
        agentId := "agent", sessionId := "session" }
    let world : World (Nat × List Json) Unit :=
      { host := (0, []), clock := fun whole => whole.1.toFloat,
        outbox := { network := (), stamps := fun _ => ⟨"c", "t"⟩ },
        senders := [Sender.holding []], session := some ⟨snapshot, 0⟩ }
    let called := (wrapper 3 interceptor (.sync 1 body)).noting.call .null world
    let awaited := ((wrapper 4 interceptor (.async 2 task)).noting.task .null).await
      { world with clock := fun whole => (3 * whole.1).toFloat }
    let record (latencyMs : Float) : CallRecord := { CallRecord.blank "echo" "echo-1" with latencyMs }
    (∀ args host, (task args).await host = body args host) ∧
      called.1 = .ok .null ∧ awaited.1 = .ok .null ∧ called.2.host.2 = [.null] ∧ awaited.2.host.2 = [.null] ∧
        called.2.dispatch.senders =
          [Sender.holding [⟨snapshot, record ((2 : Nat).toFloat - (0 : Nat).toFloat)⟩]] ∧
          awaited.2.dispatch.senders =
            [Sender.holding [⟨snapshot, record ((6 : Nat).toFloat - (0 : Nat).toFloat)⟩]] := by
  intro body task interceptor snapshot world called awaited record
  obtain ⟨⟨ending, endings⟩, ⟨notes, noted⟩, ⟨handed, handed'⟩, -⟩ :=
    awaited_agrees_with_called interceptor body task (fun _ _ => rfl) 3 4 1 2 .null world
      fun whole => (3 * whole.1).toFloat
  refine ⟨fun _ _ => rfl, ending, endings.trans ending, notes, noted.trans notes, ?_, ?_⟩
  · exact congrArg Dispatch.senders handed
  · exact congrArg Dispatch.senders handed'

end LlmTelemetry
