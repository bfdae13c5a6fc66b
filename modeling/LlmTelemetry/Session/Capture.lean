import LlmTelemetry.Instrument.Handler
import LlmTelemetry.Session.World
/-!
# Capturing calls

A wrapper calls the handler inside with the same arguments and ends as that one ends. When a session is
active as the call begins and no stream is asked for, a call that gives a value is captured on the way: the
record that the interceptor reads goes to the sender of that session. What goes wrong with that is told in
notices.
-/

namespace LlmTelemetry

variable {σ ν : Type}

/-- Read a record from a finished call and hand it over. -/
def World.capture (world : World σ ν) (interceptor : Interceptor σ) (session : ActiveSession ν)
    (response args : Json) (latencyMs : Float) : World σ ν :=
  let (ending, host) := interceptor.extract response args latencyMs world.host
  let world := world.setHost host
  match ending with
  | .ok extraction =>
    (world.tell (extraction.unpriced.map Notice.unpriced).toList).send session extraction.record
  | .error (.error reason) => world.tell [.captureFailed interceptor.provider reason]
  | .error (.panic _) => world.tell [.capturePanicked interceptor.provider]

/-- How a wrapper treats a call. -/
inductive Treatment (ν : Type) where
  | passThrough
  | capture (session : ActiveSession ν)
  /-- The interceptor aborted when it was asked whether the call is streamed. -/
  | abort (message : String)

/-- Decide on a call that begins now. -/
def World.treatment (world : World σ ν) (interceptor : Interceptor σ) (args : Json) : Treatment ν :=
  match world.session with
  | none => .passThrough
  | some session =>
    match interceptor.isStreaming args with
    | .error reason => .abort reason.message
    | .ok true => .passThrough
    | .ok false => .capture session

namespace Handler

/-- Run the code of the application on its part of the world. -/
def runBody (body : Json → σ → Ending String Json × σ) (args : Json) (world : World σ ν) :
    Ending String Json × World σ ν :=
  let (ending, host) := body args world.host
  (ending, world.setHost host)

/-- A task of the application as a task on the world. -/
def hostTask (task : Task σ (Ending String Json)) : Task (World σ ν) (Ending String Json) :=
  task.onPart World.host World.setHost

/-- Answer a call at once. -/
def call : Handler σ → Json → World σ ν → Ending String Json × World σ ν
  | .sync _ body, args, world => runBody body args world
  | .async _ body, args, world => (hostTask (body args)).await world
  | .wrapper _ interceptor inner, args, world =>
    match world.treatment interceptor args with
    | .passThrough => inner.call args world
    | .abort message => (.error (.panic message), world)
    | .capture session =>
      let started := world.now
      match inner.call args world with
      | (.error fault, world) => (.error fault, world)
      | (.ok response, world) =>
        (.ok response,
          world.capture interceptor session response args (world.now - started))

/-- Answer a call by a task. The session is looked up when the task takes its first step. -/
def task : Handler σ → Json → Task (World σ ν) (Ending String Json)
  | .sync _ body, args => .once (runBody body args)
  | .async _ body, args => hostTask (body args)
  | .wrapper _ interceptor inner, args =>
    .step id fun world =>
      match world.treatment interceptor args with
      | .passThrough => inner.task args
      | .abort message => .done (.error (.panic message))
      | .capture session =>
        let started := world.now
        (inner.task args).andThen fun ending =>
          match ending with
          | .error fault => .done (.error fault)
          | .ok response =>
            .step
              (fun world =>
                world.capture interceptor session response args (world.now - started))
              fun _ => .done (.ok response)

end Handler

end LlmTelemetry
