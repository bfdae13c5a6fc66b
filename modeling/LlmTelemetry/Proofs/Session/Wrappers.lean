import LlmTelemetry.Session.Capture
import Mathlib.Tactic.Common
/-!
# Calls through wrappers

However many wrappers are around a handler, a call looks at the session, runs the handler inside of all of
them once with the same arguments, ends as it ends, and captures afterwards. The one way in which a
wrapper can come before the handler is its interceptor, which is asked about streaming before the call: when
it aborts, the caller gets that abort, and the handler does not run.

A task is suspended between its steps, so its calls are told by what the steps did, each in the state that
other code had left.
-/

namespace LlmTelemetry

/-- The steps of a task, each with the state before and after it, and the value at its end. Between two steps
the state may change in any way. -/
inductive Task.Performs {σ α : Type} : Task σ α → List (σ × σ) → α → Prop
  | done (value : α) : Performs (.done value) [] value
  | step {effect : σ → σ} {next : σ → Task σ α} {steps : List (σ × σ)} {value : α} (state : σ)
    (rest : Performs (next state) steps value) :
    Performs (.step effect next) ((state, effect state) :: steps) value

theorem Task.Performs.of_andThen {σ α β : Type} {task : Task σ α} {rest : α → Task σ β}
    {steps : List (σ × σ)} {value : β} (performs : (task.andThen rest).Performs steps value) :
    ∃ first second between, steps = first ++ second ∧ task.Performs first between ∧
      (rest between).Performs second value := by
  induction task generalizing steps with
  | done between => exact ⟨[], steps, between, rfl, .done between, performs⟩
  | step effect next ih =>
    obtain _ | ⟨state, others⟩ := performs
    obtain ⟨first, second, between, rfl, begun, ended⟩ := ih state others
    exact ⟨(state, effect state) :: first, second, between, rfl, .step state begun, ended⟩

variable {σ ν : Type}

theorem World.treatment_eq_abort {world : World σ ν} {interceptor : Interceptor σ} {args : Json}
    {message : String} : world.treatment interceptor args = .abort message ↔
      world.session.isSome = true ∧ interceptor.isStreaming args = .error ⟨message⟩ := by
  unfold treatment
  cases world.session with
  | none => simp
  | some session =>
    cases asked : interceptor.isStreaming args with
    | error reason =>
      obtain ⟨text⟩ := reason
      simp
    | ok streaming => cases streaming <;> simp

namespace Handler

/-- The interceptors of the wrappers around a handler, the outermost first. -/
def interceptors : Handler σ → List (Interceptor σ)
  | .wrapper _ interceptor inner => interceptor :: inner.interceptors
  | .sync _ _ => []
  | .async _ _ => []

/-- What the wrappers do after a call that began in one world and ended in another. -/
def settle : Handler σ → (began : World σ ν) → Json → Ending String Json → World σ ν → World σ ν
  | .wrapper _ interceptor inner, began, args, ending, ended =>
    let world := inner.settle began args ending ended
    match began.treatment interceptor args, ending with
    | .capture session, .ok response =>
      world.capture interceptor session response args (world.now - began.now)
    | _, _ => world
  | .sync _ _, _, _, _, ended => ended
  | .async _ _, _, _, _, ended => ended

/-- No interceptor aborts when it is asked about a call that begins in the world. -/
def Calm (handler : Handler σ) (args : Json) (world : World σ ν) : Prop :=
  ∀ interceptor ∈ handler.interceptors, ∀ message, world.treatment interceptor args ≠ .abort message

theorem calm_wrapper {id : Nat} {interceptor : Interceptor σ} {inner : Handler σ} {args : Json}
    {world : World σ ν} : (Handler.wrapper id interceptor inner).Calm args world ↔
      (∀ message, world.treatment interceptor args ≠ .abort message) ∧ inner.Calm args world :=
  List.forall_mem_cons

theorem call_of_calm {handler : Handler σ} {args : Json} {world : World σ ν}
    (calm : handler.Calm args world) :
    handler.call args world =
      ((handler.innermost.call args world).1,
        handler.settle world args (handler.innermost.call args world).1
          (handler.innermost.call args world).2) := by
  induction handler with
  | sync | async => rfl
  | wrapper id interceptor inner ih =>
    obtain ⟨first, others⟩ := calm_wrapper.mp calm
    have inside := ih others
    simp only [call, innermost, settle]
    cases treated : world.treatment interceptor args with
    | passThrough => exact inside
    | abort message => exact absurd treated (first message)
    | capture session =>
      simp only [inside]
      cases (inner.innermost.call args world).1 with
      | error fault => rfl
      | ok response => rfl

theorem call_of_abort {handler : Handler σ} {args : Json} {world : World σ ν}
    (aborts : ¬ handler.Calm args world) :
    ∃ interceptor ∈ handler.interceptors, ∃ message,
      world.treatment interceptor args = .abort message ∧
        handler.call args world = (.error (.panic message), world) := by
  induction handler with
  | sync | async => simp [Calm, interceptors] at aborts
  | wrapper id interceptor inner ih =>
    rw [calm_wrapper, not_and] at aborts
    simp only [call]
    cases treated : world.treatment interceptor args with
    | abort message => exact ⟨interceptor, List.mem_cons_self, message, treated, rfl⟩
    | passThrough =>
      obtain ⟨other, member, message, asked, called⟩ := ih (aborts (by simp [treated]))
      exact ⟨other, List.mem_cons_of_mem _ member, message, asked, called⟩
    | capture session =>
      obtain ⟨other, member, message, asked, called⟩ := ih (aborts (by simp [treated]))
      refine ⟨other, List.mem_cons_of_mem _ member, message, asked, ?_⟩
      simp only [called]

/-! ## Tasks -/

def LookOnly (steps : List (World σ ν × World σ ν)) : Prop :=
  ∀ step ∈ steps, step.2 = step.1

/-- The steps capture a call that gave a value. -/
def CaptureOnly (handler : Handler σ) (args : Json) (ending : Ending String Json)
    (steps : List (World σ ν × World σ ν)) : Prop :=
  ∀ step ∈ steps, ∃ interceptor ∈ handler.interceptors, ∃ session response latencyMs,
    ending = .ok response ∧ step.2 = step.1.capture interceptor session response args latencyMs

/-- The steps of a call are looks at the session, then the steps of the innermost handler with its ending, and
then captures. -/
def PassesThrough (handler : Handler σ) (args : Json) (steps : List (World σ ν × World σ ν))
    (ending : Ending String Json) : Prop :=
  ∃ before during after, steps = before ++ during ++ after ∧ LookOnly before ∧
    (handler.innermost.task args).Performs during ending ∧ handler.CaptureOnly args ending after

/-- The steps of a call are looks at the session, at the last of which an interceptor aborted. -/
def Refused (handler : Handler σ) (args : Json) (steps : List (World σ ν × World σ ν))
    (ending : Ending String Json) : Prop :=
  LookOnly steps ∧ ∃ interceptor ∈ handler.interceptors, ∃ world message,
    (world, world) ∈ steps ∧ world.treatment interceptor args = .abort message ∧
      ending = .error (.panic message)

theorem passesThrough_innermost {handler : Handler σ} {args : Json}
    {steps : List (World σ ν × World σ ν)} {ending : Ending String Json}
    (performs : (handler.innermost.task args).Performs steps ending) :
    handler.PassesThrough args steps ending := by
  refine ⟨[], steps, [], by simp, ?_, performs, ?_⟩
  · simp [LookOnly]
  · simp [CaptureOnly]

section Wrapper

variable {id : Nat} {interceptor : Interceptor σ} {inner : Handler σ} {args : Json}
  {steps : List (World σ ν × World σ ν)} {ending : Ending String Json} (world : World σ ν)

theorem PassesThrough.looked (passes : inner.PassesThrough args steps ending) :
    (wrapper id interceptor inner).PassesThrough args ((world, world) :: steps) ending := by
  obtain ⟨before, during, after, rfl, looks, performs, captures⟩ := passes
  refine ⟨(world, world) :: before, during, after, rfl, ?_, performs, ?_⟩
  · exact List.forall_mem_cons.mpr ⟨rfl, looks⟩
  · intro step member
    obtain ⟨other, inside, captured⟩ := captures step member
    exact ⟨other, List.mem_cons_of_mem _ inside, captured⟩

theorem Refused.looked (refused : inner.Refused args steps ending) :
    (wrapper id interceptor inner).Refused args ((world, world) :: steps) ending := by
  obtain ⟨looks, other, inside, begun, message, member, aborted, ended⟩ := refused
  refine ⟨List.forall_mem_cons.mpr ⟨rfl, looks⟩, other, List.mem_cons_of_mem _ inside, begun, message,
    List.mem_cons_of_mem _ member, aborted, ended⟩

theorem PassesThrough.captured {session : ActiveSession ν} {response : Json} {latencyMs : Float}
    (passes : (wrapper id interceptor inner).PassesThrough args steps (.ok response)) :
    (wrapper id interceptor inner).PassesThrough args
      (steps ++ [(world, world.capture interceptor session response args latencyMs)])
      (.ok response) := by
  obtain ⟨before, during, after, rfl, looks, performs, captures⟩ := passes
  refine ⟨before, during, after ++ [_], (List.append_assoc _ _ _), looks, performs, ?_⟩
  intro step member
  obtain earlier | last := List.mem_append.mp member
  · exact captures step earlier
  · rw [List.mem_singleton.mp last]
    exact ⟨interceptor, List.mem_cons_self, session, response, latencyMs, rfl, rfl⟩

end Wrapper

theorem task_performs {handler : Handler σ} {args : Json} {steps : List (World σ ν × World σ ν)}
    {ending : Ending String Json} (performs : (handler.task args).Performs steps ending) :
    handler.PassesThrough args steps ending ∨ handler.Refused args steps ending := by
  induction handler generalizing steps ending with
  | sync | async => exact .inl (passesThrough_innermost performs)
  | wrapper id interceptor inner ih =>
    obtain _ | ⟨world, rest⟩ := performs
    cases treated : world.treatment interceptor args with
    | passThrough =>
      simp only [treated] at rest
      exact (ih rest).imp (·.looked world) (·.looked world)
    | abort message =>
      simp only [treated] at rest
      cases rest
      refine .inr ⟨by simp [LookOnly], interceptor, List.mem_cons_self, world, message, ?_, treated, rfl⟩
      exact List.mem_cons_self
    | capture session =>
      simp only [treated] at rest
      obtain ⟨first, second, between, rfl, begun, ended⟩ := rest.of_andThen
      -- Only a value is followed by one more step, the capture.
      cases between with
      | error fault =>
        cases ended
        rw [List.append_nil]
        exact (ih begun).imp (·.looked world) (·.looked world)
      | ok response =>
        obtain _ | ⟨world', last⟩ := ended
        cases last
        obtain passes | refused := ih begun
        · exact .inl ((passes.looked world).captured world')
        · obtain ⟨-, other, _, there, message, _, _, ended⟩ := refused
          contradiction

/-- Through any stack of wrappers a call passes to the innermost handler and ends as that handler ends, and
awaiting a task does, whatever other code does between its steps. The exception is an interceptor that aborts
when it is asked about streaming in an active session: then the caller gets that abort. -/
theorem call_passes_through_or_refused (handler : Handler σ) (args : Json) :
    (∀ world : World σ ν,
      (handler.Calm args world → handler.call args world =
        ((handler.innermost.call args world).1,
          handler.settle world args (handler.innermost.call args world).1
            (handler.innermost.call args world).2)) ∧
      (¬ handler.Calm args world → ∃ interceptor ∈ handler.interceptors, ∃ message,
        world.session.isSome = true ∧ interceptor.isStreaming args = .error ⟨message⟩ ∧
          handler.call args world = (.error (.panic message), world))) ∧
    ∀ (steps : List (World σ ν × World σ ν)) (ending : Ending String Json),
      (handler.task args).Performs steps ending →
        handler.PassesThrough args steps ending ∨ handler.Refused args steps ending := by
  refine ⟨fun world => ⟨call_of_calm, fun aborts => ?_⟩, fun steps ending => task_performs⟩
  obtain ⟨interceptor, member, message, treated, called⟩ := call_of_abort aborts
  obtain ⟨active, asked⟩ := World.treatment_eq_abort.mp treated
  exact ⟨interceptor, member, message, active, asked, called⟩

/-- Two wrappers around a handler that counts its calls. The outer interceptor aborts when it is to read the
response, and the call still ends as the handler ends; when the inner one aborts on the question, the
handler does not run. -/
theorem call_passes_through_once_or_not :
    ∃ (careless panicking : Handler Nat) (world : World Nat Unit),
      world.session.isSome = true ∧
        (careless.call .null world).1 = .ok (.string "answer") ∧
        (careless.call .null world).2.host = 1 ∧
        (panicking.call .null world).1 = .error (.panic "no") ∧
        (panicking.call .null world).2.host = 0 := by
  let client : Client Unit := ⟨⟨fun _ network => (.error (.panic "down"), network)⟩, .standard⟩
  let session : ActiveSession Unit := ⟨{ client, agentId := "a", sessionId := "s" }, 0⟩
  let outbox : Outbox Unit := { network := (), stamps := fun _ => ⟨"c", "t"⟩ }
  let world : World Nat Unit :=
    { host := 0, clock := fun _ => 0, outbox, senders := [.new true], session := some session }
  let original : Handler Nat := .sync 0 fun _ calls => (.ok (.string "answer"), calls + 1)
  let blind : Interceptor Nat :=
    ⟨"blind", .ok [], fun _ => .ok false, fun _ _ _ calls => (.error (.panic "blind"), calls)⟩
  let unsure : Interceptor Nat :=
    ⟨"unsure", .ok [], fun _ => .error ⟨"no"⟩, fun _ _ _ calls => (.error (.error "no"), calls)⟩
  let careless : Handler Nat := .wrapper 1 blind (.wrapper 0 blind original)
  let panicking : Handler Nat := .wrapper 1 blind (.wrapper 0 unsure original)
  have calm : careless.Calm .null world := by
    simp [Calm, interceptors, World.treatment, careless, world, blind, original]
  have uneasy : ¬ panicking.Calm .null world := by
    simp [Calm, interceptors, World.treatment, panicking, world, blind, unsure, original]
  have passed := ((call_passes_through_or_refused careless .null).1 world).1 calm
  obtain ⟨interceptor, member, message, -, asked, refused⟩ :=
    ((call_passes_through_or_refused panicking .null).1 world).2 uneasy
  have same : message = "no" := by
    obtain rfl | rfl := by simpa [interceptors, panicking, original] using member
    · contradiction
    · simpa [unsure, eq_comm] using asked
  subst same
  refine ⟨careless, panicking, world, rfl, ?_, ?_, ?_, ?_⟩
  · rw [passed]
    rfl
  · rw [passed]
    rfl
  · rw [refused]
  · rw [refused]

end Handler

end LlmTelemetry
