/-!
# Tasks

A task is a computation that is suspended between its steps: other code may run before the next step and
change the state. Awaiting a task runs all its steps on end.
-/

namespace LlmTelemetry

/-- A computation on states `σ` that ends with an `α`. -/
inductive Task (σ α : Type) where
  | done (value : α)
  /-- One step: what it does to the state, and what remains after it ran in a given state. -/
  | step (effect : σ → σ) (next : σ → Task σ α)

namespace Task

variable {σ τ α β : Type}

/-- The task of one step. -/
def once (run : σ → α × σ) : Task σ α :=
  .step (fun state => (run state).2) fun state => .done (run state).1

/-- Run all steps on end. -/
def await : Task σ α → σ → α × σ
  | .done value, state => (value, state)
  | .step effect next, state => (next state).await (effect state)

/-- Go on with another task. -/
def andThen : Task σ α → (α → Task σ β) → Task σ β
  | .done value, rest => rest value
  | .step effect next, rest => .step effect fun state => (next state).andThen rest

/-- A task on a part of the state. -/
def onPart (get : τ → σ) (set : σ → τ → τ) : Task σ α → Task τ α
  | .done value => .done value
  | .step effect next =>
    .step (fun whole => set (effect (get whole)) whole) fun whole => (next (get whole)).onPart get set

theorem await_once (run : σ → α × σ) (state : σ) : (once run).await state = run state := by
  rfl

theorem await_andThen (task : Task σ α) (rest : α → Task σ β) (state : σ) :
    (task.andThen rest).await state = (rest (task.await state).1).await (task.await state).2 := by
  induction task generalizing state with
  | done value => rfl
  | step effect next ih => simp only [andThen, await, ih]

end Task

end LlmTelemetry
