/-!
# How foreign code fails

Handlers, extractors, filters and transports are given by the application. A call of one ends with a
value, with an error value that it returns, or by aborting with a message.
-/

namespace LlmTelemetry

/-- A call that did not give a value. -/
inductive Fault (ε : Type) where
  | error (reason : ε)
  | panic (message : String)
deriving DecidableEq

/-- The end of a call: a value or a fault. -/
abbrev Ending (ε α : Type) := Except (Fault ε) α

/-- An abort, for code that cannot return an error. -/
structure Panic where
  message : String
deriving DecidableEq

/-- An abort seen as the end of a call. -/
def Panic.toEnding {ε α : Type} : Except Panic α → Ending ε α
  | .ok value => .ok value
  | .error reason => .error (.panic reason.message)

namespace Ending

variable {ε α β : Type} {ending : Except ε α} {reason : ε}

theorem map_eq_error {change : α → β} :
    ending.map change = .error reason ↔ ending = .error reason := by
  cases ending <;> simp [Except.map]

theorem map_eq_ok {change : α → β} {result : β} :
    ending.map change = .ok result ↔ ∃ value, ending = .ok value ∧ change value = result := by
  cases ending <;> simp [Except.map]

theorem bind_eq_error {next : α → Except ε β} :
    ending >>= next = .error reason ↔
      ending = .error reason ∨ ∃ value, ending = .ok value ∧ next value = .error reason := by
  cases ending <;> simp [bind, Except.bind]

end Ending

end LlmTelemetry
