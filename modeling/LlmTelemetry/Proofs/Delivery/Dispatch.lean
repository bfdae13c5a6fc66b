import LlmTelemetry.Delivery.Sender
import Mathlib.Tactic.Common
/-!
# Senders that follow each other

Every session has a sender of its own, and all of them share one network. A `Dispatch` is the senders so far with
that network, and a `Job` is what is done to one of them.

While records are handed to the sender in use only, and every other sender was settled before the next one began,
the network sees the records in the order in which they were handed over, whichever sender got them and whatever
the modes: what is not delivered yet waits in the sender in use.
-/

namespace LlmTelemetry

variable {ν : Type}

namespace Sender

/-- Deliver what the sender holds, and stop it. -/
def settle (sender : Sender ν) (outbox : Outbox ν) : Sender ν × Outbox ν :=
  let (_, sender, outbox) := sender.flush outbox
  sender.stop outbox

/-- The worker has nothing left to do, and never will. -/
def Spent (sender : Sender ν) : Prop :=
  ∀ count outbox, sender.work count outbox = (sender, outbox)

/-- An asynchronous sender in use, with an idle worker and these records in its queue. -/
def holding (queued : List (Capture ν)) : Sender ν :=
  ⟨false, .running, queued.map .deliver, queued.length, .idle⟩

/-- A synchronous sender in use. -/
def direct : Sender ν :=
  ⟨true, .inline, [], 0, .absent⟩

/-- The sender is in use, and these records wait in it. -/
inductive Serving : Sender ν → List (Capture ν) → Prop
  | direct : Serving direct []
  | holding (queued : List (Capture ν)) : Serving (holding queued) queued

variable {sender : Sender ν} {queued : List (Capture ν)}

theorem spent_of_receive (same : sender.receive = sender)
    (free : ∀ capture, sender.worker ≠ .delivering capture) : sender.Spent := by
  intro count outbox
  cases count with
  | zero => rfl
  | succ count =>
    rw [work, same]
    dsimp only
    split
    · rename_i capture taken
      exact absurd taken (free capture)
    · rfl

theorem spent_direct : (direct : Sender ν).Spent :=
  spent_of_receive rfl fun _ => nofun

theorem work_holding (count : Nat) (queued : List (Capture ν)) (outbox : Outbox ν) :
    (holding queued).work count outbox =
      (holding (queued.drop count), (queued.take count).foldl Outbox.deliver outbox) := by
  induction count generalizing queued outbox with
  | zero => rfl
  | succ count ih =>
    cases queued with
    | nil => rfl
    | cons capture rest => exact ih rest (outbox.deliver capture)

theorem drain_holding (queued : List (Capture ν)) (outbox : Outbox ν) :
    (holding queued).drain outbox = (holding [], queued.foldl Outbox.deliver outbox) := by
  have enough : queued.length ≤ (holding queued).queue.length + 1 := by simp [holding]
  rw [drain, work_holding, List.drop_of_length_le enough, List.take_of_length_le enough]

/-- A sender in use got rid of the first ones of the records, and the others wait in it. -/
def Advances (records : List (Capture ν)) (outbox : Outbox ν) (result : Sender ν × Outbox ν) : Prop :=
  ∃ delivered queued, records = delivered ++ queued ∧ result.1.Serving queued ∧
    result.2 = delivered.foldl Outbox.deliver outbox

theorem serving_start (synchronous : Bool) : Serving (new synchronous : Sender ν).start [] := by
  cases synchronous with
  | true => exact .direct
  | false => exact .holding []

theorem Serving.send (serving : sender.Serving queued) (capture : Capture ν) (outbox : Outbox ν) :
    Advances (queued ++ [capture]) outbox (sender.send capture outbox) := by
  cases serving with
  | direct => exact ⟨[capture], [], rfl, .direct, rfl⟩
  | holding queued =>
    have pushed : (Sender.holding queued).send capture outbox =
        (Sender.holding (queued ++ [capture]), outbox) := by
      simp [Sender.send, Sender.holding, accept, push, count]
    rw [pushed]
    exact ⟨[], queued ++ [capture], rfl, .holding _, rfl⟩

theorem Serving.work (serving : sender.Serving queued) (count : Nat) (outbox : Outbox ν) :
    Advances queued outbox (sender.work count outbox) := by
  cases serving with
  | direct =>
    rw [spent_direct]
    exact ⟨[], [], rfl, .direct, rfl⟩
  | holding queued =>
    rw [work_holding]
    exact ⟨queued.take count, queued.drop count, (List.take_append_drop count queued).symm, .holding _, rfl⟩

theorem Serving.settle (serving : sender.Serving queued) (outbox : Outbox ν) :
    (sender.settle outbox).1.Spent ∧ (sender.settle outbox).2 = queued.foldl Outbox.deliver outbox := by
  cases serving with
  | direct => exact ⟨spent_direct, rfl⟩
  | holding queued =>
    have flushed : (Sender.holding queued).flush outbox =
        (true, Sender.holding [], queued.foldl Outbox.deliver outbox) := by
      rw [flush, drain_holding]
      rfl
    rw [Sender.settle, flushed]
    exact ⟨spent_of_receive rfl fun _ => nofun, rfl⟩

end Sender

/-- The senders so far and the network behind them. -/
structure Dispatch (ν : Type) where
  senders : List (Sender ν) := []
  outbox : Outbox ν

/-- What is done to the senders. -/
inductive Job (ν : Type) where
  /-- One more sender is made and started. -/
  | start (synchronous : Bool)
  | hand (number : Nat) (capture : Capture ν)
  | work (number count : Nat)
  | settle (number : Nat)

/-- The record that is handed over. -/
def Job.capture? : Job ν → Option (Capture ν)
  | .hand _ capture => some capture
  | _ => none

namespace Dispatch

/-- Change a sender together with the network. -/
def change (dispatch : Dispatch ν) (number : Nat)
    (change : Sender ν → Outbox ν → Sender ν × Outbox ν) : Dispatch ν :=
  match dispatch.senders[number]? with
  | none => dispatch
  | some sender =>
    let (sender, outbox) := change sender dispatch.outbox
    ⟨dispatch.senders.set number sender, outbox⟩

def perform (dispatch : Dispatch ν) : Job ν → Dispatch ν
  | .start synchronous => { dispatch with senders := dispatch.senders ++ [(Sender.new synchronous).start] }
  | .hand number capture => dispatch.change number fun sender => sender.send capture
  | .work number count => dispatch.change number (Sender.work count)
  | .settle number => dispatch.change number Sender.settle

/-- The records wait in the sender in use, if there is one. -/
def Holds (dispatch : Dispatch ν) : (current : Option Nat) → List (Capture ν) → Prop
  | none, queued => queued = []
  | some number, queued => ∃ sender, dispatch.senders[number]? = some sender ∧ sender.Serving queued

/-- The records that were handed over are those that the network has seen, from the given state on, and then
those that wait in the sender in use. -/
def Delivers (first : Outbox ν) (handed : List (Capture ν)) (current : Option Nat)
    (dispatch : Dispatch ν) : Prop :=
  ∃ delivered queued, handed = delivered ++ queued ∧
    dispatch.outbox = delivered.foldl Outbox.deliver first ∧ dispatch.Holds current queued

/-- No sender but the one in use has anything left to do, and no record was lost or overtaken. -/
structure Tidy (first : Outbox ν) (handed : List (Capture ν)) (current : Option Nat)
    (dispatch : Dispatch ν) : Prop where
  others : ∀ number sender, dispatch.senders[number]? = some sender → current ≠ some number → sender.Spent
  delivers : Delivers first handed current dispatch

variable {dispatch : Dispatch ν} {number : Nat} {sender : Sender ν}
  {change : Sender ν → Outbox ν → Sender ν × Outbox ν}

theorem change_eq (found : dispatch.senders[number]? = some sender) :
    dispatch.change number change =
      ⟨dispatch.senders.set number (change sender dispatch.outbox).1, (change sender dispatch.outbox).2⟩ := by
  rw [Dispatch.change, found]

@[simp] theorem length_change :
    (dispatch.change number change).senders.length = dispatch.senders.length := by
  unfold Dispatch.change
  split
  · rfl
  · exact List.length_set

theorem senders_change_self (found : dispatch.senders[number]? = some sender) :
    (dispatch.change number change).senders[number]? = some (change sender dispatch.outbox).1 := by
  have here : number < dispatch.senders.length := (List.getElem?_eq_some_iff.mp found).1
  rw [change_eq found]
  exact List.getElem?_set_self here

theorem senders_change_ne {other : Nat} (apart : number ≠ other) :
    (dispatch.change number change).senders[other]? = dispatch.senders[other]? := by
  unfold Dispatch.change
  split
  · rfl
  · exact List.getElem?_set_ne apart

namespace Tidy

variable {first : Outbox ν} {handed : List (Capture ν)} {current : Option Nat}

theorem nothing (first : Outbox ν) : Tidy first [] none { outbox := first } where
  others _ _ found := nomatch found
  delivers := ⟨[], [], rfl, rfl, rfl⟩

theorem start (tidy : Tidy first handed none dispatch) (synchronous : Bool) :
    Tidy first handed (some dispatch.senders.length) (dispatch.perform (.start synchronous)) where
  others number sender found other := by
    have earlier : number < dispatch.senders.length := by
      have known : number < dispatch.senders.length + 1 := by
        simpa [perform] using (List.getElem?_eq_some_iff.mp found).1
      have apart : dispatch.senders.length ≠ number := fun same => other (congrArg some same)
      omega
    rw [perform, List.getElem?_append_left earlier] at found
    exact tidy.others number sender found nofun
  delivers := by
    obtain ⟨delivered, _, same, outbox, rfl⟩ := tidy.delivers
    exact ⟨delivered, [], same, outbox, _, List.getElem?_concat_length, Sender.serving_start synchronous⟩

/-- Something is done to the sender in use, while so many more records are handed to it. -/
theorem advance (tidy : Tidy first handed (some number) dispatch) {more : List (Capture ν)}
    (advances : ∀ sender queued outbox, Sender.Serving sender queued →
      Sender.Advances (queued ++ more) outbox (change sender outbox)) :
    Tidy first (handed ++ more) (some number) (dispatch.change number change) where
  others other sender found apart := by
    rw [senders_change_ne fun same => apart (congrArg some same)] at found
    exact tidy.others other sender found apart
  delivers := by
    obtain ⟨delivered, queued, rfl, outbox, sender, found, serving⟩ := tidy.delivers
    obtain ⟨arrived, left, split, stays, seen⟩ := advances sender queued dispatch.outbox serving
    refine ⟨delivered ++ arrived, left, ?_, ?_, _, senders_change_self found, stays⟩
    · rw [List.append_assoc, List.append_assoc, split]
    · rw [change_eq found, seen, outbox, List.foldl_append]

theorem hand (tidy : Tidy first handed (some number) dispatch) (capture : Capture ν) :
    Tidy first (handed ++ [capture]) (some number) (dispatch.perform (.hand number capture)) :=
  tidy.advance fun _ _ outbox serving => serving.send capture outbox

theorem work (tidy : Tidy first handed current dispatch) (number count : Nat) :
    Tidy first handed current (dispatch.perform (.work number count)) := by
  by_cases here : current = some number
  · subst here
    have advanced : Tidy first (handed ++ []) (some number) (dispatch.perform (.work number count)) := by
      refine tidy.advance fun sender queued outbox serving => ?_
      rw [List.append_nil]
      exact serving.work count outbox
    rwa [List.append_nil] at advanced
  · cases found : dispatch.senders[number]? with
    | none =>
      rw [perform, Dispatch.change, found]
      exact tidy
    | some sender =>
      have unchanged := tidy.others number sender found here
      obtain ⟨known, same⟩ := List.getElem?_eq_some_iff.mp found
      rw [perform, change_eq found, unchanged, ← same, List.set_getElem_self]
      exact tidy

theorem settle (tidy : Tidy first handed (some number) dispatch) :
    Tidy first handed none (dispatch.perform (.settle number)) := by
  obtain ⟨delivered, queued, rfl, outbox, sender, found, serving⟩ := tidy.delivers
  obtain ⟨spent, seen⟩ := serving.settle dispatch.outbox
  refine ⟨fun other sender' found' _ => ?_, delivered ++ queued, [], (List.append_nil _).symm, ?_, rfl⟩
  · rw [perform] at found'
    by_cases same : number = other
    · subst same
      rw [senders_change_self found] at found'
      cases found'
      exact spent
    · rw [senders_change_ne same] at found'
      exact tidy.others other sender' found' fun here => same (Option.some.inj here)
  · rw [perform, change_eq found, seen, outbox, List.foldl_append]

end Tidy

end Dispatch

end LlmTelemetry
