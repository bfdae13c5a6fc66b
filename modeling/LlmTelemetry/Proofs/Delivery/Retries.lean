import LlmTelemetry.Delivery.Client
import LlmTelemetry.Proofs.Api.Errors
import Mathlib.Order.Lattice.Nat
/-!
# The attempts of a call

A call of the client makes one attempt after the other until one has an outcome that ends the call, or until
the retries are used up. Which attempt that is can be told from the outcomes alone: `Conclusive` outcomes are
all but the two kinds of responses that may be retried, and the last attempt is the least one that is
conclusive or that uses up the retries. Between two attempts a timer is set to what the policy decides.

A policy may ask for a wait that is no duration. Then the call aborts; all attempts before keep to the rule.
-/

namespace LlmTelemetry

namespace RetryPolicy

theorem decide?_eq_giveUp {policy : RetryPolicy} {attempt : Nat} {error : ApiError} :
    policy.decide? attempt error = some .giveUp ↔
      error.isRetryable = false ∨ policy.maxRetries.toNat ≤ attempt := by
  unfold decide?
  split
  · rename_i final
    simpa using final
  · rename_i again
    constructor
    · intro gave
      exfalso
      revert gave
      split
      · split <;> simp
      · simp
    · intro final
      exact absurd (by simpa using final) again

theorem decide?_of_hint {policy : RetryPolicy} {attempt : Nat} {message : String} {hint : Float}
    (spare : attempt < policy.maxRetries.toNat) (positive : hint > 0.0) :
    policy.decide? attempt (.rateLimited message (some hint)) =
      some (.retryAfter (policy.hintedDelay hint)) := by
  have more : ¬ attempt ≥ policy.maxRetries.toNat := spare.not_ge
  simp [decide?, ApiError.isRetryable, ApiError.retryAfter, more, positive]

theorem decide?_of_backpressure {policy : RetryPolicy} {attempt : Nat} {message : String}
    (spare : attempt < policy.maxRetries.toNat) :
    policy.decide? attempt (.backpressure message) = (policy.backoff? attempt).map .retryAfter := by
  have more : ¬ attempt ≥ policy.maxRetries.toNat := spare.not_ge
  simp [decide?, ApiError.isRetryable, ApiError.retryAfter, more]

end RetryPolicy

/-- A timer that is set to no more than thirty years runs for the next whole number of milliseconds, and one that
is set to more runs for thirty years. -/
theorem Duration.timerMilliseconds_spec (delay : Duration) :
    (delay.nanoseconds ≤ longestTimer.nanoseconds →
      delay.nanoseconds ≤ 1000000 * delay.timerMilliseconds ∧
        1000000 * delay.timerMilliseconds < delay.nanoseconds + 1000000) ∧
      (longestTimer.nanoseconds ≤ delay.nanoseconds →
        1000000 * delay.timerMilliseconds = longestTimer.nanoseconds) := by
  constructor
  · intro short
    have whole : delay.timerMilliseconds = (delay.nanoseconds + 999999) / 1000000 := by
      rw [timerMilliseconds, atMost, Nat.min_eq_left short, ceilMilliseconds]
    omega
  · intro long
    rw [timerMilliseconds, atMost, Nat.min_eq_right long]
    decide

/-- Whether the outcome of an attempt ends the call, however many retries are left. -/
def Conclusive : Ending ApiError Response → Prop
  | .ok response => response.isSuccess = true ∨ response.status ≠ 429 ∧ response.status ≠ 503
  | .error _ => True

theorem Response.isRetryable_error (response : Response) :
    response.error.isRetryable = true ↔ ¬ Conclusive (.ok response) := by
  rw [Response.error, ApiError.isRetryable_ofResponse, Conclusive, isSuccess]
  simp only [Bool.and_eq_true, decide_eq_true_eq]
  omega

namespace Client

variable {ν : Type} (client : Client ν) (request : Request) (network : ν)

/-- The network before attempt number `attempt`, when all attempts before it are made. -/
def networkBefore : (attempt : Nat) → ν
  | 0 => network
  | attempt + 1 => (client.transport.attempt request (networkBefore attempt)).2

/-- What comes of attempt number `attempt`, when all attempts before it are made. -/
def outcome (attempt : Nat) : Ending ApiError Response :=
  (client.transport.attempt request (client.networkBefore request network attempt)).1

/-- What the policy decides after attempt number `attempt`; none when the wait is no duration. -/
def decision (attempt : Nat) : Option Decision :=
  match client.outcome request network attempt with
  | .ok response => client.policy.decide? attempt response.error
  | .error _ => some .giveUp

/-- How a call ends whose last attempt has the outcome. -/
def ended : Ending ApiError Response → Ending ApiError Json
  | .error fault => .error fault
  | .ok response =>
    if response.isSuccess then (parseBody response).mapError .error
    else .error (.error response.error)

/-- Whether the call ends with attempt number `attempt`, if it comes to it. -/
def EndsAt (attempt : Nat) : Prop :=
  Conclusive (client.outcome request network attempt) ∨ attempt = client.policy.maxRetries.toNat

/-! ## One attempt -/

section Attempt

variable {client request network} {left attempt : Nat} {wait delay : Duration}

theorem attemptFrom_zero :
    client.attemptFrom request 0 attempt wait (client.networkBefore request network attempt) =
      ⟨client.conclude attempt (client.outcome request network attempt), [⟨wait, request⟩],
        client.networkBefore request network (attempt + 1)⟩ := rfl

theorem attemptFrom_of_none
    (last : client.retryDelay? attempt (client.outcome request network attempt) = none) :
    client.attemptFrom request left attempt wait (client.networkBefore request network attempt) =
      ⟨client.conclude attempt (client.outcome request network attempt), [⟨wait, request⟩],
        client.networkBefore request network (attempt + 1)⟩ := by
  cases left with
  | zero => exact attemptFrom_zero
  | succ left =>
    rw [outcome] at last
    simp only [attemptFrom, last]
    rfl

theorem attemptFrom_of_some
    (again : client.retryDelay? attempt (client.outcome request network attempt) = some delay) :
    client.attemptFrom request (left + 1) attempt wait (client.networkBefore request network attempt) =
      (client.attemptFrom request left (attempt + 1) delay
        (client.networkBefore request network (attempt + 1))).after ⟨wait, request⟩ := by
  rw [outcome] at again
  simp only [attemptFrom, again]
  rfl

theorem decision_of_endsAt (last : client.EndsAt request network attempt) :
    client.decision request network attempt = some .giveUp := by
  unfold EndsAt at last
  unfold decision
  cases found : client.outcome request network attempt with
  | error fault => rfl
  | ok response =>
    rw [found] at last
    refine RetryPolicy.decide?_eq_giveUp.mpr (last.imp (fun conclusive => ?_) fun spent => spent.ge)
    rw [← Bool.not_eq_true, response.isRetryable_error, not_not]
    exact conclusive

theorem retryDelay?_of_endsAt (last : client.EndsAt request network attempt) :
    client.retryDelay? attempt (client.outcome request network attempt) = none ∧
      client.conclude attempt (client.outcome request network attempt) =
        ended (client.outcome request network attempt) := by
  have final := decision_of_endsAt last
  unfold decision at final
  cases found : client.outcome request network attempt with
  | error fault => exact ⟨rfl, rfl⟩
  | ok response =>
    rw [found] at final
    cases success : response.isSuccess <;> simp [retryDelay?, conclude, ended, success, final]

/-- A call that does not end with an attempt waits as the policy decides, if that is a wait at all. -/
theorem decision_of_not_endsAt (spare : attempt ≤ client.policy.maxRetries.toNat)
    (more : ¬ client.EndsAt request network attempt) :
    client.decision request network attempt =
      (client.retryDelay? attempt (client.outcome request network attempt)).map .retryAfter := by
  rw [EndsAt, not_or] at more
  obtain ⟨inconclusive, left⟩ := more
  unfold decision
  cases found : client.outcome request network attempt with
  | error fault =>
    rw [found] at inconclusive
    exact absurd trivial inconclusive
  | ok response =>
    rw [found] at inconclusive
    have failed : response.isSuccess = false := by
      rw [← Bool.not_eq_true]
      exact fun success => inconclusive (.inl success)
    have goesOn : client.policy.decide? attempt response.error ≠ some .giveUp := by
      rw [Ne, RetryPolicy.decide?_eq_giveUp, response.isRetryable_error.mpr inconclusive]
      simp only [Bool.true_eq_false, false_or]
      omega
    simp only [retryDelay?, failed, Bool.false_eq_true, if_false]
    cases decided : client.policy.decide? attempt response.error with
    | none => rfl
    | some decision =>
      cases decision with
      | retryAfter delay => rfl
      | giveUp => exact absurd decided goesOn

end Attempt

/-! ## All attempts -/

/-- The attempts of a call from one attempt on: the delays before the others are what the policy decides after
each, and the last one ends the call or is followed by a wait that is no duration. The network is left as these
attempts leave it. -/
theorem attemptFrom_attempts (left : Nat) {attempt : Nat}
    (budget : attempt + left = client.policy.maxRetries.toNat) (wait : Duration) :
    ∃ delays : List Duration,
      (client.attemptFrom request left attempt wait (client.networkBefore request network attempt)).attempts =
          ⟨wait, request⟩ :: delays.map (⟨·, request⟩) ∧
        (client.attemptFrom request left attempt wait (client.networkBefore request network attempt)).network =
          client.networkBefore request network (attempt + delays.length + 1) ∧
        (∀ i delay, delays[i]? = some delay →
          ¬ client.EndsAt request network (attempt + i) ∧
            client.decision request network (attempt + i) = some (.retryAfter delay)) ∧
        (¬ client.EndsAt request network (attempt + delays.length) ∧
            client.decision request network (attempt + delays.length) = none ∨
          client.EndsAt request network (attempt + delays.length) ∧
            (client.attemptFrom request left attempt wait
              (client.networkBefore request network attempt)).result =
                ended (client.outcome request network (attempt + delays.length))) := by
  induction left generalizing attempt wait with
  | zero =>
    have last : client.EndsAt request network attempt := .inr (by omega)
    refine ⟨[], rfl, rfl, by simp, .inr ⟨last, ?_⟩⟩
    rw [attemptFrom_zero]
    exact (retryDelay?_of_endsAt last).2
  | succ left ih =>
    by_cases last : client.EndsAt request network attempt
    · obtain ⟨final, concluded⟩ := retryDelay?_of_endsAt last
      rw [attemptFrom_of_none final]
      exact ⟨[], rfl, rfl, by simp, .inr ⟨last, concluded⟩⟩
    · have decided := decision_of_not_endsAt (by omega) last
      cases next : client.retryDelay? attempt (client.outcome request network attempt) with
      | none =>
        rw [next] at decided
        rw [attemptFrom_of_none next]
        exact ⟨[], rfl, rfl, by simp, .inl ⟨last, decided⟩⟩
      | some delay =>
        rw [next] at decided
        rw [attemptFrom_of_some next]
        have rest : attempt + 1 + left = client.policy.maxRetries.toNat := by omega
        obtain ⟨delays, attempts, reached, waits, stop⟩ := ih rest delay
        have shifted : attempt + (delay :: delays).length = attempt + 1 + delays.length := by
          rw [List.length_cons, Nat.add_comm delays.length 1, ← Nat.add_assoc]
        refine ⟨delay :: delays, ?_, ?_, ?_, ?_⟩
        · rw [Run.after, attempts]
          rfl
        · rw [shifted]
          exact reached
        · intro i wanted at_
          cases i with
          | zero =>
            obtain rfl : delay = wanted := by simpa using at_
            exact ⟨last, decided⟩
          | succ i =>
            have later := waits i wanted (by simpa using at_)
            rwa [Nat.add_assoc, Nat.add_comm 1 i] at later
        · rwa [shifted]

/-- A call makes a first attempt, and all of its attempts carry its request. -/
theorem exists_attempts :
    ∃ delays : List Duration,
      (client.request request network).attempts = ⟨⟨0⟩, request⟩ :: delays.map (⟨·, request⟩) := by
  obtain ⟨delays, attempts, -⟩ :=
    client.attemptFrom_attempts request network client.policy.maxRetries.toNat (Nat.zero_add _) ⟨0⟩
  exact ⟨delays, attempts⟩

/-- A call makes its attempts up to the first that has a conclusive outcome or uses up the retries, all with the
same request. The timer between two attempts is set to the delay that the policy decides after the first of
them, and runs for that delay up to the next millisecond, but for no more than thirty years. The call ends
as the outcome of the last attempt says. This holds as long as every wait that the policy asks for is a
duration; if one is not, there are fewer attempts, and those that are made keep to the rule. The network is
left as the attempts leave it that are made. -/
theorem request_attempts :
    ∃ (last : Nat) (delays : List Duration),
      IsLeast {attempt | client.EndsAt request network attempt} last ∧
        last < UInt32.size ∧ delays.length ≤ last ∧
        (client.request request network).attempts = ⟨⟨0⟩, request⟩ :: delays.map (⟨·, request⟩) ∧
        (client.request request network).network = client.networkBefore request network (delays.length + 1) ∧
        (∀ attempt delay, delays[attempt]? = some delay →
          client.decision request network attempt = some (.retryAfter delay) ∧
            (delay.nanoseconds ≤ Duration.longestTimer.nanoseconds →
              delay.nanoseconds ≤ 1000000 * delay.timerMilliseconds ∧
                1000000 * delay.timerMilliseconds < delay.nanoseconds + 1000000) ∧
            (Duration.longestTimer.nanoseconds ≤ delay.nanoseconds →
              1000000 * delay.timerMilliseconds = Duration.longestTimer.nanoseconds)) ∧
        ((∀ attempt < last, client.decision request network attempt ≠ none) →
          delays.length = last ∧
            (client.request request network).result = ended (client.outcome request network last)) := by
  obtain ⟨delays, attempts, reached, waits, stop⟩ :=
    client.attemptFrom_attempts request network client.policy.maxRetries.toNat (Nat.zero_add _) ⟨0⟩
  simp only [Nat.zero_add] at reached waits stop
  have ends : {attempt | client.EndsAt request network attempt}.Nonempty := ⟨_, .inr rfl⟩
  obtain ⟨last, least⟩ : ∃ last, IsLeast {attempt | client.EndsAt request network attempt} last :=
    ⟨sInf _, Nat.sInf_mem ends, fun _ member => Nat.sInf_le member⟩
  have atMost : delays.length ≤ last := by
    by_contra beyond
    obtain ⟨delay, found⟩ : ∃ delay, delays[last]? = some delay := ⟨_, List.getElem?_eq_getElem (by omega)⟩
    exact (waits last delay found).1 least.1
  refine ⟨last, delays, least, ?_, atMost, attempts, reached, fun attempt delay found => ?_, fun decided => ?_⟩
  · have spent : last ≤ client.policy.maxRetries.toNat := least.2 (.inr rfl)
    exact spent.trans_lt client.policy.maxRetries.toNat_lt_size
  · exact ⟨(waits attempt delay found).2, delay.timerMilliseconds_spec⟩
  · rcases stop with ⟨more, undecided⟩ | ⟨finished, result⟩
    · have before : delays.length < last := by
        have apart : delays.length ≠ last := fun same => more (same ▸ least.1)
        omega
      exact absurd undecided (decided _ before)
    · have same : delays.length = last := le_antisymm atMost (least.2 finished)
      rw [same] at result
      exact ⟨same, result⟩

/-- A network that gives its answers in turn, and then always the same. -/
def replaying : Transport (List Response) where
  attempt _ answers := (.ok (answers.headD { status := 200 }), answers.tail)

/-- After a response with status 503, one with status 429 and a hint, and a success with a body that can not be
read, the call has failed; a fourth attempt is not made, though the retries would allow it, and the answer to it
is still there. -/
theorem request_attempts_of_three_answers :
    let client : Client (List Response) := ⟨replaying, .standard⟩
    let request : Request := { method := "POST", path := eventsPath }
    let answers : List Response :=
      [{ status := 503 }, { status := 429, retryAfter := some 7.0 }, { status := 200, body := "?" }, { status := 503 }]
    (∀ attempt < 2, client.decision request answers attempt ≠ none) ∧
      (client.request request answers).attempts =
          [⟨⟨0⟩, request⟩, ⟨.ofSeconds 1, request⟩, ⟨.ofSeconds 7, request⟩] ∧
        (client.request request answers).network = [{ status := 503 }] ∧
        (client.request request answers).result =
          .error (.error (.api 200 "invalid JSON response" none)) := by
  intro client request answers
  have first : client.decision request answers 0 = some (.retryAfter (.ofSeconds 1)) := by
    have backoff : client.policy.backoff? 0 = some (.ofSeconds 1) := by decide
    refine (RetryPolicy.decide?_of_backpressure (by decide)).trans ?_
    rw [backoff]
    rfl
  have second : client.decision request answers 1 = some (.retryAfter (.ofSeconds 7)) := by
    have hint : client.policy.hintedDelay 7.0 = .ofSeconds 7 := by decide
    rw [← hint]
    exact RetryPolicy.decide?_of_hint (by decide) (by decide)
  have goesOn : ∀ attempt < 2, ∃ delay, client.decision request answers attempt = some (.retryAfter delay) := by
    intro attempt before
    obtain rfl | rfl : attempt = 0 ∨ attempt = 1 := by omega
    · exact ⟨_, first⟩
    · exact ⟨_, second⟩
  have decided : ∀ attempt < 2, client.decision request answers attempt ≠ none := by
    intro attempt before
    obtain ⟨delay, waits⟩ := goesOn attempt before
    simp [waits]
  obtain ⟨last, delays, least, -, -, attempts, reached, waits, whole⟩ := client.request_attempts request answers
  have ends : client.EndsAt request answers 2 := .inl (.inl rfl)
  obtain rfl : last = 2 := by
    have atMost : last ≤ 2 := least.2 ends
    have atLeast : ¬ last < 2 := by
      intro before
      obtain ⟨delay, waits⟩ := goesOn last before
      rw [decision_of_endsAt least.1] at waits
      cases waits
    omega
  obtain ⟨two, result⟩ := whole decided
  obtain ⟨one, other, rfl⟩ := List.length_eq_two.mp two
  have firstWait := (waits 0 one rfl).1
  have secondWait := (waits 1 other rfl).1
  rw [first] at firstWait
  rw [second] at secondWait
  cases firstWait
  cases secondWait
  have unreadable : parseBody { status := 200, body := "?" } =
      .error (.api 200 "invalid JSON response" none) := rfl
  refine ⟨decided, attempts, reached, result.trans ?_⟩
  show (parseBody { status := 200, body := "?" }).mapError Fault.error = _
  rw [unreadable]
  rfl

/-- A response that asks to wait. -/
def hinting : Response := { status := 429, retryAfter := some 1000000000.0 }

def pushingBack : Response := { status := 503 }

/-- The collector asks to wait for a thousand million seconds, more than thirty-one years. The policy decides
to, but the timer that is set to this delay runs for thirty years only. And when the longest of all durations
is the base and the cap of the policy, there is no second attempt after a response with status 503. -/
theorem waits_shorter_than_decided :
    let request : Request := { method := "GET", path := "/" }
    let longest : Duration := ⟨18446744073709551615999999999⟩
    let hinted : Client (List Response) := ⟨replaying, ⟨1, .ofSeconds 1, ⟨18446744073709551615⟩⟩⟩
    let boundless : Client (List Response) := ⟨replaying, ⟨1, longest, longest⟩⟩
    (∃ delay, hinted.decision request [hinting] 0 = some (.retryAfter delay) ∧
      (hinted.request request [hinting]).attempts = [⟨⟨0⟩, request⟩, ⟨delay, request⟩] ∧
        1000000 * delay.timerMilliseconds < delay.nanoseconds) ∧
      IsLeast {attempt | boundless.EndsAt request [pushingBack] attempt} 1 ∧
        (boundless.request request [pushingBack]).attempts = [⟨⟨0⟩, request⟩] := by
  intro request longest hinted boundless
  have decided : hinted.decision request [hinting] 0 = some (.retryAfter (.ofSeconds 1000000000)) := by
    have hint : hinted.policy.hintedDelay 1000000000.0 = .ofSeconds 1000000000 := by decide
    rw [← hint]
    exact RetryPolicy.decide?_of_hint (by decide) (by decide)
  have undecided : boundless.decision request [pushingBack] 0 = none := by
    have unrepresentable : boundless.policy.backoff? 0 = none := by decide
    refine (RetryPolicy.decide?_of_backpressure (by decide)).trans ?_
    rw [unrepresentable]
    rfl
  have hintedGoesOn : ¬ hinted.EndsAt request [hinting] 0 := by
    intro ends
    rw [decision_of_endsAt ends] at decided
    cases decided
  have boundlessGoesOn : ¬ boundless.EndsAt request [pushingBack] 0 := by
    intro ends
    rw [decision_of_endsAt ends] at undecided
    cases undecided
  refine ⟨⟨.ofSeconds 1000000000, decided, ?_, by decide⟩, ⟨.inr rfl, ?_⟩, ?_⟩
  · have next := decision_of_not_endsAt (Nat.zero_le _) hintedGoesOn
    rw [decided, eq_comm, Option.map_eq_some_iff] at next
    obtain ⟨delay, again, same⟩ := next
    cases same
    show (hinted.attemptFrom request 1 0 ⟨0⟩ (hinted.networkBefore request [hinting] 0)).attempts = _
    rw [attemptFrom_of_some again, attemptFrom_zero]
    rfl
  · intro attempt ends
    cases attempt with
    | zero => exact absurd ends boundlessGoesOn
    | succ attempt => exact Nat.succ_le_succ (Nat.zero_le _)
  · have next := decision_of_not_endsAt (Nat.zero_le _) boundlessGoesOn
    rw [undecided, eq_comm, Option.map_eq_none_iff] at next
    show (boundless.attemptFrom request 1 0 ⟨0⟩
      (boundless.networkBefore request [pushingBack] 0)).attempts = _
    rw [attemptFrom_of_none next]

end Client

end LlmTelemetry
