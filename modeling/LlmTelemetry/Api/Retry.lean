import LlmTelemetry.Api.Error
import LlmTelemetry.Decimal.Shortest
/-!
# Retry policy

After a failed attempt the policy says how long to wait before the next one. The waits double from a
base up to a cap, or follow the collector's hint up to the same cap. Delays are held in whole
nanoseconds, but reckoned in seconds as doubles: every step rounds to the nearest double, and the way back
rounds to the nearest nanosecond with ties to even.
-/

namespace LlmTelemetry

open Decimal (Ratio)

/-- A length of time in whole nanoseconds. -/
structure Duration where
  nanoseconds : Nat
deriving DecidableEq

namespace Duration

def nanosecondsPerSecond : Nat := 1000000000

/-- Durations are shorter than `2 ^ 64` seconds. -/
def limit : Nat := Nat.pow 2 64 * nanosecondsPerSecond

def ofSeconds (seconds : Nat) : Duration := ⟨seconds * nanosecondsPerSecond⟩

def seconds (d : Duration) : Ratio :=
  let whole := Ratio.ofNat (d.nanoseconds / nanosecondsPerSecond)
  let rest : Ratio := ⟨d.nanoseconds % nanosecondsPerSecond, nanosecondsPerSecond⟩
  (whole.nearestDouble.sum rest.nearestDouble).nearestDouble

/-- The duration nearest to a number of seconds, when it is short enough. -/
def nearest? (seconds : Ratio) : Option Duration :=
  let rounded := (seconds.times nanosecondsPerSecond).round
  if rounded < limit then some ⟨rounded⟩ else none

def atMost (d cap : Duration) : Duration :=
  ⟨min d.nanoseconds cap.nanoseconds⟩

/-- The duration in milliseconds, rounded up. -/
def ceilMilliseconds (d : Duration) : Nat :=
  (d.nanoseconds + 999999) / 1000000

/-- The longest time that a timer runs: thirty years of 365 days. -/
def longestTimer : Duration := .ofSeconds (30 * 365 * 24 * 60 * 60)

/-- How long a timer that is set to the duration runs, in milliseconds. -/
def timerMilliseconds (d : Duration) : Nat :=
  (d.atMost longestTimer).ceilMilliseconds

end Duration

/-- When to try again. -/
structure RetryPolicy where
  /-- The number of attempts after the first. -/
  maxRetries : UInt32
  base : Duration
  /-- The longest wait. -/
  cap : Duration
deriving DecidableEq

inductive Decision where
  | retryAfter (delay : Duration)
  | giveUp
deriving DecidableEq

namespace RetryPolicy

def standard : RetryPolicy := ⟨3, .ofSeconds 1, .ofSeconds 30⟩

def never : RetryPolicy := { standard with maxRetries := 0 }

/-- The wait after attempt number `attempt`, counted from zero; none when it is too long to be a
duration. The doubling stops after 63 steps. -/
def backoff? (policy : RetryPolicy) (attempt : Nat) : Option Duration :=
  let delay := policy.base.seconds.times (Nat.pow 2 (min attempt 63))
  Duration.nearest? (delay.lesser policy.cap.seconds)

/-- The wait that a hint of the collector asks for. A hint too long to be a duration waits the cap. -/
def hintedDelay (policy : RetryPolicy) (hint : Float) : Duration :=
  if hint.isFinite then
    match Duration.nearest? (Decimal.exactValue hint) with
    | some d => d.atMost policy.cap
    | none => policy.cap
  else policy.cap

/-- What to do after attempt number `attempt` failed; none when the wait is too long to be a
duration. -/
def decide? (policy : RetryPolicy) (attempt : Nat) (error : ApiError) : Option Decision :=
  if ¬ error.isRetryable ∨ attempt ≥ policy.maxRetries.toNat then some .giveUp
  else
    match error.retryAfter with
    | some hint =>
      if hint > 0.0 then some (.retryAfter (policy.hintedDelay hint))
      else (policy.backoff? attempt).map .retryAfter
    | none => (policy.backoff? attempt).map .retryAfter

end RetryPolicy

end LlmTelemetry
