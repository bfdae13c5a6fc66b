import LlmTelemetry.Proofs.Delivery.Retries
/-!
# What a read asks for

One event, one session or the timeline of one session is fetched by its identifier, which becomes a part of the path
as it is. Two reads whose requests are the same are the same read, with one exception: a session whose identifier
ends in `/timeline` has the path of the timeline of another session, and so it can not be fetched.

This is about the requests that are handed to a transport. A transport that reads the path as a part of a URL may
still resolve dot segments in it, and take a `?` or a `#` in an identifier as the end of the path; what the collector
is asked for then is not covered here.
-/

namespace LlmTelemetry

/-- What a request asks the collector for. -/
def Request.target (request : Request) : String × String × Params :=
  (request.method, request.path, request.params)

/-- A read of one resource by its identifier. -/
inductive Reading where
  | event (id : String)
  | session (id : String)
  | timeline (id : String)

namespace Reading

/-- The attempts that a client makes for a read. -/
def attempts {ν : Type} (client : Client ν) (network : ν) : Reading → List Attempt
  | .event id => (client.event id network).attempts
  | .session id => (client.session id network).attempts
  | .timeline id => (client.timeline id network).attempts

def request : Reading → Request
  | .event id => Client.eventRequest id
  | .session id => Client.sessionRequest id
  | .timeline id => Client.timelineRequest id

/-- How the identifier of a session ends that has the path of a timeline. -/
def timelineEnding : String := "/timeline"

/-- The session has the path of the timeline of the session with the shorter identifier. -/
def Shadows : Reading → Reading → Prop
  | .session id, .timeline shorter => id = shorter ++ timelineEnding
  | _, _ => False

theorem attempts_eq {ν : Type} (client : Client ν) (network : ν) (reading : Reading) :
    reading.attempts client network = (client.request reading.request network).attempts := by
  cases reading <;> rfl

theorem exists_mem_attempts {ν : Type} (client : Client ν) (network : ν) (reading : Reading) :
    ∃ attempt, attempt ∈ reading.attempts client network := by
  obtain ⟨delays, attempts⟩ := client.exists_attempts reading.request network
  rw [attempts_eq, attempts]
  exact ⟨_, List.mem_cons_self⟩

theorem request_of_mem {ν : Type} {client : Client ν} {network : ν} {reading : Reading} {attempt : Attempt}
    (among : attempt ∈ reading.attempts client network) : attempt.request = reading.request := by
  obtain ⟨delays, attempts⟩ := client.exists_attempts reading.request network
  rw [attempts_eq, attempts] at among
  rcases List.mem_cons.mp among with rfl | later
  · rfl
  · obtain ⟨delay, -, rfl⟩ := List.mem_map.mp later
    rfl

/-! ## Paths -/

def path : Reading → String
  | .event id => Client.eventsPath ++ "/" ++ id
  | .session id => Client.sessionsPath ++ "/" ++ id
  | .timeline id => Client.sessionsPath ++ "/" ++ (id ++ timelineEnding)

theorem target_request (reading : Reading) : reading.request.target = ("GET", reading.path, []) := by
  cases reading with
  | event id => rfl
  | session id => rfl
  | timeline id => rw [path, ← String.append_assoc]; rfl

theorem eventPath_ne_sessionPath (id other : String) :
    Client.eventsPath ++ "/" ++ id ≠ Client.sessionsPath ++ "/" ++ other := by
  intro same
  -- `/api/e…` and `/api/s…` part at their sixth letter.
  have letters := congrArg (fun path : String => path.toList[5]?) same
  simp [Client.eventsPath, Client.sessionsPath] at letters

/-- A path tells the read that it is the path of, unless a session shadows a timeline. -/
theorem path_eq_iff {first second : Reading} :
    first.path = second.path ↔ first = second ∨ first.Shadows second ∨ second.Shadows first := by
  cases first with
  | event id =>
    cases second with
    | event other => simp [path, Shadows]
    | session other => simpa [path, Shadows] using eventPath_ne_sessionPath id other
    | timeline other => simpa [path, Shadows] using eventPath_ne_sessionPath id (other ++ timelineEnding)
  | session id =>
    cases second with
    | event other => simpa [path, Shadows] using (eventPath_ne_sessionPath other id).symm
    | session other => simp [path, Shadows]
    | timeline other => simp [path, Shadows]
  | timeline id =>
    cases second with
    | event other => simpa [path, Shadows] using (eventPath_ne_sessionPath other (id ++ timelineEnding)).symm
    | session other => simp [path, Shadows, eq_comm]
    | timeline other => simp [path, Shadows]

/-! ## Attempts -/

/-- Attempts for two reads ask for the same exactly if the reads are the same, or one is of a session whose identifier
is that of another session and the ending of a timeline, and the other one is of that timeline. -/
theorem same_target_iff {ν μ : Type} (client : Client ν) (network : ν) (other : Client μ) (elsewhere : μ)
    (first second : Reading) :
    (∃ attempt ∈ first.attempts client network, ∃ later ∈ second.attempts other elsewhere,
      attempt.request.target = later.request.target) ↔
        first = second ∨ first.Shadows second ∨ second.Shadows first := by
  have target_eq_iff : first.request.target = second.request.target ↔
      first = second ∨ first.Shadows second ∨ second.Shadows first := by
    rw [target_request, target_request, Prod.mk.injEq, Prod.mk.injEq, path_eq_iff]
    simp
  rw [← target_eq_iff]
  constructor
  · rintro ⟨attempt, among, later, among', same⟩
    rwa [request_of_mem among, request_of_mem among'] at same
  · intro same
    obtain ⟨attempt, among⟩ := exists_mem_attempts client network first
    obtain ⟨later, among'⟩ := exists_mem_attempts other elsewhere second
    refine ⟨attempt, among, later, among', ?_⟩
    rwa [request_of_mem among, request_of_mem among']

/-- The session `s/timeline` is asked for as the timeline of the session `s` is. -/
theorem same_target_of_session_and_timeline :
    let client : Client (List Response) := ⟨Client.replaying, .standard⟩
    ∃ attempt ∈ (Reading.session "s/timeline").attempts client [], ∃ later ∈ (Reading.timeline "s").attempts client [],
      attempt.request.target = later.request.target := by
  intro client
  exact (same_target_iff client [] client [] (.session "s/timeline") (.timeline "s")).mpr (.inr (.inl rfl))

end Reading

end LlmTelemetry
