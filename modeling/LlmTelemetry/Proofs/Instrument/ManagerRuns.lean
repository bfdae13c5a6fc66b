import LlmTelemetry.Proofs.Instrument.Patching
import LlmTelemetry.Proofs.Session.Wrappers
/-!
# A manager at work

While a manager installs its wrappers and takes them back, the host may write to the directory at any time.
Beside the manager and the directory, `Managed` keeps the handlers that the host has installed: at any time
every entry is one of these, or one wrapper of the manager around one of these.
-/

namespace LlmTelemetry

variable {σ : Type}

namespace Manager

/-- Put every replaced handler back, in this order. The order in which a map gives its entries is not known. -/
def uninstrumentIn (order : KeyedList String (Patch σ)) (manager : Manager σ) (sites : CallSites σ) :
    Patched σ (Manager σ) :=
  if manager.instrumented then
    { value := { manager with patches := [], instrumented := false }
      sites := sites.restoreAll order
      notices := [.uninstrumented manager.interceptor.provider] }
  else ⟨manager, sites, []⟩

theorem uninstrument_eq (manager : Manager σ) (sites : CallSites σ) :
    manager.uninstrument sites = manager.uninstrumentIn manager.patches sites := rfl

theorem instrument_again {manager : Manager σ} {sites : CallSites σ} {done : Patched σ (Manager σ)}
    (instrumented : manager.instrument sites = .ok done) (later : CallSites σ) :
    done.value.instrument later = .ok ⟨done.value, later, []⟩ := by
  have active : done.value.instrumented = true := by
    unfold instrument at instrumented
    split at instrumented
    · rename_i active
      cases instrumented
      exact active
    · split at instrumented
      · cases instrumented
      · cases instrumented
        rfl
  rw [instrument, if_pos active]

theorem uninstrumentIn_again (manager : Manager σ) (sites : CallSites σ)
    (order again : KeyedList String (Patch σ)) (later : CallSites σ) :
    (manager.uninstrumentIn order sites).value.uninstrumentIn again later =
      ⟨(manager.uninstrumentIn order sites).value, later, []⟩ := by
  have idle : (manager.uninstrumentIn order sites).value.instrumented = false := by
    unfold uninstrumentIn
    cases active : manager.instrumented with
    | true => rfl
    | false => exact active
  rw [uninstrumentIn, idle]
  rfl

end Manager

/-! ## Steps -/

/-- A manager and its directory, with the handlers that the host has installed so far. -/
structure Managed (σ : Type) where
  manager : Manager σ
  sites : CallSites σ
  written : List (Handler σ) := []

namespace Managed

/-- What the host, or the manager for it, does next. -/
inductive Step : Managed σ → Managed σ → Prop
  | host (work : Managed σ) (write : HostWrite σ) :
    Step work { work with
      sites := write.apply work.sites
      written := work.written ++ write.handler?.toList }
  | instrument (work : Managed σ) {done : Patched σ (Manager σ)}
    (instrumented : work.manager.instrument work.sites = .ok done) :
    Step work { work with manager := done.value, sites := done.sites }
  | abort (work : Managed σ) {reason : Panic} (aborted : work.manager.instrument work.sites = .error reason) :
    Step work work
  /-- The patches are put back in some order; this is also what happens when the manager is dropped. -/
  | uninstrument (work : Managed σ) {order : KeyedList String (Patch σ)}
    (all : order.Perm work.manager.patches) :
    Step work { work with
      manager := (work.manager.uninstrumentIn order work.sites).value
      sites := (work.manager.uninstrumentIn order work.sites).sites }

/-- What a new manager for the interceptor and the host come to, beginning with the empty directory. -/
inductive Reached (interceptor : Interceptor σ) : Managed σ → Prop
  | start : Reached interceptor ⟨.new interceptor, {}, []⟩
  | step {work next : Managed σ} (reached : Reached interceptor work) (step : Step work next) :
    Reached interceptor next

/-- What holds at any time. -/
structure Orderly (interceptor : Interceptor σ) (work : Managed σ) : Prop where
  same : work.manager.interceptor = interceptor
  sound : work.sites.Sound
  distinct : (places work.manager.patches).Nodup
  idle : work.manager.instrumented = false → work.manager.patches = []
  replaced : ∀ entry ∈ work.manager.patches, entry.2.replaced ∈ work.written
  entries : ∀ table member handler, work.sites.get? table member = some handler →
    handler ∈ work.written ∨
      ∃ entry ∈ work.manager.patches, entry.2.place = (table, member) ∧
        ∃ id, handler = .wrapper id interceptor entry.2.replaced

variable {interceptor : Interceptor σ} {work next : Managed σ}

namespace Orderly

theorem start (interceptor : Interceptor σ) : Orderly interceptor ⟨.new interceptor, {}, []⟩ where
  same := rfl
  sound := .empty
  distinct := List.nodup_nil
  idle _ := rfl
  replaced _ none := nomatch none
  entries _ _ _ found := nomatch found

theorem host (orderly : Orderly interceptor work) (write : HostWrite σ) :
    Orderly interceptor { work with
      sites := write.apply work.sites
      written := work.written ++ write.handler?.toList } where
  same := orderly.same
  sound := write.apply_sound orderly.sound
  distinct := orderly.distinct
  idle := orderly.idle
  replaced entry among := List.mem_append_left _ (orderly.replaced entry among)
  entries table member handler found := by
    obtain kept | ⟨installed, -⟩ := write.get?_apply work.sites table member
    · rw [kept] at found
      exact (orderly.entries table member handler found).imp_left (List.mem_append_left _)
    · rw [installed] at found
      exact .inl (List.mem_append_right _ (Option.mem_toList.mpr found))

/-- Between two uses of the manager, all entries are handlers of the host. -/
theorem entries_of_idle (orderly : Orderly interceptor work) (idle : work.manager.instrumented = false)
    {table : TableId} {member : String} {handler : Handler σ}
    (found : work.sites.get? table member = some handler) : handler ∈ work.written := by
  obtain given | ⟨entry, among, -⟩ := orderly.entries table member handler found
  · exact given
  · rw [orderly.idle idle] at among
    cases among

theorem wraps (orderly : Orderly interceptor work) (idle : work.manager.instrumented = false)
    {done : Patched σ (Manager σ)} (instrumented : work.manager.instrument work.sites = .ok done) :
    ∃ targets patches, done.value = { work.manager with patches := patches, instrumented := true } ∧
      CallSites.Wraps interceptor targets work.sites patches done.sites := by
  obtain ⟨targets, patches, -, value, wraps⟩ :=
    Manager.instrument_wraps orderly.sound idle (orderly.idle idle) instrumented
  rw [orderly.same] at wraps
  exact ⟨targets, patches, value, wraps⟩

theorem instrument (orderly : Orderly interceptor work) {done : Patched σ (Manager σ)}
    (instrumented : work.manager.instrument work.sites = .ok done) :
    Orderly interceptor { work with manager := done.value, sites := done.sites } := by
  cases active : work.manager.instrumented with
  | true =>
    rw [Manager.instrument, if_pos active] at instrumented
    cases instrumented
    exact orderly
  | false =>
    obtain ⟨targets, patches, value, wraps⟩ := orderly.wraps active instrumented
    rw [value]
    refine ⟨orderly.same, wraps.sound orderly.sound, wraps.distinct, nofun, ?_, ?_⟩
    · intro entry among
      exact orderly.entries_of_idle active (wraps.replaced entry among)
    · intro table member handler found
      by_cases patched : (table, member) ∈ places patches
      · obtain ⟨entry, among, rfl, rfl⟩ := mem_places.mp patched
        obtain ⟨id, wrapped⟩ := wraps.wrapped entry among
        exact .inr ⟨entry, among, rfl, id, Option.some.inj (found.symm.trans wrapped)⟩
      · have before := (wraps.untouched table member patched).symm.trans found
        exact .inl (orderly.entries_of_idle active before)

/-- What a place holds after the patches are put back. -/
theorem get?_uninstrumentIn (orderly : Orderly interceptor work) {order : KeyedList String (Patch σ)}
    (all : order.Perm work.manager.patches) :
    (∀ entry ∈ work.manager.patches,
      (work.manager.uninstrumentIn order work.sites).sites.get? entry.2.owner entry.2.member =
        some entry.2.replaced) ∧
      ∀ table member, (table, member) ∉ places work.manager.patches →
        (work.manager.uninstrumentIn order work.sites).sites.get? table member =
          work.sites.get? table member := by
  unfold Manager.uninstrumentIn
  split
  · have samePlaces : (places order).Perm (places work.manager.patches) := all.map _
    have distinct : (places order).Nodup := samePlaces.nodup_iff.mpr orderly.distinct
    constructor
    · intro entry among
      exact CallSites.get?_restoreAll_of_mem work.sites distinct (all.mem_iff.mpr among)
    · intro table member elsewhere
      have apart : (table, member) ∉ places order := fun taken => elsewhere (samePlaces.mem_iff.mp taken)
      exact CallSites.get?_restoreAll_of_not_mem work.sites apart
  · rename_i idle
    rw [orderly.idle (Bool.not_eq_true _ ▸ idle)]
    exact ⟨fun _ none => (nomatch none), fun _ _ _ => rfl⟩

theorem uninstrument (orderly : Orderly interceptor work) {order : KeyedList String (Patch σ)}
    (all : order.Perm work.manager.patches) :
    Orderly interceptor { work with
      manager := (work.manager.uninstrumentIn order work.sites).value
      sites := (work.manager.uninstrumentIn order work.sites).sites } := by
  obtain ⟨putBack, others⟩ := orderly.get?_uninstrumentIn all
  have entries : ∀ table member handler,
      (work.manager.uninstrumentIn order work.sites).sites.get? table member = some handler →
        handler ∈ work.written := by
    intro table member handler found
    by_cases patched : (table, member) ∈ places work.manager.patches
    · obtain ⟨entry, among, rfl, rfl⟩ := mem_places.mp patched
      rw [putBack entry among] at found
      cases found
      exact orderly.replaced entry among
    · rw [others table member patched] at found
      obtain given | ⟨entry, among, here, -⟩ := orderly.entries table member handler found
      · exact given
      · exact absurd (here ▸ place_mem_places among) patched
  revert entries
  unfold Manager.uninstrumentIn
  split
  · intro entries
    refine ⟨orderly.same, ?_, List.nodup_nil, fun _ => rfl, fun _ none => (nomatch none), ?_⟩
    · exact orderly.sound.of_modules (work.sites.restoreAll_names order) (work.sites.restoreAll_modules order)
    · exact fun table member handler found => .inl (entries table member handler found)
  · exact fun _ => orderly

theorem step (orderly : Orderly interceptor work) (step : Step work next) : Orderly interceptor next := by
  cases step with
  | host write => exact orderly.host write
  | instrument instrumented => exact orderly.instrument instrumented
  | abort => exact orderly
  | uninstrument all => exact orderly.uninstrument all

end Orderly

theorem Reached.orderly (reached : Reached interceptor work) : Orderly interceptor work := by
  induction reached with
  | start => exact .start interceptor
  | step _ step ih => exact ih.step step

/-! ## What the host can rely on -/

/-- At any time: no two patches are at one place. To instrument or to take back a second time changes nothing.
`Manager.uninstrument` takes back in one of the orders that are possible, and it is a step like the others.
Taking back puts at every place the handler that is saved for it, in whatever order, and changes nothing else.
What is saved is what stood there before the manager installed its wrappers, so when nothing is written
between, everything is as it was. Every entry is a handler of the host or one wrapper around one; so no
wrapper of the manager is around another, unless the host has installed one itself. -/
theorem Reached.manager_restores (reached : Reached interceptor work) :
    (places work.manager.patches).Nodup ∧
      (∀ (manager : Manager σ) (sites : CallSites σ),
        manager.uninstrument sites = manager.uninstrumentIn manager.patches sites) ∧
      Step work { work with
        manager := (work.manager.uninstrument work.sites).value
        sites := (work.manager.uninstrument work.sites).sites } ∧
      (∀ done, work.manager.instrument work.sites = .ok done →
        ∀ later, done.value.instrument later = .ok ⟨done.value, later, []⟩) ∧
      (∀ order again later,
        (work.manager.uninstrumentIn order work.sites).value.uninstrumentIn again later =
          ⟨(work.manager.uninstrumentIn order work.sites).value, later, []⟩) ∧
      (∀ order, order.Perm work.manager.patches →
        let done := work.manager.uninstrumentIn order work.sites
        done.value.patches = [] ∧ done.sites.modules = work.sites.modules ∧
          (∀ entry ∈ work.manager.patches,
            done.sites.get? entry.2.owner entry.2.member = some entry.2.replaced) ∧
          ∀ table member, (table, member) ∉ places work.manager.patches →
            done.sites.get? table member = work.sites.get? table member) ∧
      (work.manager.instrumented = false → ∀ done, work.manager.instrument work.sites = .ok done →
        (∀ entry ∈ done.value.patches,
          work.sites.get? entry.2.owner entry.2.member = some entry.2.replaced) ∧
          ∀ order, order.Perm done.value.patches → ∀ table member,
            (done.value.uninstrumentIn order done.sites).sites.get? table member =
              work.sites.get? table member) ∧
      (∀ table member handler, work.sites.get? table member = some handler →
        handler ∈ work.written ∨ ∃ id, ∃ inner ∈ work.written, handler = .wrapper id interceptor inner) ∧
      ((∀ handler ∈ work.written, interceptor ∉ handler.interceptors) →
        ∀ table member handler, work.sites.get? table member = some handler →
          interceptor ∉ handler.interceptors.tail) := by
  have orderly := reached.orderly
  have entries : ∀ table member handler, work.sites.get? table member = some handler →
      handler ∈ work.written ∨ ∃ id, ∃ inner ∈ work.written, handler = .wrapper id interceptor inner := by
    intro table member handler found
    refine (orderly.entries table member handler found).imp_right ?_
    rintro ⟨entry, among, -, id, rfl⟩
    exact ⟨id, entry.2.replaced, orderly.replaced entry among, rfl⟩
  refine ⟨orderly.distinct, Manager.uninstrument_eq, .uninstrument work (.refl _),
    fun done instrumented => Manager.instrument_again instrumented,
    Manager.uninstrumentIn_again work.manager work.sites, ?_, ?_, entries, ?_⟩
  · intro order all
    obtain ⟨putBack, others⟩ := orderly.get?_uninstrumentIn all
    refine ⟨?_, ?_, putBack, others⟩
    · unfold Manager.uninstrumentIn
      split
      · rfl
      · rename_i idle
        exact orderly.idle (Bool.not_eq_true _ ▸ idle)
    · unfold Manager.uninstrumentIn
      split
      · exact work.sites.restoreAll_modules order
      · rfl
  · intro idle done instrumented
    obtain ⟨targets, patches, value, wraps⟩ := orderly.wraps idle instrumented
    rw [value]
    refine ⟨wraps.replaced, ?_⟩
    intro order all table member
    show (done.sites.restoreAll order).get? table member = _
    exact wraps.get?_restoreAll all table member
  · intro foreign table member handler found nested
    obtain given | ⟨id, inner, given, rfl⟩ := entries table member handler found
    · exact foreign handler given (List.mem_of_mem_tail nested)
    · exact foreign inner given nested

/-- A handler that answers with its arguments. -/
def echo (id : Nat) : Handler Unit :=
  .sync id fun args state => (.ok args, state)

/-- One target twice, one of the wrong kind, and one that is not there. -/
def echoTargets : List PatchTarget :=
  [⟨"api", some "Client", "create", false⟩, ⟨"api", some "Client", "create", false⟩,
    ⟨"api", some "Client", "list", true⟩, ⟨"missing", none, "create", false⟩]

def echoInterceptor : Interceptor Unit where
  provider := "echo"
  targets := .ok echoTargets
  isStreaming := fun args => .ok (asksForStream args)
  extract := fun _ _ _ state => (.error (.error "unread"), state)

/-- The host overwrites the one wrapper that could be installed. Taking back puts the handler there from before
the wrapper, and leaves the other one. -/
theorem manager_restores_over_a_write :
    ∃ work, Reached echoInterceptor work ∧ work.manager.patches.length = 1 ∧
      work.sites.get? 1 "create" = some (echo 3) ∧
        (work.manager.uninstrument work.sites).sites.get? 1 "create" = some (echo 1) ∧
          (work.manager.uninstrument work.sites).sites.get? 1 "list" = some (echo 2) := by
  have reached : Reached echoInterceptor _ := .start
  have reached := reached.step (.host _ (.register "api" (some "Client") "create" (echo 1)))
  have reached := reached.step (.host _ (.register "api" (some "Client") "list" (echo 2)))
  have reached := reached.step (.instrument _ rfl)
  have reached := reached.step (.host _ (.set 1 "create" (echo 3)))
  obtain ⟨-, taken, -, -, -, back, -⟩ := reached.manager_restores
  obtain ⟨-, -, putBack, others⟩ := back _ (.refl _)
  refine ⟨_, reached, rfl, rfl, ?_, ?_⟩
  · rw [taken]
    exact putBack ("api.Client.create", ⟨1, "create", echo 1⟩) (List.mem_singleton.mpr rfl)
  · rw [taken]
    exact (others 1 "list" (by decide)).trans rfl

end Managed

end LlmTelemetry
