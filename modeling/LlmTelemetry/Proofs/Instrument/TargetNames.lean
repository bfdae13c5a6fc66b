import LlmTelemetry.Proofs.Instrument.Targets
/-!
# Which target gets the patch of a name

A manager keeps its patches under the dotted names of the targets, and passes a target over when its name is
taken. So the patch of a name is the one of the first target of that name that leads to a handler of its kind.
A part and a member that share their name with no other part and member of the list are patched whenever one of
their targets can be, whatever the other targets do. Where two share a name, the later one is left as it is.
-/

namespace LlmTelemetry

variable {σ : Type}

namespace CallSites

variable {sites before after : CallSites σ} {interceptor : Interceptor σ} {targets : List PatchTarget}
  {target : PatchTarget} {owner : TableId} {handler : Handler σ} {patches : KeyedList String (Patch σ)}

/-- The patch for a target, if it leads to a handler of its kind. -/
def patch? (sites : CallSites σ) (target : PatchTarget) : Option (Patch σ) :=
  match sites.findTarget target with
  | .ok (owner, handler) => some ⟨owner, target.member, handler⟩
  | .error _ => none

/-- The patch of the first target of a name that has one. -/
def patchNamed? (sites : CallSites σ) (targets : List PatchTarget) (key : String) : Option (Patch σ) :=
  (targets.filter (·.key = key)).findSome? sites.patch?

theorem patch?_of_ok (found : sites.findTarget target = .ok (owner, handler)) :
    sites.patch? target = some ⟨owner, target.member, handler⟩ := by
  rw [patch?, found]

theorem patch?_of_error {reason : ResolveError} (missed : sites.findTarget target = .error reason) :
    sites.patch? target = none := by
  rw [patch?, missed]

theorem patchNamed?_concat (sites : CallSites σ) (finished : List PatchTarget) (target : PatchTarget)
    (key : String) : sites.patchNamed? (finished ++ [target]) key =
      (sites.patchNamed? finished key).or (if target.key = key then sites.patch? target else none) := by
  unfold patchNamed?
  rw [List.filter_append, List.findSome?_append]
  congr 1
  by_cases named : target.key = key
  · simp [named]
  · simp [named]

/-- Targets of one part and one member have one patch among them, or none. -/
theorem patchNamed?_of_alone (found : sites.findTarget target = .ok (owner, handler)) (among : target ∈ targets)
    (alone : ∀ other ∈ targets, other.key = target.key → other.moduleName = target.moduleName ∧
      other.className = target.className ∧ other.member = target.member) :
    sites.patchNamed? targets target.key = some ⟨owner, target.member, handler⟩ := by
  obtain ⟨resolved, installed, kind⟩ := findTarget_eq_ok.mp found
  have among_named : target ∈ targets.filter (·.key = target.key) := by simp [among]
  cases first : sites.patchNamed? targets target.key with
  | none =>
    have missed := List.findSome?_eq_none_iff.mp first target among_named
    rw [patch?_of_ok found] at missed
    cases missed
  | some patch =>
    obtain ⟨other, named, given⟩ := List.exists_of_findSome?_eq_some first
    obtain ⟨listed, same⟩ := List.mem_filter.mp named
    obtain ⟨sameModule, sameClass, sameMember⟩ := alone other listed (of_decide_eq_true same)
    unfold patch? at given
    cases reached : sites.findTarget other with
    | error reason =>
      rw [reached] at given
      cases given
    | ok result =>
      obtain ⟨table, installed'⟩ := result
      obtain ⟨resolved', here, -⟩ := findTarget_eq_ok.mp reached
      rw [sameModule, sameClass, resolved] at resolved'
      cases resolved'
      rw [sameMember, installed] at here
      cases here
      rw [reached, sameMember] at given
      exact given.symm

/-- What stands at a target whose name is new is what stood there before the manager began. -/
theorem Wraps.findTarget (wraps : Wraps interceptor targets before patches after) (sound : before.Sound)
    (fresh : target.key ∉ KeyedList.keys patches) : after.findTarget target = before.findTarget target := by
  unfold CallSites.findTarget
  rw [resolve_of_modules wraps.modules]
  cases resolved : before.resolve target.moduleName target.className with
  | error reason => rfl
  | ok owner =>
    have elsewhere := wraps.not_mem_places sound resolved fresh
    have same : after.handlerOfKind ⟨owner, target.member⟩ target.isAsync =
        before.handlerOfKind ⟨owner, target.member⟩ target.isAsync := by
      unfold handlerOfKind CallSites.handler tableName
      rw [wraps.untouched _ _ elsewhere, wraps.names]
    simp only [bind, Except.bind, same]

theorem find?_patchAll (interceptor : Interceptor σ) (sound : before.Sound) (targets : List PatchTarget)
    (key : String) : KeyedList.find? key (Manager.patchAll interceptor targets [] before).value =
      before.patchNamed? targets key := by
  -- On the targets that are done: a name is taken as soon as one of its targets could be patched.
  induction targets using List.reverseRecOn generalizing key with
  | nil => rfl
  | append_singleton finished target ih =>
    have wraps := Wraps.patchAll interceptor finished sound
    rw [patchNamed?_concat, Manager.patchAll, List.foldl_append, List.foldl_cons, List.foldl_nil]
    change KeyedList.find? key (Manager.patchTarget interceptor
      (Manager.patchAll interceptor finished [] before) target).value = _
    rw [← ih key]
    unfold Manager.patchTarget
    split
    · rename_i taken
      by_cases named : target.key = key
      · rw [KeyedList.contains, named] at taken
        rw [Option.or_of_isSome taken]
      · rw [if_neg named, Option.or_none]
    · rename_i new
      have unknown : KeyedList.find? target.key (Manager.patchAll interceptor finished [] before).value = none :=
        Option.not_isSome_iff_eq_none.mp new
      have fresh : target.key ∉ KeyedList.keys (Manager.patchAll interceptor finished [] before).value :=
        fun known => new (KeyedList.contains_eq_true.mpr known)
      have same := wraps.findTarget sound fresh
      cases found : before.findTarget target with
      | error reason =>
        rw [found] at same
        rw [wrap_of_error same, patch?_of_error found, ite_self, Option.or_none]
      | ok result =>
        obtain ⟨owner, original⟩ := result
        rw [found] at same
        rw [wrap_of_ok same, patch?_of_ok found]
        dsimp only
        rw [KeyedList.find?_put]
        by_cases named : target.key = key
        · rw [if_pos named, if_pos named, ← named, unknown, Option.none_or]
        · rw [if_neg named, if_neg named, Option.or_none]

end CallSites

/-! ## What a manager instruments -/

theorem Manager.instrument_of_idle {manager : Manager σ} {targets : List PatchTarget} (sites : CallSites σ)
    (idle : manager.instrumented = false) (bare : manager.patches = [])
    (listed : manager.interceptor.targets = .ok targets) :
    ∃ notices, manager.instrument sites = .ok {
      value := {
        interceptor := manager.interceptor
        patches := (patchAll manager.interceptor targets [] sites).value
        instrumented := true }
      sites := (patchAll manager.interceptor targets [] sites).sites
      notices := notices } := by
  unfold instrument
  rw [idle, if_neg Bool.false_ne_true, listed, bare]
  exact ⟨_, rfl⟩

namespace Managed

variable {interceptor : Interceptor σ} {work : Managed σ} {targets : List PatchTarget}

/-- To instrument a manager that is not instrumented never fails. Under every name there is the patch of the first
target that has the name and leads to a handler of its kind, and no two patches are at one place. A part and a
member that share their name with no others of the list are wrapped once and have their own patch, as soon as one
of their targets tells the kind of the handler. Where no patch is, everything is as it was. -/
theorem Reached.instrument_patches (reached : Reached interceptor work)
    (idle : work.manager.instrumented = false) (listed : interceptor.targets = .ok targets) :
    ∃ done, work.manager.instrument work.sites = .ok done ∧ done.value.instrumented = true ∧
      done.sites.modules = work.sites.modules ∧
      (∀ key, KeyedList.find? key done.value.patches = work.sites.patchNamed? targets key) ∧
      (places done.value.patches).Nodup ∧
      (∀ target ∈ targets, ∀ owner original, work.sites.findTarget target = .ok (owner, original) →
        (∀ other ∈ targets, other.key = target.key → other.moduleName = target.moduleName ∧
          other.className = target.className ∧ other.member = target.member) →
        KeyedList.find? target.key done.value.patches = some ⟨owner, target.member, original⟩ ∧
          ∃ id, done.sites.get? owner target.member = some (.wrapper id interceptor original)) ∧
      ∀ table member, (table, member) ∉ places done.value.patches →
        done.sites.get? table member = work.sites.get? table member := by
  have orderly := reached.orderly
  have wraps := CallSites.Wraps.patchAll interceptor targets orderly.sound
  have named := CallSites.find?_patchAll interceptor orderly.sound targets
  obtain ⟨notices, instrumented⟩ := Manager.instrument_of_idle work.sites idle (orderly.idle idle)
    (orderly.same ▸ listed)
  rw [orderly.same] at instrumented
  refine ⟨_, instrumented, rfl, wraps.modules, named, wraps.distinct, ?_, wraps.untouched⟩
  intro target among owner original found alone
  have patched := (named target.key).trans (CallSites.patchNamed?_of_alone found among alone)
  exact ⟨patched, wraps.wrapped _ (KeyedList.mem_of_find? patched)⟩

/-- A class and a module of its own that are told apart by nothing but the place of the dots, and a target that
is wrong about the kind of its handler before one that is right. -/
def dottedTargets : List PatchTarget :=
  [⟨"api", some "Client", "create", true⟩, ⟨"missing", none, "create", false⟩,
    ⟨"api", some "Client", "create", false⟩, ⟨"api.Client", none, "create", false⟩,
    ⟨"api.Client", none, "list", false⟩]

def dottedInterceptor : Interceptor Unit :=
  { echoInterceptor with targets := .ok dottedTargets }

/-- The function that shares its name with no other target is wrapped, after targets that are not there, that are
wrong about the kind, and that lose their name to an earlier one. -/
theorem instrument_patches_after_failures :
    ∃ work done, Reached dottedInterceptor work ∧ work.manager.instrument work.sites = .ok done ∧
      KeyedList.find? "api.Client.list" done.value.patches = some ⟨2, "list", echo 3⟩ ∧
        ∃ id, done.sites.get? 2 "list" = some (.wrapper id dottedInterceptor (echo 3)) := by
  have reached : Reached dottedInterceptor _ := .start
  have reached := reached.step (.host _ (.register "api" (some "Client") "create" (echo 1)))
  have reached := reached.step (.host _ (.register "api.Client" none "create" (echo 2)))
  have reached := reached.step (.host _ (.register "api.Client" none "list" (echo 3)))
  obtain ⟨done, instrumented, -, -, -, -, patched, -⟩ := reached.instrument_patches rfl rfl
  obtain ⟨record, wrapped⟩ := patched ⟨"api.Client", none, "list", false⟩ (by decide) 2 (echo 3) rfl (by decide)
  exact ⟨_, done, reached, instrumented, record, wrapped⟩

/-- Two different functions of one dotted name: the later target is passed over. -/
example : ((({} : CallSites Unit).register "api" (some "Client") "create" (echo 1)).2.register
    "api.Client" none "create" (echo 2)).2.patchNamed? dottedTargets "api.Client.create" =
      some ⟨1, "create", echo 1⟩ := by
  rfl

end Managed

end LlmTelemetry
