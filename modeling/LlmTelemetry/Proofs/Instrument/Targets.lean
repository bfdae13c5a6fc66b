import LlmTelemetry.Proofs.Event.PayloadFields
import LlmTelemetry.Proofs.Instrument.RegistryRuns
/-!
# Which call sites are wrapped

`Wraps` says what the patches of a manager account for. Here is the converse: every target that leads to a
handler of its kind is patched, so the call sites that get a wrapper can be told from the directory and the list
of targets alone. For the providers that are known from the start, the names that were asked for and the
modules that are registered decide which of them are active.
-/

namespace LlmTelemetry

variable {σ : Type}

namespace CallSites

variable {sites before after : CallSites σ} {target : PatchTarget} {owner : TableId} {handler : Handler σ}
  {site : CallSite}

/-- Whether the target leads to the call site, and there is a handler of its kind. -/
def stands (sites : CallSites σ) (target : PatchTarget) (site : CallSite) : Bool :=
  match sites.findTarget target with
  | .ok (owner, _) => owner = site.table ∧ target.member = site.member
  | .error _ => false

theorem handlerOfKind_eq_ok {isAsync : Bool} : sites.handlerOfKind site isAsync = .ok handler ↔
    sites.get? site.table site.member = some handler ∧ handler.isAsync = isAsync := by
  unfold handlerOfKind CallSites.handler
  cases sites.get? site.table site.member with
  | none => simp
  | some installed =>
    dsimp only
    split
    · rename_i kind
      constructor
      · rintro ⟨⟩
        exact ⟨rfl, kind⟩
      · rintro ⟨⟨⟩, -⟩
        rfl
    · rename_i kind
      constructor
      · rintro ⟨⟩
      · rintro ⟨⟨⟩, other⟩
        exact absurd other kind

theorem handlerOfKind_eq_error (sites : CallSites σ) (site : CallSite) (isAsync : Bool)
    (others : ∀ handler, sites.get? site.table site.member = some handler → handler.isAsync ≠ isAsync) :
    ∃ reason, sites.handlerOfKind site isAsync = .error reason := by
  cases found : sites.handlerOfKind site isAsync with
  | error reason => exact ⟨reason, rfl⟩
  | ok handler =>
    obtain ⟨installed, kind⟩ := handlerOfKind_eq_ok.mp found
    exact absurd kind (others handler installed)

theorem findTarget_eq_ok : sites.findTarget target = .ok (owner, handler) ↔
    sites.resolve target.moduleName target.className = .ok owner ∧
      sites.get? owner target.member = some handler ∧ handler.isAsync = target.isAsync := by
  have ofKind : sites.handlerOfKind ⟨owner, target.member⟩ target.isAsync = .ok handler ↔
      sites.get? owner target.member = some handler ∧ handler.isAsync = target.isAsync := handlerOfKind_eq_ok
  rw [← ofKind]
  unfold findTarget
  cases sites.resolve target.moduleName target.className with
  | error reason => simp [bind, Except.bind]
  | ok table =>
    cases found : sites.handlerOfKind ⟨table, target.member⟩ target.isAsync with
    | error reason =>
      simp only [bind, Except.bind, found, reduceCtorEq, false_iff]
      rintro ⟨⟨⟩, other⟩
      rw [found] at other
      cases other
    | ok installed =>
      simp only [bind, Except.bind, found]
      constructor
      · rintro ⟨⟩
        exact ⟨rfl, found⟩
      · rintro ⟨⟨⟩, other⟩
        rw [found] at other
        cases other
        rfl

theorem stands_iff : sites.stands target site = true ↔
    sites.resolve target.moduleName target.className = .ok site.table ∧ target.member = site.member ∧
      ∃ handler, sites.get? site.table site.member = some handler ∧ handler.isAsync = target.isAsync := by
  unfold stands
  constructor
  · intro stands
    split at stands
    · rename_i owner handler found
      obtain ⟨resolved, installed, kind⟩ := findTarget_eq_ok.mp found
      obtain ⟨rfl, member⟩ := of_decide_eq_true stands
      rw [member] at installed
      exact ⟨resolved, member, handler, installed, kind⟩
    · contradiction
  · rintro ⟨resolved, member, handler, installed, kind⟩
    rw [← member] at installed
    rw [findTarget_eq_ok.mpr ⟨resolved, installed, kind⟩]
    exact decide_eq_true ⟨rfl, member⟩

/-! ## One manager -/

/-- What is at a call site before and after wrappers were installed: a wrapper of the interceptor around the same
handler, or the same handler. -/
def Watched (interceptor : Interceptor σ) (before after : CallSites σ) (site : CallSite) (wraps : Bool) : Prop :=
  if wraps then
    ∃ id original, before.get? site.table site.member = some original ∧
      after.get? site.table site.member = some (.wrapper id interceptor original)
  else after.get? site.table site.member = before.get? site.table site.member

variable {interceptor : Interceptor σ} {targets finished : List PatchTarget}

/-- The targets that were gone through are patched where they lead to a handler of their kind, and nothing else
is. -/
structure Covered (interceptor : Interceptor σ) (before : CallSites σ) (finished : List PatchTarget)
    (state : Patched σ (KeyedList String (Patch σ))) : Prop where
  modules : state.sites.modules = before.modules
  keys : ∀ key ∈ KeyedList.keys state.value, key ∈ finished.map PatchTarget.key
  watched : ∀ site, Watched interceptor before state.sites site (finished.any (before.stands · site))

theorem Watched.of_get? {next : CallSites σ} {wraps : Bool} (watched : Watched interceptor before after site wraps)
    (same : next.get? site.table site.member = after.get? site.table site.member) :
    Watched interceptor before next site wraps := by
  unfold Watched at *
  rw [same]
  exact watched

theorem wrap_of_error {reason : ResolveError} (missed : sites.findTarget target = .error reason) :
    sites.wrap interceptor target = .error reason := by
  unfold wrap
  rw [missed]
  rfl

theorem wrap_of_ok (found : sites.findTarget target = .ok (owner, handler)) :
    sites.wrap interceptor target =
      .ok (⟨owner, target.member, handler⟩,
        { sites.set owner target.member (.wrapper sites.wrappers interceptor handler) with
          wrappers := sites.wrappers + 1 }) := by
  unfold wrap
  rw [found]
  rfl

section PatchTarget

variable {state : Patched σ (KeyedList String (Patch σ))}

/-- A call site that a target with a new name leads to is as it was. -/
theorem Covered.untouched (sound : before.Sound) (covered : Covered interceptor before finished state)
    (fresh : target.key ∉ finished.map PatchTarget.key) (site : CallSite)
    (resolved : before.resolve target.moduleName target.className = .ok site.table)
    (member : target.member = site.member) :
    finished.any (before.stands · site) = false ∧
      state.sites.get? site.table site.member = before.get? site.table site.member := by
  have new : finished.any (before.stands · site) = false := by
    rw [← Bool.not_eq_true, List.any_eq_true]
    rintro ⟨other, among, stands⟩
    obtain ⟨resolved', member', -⟩ := stands_iff.mp stands
    obtain ⟨sameModule, sameClass⟩ := sound.apart _ _ _ _ _ resolved resolved'
    have key := PatchTarget.key_congr sameModule sameClass (member.trans member'.symm)
    exact fresh (key ▸ List.mem_map_of_mem among)
  have watched := covered.watched site
  rw [new] at watched
  exact ⟨new, watched⟩

/-- Whether a target with a new name can be patched is as it was in the beginning. -/
theorem Covered.findTarget (sound : before.Sound) (covered : Covered interceptor before finished state)
    (fresh : target.key ∉ finished.map PatchTarget.key) :
    state.sites.findTarget target = .ok (owner, handler) ↔ before.findTarget target = .ok (owner, handler) := by
  rw [findTarget_eq_ok, findTarget_eq_ok, resolve_of_modules covered.modules]
  refine and_congr_right fun resolved => ?_
  rw [(covered.untouched sound fresh ⟨owner, target.member⟩ resolved rfl).2]

/-- A target that leads to no handler of its kind is passed over. -/
theorem Covered.miss (sound : before.Sound) (covered : Covered interceptor before finished state)
    (fresh : target.key ∉ finished.map PatchTarget.key) {reason : ResolveError}
    (missed : state.sites.findTarget target = .error reason) (notices : List Notice) :
    Covered interceptor before (finished ++ [target]) { state with notices := notices } := by
  refine ⟨covered.modules, ?_, fun site => ?_⟩
  · rw [List.map_append]
    exact fun key known => List.mem_append_left _ (covered.keys key known)
  · have misses : before.stands target site = false := by
      rw [← Bool.not_eq_true, stands_iff]
      rintro ⟨resolved, member, handler, installed, kind⟩
      rw [← member] at installed
      rw [(covered.findTarget sound fresh).mpr (findTarget_eq_ok.mpr ⟨resolved, installed, kind⟩)] at missed
      cases missed
    simpa [misses] using covered.watched site

/-- A target that leads to a handler of its kind is patched. -/
theorem Covered.hit (sound : before.Sound) (covered : Covered interceptor before finished state)
    (fresh : target.key ∉ finished.map PatchTarget.key) {original : Handler σ}
    (found : state.sites.findTarget target = .ok (owner, original)) :
    Covered interceptor before (finished ++ [target])
      { state with
        value := KeyedList.put target.key ⟨owner, target.member, original⟩ state.value
        sites := { state.sites.set owner target.member (.wrapper state.sites.wrappers interceptor original) with
          wrappers := state.sites.wrappers + 1 } } := by
  obtain ⟨resolved, installed, kind⟩ := findTarget_eq_ok.mp ((covered.findTarget sound fresh).mp found)
  refine ⟨covered.modules, ?_, fun site => ?_⟩
  · have unknown : target.key ∉ KeyedList.keys state.value := fun known => fresh (covered.keys _ known)
    dsimp only
    rw [KeyedList.put_of_not_mem _ unknown, KeyedList.keys, List.map_append, List.map_append]
    intro key known
    obtain known | here := List.mem_append.mp known
    · exact List.mem_append_left _ (covered.keys key known)
    · exact List.mem_append_right _ here
  · by_cases here : (owner, target.member) = (site.table, site.member)
    · obtain ⟨rfl, member⟩ := Prod.mk.inj here
      rw [member] at installed
      have stands : before.stands target site = true :=
        stands_iff.mpr ⟨resolved, member, original, installed, kind⟩
      have wrapped : (finished ++ [target]).any (before.stands · site) = true := by simp [stands]
      rw [wrapped]
      refine ⟨state.sites.wrappers, original, installed, ?_⟩
      exact (get?_set _ _ _ _ _ _).trans (if_pos here)
    · have misses : before.stands target site = false := by
        rw [← Bool.not_eq_true, stands_iff]
        rintro ⟨resolved', member, -⟩
        cases resolved.symm.trans resolved'
        exact here (by rw [member])
      have watched := covered.watched site
      rw [← Bool.or_false (finished.any _), ← misses] at watched
      simp only [List.any_append, List.any_cons, List.any_nil, Bool.or_false]
      exact watched.of_get? ((get?_set _ _ _ _ _ _).trans (if_neg here))

theorem Covered.patchTarget (sound : before.Sound) (covered : Covered interceptor before finished state)
    (fresh : target.key ∉ finished.map PatchTarget.key) :
    Covered interceptor before (finished ++ [target]) (Manager.patchTarget interceptor state target) := by
  have untaken : KeyedList.contains target.key state.value = false := by
    rw [← Bool.not_eq_true, KeyedList.contains_eq_true]
    exact fun known => fresh (covered.keys _ known)
  unfold Manager.patchTarget
  rw [untaken, if_neg Bool.false_ne_true]
  cases found : state.sites.findTarget target with
  | error reason =>
    rw [wrap_of_error found]
    exact covered.miss sound fresh found _
  | ok result =>
    rw [wrap_of_ok found]
    exact covered.hit sound fresh found

end PatchTarget

/-- Targets of different names are all patched where they lead to a handler of their kind. -/
theorem covered_patchAll (interceptor : Interceptor σ) (sound : before.Sound)
    (distinct : (targets.map PatchTarget.key).Nodup) :
    Covered interceptor before targets (Manager.patchAll interceptor targets [] before) := by
  induction targets using List.reverseRecOn with
  | nil => exact ⟨rfl, fun _ known => known, fun site => rfl⟩
  | append_singleton finished target ih =>
    rw [List.map_append, List.nodup_append_comm] at distinct
    obtain ⟨fresh, distinct⟩ := List.nodup_cons.mp distinct
    rw [Manager.patchAll, List.foldl_append]
    exact (ih distinct).patchTarget sound fresh

end CallSites

/-! ## The providers that are known from the start -/

/-- Whether a call site is a target of the provider, with a handler of the declared kind. -/
def CallSites.aims (sites : CallSites σ) (provider : Provider) (site : CallSite) : Bool :=
  provider.targets.any (sites.stands · site)

namespace Provider

/-- The providers that are known from the start, each with the module that it needs. -/
def builtin : List (Provider × String) :=
  [(anthropic, Anthropic.moduleName), (openai, OpenAI.moduleName)]

theorem builtin_factories : (Registry.builtin : Registry σ).factories =
    builtin.map fun entry => (entry.1.name, entry.1.factory entry.2) := rfl

theorem moduleName_of_target : ∀ entry ∈ builtin, ∀ target ∈ entry.1.targets,
    target.moduleName = entry.2 := by
  decide

theorem keys_nodup : ∀ entry ∈ builtin, (entry.1.targets.map PatchTarget.key).Nodup := by
  decide

theorem eq_of_name {entry other : Provider × String} (known : entry ∈ builtin) (also : other ∈ builtin)
    (same : entry.1.name = other.1.name) : entry = other := by
  have apart : anthropic.name ≠ openai.name := by decide
  simp only [builtin, List.mem_cons, List.not_mem_nil, or_false] at known also
  obtain rfl | rfl := known <;> obtain rfl | rfl := also
  · rfl
  · exact absurd same apart
  · exact absurd same.symm apart
  · rfl

theorem eq_of_module {entry other : Provider × String} (known : entry ∈ builtin) (also : other ∈ builtin)
    (same : entry.2 = other.2) : entry = other := by
  have apart : Anthropic.moduleName ≠ OpenAI.moduleName := by decide
  simp only [builtin, List.mem_cons, List.not_mem_nil, or_false] at known also
  obtain rfl | rfl := known <;> obtain rfl | rfl := also
  · rfl
  · exact absurd same apart
  · exact absurd same.symm apart
  · rfl

theorem find?_factories {name : String} {factory : Factory σ}
    (known : KeyedList.find? name (Registry.builtin : Registry σ).factories = some factory) :
    ∃ entry ∈ builtin, entry.1.name = name ∧ factory = entry.1.factory entry.2 := by
  have member := KeyedList.mem_of_find? known
  rw [builtin_factories] at member
  obtain ⟨entry, listed, same⟩ := List.mem_map.mp member
  cases same
  exact ⟨entry, listed, rfl, rfl⟩

/-- A call site that a target of one provider leads to is no call site of another one. -/
theorem eq_of_aims {given : CallSites σ} (sound : given.Sound) {entry other : Provider × String}
    (known : entry ∈ builtin) (also : other ∈ builtin) {site : CallSite} {target : PatchTarget}
    (among : target ∈ entry.1.targets)
    (resolved : given.resolve target.moduleName target.className = .ok site.table)
    (aims : given.aims other.1 site = true) : entry = other := by
  obtain ⟨target', among', stands⟩ := List.any_eq_true.mp aims
  have resolved' := (CallSites.stands_iff.mp stands).1
  have same := (sound.apart _ _ _ _ _ resolved resolved').1
  rw [moduleName_of_target entry known target among, moduleName_of_target other also target' among'] at same
  exact eq_of_module known also same

end Provider

namespace Registry

/-- Whether a provider becomes active when these names are asked for. -/
def selected (given : CallSites σ) (asked : List String) (entry : Provider × String) : Bool :=
  decide (entry.1.name ∈ asked) && given.hasModule entry.2

/-- How the registry stands after the names were asked for, in a directory that the host has made. -/
structure Serves (given : CallSites σ) (asked : List String) (board : Board σ) : Prop where
  active : ∀ entry ∈ Provider.builtin,
    KeyedList.contains entry.1.name board.registry.active = selected given asked entry
  wrapped : ∀ entry ∈ Provider.builtin, selected given asked entry = true → ∀ site,
    given.aims entry.1 site = true → CallSites.Watched entry.1.interceptor given board.sites site true
  bare : ∀ site, (∀ entry ∈ Provider.builtin, selected given asked entry = true →
    given.aims entry.1 site = false) →
      board.sites.get? site.table site.member = given.get? site.table site.member

namespace Serves

variable {given : CallSites σ} {asked : List String} {board : Board σ}

theorem nothing (idle : board.registry.active = [])
    (same : ∀ table member, board.sites.get? table member = given.get? table member) :
    Serves given [] board where
  active entry _ := by
    rw [idle]
    rfl
  wrapped _ _ chosen := by simp [selected] at chosen
  bare site _ := same site.table site.member

/-- To ask for one more name that selects nobody new. -/
theorem skip (serves : Serves given asked board) {name : String}
    (same : ∀ entry ∈ Provider.builtin, selected given (asked ++ [name]) entry = selected given asked entry) :
    Serves given (asked ++ [name]) board where
  active entry known := (serves.active entry known).trans (same entry known).symm
  wrapped entry known chosen := serves.wrapped entry known (same entry known ▸ chosen)
  bare site others := serves.bare site fun entry known chosen =>
    others entry known ((same entry known).trans chosen)

theorem selected_append (given : CallSites σ) (asked : List String) (name : String)
    (entry : Provider × String) : selected given (asked ++ [name]) entry =
      (selected given asked entry || decide (entry.1.name = name) && given.hasModule entry.2) := by
  simp [selected, Bool.and_or_distrib_right]

/-- One more name selects nobody new, unless it is the name of a provider whose module is there. -/
theorem selected_skip {name : String} {entry : Provider × String}
    (known : entry.1.name = name → given.hasModule entry.2 = true → selected given asked entry = true) :
    selected given (asked ++ [name]) entry = selected given asked entry := by
  rw [selected_append]
  by_cases same : entry.1.name = name
  · cases ready : given.hasModule entry.2 with
    | false => simp
    | true => simp [known same ready]
  · simp [same]

theorem build_of_module {sites : CallSites σ} (provider : Provider) {moduleName : String}
    (ready : sites.hasModule moduleName = true) :
    ∃ built, build (provider.factory moduleName) sites = .ok built ∧
      built.sites = (Manager.patchAll provider.interceptor provider.targets [] sites).sites := by
  have made : (provider.factory moduleName) sites = .ok provider.interceptor := if_pos ready
  unfold build
  rw [made]
  exact ⟨_, rfl, rfl⟩

theorem build_of_no_module {sites : CallSites σ} (provider : Provider) {moduleName : String}
    (missing : sites.hasModule moduleName = false) :
    ∃ reason, build (provider.factory moduleName) sites = .error (.error reason) := by
  have failed : ∃ reason, (provider.factory moduleName) sites = .error (.error reason) :=
    ⟨_, if_neg (by simp [missing])⟩
  obtain ⟨reason, failed⟩ := failed
  unfold build
  rw [failed]
  exact ⟨reason, rfl⟩

section Join

variable {chosen : Provider × String}

/-- The call sites of a provider that is not active are as the host has made them. -/
theorem untouched (serves : Serves given asked board) (sound : given.Sound)
    (listed : chosen ∈ Provider.builtin) (idle : selected given asked chosen = false) {target : PatchTarget}
    (among : target ∈ chosen.1.targets) {site : CallSite}
    (resolved : given.resolve target.moduleName target.className = .ok site.table) :
    board.sites.get? site.table site.member = given.get? site.table site.member := by
  refine serves.bare site fun entry listed' selected' => ?_
  rw [← Bool.not_eq_true]
  intro aims
  rw [Provider.eq_of_aims sound listed listed' among resolved aims, selected'] at idle
  contradiction

theorem aims_of_idle (serves : Serves given asked board) (sound : given.Sound)
    (modules : board.sites.modules = given.modules) (listed : chosen ∈ Provider.builtin)
    (idle : selected given asked chosen = false) (site : CallSite) :
    board.sites.aims chosen.1 site = given.aims chosen.1 site := by
  rw [CallSites.aims, CallSites.aims, Bool.eq_iff_iff, List.any_eq_true, List.any_eq_true]
  refine exists_congr fun target => and_congr_right fun among => ?_
  rw [CallSites.stands_iff, CallSites.stands_iff, CallSites.resolve_of_modules modules]
  exact and_congr_right fun resolved => by rw [serves.untouched sound listed idle among resolved]

/-- A provider that was not active is made active in a directory with its module. -/
theorem join {next : Board σ} (sound : given.Sound) (known : board.sites.Sound)
    (modules : board.sites.modules = given.modules) (serves : Serves given asked board)
    (listed : chosen ∈ Provider.builtin) (ready : given.hasModule chosen.2 = true)
    (idle : selected given asked chosen = false) {manager : Manager σ}
    (active : next.registry.active =
      KeyedList.insertSorted chosen.1.name manager board.registry.active)
    (sites : next.sites =
      (Manager.patchAll chosen.1.interceptor chosen.1.targets [] board.sites).sites) :
    Serves given (asked ++ [chosen.1.name]) next := by
  have watched (site : CallSite) :
      CallSites.Watched chosen.1.interceptor board.sites next.sites site (given.aims chosen.1 site) := by
    rw [← serves.aims_of_idle sound modules listed idle, sites]
    exact (CallSites.covered_patchAll chosen.1.interceptor known (Provider.keys_nodup chosen listed)).watched
      site
  have passed {site : CallSite} (misses : given.aims chosen.1 site = false) :
      next.sites.get? site.table site.member = board.sites.get? site.table site.member := by
    have still := watched site
    rw [misses] at still
    exact still
  refine ⟨fun entry listed' => ?_, fun entry listed' selected' site aims => ?_, fun site others => ?_⟩
  · rw [active, KeyedList.contains, KeyedList.find?_insertSorted, selected_append,
      ← serves.active entry listed', KeyedList.contains]
    by_cases same : chosen.1.name = entry.1.name
    · cases Provider.eq_of_name listed listed' same
      simp [ready]
    · simp [same, Ne.symm same]
  · by_cases same : chosen.1.name = entry.1.name
    · cases Provider.eq_of_name listed listed' same
      have wraps := watched site
      rw [aims] at wraps
      obtain ⟨id, original, found, wrapped⟩ := wraps
      obtain ⟨target, among, leads⟩ := List.any_eq_true.mp aims
      rw [serves.untouched sound listed idle among (CallSites.stands_iff.mp leads).1] at found
      exact ⟨id, original, found, wrapped⟩
    · rw [selected_append] at selected'
      have before : selected given asked entry = true := by simpa [Ne.symm same] using selected'
      refine (serves.wrapped entry listed' before site aims).of_get? (passed ?_)
      rw [← Bool.not_eq_true]
      intro also
      obtain ⟨target, among, leads⟩ := List.any_eq_true.mp also
      exact same (congrArg (·.1.name)
        (Provider.eq_of_aims sound listed listed' among (CallSites.stands_iff.mp leads).1 aims))
  · have here : given.aims chosen.1 site = false := others chosen listed (by simp [selected_append, ready])
    rw [passed here]
    refine serves.bare site fun entry listed' before => others entry listed' ?_
    rw [selected_append, before, Bool.true_or]

end Join

theorem activateOne {state : Activation σ} (sound : given.Sound)
    (rooted : Rooted ⟨.builtin, given⟩ ⟨state.registry, state.sites⟩)
    (serves : Serves given asked ⟨state.registry, state.sites⟩) (name : String) :
    Serves given (asked ++ [name])
      ⟨(Registry.activateOne state name).registry, (Registry.activateOne state name).sites⟩ := by
  have modules : state.sites.modules = given.modules := rooted.modules
  have factories : state.registry.factories = builtin.factories := rooted.factories
  unfold Registry.activateOne
  split
  · rename_i already
    refine serves.skip fun entry listed => selected_skip fun same _ => ?_
    rw [← serves.active entry listed, same]
    exact already
  · rename_i inactive
    rw [factories]
    cases found : KeyedList.find? name (builtin : Registry σ).factories with
    | none =>
      refine serves.skip fun entry listed => selected_skip fun same _ => ?_
      have known : KeyedList.contains name (builtin : Registry σ).factories = true := by
        rw [KeyedList.contains_eq_true, Provider.builtin_factories, ← same]
        exact List.mem_map.mpr ⟨_, List.mem_map_of_mem listed, rfl⟩
      rw [KeyedList.contains, found] at known
      contradiction
    | some factory =>
      obtain ⟨chosen, listed, rfl, rfl⟩ := Provider.find?_factories found
      have same : state.sites.hasModule chosen.2 = given.hasModule chosen.2 := by
        rw [CallSites.hasModule, CallSites.hasModule, modules]
      dsimp only
      cases ready : given.hasModule chosen.2 with
      | false =>
        obtain ⟨reason, failed⟩ := build_of_no_module chosen.1 (same.trans ready)
        rw [failed]
        refine serves.skip fun entry listed' => selected_skip fun same ready' => ?_
        rw [Provider.eq_of_name listed' listed same, ready] at ready'
        contradiction
      | true =>
        obtain ⟨built, done, sites⟩ := build_of_module chosen.1 (same.trans ready)
        have idle : selected given asked chosen = false := by
          rw [← serves.active chosen listed, ← Bool.not_eq_true]
          exact inactive
        rw [done]
        exact serves.join sound rooted.sound modules listed ready idle rfl sites

theorem activateAll {names : List String} {state : Activation σ} (sound : given.Sound)
    (rooted : Rooted ⟨.builtin, given⟩ ⟨state.registry, state.sites⟩)
    (serves : Serves given asked ⟨state.registry, state.sites⟩) :
    Serves given (asked ++ names)
      ⟨(names.foldl Registry.activateOne state).registry, (names.foldl Registry.activateOne state).sites⟩ := by
  induction names generalizing state asked with
  | nil =>
    rw [List.append_nil]
    exact serves
  | cons name rest ih =>
    have next := ih (rooted.activateOne name) (serves.activateOne sound rooted name)
    rwa [List.append_assoc] at next

/-- Where no provider is active, those become active that are asked for by name, or all, and whose modules are
there. -/
theorem activate (sound : given.Sound) (rooted : Rooted ⟨.builtin, given⟩ board)
    (serves : Serves given [] board) (names : Option (List String)) :
    Serves given (names.getD (Provider.builtin.map (·.1.name))) (board.after (.activate names)) := by
  have registered : board.registry.registered = Provider.builtin.map (·.1.name) := by
    rw [registered, show board.registry.factories = _ from rooted.factories, Provider.builtin_factories]
    rfl
  let state : Activation σ := ⟨board.registry, board.sites, [], []⟩
  have begun : Rooted ⟨.builtin, given⟩ ⟨state.registry, state.sites⟩ := rooted
  rw [← registered]
  exact activateAll sound begun serves

end Serves

end Registry

end LlmTelemetry
