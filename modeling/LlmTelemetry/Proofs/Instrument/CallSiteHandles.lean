import LlmTelemetry.Proofs.Instrument.ManagerRuns
import Mathlib.Data.List.Induction
import Mathlib.Logic.Function.Basic
/-!
# Handles on call sites

The host registers handlers and forgets modules, writes to the tables that it has looked up, and lets any number of
managers install their wrappers and take them back. A handle keeps the table that it was made with. Through all of
this the handle has a handler. As long as its module is not forgotten, it is the one that a look-up finds at this
moment, and a write under another path does not change it.

The reason is that a table belongs to one part of the directory for ever (`Coherent.apart`). So a manager that still has
the table of a forgotten module does not reach into the one that has come in its place, and two parts whose dotted
names are the same do not meet.
-/

namespace LlmTelemetry

/-- The module, the class if there is one, and the name under which a handler is registered. -/
structure MemberPath where
  moduleName : String
  className : Option String
  member : String
deriving DecidableEq

def PatchTarget.path (target : PatchTarget) : MemberPath :=
  ⟨target.moduleName, target.className, target.member⟩

/-- In which order a manager puts the handlers back. -/
structure PutBackOrder (σ : Type) where
  arrange : KeyedList String (Patch σ) → KeyedList String (Patch σ)
  all : ∀ patches, (arrange patches).Perm patches

/-- What the host does, or one of its managers for it. -/
inductive SiteAct (σ μ : Type) where
  | host (write : HostWrite σ)
  | instrument (manager : μ)
  | uninstrument (manager : μ) (order : PutBackOrder σ)

/-- A directory and the managers that share it, which are told apart by names from `μ`. -/
structure SharedSites (σ μ : Type) where
  sites : CallSites σ
  managers : μ → Manager σ

namespace SharedSites

variable {σ μ : Type} [DecidableEq μ]

def new (interceptors : μ → Interceptor σ) : SharedSites σ μ :=
  ⟨{}, fun manager => .new (interceptors manager)⟩

/-- A manager that aborts changes nothing. -/
def act (shared : SharedSites σ μ) : SiteAct σ μ → SharedSites σ μ
  | .host write => { shared with sites := write.apply shared.sites }
  | .instrument manager =>
    match (shared.managers manager).instrument shared.sites with
    | .ok done => ⟨done.sites, Function.update shared.managers manager done.value⟩
    | .error _ => shared
  | .uninstrument manager order =>
    let patches := (shared.managers manager).patches
    let done := (shared.managers manager).uninstrumentIn (order.arrange patches) shared.sites
    ⟨done.sites, Function.update shared.managers manager done.value⟩

/-- What has become of the empty directory. -/
def after (interceptors : μ → Interceptor σ) (past : List (SiteAct σ μ)) : SharedSites σ μ :=
  past.foldl act (new interceptors)

theorem after_concat (interceptors : μ → Interceptor σ) (past : List (SiteAct σ μ)) (next : SiteAct σ μ) :
    after interceptors (past ++ [next]) = (after interceptors past).act next := by
  rw [after, List.foldl_append]
  rfl

/-- The directory led to this table at some time. -/
def Led (interceptors : μ → Interceptor σ) (past : List (SiteAct σ μ)) (moduleName : String)
    (className : Option String) (table : TableId) : Prop :=
  ∃ earlier, earlier <+: past ∧ (after interceptors earlier).sites.resolve moduleName className = .ok table

/-- The handle was made, by registering a handler or by looking one up. -/
inductive Given (interceptors : μ → Interceptor σ) : List (SiteAct σ μ) → MemberPath → CallSite → Prop
  | register (past : List (SiteAct σ μ)) (path : MemberPath) (handler : Handler σ) :
    Given interceptors (past ++ [.host (.register path.moduleName path.className path.member handler)]) path
      ((after interceptors past).sites.register path.moduleName path.className path.member handler).1
  | callSite (past : List (SiteAct σ μ)) (path : MemberPath) {site : CallSite}
    (found : (after interceptors past).sites.callSite path.moduleName path.className path.member = .ok site) :
    Given interceptors past path site

/-- The act is under other paths only. A write through a table is under the path of the part that led to the table,
whenever that was. A manager acts under the paths of its targets. -/
def Elsewhere (interceptors : μ → Interceptor σ) (past : List (SiteAct σ μ)) (path : MemberPath) :
    SiteAct σ μ → Prop
  | .host (.newTable _) | .host (.unregister _) => True
  | .host (.register moduleName className member _) => (⟨moduleName, className, member⟩ : MemberPath) ≠ path
  | .host (.set table member _) =>
    (∀ moduleName className, ¬ Led interceptors past moduleName className table) ∨
      ∃ moduleName className, Led interceptors past moduleName className table ∧
        (⟨moduleName, className, member⟩ : MemberPath) ≠ path
  | .instrument manager | .uninstrument manager _ =>
    ∀ targets, (interceptors manager).targets = .ok targets → ∀ target ∈ targets, target.path ≠ path

/-! ## What an act does to the directory -/

/-- What every act does to the directory: where it did not lead before, it leads to new tables only, and no handler
goes away. -/
structure Grows (before after : CallSites σ) : Prop where
  sound : after.Sound
  names : before.names.length ≤ after.names.length
  leads : ∀ moduleName className (table : Nat), after.resolve moduleName className = .ok table →
    before.resolve moduleName className = .ok table ∨ before.names.length ≤ table
  filled : ∀ table member, (before.get? table member).isSome = true → (after.get? table member).isSome = true

section Grows

variable {sites next : CallSites σ}

theorem Grows.refl (sound : sites.Sound) : Grows sites sites where
  sound := sound
  names := Nat.le_refl _
  leads _ _ _ := .inl
  filled _ _ := id

/-- An act that changes entries only. -/
theorem Grows.of_modules (sound : sites.Sound) (names : next.names = sites.names)
    (modules : next.modules = sites.modules)
    (filled : ∀ table member, (sites.get? table member).isSome = true → (next.get? table member).isSome = true) :
    Grows sites next where
  sound := sound.of_modules names modules
  names := Nat.le_of_eq (congrArg List.length names.symm)
  leads _ _ _ found := .inl (by rwa [CallSites.resolve_of_modules modules] at found)
  filled := filled

theorem Grows.host (sound : sites.Sound) (write : HostWrite σ) : Grows sites (write.apply sites) := by
  have filled : ∀ table member, (sites.get? table member).isSome = true →
      ((write.apply sites).get? table member).isSome = true := by
    intro table member there
    obtain kept | ⟨installed, present⟩ := write.get?_apply sites table member
    · rwa [kept]
    · rwa [installed]
  have sound' := write.apply_sound sound
  cases write with
  | newTable name =>
    refine ⟨sound', ?_, fun _ _ _ => .inl, filled⟩
    simp [HostWrite.apply, CallSites.newTable]
  | set table member handler => exact .of_modules sound rfl rfl filled
  | unregister moduleName =>
    refine ⟨sound', Nat.le_refl _, fun _ _ _ found => ?_, filled⟩
    exact .inl (CallSites.resolve_unregister.mp found).2
  | register moduleName className member handler =>
    refine ⟨sound', CallSites.names_ensureTable .., fun _ _ _ found => ?_, filled⟩
    exact (sites.resolve_ensureTable_cases moduleName className).2 found

theorem Grows.wraps {interceptor : Interceptor σ} {targets : List PatchTarget} {patches : KeyedList String (Patch σ)}
    (sound : sites.Sound) (wraps : CallSites.Wraps interceptor targets sites patches next) : Grows sites next := by
  refine .of_modules sound wraps.names wraps.modules fun table member there => ?_
  by_cases patched : (table, member) ∈ places patches
  · obtain ⟨entry, among, rfl, rfl⟩ := mem_places.mp patched
    obtain ⟨id, wrapped⟩ := wraps.wrapped entry among
    rw [wrapped]
    rfl
  · rwa [wraps.untouched table member patched]

theorem Grows.restoreAll (sound : sites.Sound) (patches : KeyedList String (Patch σ)) :
    Grows sites (sites.restoreAll patches) := by
  refine .of_modules sound (sites.restoreAll_names patches) (sites.restoreAll_modules patches) fun table member => ?_
  induction patches generalizing sites with
  | nil => exact id
  | cons entry rest ih =>
    intro there
    have still : ((sites.restore entry.2).get? table member).isSome = true := by
      rw [CallSites.restore, CallSites.get?_set]
      split
      · rfl
      · exact there
    exact ih (sound.set _ _ _) still

end Grows

/-! ## What a history leaves -/

/-- A manager works for its interceptor, and its patches are in tables to which the paths of its targets led. -/
structure Serves (interceptors : μ → Interceptor σ) (past : List (SiteAct σ μ)) (name : μ) (manager : Manager σ) :
    Prop where
  interceptor : manager.interceptor = interceptors name
  bare : manager.instrumented = false → manager.patches = []
  aimed : ∀ entry ∈ manager.patches, ∃ targets, (interceptors name).targets = .ok targets ∧
    ∃ target ∈ targets, target.member = entry.2.member ∧
      Led interceptors past target.moduleName target.className entry.2.owner

/-- A table to which the directory led at any time is the table of one part only. -/
structure Coherent (interceptors : μ → Interceptor σ) (past : List (SiteAct σ μ)) : Prop where
  sound : (after interceptors past).sites.Sound
  known : ∀ moduleName className (table : Nat), Led interceptors past moduleName className table →
    table < (after interceptors past).sites.names.length
  apart : ∀ moduleName className otherModule otherClass table, Led interceptors past moduleName className table →
    Led interceptors past otherModule otherClass table → moduleName = otherModule ∧ className = otherClass
  serves : ∀ name, Serves interceptors past name ((after interceptors past).managers name)

section Coherent

variable {interceptors : μ → Interceptor σ} {past : List (SiteAct σ μ)} {moduleName : String}
  {className : Option String} {table : TableId} {manager : μ}

theorem Led.now (found : (after interceptors past).sites.resolve moduleName className = .ok table) :
    Led interceptors past moduleName className table :=
  ⟨past, List.prefix_refl past, found⟩

theorem Led.later (led : Led interceptors past moduleName className table) (since : List (SiteAct σ μ)) :
    Led interceptors (past ++ since) moduleName className table := by
  obtain ⟨earlier, before, found⟩ := led
  exact ⟨earlier, before.trans (List.prefix_append past since), found⟩

theorem Led.cases {next : SiteAct σ μ} (led : Led interceptors (past ++ [next]) moduleName className table) :
    Led interceptors past moduleName className table ∨
      ((after interceptors past).act next).sites.resolve moduleName className = .ok table := by
  obtain ⟨earlier, before, found⟩ := led
  obtain rfl | before := List.prefix_concat_iff.mp before
  · rw [after_concat] at found
    exact .inr found
  · exact .inl ⟨earlier, before, found⟩

/-- What a manager that begins its work does. -/
theorem act_instrument (coherent : Coherent interceptors past) (manager : μ) :
    (after interceptors past).act (.instrument manager) = after interceptors past ∨
      ∃ targets patches, (interceptors manager).targets = .ok targets ∧
        ((after interceptors past).act (.instrument manager)).managers =
          Function.update (after interceptors past).managers manager
            { (after interceptors past).managers manager with patches := patches, instrumented := true } ∧
        CallSites.Wraps (interceptors manager) targets (after interceptors past).sites patches
          ((after interceptors past).act (.instrument manager)).sites := by
  simp only [act]
  cases done : ((after interceptors past).managers manager).instrument (after interceptors past).sites with
  | error reason => exact .inl rfl
  | ok done' =>
    cases active : ((after interceptors past).managers manager).instrumented with
    | true =>
      rw [Manager.instrument, if_pos active] at done
      cases done
      exact .inl (by simp)
    | false =>
      obtain ⟨targets, patches, named, value, wraps⟩ :=
        Manager.instrument_wraps coherent.sound active ((coherent.serves manager).bare active) done
      rw [(coherent.serves manager).interceptor] at named wraps
      exact .inr ⟨targets, patches, named, congrArg (Function.update _ manager) value, wraps⟩

/-- What a manager that ends its work does. -/
theorem act_uninstrument (past : List (SiteAct σ μ)) (manager : μ) (order : PutBackOrder σ) :
    (after interceptors past).act (.uninstrument manager order) = after interceptors past ∨
      ((after interceptors past).act (.uninstrument manager order)).managers =
          Function.update (after interceptors past).managers manager
            { (after interceptors past).managers manager with patches := [], instrumented := false } ∧
        ((after interceptors past).act (.uninstrument manager order)).sites =
          (after interceptors past).sites.restoreAll
            (order.arrange ((after interceptors past).managers manager).patches) := by
  simp only [act, Manager.uninstrumentIn]
  split
  · exact .inr ⟨rfl, rfl⟩
  · exact .inl (by simp)

theorem Coherent.grows (coherent : Coherent interceptors past) (next : SiteAct σ μ) :
    Grows (after interceptors past).sites ((after interceptors past).act next).sites := by
  cases next with
  | host write => exact .host coherent.sound write
  | instrument manager =>
    obtain same | ⟨targets, patches, -, -, wraps⟩ := act_instrument coherent manager
    · rw [same]
      exact .refl coherent.sound
    · exact .wraps coherent.sound wraps
  | uninstrument manager order =>
    obtain same | ⟨-, sites⟩ := act_uninstrument past manager order
    · rw [same]
      exact .refl coherent.sound
    · rw [sites]
      exact .restoreAll coherent.sound _

theorem Serves.later {name : μ} {manager : Manager σ} (serves : Serves interceptors past name manager)
    (since : List (SiteAct σ μ)) : Serves interceptors (past ++ since) name manager where
  interceptor := serves.interceptor
  bare := serves.bare
  aimed entry among := by
    obtain ⟨targets, named, target, there, member, led⟩ := serves.aimed entry among
    exact ⟨targets, named, target, there, member, led.later since⟩

theorem Coherent.serves_next (coherent : Coherent interceptors past) (next : SiteAct σ μ) (name : μ) :
    Serves interceptors past name (((after interceptors past).act next).managers name) := by
  have same := coherent.serves name
  cases next with
  | host write => exact same
  | instrument manager =>
    obtain nothing | ⟨targets, patches, named, managers, wraps⟩ := act_instrument coherent manager
    · rwa [nothing]
    · rw [managers, Function.update_apply]
      split
      · rename_i here
        subst here
        refine ⟨same.interceptor, nofun, fun entry among => ?_⟩
        obtain ⟨target, there, -, member, resolved⟩ := wraps.target entry among
        exact ⟨targets, named, target, there, member, .now resolved⟩
      · exact same
  | uninstrument manager order =>
    obtain nothing | ⟨managers, -⟩ := act_uninstrument past manager order
    · rwa [nothing]
    · rw [managers, Function.update_apply]
      split
      · rename_i here
        subst here
        exact ⟨same.interceptor, fun _ => rfl, fun _ none => nomatch none⟩
      · exact same

/-- Where the directory leads to a table that was there before, it led there before. -/
theorem Coherent.led_of_known (coherent : Coherent interceptors past) (next : SiteAct σ μ) {table : Nat}
    (known : table < (after interceptors past).sites.names.length)
    (found : ((after interceptors past).act next).sites.resolve moduleName className = .ok table) :
    Led interceptors past moduleName className table := by
  obtain before | new := (coherent.grows next).leads _ _ _ found
  · exact .now before
  · exact absurd known (Nat.not_lt.mpr new)

theorem not_led_start : ¬ Led interceptors [] moduleName className table := by
  rintro ⟨earlier, before, found⟩
  rw [List.prefix_nil.mp before] at found
  cases found

theorem coherent_start (interceptors : μ → Interceptor σ) : Coherent interceptors [] where
  sound := .empty
  known _ _ _ led := absurd led not_led_start
  apart _ _ _ _ _ led := absurd led not_led_start
  serves _ := ⟨rfl, fun _ => rfl, fun _ none => nomatch none⟩

theorem Coherent.next (coherent : Coherent interceptors past) (next : SiteAct σ μ) :
    Coherent interceptors (past ++ [next]) := by
  have grows := coherent.grows next
  refine ⟨?_, ?_, ?_, ?_⟩
  · rw [after_concat]
    exact grows.sound
  · intro moduleName className table led
    rw [after_concat]
    obtain before | now := led.cases
    · exact Nat.lt_of_lt_of_le (coherent.known _ _ _ before) grows.names
    · exact grows.sound.known _ _ _ now
  · intro moduleName className otherModule otherClass table led also
    obtain before | now := led.cases
    · obtain other | new := also.cases
      · exact coherent.apart _ _ _ _ _ before other
      · exact coherent.apart _ _ _ _ _ before (coherent.led_of_known next (coherent.known _ _ _ before) new)
    · obtain other | new := also.cases
      · exact coherent.apart _ _ _ _ _ (coherent.led_of_known next (coherent.known _ _ _ other) now) other
      · exact grows.sound.apart _ _ _ _ _ now new
  · intro name
    rw [after_concat]
    exact (coherent.serves_next next name).later _

theorem coherent_after (interceptors : μ → Interceptor σ) (past : List (SiteAct σ μ)) :
    Coherent interceptors past := by
  induction past using List.reverseRecOn with
  | nil => exact coherent_start interceptors
  | append_singleton past next ih => exact ih.next next

end Coherent

/-! ## What a handle finds -/

section Handle

variable {interceptors : μ → Interceptor σ} {past : List (SiteAct σ μ)} {path : MemberPath} {site : CallSite}
  {moduleName : String} {className : Option String} {table : TableId} {member : String}

/-- A handle that was just made is in the table of its part, and there is a handler. -/
theorem Given.found (given : Given interceptors past path site) :
    site.member = path.member ∧
      (after interceptors past).sites.resolve path.moduleName path.className = .ok site.table ∧
      ((after interceptors past).sites.get? site.table site.member).isSome = true := by
  cases given with
  | register past path handler =>
    rw [after_concat]
    refine ⟨rfl, CallSites.resolve_ensureTable _ _ _, ?_⟩
    exact Option.isSome_of_eq_some ((CallSites.get?_register _ _ _ _ _ _ _).trans (if_pos rfl))
  | callSite past path found => exact CallSites.callSite_eq_ok found

theorem filled_since (filled : ((after interceptors past).sites.get? table member).isSome = true)
    (since : List (SiteAct σ μ)) :
    ((after interceptors (past ++ since)).sites.get? table member).isSome = true := by
  induction since using List.reverseRecOn with
  | nil => rwa [List.append_nil]
  | append_singleton since next ih =>
    rw [← List.append_assoc, after_concat]
    exact ((coherent_after interceptors (past ++ since)).grows next).filled _ _ ih

/-- Where the directory leads, it leads until the module is forgotten. -/
theorem Coherent.resolve_act (coherent : Coherent interceptors past) {next : SiteAct σ μ}
    (remembers : next ≠ .host (.unregister moduleName))
    (found : (after interceptors past).sites.resolve moduleName className = .ok table) :
    ((after interceptors past).act next).sites.resolve moduleName className = .ok table := by
  cases next with
  | host write =>
    cases write with
    | newTable name => exact found
    | set table member handler => exact found
    | register other otherClass member handler => exact (CallSites.resolve_ensureTable_cases _ _ _).1 found
    | unregister other =>
      refine CallSites.resolve_unregister.mpr ⟨fun same => remembers ?_, found⟩
      rw [same]
  | instrument manager =>
    obtain nothing | ⟨targets, patches, -, -, wraps⟩ := act_instrument coherent manager
    · rwa [nothing]
    · rwa [CallSites.resolve_of_modules wraps.modules]
  | uninstrument manager order =>
    obtain nothing | ⟨-, sites⟩ := act_uninstrument past manager order
    · rwa [nothing]
    · rw [sites, CallSites.resolve_of_modules (CallSites.restoreAll_modules _ _)]
      exact found

theorem resolve_since (found : (after interceptors past).sites.resolve moduleName className = .ok table)
    {since : List (SiteAct σ μ)} (remembers : ∀ next ∈ since, next ≠ .host (.unregister moduleName)) :
    (after interceptors (past ++ since)).sites.resolve moduleName className = .ok table := by
  induction since using List.reverseRecOn with
  | nil => rwa [List.append_nil]
  | append_singleton since next ih =>
    rw [← List.append_assoc, after_concat]
    have before := ih fun act among => remembers act (List.mem_append_left _ among)
    exact (coherent_after interceptors (past ++ since)).resolve_act (remembers next (by simp)) before

/-- A table that belongs to the part of the path is not written by an act elsewhere, at the member of the path. -/
theorem Coherent.get?_act (coherent : Coherent interceptors past) {next : SiteAct σ μ}
    (elsewhere : Elsewhere interceptors past path next)
    (led : Led interceptors past path.moduleName path.className table) :
    ((after interceptors past).act next).sites.get? table path.member =
      (after interceptors past).sites.get? table path.member := by
  have same {moduleName : String} {className : Option String} (also : Led interceptors past moduleName className table) :
      (⟨moduleName, className, path.member⟩ : MemberPath) = path := by
    obtain ⟨rfl, rfl⟩ := coherent.apart _ _ _ _ _ also led
    rfl
  cases next with
  | host write =>
    cases write with
    | newTable name => rfl
    | unregister moduleName => rfl
    | register moduleName className member handler =>
      have leads := (after interceptors past).sites.resolve_ensureTable moduleName className
      refine (CallSites.get?_register _ _ _ _ _ _ _).trans (if_neg ?_)
      rintro ⟨rfl, rfl⟩
      have known := coherent.known _ _ _ led
      have also := coherent.led_of_known (.host (.register moduleName className path.member handler)) known leads
      exact elsewhere (same also)
    | set owner member handler =>
      show ((after interceptors past).sites.set owner member handler).get? table path.member = _
      rw [CallSites.get?_set, if_neg]
      rintro ⟨rfl, rfl⟩
      obtain free | ⟨moduleName, className, also, different⟩ := elsewhere
      · exact free _ _ led
      · exact different (same also)
  | instrument manager =>
    obtain nothing | ⟨targets, patches, named, -, wraps⟩ := act_instrument coherent manager
    · rw [nothing]
    · refine wraps.untouched table path.member fun patched => ?_
      obtain ⟨entry, among, rfl, atMember⟩ := mem_places.mp patched
      obtain ⟨target, there, -, member, resolved⟩ := wraps.target entry among
      refine elsewhere targets named target there ?_
      rw [PatchTarget.path, member, atMember]
      exact same (.now resolved)
  | uninstrument manager order =>
    obtain nothing | ⟨-, sites⟩ := act_uninstrument past manager order
    · rw [nothing]
    · rw [sites]
      refine CallSites.get?_restoreAll_of_not_mem _ fun patched => ?_
      obtain ⟨entry, among, rfl, atMember⟩ := mem_places.mp patched
      obtain ⟨targets, named, target, there, member, also⟩ :=
        (coherent.serves manager).aimed entry ((order.all _).mem_iff.mp among)
      refine elsewhere targets named target there ?_
      rw [PatchTarget.path, member, atMember]
      exact same also

/-- Whatever happens after a handle was made, there is a handler for it. As long as nobody has forgotten its module, it
is the one that is found by looking up the table of its part and in it its member. An act under other paths does not
change it. -/
theorem Given.handle_stays_coherent (given : Given interceptors past path site) (since : List (SiteAct σ μ)) :
    let shared := after interceptors (past ++ since)
    (∃ handler, shared.sites.handler site = .ok handler) ∧
      ((∀ next ∈ since, next ≠ .host (.unregister path.moduleName)) →
        ∃ table handler, shared.sites.resolve path.moduleName path.className = .ok table ∧
          shared.sites.get? table path.member = some handler ∧ shared.sites.handler site = .ok handler) ∧
      ∀ next, Elsewhere interceptors (past ++ since) path next →
        (shared.act next).sites.handler site = shared.sites.handler site := by
  obtain ⟨atMember, found, filled⟩ := given.found
  obtain ⟨handler, installed⟩ := Option.isSome_iff_exists.mp (filled_since filled since)
  have handles := CallSites.handler_of_get? installed
  refine ⟨⟨handler, handles⟩, fun remembers => ?_, fun next elsewhere => ?_⟩
  · rw [atMember] at installed
    exact ⟨site.table, handler, resolve_since found remembers, installed, handles⟩
  · have led := (Led.now found).later since
    have same := (coherent_after interceptors (past ++ since)).get?_act elsewhere led
    rw [← atMember, installed] at same
    rw [handles, CallSites.handler_of_get? same]

end Handle

/-- A manager patches a class of a module, and the module is forgotten. -/
def clientForgotten : List (SiteAct Unit Unit) :=
  [.host (.register "api" (some "Client") "create" (Managed.echo 1)), .instrument (), .host (.unregister "api")]

/-- A module is registered whose name is that of the class with its module, and the manager takes its wrapper back. -/
def namesakeRegistered : List (SiteAct Unit Unit) :=
  [.host (.register "api.Client" none "create" (Managed.echo 3)), .uninstrument () ⟨id, fun _ => .refl _⟩]

/-- A handle on the class as it was registered again. What the manager puts back goes into the forgotten table, and the
module of the same name has a table of its own. -/
theorem handle_stays_coherent_beside_its_namesake :
    let past := clientForgotten ++ [.host (.register "api" (some "Client") "create" (Managed.echo 2))]
    let shared := after (fun _ => Managed.echoInterceptor) (past ++ namesakeRegistered)
    Given (fun _ => Managed.echoInterceptor) past ⟨"api", some "Client", "create"⟩ ⟨3, "create"⟩ ∧
      (shared.managers ()).patches = [] ∧ shared.sites.get? 1 "create" = some (Managed.echo 1) ∧
      shared.sites.resolve "api.Client" none = .ok 4 ∧ shared.sites.handler ⟨3, "create"⟩ = .ok (Managed.echo 2) ∧
      ∃ table handler, shared.sites.resolve "api" (some "Client") = .ok table ∧
        shared.sites.get? table "create" = some handler ∧ shared.sites.handler ⟨3, "create"⟩ = .ok handler := by
  have given : Given (fun _ => Managed.echoInterceptor) _ ⟨"api", some "Client", "create"⟩ ⟨3, "create"⟩ :=
    .register clientForgotten ⟨"api", some "Client", "create"⟩ (Managed.echo 2)
  have remembers : ∀ next ∈ namesakeRegistered, next ≠ .host (.unregister "api") := by
    intro next among
    obtain rfl | rfl := List.mem_pair.mp among <;> simp
  exact ⟨given, rfl, rfl, rfl, rfl, (given.handle_stays_coherent namesakeRegistered).2.1 remembers⟩

end SharedSites

end LlmTelemetry
