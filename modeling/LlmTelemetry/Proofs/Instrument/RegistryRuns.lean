import LlmTelemetry.Instrument.Registry
import LlmTelemetry.Proofs.Instrument.ManagerRuns
/-!
# Providers that come and go

Each manager saves what it finds at a place, which may be the wrapper of another manager. As long as a manager is
taken back only while its wrappers are the outermost ones, the wrappers at a place stand on each other like a
stack, with the handler of the host at the ground, and this handler is there again when no provider is active.
That is always so when no two providers share a target. When they do, and are taken back in another order, a
wrapper may stay; the handler of the host is still inside of it.
-/

namespace LlmTelemetry

variable {σ : Type}

/-! ## The patches at a place -/

/-- The patches that are at a place. -/
def atPlace (place : TableId × String) (patches : KeyedList String (Patch σ)) : List (Patch σ) :=
  (patches.map Prod.snd).filter fun patch => patch.place = place

/-- What the active managers have put at a place. -/
def Registry.patchesAt (active : KeyedList String (Manager σ)) (place : TableId × String) : List (Patch σ) :=
  active.flatMap fun entry => atPlace place entry.2.patches

theorem Patch.eq_of_place {patch other : Patch σ} (place : patch.place = other.place)
    (replaced : patch.replaced = other.replaced) : patch = other := by
  obtain ⟨owner, member, handler⟩ := patch
  obtain ⟨rfl, rfl⟩ : owner = other.owner ∧ member = other.member := Prod.mk.inj place
  cases replaced
  rfl

section AtPlace

variable {patches : KeyedList String (Patch σ)} {place : TableId × String} {entry : String × Patch σ}

theorem mem_atPlace {patch : Patch σ} :
    patch ∈ atPlace place patches ↔ (∃ entry ∈ patches, entry.2 = patch) ∧ patch.place = place := by
  rw [atPlace, List.mem_filter, List.mem_map, decide_eq_true_iff]

theorem atPlace_of_not_mem (elsewhere : place ∉ places patches) : atPlace place patches = [] := by
  apply List.eq_nil_iff_forall_not_mem.mpr
  intro patch among
  obtain ⟨⟨entry, present, rfl⟩, here⟩ := mem_atPlace.mp among
  exact elsewhere (here ▸ place_mem_places present)

theorem atPlace_of_mem (distinct : (places patches).Nodup) (among : entry ∈ patches) :
    atPlace entry.2.place patches = [entry.2] := by
  obtain ⟨before, after, rfl⟩ := List.append_of_mem among
  rw [places, List.map_append, List.map_cons, List.nodup_middle, List.nodup_cons, List.mem_append,
    not_or] at distinct
  have first : atPlace entry.2.place before = [] := atPlace_of_not_mem distinct.1.1
  have last : atPlace entry.2.place after = [] := atPlace_of_not_mem distinct.1.2
  unfold atPlace at first last ⊢
  rw [List.map_append, List.map_cons, List.filter_append, first,
    List.filter_cons_of_pos (by simp), last, List.nil_append]

variable {active others : KeyedList String (Manager σ)} {name : String} {manager : Manager σ}

theorem Registry.patchesAt_of_mem (split : active.Perm ((name, manager) :: others))
    (distinct : (places manager.patches).Nodup) (among : entry ∈ manager.patches) :
    (patchesAt active entry.2.place).Perm (entry.2 :: patchesAt others entry.2.place) := by
  have all := split.flatMap_right fun active => atPlace entry.2.place active.2.patches
  rw [List.flatMap_cons, atPlace_of_mem distinct among] at all
  exact all

theorem Registry.patchesAt_of_not_mem (split : active.Perm ((name, manager) :: others))
    (elsewhere : place ∉ places manager.patches) :
    (patchesAt active place).Perm (patchesAt others place) := by
  have all := split.flatMap_right fun active => atPlace place active.2.patches
  rw [List.flatMap_cons, atPlace_of_not_mem elsewhere] at all
  exact all

end AtPlace

/-! ## Wrappers on each other -/

/-- The wrappers of the patches stand on each other, between the handler at the ground and the one on top. -/
inductive Stacked (ground : Option (Handler σ)) : List (Patch σ) → Option (Handler σ) → Prop
  | ground : Stacked ground [] ground
  | wrap {patch : Patch σ} {below : List (Patch σ)} (id : Nat) (interceptor : Interceptor σ)
    (stacked : Stacked ground below (some patch.replaced)) :
    Stacked ground (patch :: below) (some (.wrapper id interceptor patch.replaced))

/-- Whether a call comes to the wrappers of a manager first. -/
def Manager.Outermost (manager : Manager σ) (sites : CallSites σ) : Prop :=
  ∀ entry ∈ manager.patches, ∃ id interceptor,
    sites.get? entry.2.owner entry.2.member = some (.wrapper id interceptor entry.2.replaced)

/-- The patches of a stack are those at a place, and the wrapper on top is around what a patch there replaced. Then
this patch is the top one. -/
theorem Stacked.top {ground : Option (Handler σ)} {chain others : List (Patch σ)} {patch : Patch σ} {id : Nat}
    {interceptor : Interceptor σ}
    (stacked : Stacked ground chain (some (.wrapper id interceptor patch.replaced)))
    (here : ∀ other ∈ chain, other.place = patch.place) (all : chain.Perm (patch :: others)) :
    ∃ below, below.Perm others ∧ Stacked ground below (some patch.replaced) := by
  generalize onTop : some (Handler.wrapper id interceptor patch.replaced) = handler at stacked
  cases stacked with
  | ground => cases all.symm.eq_nil
  | @wrap top below _ _ stacked =>
    have replaced : patch.replaced = top.replaced := (Handler.wrapper.inj (Option.some.inj onTop)).2.2
    have same : top = patch := Patch.eq_of_place (here top List.mem_cons_self) replaced.symm
    subst same
    exact ⟨below, all.cons_inv, stacked⟩

/-! ## Calls of the registry -/

/-- A call that names providers, or none of them for all. -/
inductive RegistryCall where
  | activate (names : Option (List String))
  | deactivate (names : Option (List String))

/-- A registry, with the directory that its managers work on. -/
structure Board (σ : Type) where
  registry : Registry σ
  sites : CallSites σ

/-- The registry and the directory after a call. -/
def Board.after (board : Board σ) : RegistryCall → Board σ
  | .activate names =>
    let done := board.registry.activate names board.sites
    ⟨done.registry, done.sites⟩
  | .deactivate names =>
    let done := board.registry.deactivate names board.sites
    ⟨done.value, done.sites⟩

namespace Registry

theorem activateOne_cases {state : Activation σ} (sound : state.sites.Sound) (name : String) :
    (activateOne state name).registry = state.registry ∧ (activateOne state name).sites = state.sites ∨
      ∃ factory interceptor targets patches, name ∉ KeyedList.keys state.registry.active ∧
        KeyedList.find? name state.registry.factories = some factory ∧
        factory state.sites = .ok interceptor ∧ interceptor.targets = .ok targets ∧
        (activateOne state name).registry = { state.registry with
          active := KeyedList.insertSorted name ⟨interceptor, patches, true⟩ state.registry.active } ∧
        CallSites.Wraps interceptor targets state.sites patches (activateOne state name).sites := by
  unfold activateOne
  split
  · exact .inl ⟨rfl, rfl⟩
  · rename_i inactive
    have new : name ∉ KeyedList.keys state.registry.active := fun known =>
      inactive (KeyedList.contains_eq_true.mpr known)
    cases known : KeyedList.find? name state.registry.factories with
    | none => exact .inl ⟨rfl, rfl⟩
    | some factory =>
      dsimp only
      cases made : factory state.sites with
      | error fault =>
        refine .inl ?_
        rw [build, made]
        cases fault <;> exact ⟨rfl, rfl⟩
      | ok interceptor =>
        cases instrumented : (Manager.new interceptor).instrument state.sites with
        | error reason =>
          refine .inl ?_
          simp only [build, made, instrumented, Panic.toEnding, and_self]
        | ok done =>
          obtain ⟨targets, patches, named, value, wraps⟩ :=
            Manager.instrument_wraps sound rfl rfl instrumented
          simp only [build, made, instrumented, Panic.toEnding, value]
          exact .inr ⟨factory, interceptor, targets, patches, new, rfl, made, named, rfl, wraps⟩

theorem deactivateOne_cases (state : Patched σ (Registry σ)) (name : String) :
    deactivateOne state name = state ∨
      ∃ manager, KeyedList.find? name state.value.active = some manager ∧
        (deactivateOne state name).value = { state.value with
          active := KeyedList.erase name state.value.active } ∧
        (deactivateOne state name).sites = (manager.uninstrument state.sites).sites := by
  unfold deactivateOne
  cases KeyedList.find? name state.value.active with
  | none => exact .inl rfl
  | some manager => exact .inr ⟨manager, rfl, rfl, rfl⟩

end Registry

/-! ## What always holds -/

/-- An active manager, in a run that began with the board `first`. -/
structure Manager.Installed (first : Board σ) (name : String) (manager : Manager σ) : Prop where
  instrumented : manager.instrumented = true
  distinct : (places manager.patches).Nodup
  innermost : ∀ entry ∈ manager.patches,
    (first.sites.get? entry.2.owner entry.2.member).map Handler.innermost = some entry.2.replaced.innermost
  source : ∃ factory sites interceptor targets,
    KeyedList.find? name first.registry.factories = some factory ∧ factory sites = .ok interceptor ∧
      interceptor.targets = .ok targets ∧
      ∀ entry ∈ manager.patches, ∃ target ∈ targets, target.member = entry.2.member ∧
        first.sites.resolve target.moduleName target.className = .ok entry.2.owner

/-- A board that the calls of the registry have led to. -/
structure Rooted (first board : Board σ) : Prop where
  sound : board.sites.Sound
  factories : board.registry.factories = first.registry.factories
  modules : board.sites.modules = first.sites.modules
  names : (KeyedList.keys board.registry.active).Nodup
  installed : ∀ entry ∈ board.registry.active, entry.2.Installed first entry.1
  innermost : ∀ table member, (board.sites.get? table member).map Handler.innermost =
    (first.sites.get? table member).map Handler.innermost

namespace Rooted

variable {first : Board σ}

theorem activateOne {state : Registry.Activation σ} (rooted : Rooted first ⟨state.registry, state.sites⟩)
    (name : String) : Rooted first
      ⟨(Registry.activateOne state name).registry, (Registry.activateOne state name).sites⟩ := by
  obtain ⟨registry, sites⟩ | ⟨factory, interceptor, targets, patches, new, known, made, named, registry, wraps⟩ :=
    Registry.activateOne_cases rooted.sound name
  · rw [registry, sites]
    exact rooted
  · rw [registry]
    have grown := KeyedList.insertSorted_perm (⟨interceptor, patches, true⟩ : Manager σ) new
    have before : ∀ entry ∈ patches, (first.sites.get? entry.2.owner entry.2.member).map Handler.innermost =
        some entry.2.replaced.innermost := by
      intro entry among
      have found := wraps.replaced entry among
      rw [← rooted.innermost]
      exact congrArg (Option.map Handler.innermost) found
    refine ⟨wraps.sound rooted.sound, rooted.factories, wraps.modules.trans rooted.modules, ?_, ?_, ?_⟩
    · have names := (grown.map Prod.fst).nodup_iff
      exact names.mpr (List.nodup_cons.mpr ⟨new, rooted.names⟩)
    · intro entry among
      obtain rfl | among := List.mem_cons.mp (grown.mem_iff.mp among)
      · refine ⟨rfl, wraps.distinct, before, factory, state.sites, interceptor, targets, ?_, made, named, ?_⟩
        · rw [← rooted.factories]
          exact known
        · intro entry among
          obtain ⟨target, listed, -, member, reached⟩ := wraps.target entry among
          rw [CallSites.resolve_of_modules rooted.modules] at reached
          exact ⟨target, listed, member, reached⟩
      · exact rooted.installed entry among
    · intro table member
      by_cases patched : (table, member) ∈ places patches
      · obtain ⟨entry, among, rfl, rfl⟩ := mem_places.mp patched
        obtain ⟨id, wrapped⟩ := wraps.wrapped entry among
        rw [before entry among, wrapped]
        rfl
      · rw [wraps.untouched table member patched]
        exact rooted.innermost table member

/-- What taking an active manager back does to the directory. -/
theorem uninstrument {board : Board σ} (rooted : Rooted first board) {name : String} {manager : Manager σ}
    (found : KeyedList.find? name board.registry.active = some manager) :
    (manager.uninstrument board.sites).sites = board.sites.restoreAll manager.patches := by
  have active := (rooted.installed _ (KeyedList.mem_of_find? found)).instrumented
  rw [Manager.uninstrument, if_pos active]
  rfl

theorem deactivateOne {state : Patched σ (Registry σ)} (rooted : Rooted first ⟨state.value, state.sites⟩)
    (name : String) : Rooted first
      ⟨(Registry.deactivateOne state name).value, (Registry.deactivateOne state name).sites⟩ := by
  obtain same | ⟨manager, found, registry, sites⟩ := Registry.deactivateOne_cases state name
  · rw [same]
    exact rooted
  · rw [registry, sites, rooted.uninstrument found]
    have installed := rooted.installed _ (KeyedList.mem_of_find? found)
    have shrunk := KeyedList.perm_cons_erase rooted.names found
    refine ⟨?_, rooted.factories, ?_, ?_, ?_, ?_⟩
    · exact rooted.sound.of_modules (state.sites.restoreAll_names _) (state.sites.restoreAll_modules _)
    · exact (state.sites.restoreAll_modules _).trans rooted.modules
    · have names := (shrunk.map Prod.fst).nodup_iff.mp rooted.names
      exact (List.nodup_cons.mp names).2
    · intro entry among
      exact rooted.installed entry (shrunk.mem_iff.mpr (List.mem_cons_of_mem _ among))
    · intro table member
      by_cases patched : (table, member) ∈ places manager.patches
      · obtain ⟨entry, among, rfl, rfl⟩ := mem_places.mp patched
        rw [CallSites.get?_restoreAll_of_mem _ installed.distinct among, installed.innermost entry among]
        rfl
      · rw [CallSites.get?_restoreAll_of_not_mem _ patched]
        exact rooted.innermost table member

theorem after {board : Board σ} (rooted : Rooted first board) (call : RegistryCall) :
    Rooted first (board.after call) := by
  cases call with
  | activate names =>
    let motive : Registry.Activation σ → Prop := fun state => Rooted first ⟨state.registry, state.sites⟩
    have start : motive ⟨board.registry, board.sites, [], []⟩ := rooted
    exact List.foldlRecOn _ _ start fun state rooted name _ => activateOne rooted name
  | deactivate names =>
    let motive : Patched σ (Registry σ) → Prop := fun state => Rooted first ⟨state.value, state.sites⟩
    have start : motive ⟨board.registry, board.sites, []⟩ := rooted
    exact List.foldlRecOn _ _ start fun state rooted name _ => deactivateOne rooted name

end Rooted

/-! ## Taking back in turn -/

/-- At every place the wrappers of the active managers stand on each other, on the handler of the first board. -/
def Layered (first board : Board σ) : Prop :=
  ∀ table member, ∃ chain,
    chain.Perm (Registry.patchesAt board.registry.active (table, member)) ∧
      Stacked (first.sites.get? table member) chain (board.sites.get? table member)

/-- Whether each of the named managers is outermost when it is taken back. -/
def Registry.InTurn (state : Patched σ (Registry σ)) : (names : List String) → Prop
  | [] => True
  | name :: rest =>
    (∀ manager, KeyedList.find? name state.value.active = some manager → manager.Outermost state.sites) ∧
      InTurn (deactivateOne state name) rest

def Board.InTurn (board : Board σ) : RegistryCall → Prop
  | .activate _ => True
  | .deactivate names =>
    Registry.InTurn ⟨board.registry, board.sites, []⟩ (names.getD board.registry.activeNames)

/-- Whether all managers are taken back in turn. -/
def Board.Nested (board : Board σ) : (calls : List RegistryCall) → Prop
  | [] => True
  | call :: rest => board.InTurn call ∧ (board.after call).Nested rest

/-- Whether no two providers have a target in common. -/
def Registry.Apart (registry : Registry σ) : Prop :=
  ∀ name other factory otherFactory sites otherSites interceptor otherInterceptor targets otherTargets,
    KeyedList.find? name registry.factories = some factory →
    KeyedList.find? other registry.factories = some otherFactory → name ≠ other →
    factory sites = .ok interceptor → otherFactory otherSites = .ok otherInterceptor →
    interceptor.targets = .ok targets → otherInterceptor.targets = .ok otherTargets →
    ∀ target ∈ targets, ∀ otherTarget ∈ otherTargets, target.moduleName = otherTarget.moduleName →
      target.className = otherTarget.className → target.member ≠ otherTarget.member

/-- The managers of two providers without a common target have no place in common. -/
theorem Manager.Installed.place_ne {first : Board σ} {name other : String} {manager rival : Manager σ}
    (installed : manager.Installed first name) (rivalInstalled : rival.Installed first other)
    (sound : first.sites.Sound) (apart : first.registry.Apart) (different : name ≠ other)
    {entry otherEntry : String × Patch σ} (among : entry ∈ manager.patches)
    (present : otherEntry ∈ rival.patches) : entry.2.place ≠ otherEntry.2.place := by
  intro same
  obtain ⟨sameOwner, sameMember⟩ :
      entry.2.owner = otherEntry.2.owner ∧ entry.2.member = otherEntry.2.member := Prod.mk.inj same
  obtain ⟨factory, sites, interceptor, targets, known, made, named, source⟩ := installed.source
  obtain ⟨otherFactory, otherSites, otherInterceptor, otherTargets, otherKnown, otherMade, otherNamed,
    otherSource⟩ := rivalInstalled.source
  obtain ⟨target, listed, member, reached⟩ := source entry among
  obtain ⟨otherTarget, otherListed, otherMember, otherReached⟩ := otherSource otherEntry present
  -- One table belongs to one part only, so the two targets are the same part.
  rw [sameOwner] at reached
  obtain ⟨sameModule, sameClass⟩ := sound.apart _ _ _ _ _ reached otherReached
  have distinct := apart _ _ _ _ _ _ _ _ _ _ known otherKnown different made otherMade named otherNamed
    target listed otherTarget otherListed sameModule sameClass
  exact distinct (member.trans (sameMember.trans otherMember.symm))

namespace Layered

variable {first board : Board σ}

theorem activateOne {state : Registry.Activation σ} (rooted : Rooted first ⟨state.registry, state.sites⟩)
    (layered : Layered first ⟨state.registry, state.sites⟩) (name : String) : Layered first
      ⟨(Registry.activateOne state name).registry, (Registry.activateOne state name).sites⟩ := by
  obtain ⟨registry, sites⟩ | ⟨factory, interceptor, targets, patches, new, -, -, -, registry, wraps⟩ :=
    Registry.activateOne_cases rooted.sound name
  · rw [registry, sites]
    exact layered
  · rw [registry]
    have grown := KeyedList.insertSorted_perm (⟨interceptor, patches, true⟩ : Manager σ) new
    intro table member
    obtain ⟨chain, all, stacked⟩ := layered table member
    by_cases patched : (table, member) ∈ places patches
    · obtain ⟨entry, among, rfl, rfl⟩ := mem_places.mp patched
      obtain ⟨id, wrapped⟩ := wraps.wrapped entry among
      have more := Registry.patchesAt_of_mem grown wraps.distinct among
      refine ⟨entry.2 :: chain, (all.cons _).trans more.symm, ?_⟩
      -- The new wrapper is around what was on top, and this is what the new patch has saved.
      have below := wraps.replaced entry among
      dsimp only at stacked
      rw [below] at stacked
      show Stacked _ _ ((Registry.activateOne state name).sites.get? _ _)
      rw [wrapped]
      exact stacked.wrap id interceptor
    · have more := Registry.patchesAt_of_not_mem grown patched
      refine ⟨chain, all.trans more.symm, ?_⟩
      show Stacked _ _ ((Registry.activateOne state name).sites.get? _ _)
      rw [wraps.untouched table member patched]
      exact stacked

theorem deactivateOne {state : Patched σ (Registry σ)} (rooted : Rooted first ⟨state.value, state.sites⟩)
    (layered : Layered first ⟨state.value, state.sites⟩) {name : String}
    (outermost : ∀ manager, KeyedList.find? name state.value.active = some manager →
      manager.Outermost state.sites) : Layered first
      ⟨(Registry.deactivateOne state name).value, (Registry.deactivateOne state name).sites⟩ := by
  obtain same | ⟨manager, found, registry, sites⟩ := Registry.deactivateOne_cases state name
  · rw [same]
    exact layered
  · rw [registry, sites, rooted.uninstrument found]
    have installed := rooted.installed _ (KeyedList.mem_of_find? found)
    have shrunk := KeyedList.perm_cons_erase rooted.names found
    intro table member
    obtain ⟨chain, all, stacked⟩ := layered table member
    show ∃ chain, _ ∧ Stacked _ chain ((state.sites.restoreAll manager.patches).get? table member)
    by_cases patched : (table, member) ∈ places manager.patches
    · obtain ⟨entry, among, rfl, rfl⟩ := mem_places.mp patched
      have fewer := Registry.patchesAt_of_mem shrunk installed.distinct among
      obtain ⟨id, interceptor, onTop⟩ := outermost manager found entry among
      dsimp only at stacked
      rw [onTop] at stacked
      have samePlace : ∀ other ∈ chain, other.place = entry.2.place := by
        intro other member
        obtain ⟨_, -, member⟩ := List.mem_flatMap.mp (all.mem_iff.mp member)
        exact (mem_atPlace.mp member).2
      -- What is on top is around what the manager has saved, so its patch is the first of the stack.
      obtain ⟨below, rest, stacked⟩ := stacked.top samePlace (all.trans fewer)
      rw [CallSites.get?_restoreAll_of_mem _ installed.distinct among]
      exact ⟨below, rest, stacked⟩
    · have fewer := Registry.patchesAt_of_not_mem shrunk patched
      rw [CallSites.get?_restoreAll_of_not_mem _ patched]
      exact ⟨chain, all.trans fewer, stacked⟩

/-- A manager whose provider has no target in common with another one is outermost. -/
theorem outermost (rooted : Rooted first board) (layered : Layered first board) (sound : first.sites.Sound)
    (apart : first.registry.Apart) {name : String} {manager : Manager σ}
    (found : KeyedList.find? name board.registry.active = some manager) : manager.Outermost board.sites := by
  intro entry among
  have installed := rooted.installed _ (KeyedList.mem_of_find? found)
  have split := KeyedList.perm_cons_erase rooted.names found
  have names := (split.map Prod.fst).nodup_iff.mp rooted.names
  obtain ⟨chain, all, stacked⟩ := layered entry.2.owner entry.2.member
  have alone : Registry.patchesAt (KeyedList.erase name board.registry.active) entry.2.place = [] := by
    apply List.eq_nil_iff_forall_not_mem.mpr
    intro patch taken
    obtain ⟨⟨other, rival⟩, active, taken⟩ := List.mem_flatMap.mp taken
    obtain ⟨⟨otherEntry, present, rfl⟩, here⟩ := mem_atPlace.mp taken
    have different : name ≠ other := by
      intro same
      exact (List.nodup_cons.mp names).1 (List.mem_map.mpr ⟨_, active, same.symm⟩)
    have other := rooted.installed _ (split.mem_iff.mpr (List.mem_cons_of_mem _ active))
    exact installed.place_ne other sound apart different among present here.symm
  have one := Registry.patchesAt_of_mem split installed.distinct among
  rw [alone] at one
  -- The stack at this place is the one patch of the manager.
  rw [List.perm_singleton.mp (all.trans one)] at stacked
  generalize board.sites.get? entry.2.owner entry.2.member = handler at stacked ⊢
  cases stacked with
  | wrap id interceptor _ => exact ⟨id, interceptor, rfl⟩

theorem activateAll {names : List String} {state : Registry.Activation σ}
    (rooted : Rooted first ⟨state.registry, state.sites⟩)
    (layered : Layered first ⟨state.registry, state.sites⟩) :
    Layered first ⟨(names.foldl Registry.activateOne state).registry,
      (names.foldl Registry.activateOne state).sites⟩ := by
  induction names generalizing state with
  | nil => exact layered
  | cons name rest ih => exact ih (rooted.activateOne name) (activateOne rooted layered name)

theorem deactivateAll {names : List String} {state : Patched σ (Registry σ)}
    (rooted : Rooted first ⟨state.value, state.sites⟩) (layered : Layered first ⟨state.value, state.sites⟩)
    (inTurn : Registry.InTurn state names) :
    Layered first ⟨(names.foldl Registry.deactivateOne state).value,
      (names.foldl Registry.deactivateOne state).sites⟩ := by
  induction names generalizing state with
  | nil => exact layered
  | cons name rest ih =>
    have next := deactivateOne rooted layered inTurn.1
    exact ih (rooted.deactivateOne name) next inTurn.2

theorem after (rooted : Rooted first board) (layered : Layered first board) {call : RegistryCall}
    (inTurn : board.InTurn call) : Layered first (board.after call) := by
  cases call with
  | activate names =>
    let state : Registry.Activation σ := ⟨board.registry, board.sites, [], []⟩
    have begun : Rooted first ⟨state.registry, state.sites⟩ := rooted
    exact activateAll begun layered
  | deactivate names =>
    let state : Patched σ (Registry σ) := ⟨board.registry, board.sites, []⟩
    have begun : Rooted first ⟨state.value, state.sites⟩ := rooted
    exact deactivateAll begun layered inTurn

theorem run {calls : List RegistryCall} (rooted : Rooted first board) (layered : Layered first board)
    (nested : board.Nested calls) : Layered first (calls.foldl Board.after board) := by
  induction calls generalizing board with
  | nil => exact layered
  | cons call rest ih => exact ih (rooted.after call) (layered.after rooted nested.1) nested.2

end Layered

/-! ## Providers without a common target -/

section Apart

variable {first board : Board σ}

theorem Registry.Apart.inTurn {names : List String} {state : Patched σ (Registry σ)}
    (apart : first.registry.Apart) (sound : first.sites.Sound)
    (rooted : Rooted first ⟨state.value, state.sites⟩) (layered : Layered first ⟨state.value, state.sites⟩) :
    Registry.InTurn state names := by
  induction names generalizing state with
  | nil => trivial
  | cons name rest ih =>
    have here : ∀ manager, KeyedList.find? name state.value.active = some manager →
        manager.Outermost state.sites := by
      intro manager found
      exact layered.outermost rooted sound apart found
    have next := Layered.deactivateOne rooted layered here
    exact ⟨here, ih (rooted.deactivateOne name) next⟩

theorem Registry.Apart.nested {calls : List RegistryCall} (apart : first.registry.Apart)
    (sound : first.sites.Sound) (rooted : Rooted first board) (layered : Layered first board) :
    board.Nested calls := by
  induction calls generalizing board with
  | nil => trivial
  | cons call rest ih =>
    have inTurn : board.InTurn call := by
      cases call with
      | activate names => trivial
      | deactivate names =>
        let state : Patched σ (Registry σ) := ⟨board.registry, board.sites, []⟩
        have begun : Rooted first ⟨state.value, state.sites⟩ := rooted
        exact apart.inTurn sound begun layered
    exact ⟨inTurn, ih (rooted.after call) (layered.after rooted inTurn)⟩

end Apart

theorem Provider.targets_of_factory {provider : Provider} {moduleName : String} {sites : CallSites σ}
    {interceptor : Interceptor σ} (made : provider.factory moduleName sites = .ok interceptor) :
    interceptor.targets = .ok provider.targets := by
  unfold factory at made
  split at made
  · cases made
    rfl
  · cases made

/-- The two providers that are known from the start have no target in common. -/
theorem Registry.builtin_apart : (builtin : Registry σ).Apart := by
  have apart : ∀ target ∈ Provider.openai.targets, ∀ other ∈ Provider.anthropic.targets,
      target.moduleName ≠ other.moduleName := by decide
  have listed : ∀ name (factory : Factory σ), KeyedList.find? name builtin.factories = some factory →
      name = Provider.Anthropic.providerName ∧
          factory = Provider.anthropic.factory Provider.Anthropic.moduleName ∨
        name = Provider.OpenAI.providerName ∧ factory = Provider.openai.factory Provider.OpenAI.moduleName := by
    intro name factory known
    have member := KeyedList.mem_of_find? known
    have two : (builtin : Registry σ).factories =
      [(Provider.Anthropic.providerName, Provider.anthropic.factory Provider.Anthropic.moduleName),
        (Provider.OpenAI.providerName, Provider.openai.factory Provider.OpenAI.moduleName)] := rfl
    rw [two] at member
    simpa using member
  intro name other factory otherFactory sites otherSites interceptor otherInterceptor targets otherTargets
    known otherKnown different made otherMade named otherNamed target among otherTarget otherAmong sameModule
  obtain ⟨rfl, rfl⟩ | ⟨rfl, rfl⟩ := listed name factory known <;>
    obtain ⟨rfl, rfl⟩ | ⟨rfl, rfl⟩ := listed other otherFactory otherKnown
  · contradiction
  · rw [Provider.targets_of_factory made] at named
    rw [Provider.targets_of_factory otherMade] at otherNamed
    cases named
    cases otherNamed
    exact absurd sameModule.symm (apart _ otherAmong _ among)
  · rw [Provider.targets_of_factory made] at named
    rw [Provider.targets_of_factory otherMade] at otherNamed
    cases named
    cases otherNamed
    exact absurd sameModule (apart _ among _ otherAmong)
  · contradiction

/-! ## Runs -/

namespace Board

/-- After any calls for a directory that the host has built, every place has the handler of the host inside of
its wrappers. When no two providers have a target in common, or when every manager is taken back in turn, every
place has the very handler that it had, as soon as no provider is active. -/
theorem registry_restores (factories : KeyedList String (Factory σ)) (writes : List (HostWrite σ))
    (calls : List RegistryCall) :
    let first : Board σ := ⟨{ factories := factories }, writes.foldl HostWrite.apply {}⟩
    let last := calls.foldl after first
    (∀ table member, (last.sites.get? table member).map Handler.innermost =
      (first.sites.get? table member).map Handler.innermost) ∧
      (first.registry.Apart ∨ first.Nested calls → last.registry.active = [] →
        ∀ table member, last.sites.get? table member = first.sites.get? table member) := by
  intro first last
  have sound : first.sites.Sound :=
    List.foldlRecOn writes _ .empty fun _ sound write _ => write.apply_sound sound
  have start : Rooted first first := ⟨sound, rfl, rfl, List.nodup_nil, fun _ none => (nomatch none), fun _ _ => rfl⟩
  have empty : Layered first first := fun _ _ => ⟨[], .nil, .ground⟩
  refine ⟨?_, ?_⟩
  · have rooted : Rooted first last :=
      List.foldlRecOn calls _ start fun _ rooted call _ => rooted.after call
    exact rooted.innermost
  · intro way idle
    have nested : first.Nested calls := by
      obtain apart | nested := way
      · exact apart.nested sound start empty
      · exact nested
    have layered : Layered first last := empty.run start nested
    intro table member
    obtain ⟨chain, all, stacked⟩ := layered table member
    rw [idle] at all
    rw [all.eq_nil] at stacked
    generalize last.sites.get? table member = handler at stacked ⊢
    cases stacked with
    | ground => rfl

/-- An interceptor with one target. -/
def watcher (provider : String) : Interceptor Unit :=
  { Managed.echoInterceptor with
    provider := provider
    targets := .ok [⟨"api", some "Client", "create", false⟩] }

/-- Two providers with the same target. -/
def watchers : KeyedList String (Factory Unit) :=
  [("a", fun _ => .ok (watcher "a")), ("b", fun _ => .ok (watcher "b"))]

/-- When the two are taken back in the order in which they came, the wrapper of the first one stays. -/
theorem registry_restores_last_first :
    let writes : List (HostWrite Unit) := [.register "api" (some "Client") "create" (Managed.echo 1)]
    let first : Board Unit := ⟨{ factories := watchers }, writes.foldl HostWrite.apply {}⟩
    let inTurn : List RegistryCall := [.activate none, .deactivate (some ["b", "a"])]
    let bulk : List RegistryCall := [.activate none, .deactivate none]
    (first.Nested inTurn ∧ (inTurn.foldl after first).registry.active = [] ∧
      (inTurn.foldl after first).sites.get? 1 "create" = some (Managed.echo 1)) ∧
      (bulk.foldl after first).registry.active = [] ∧
        (bulk.foldl after first).sites.get? 1 "create" =
          some (.wrapper 0 (watcher "a") (Managed.echo 1)) := by
  intro writes first inTurn bulk
  have nested : first.Nested inTurn := by
    refine ⟨trivial, ⟨?_, ?_, trivial⟩, trivial⟩
    · intro manager found
      cases found
      intro entry among
      cases List.mem_singleton.mp among
      exact ⟨1, _, rfl⟩
    · intro manager found
      cases found
      intro entry among
      cases List.mem_singleton.mp among
      exact ⟨0, _, rfl⟩
  have idle : (inTurn.foldl after first).registry.active = [] := rfl
  have restored := (registry_restores watchers writes inTurn).2 (.inr nested) idle 1 "create"
  exact ⟨⟨nested, idle, restored.trans rfl⟩, rfl, rfl⟩

end Board

end LlmTelemetry
