import LlmTelemetry.Instrument.Registry
import LlmTelemetry.Proofs.Json.Fields
/-!
# Providers that can not be activated

Names are activated one after the other, and one that fails is passed over: it is told in a notice, and the
registry and the directory stay as they were. So the names that fail might as well not have been asked for.

Whether a name fails is told by its factory alone, as long as the factory ends the same way whenever it is called.
A factory can look at the directory, so this is said of all directories that the same host has built: they have
the same tables and modules, and whatever handlers are in them.
-/

namespace LlmTelemetry

variable {σ : Type}

/-! ## Directories with the same tables -/

/-- Two directories that are different in the handlers at most. -/
structure CallSites.SameTables (sites other : CallSites σ) : Prop where
  names : sites.names = other.names
  modules : sites.modules = other.modules

namespace CallSites.SameTables

variable {sites other third : CallSites σ}

theorem refl (sites : CallSites σ) : sites.SameTables sites := ⟨rfl, rfl⟩

theorem trans (first : sites.SameTables other) (second : other.SameTables third) : sites.SameTables third :=
  ⟨first.names.trans second.names, first.modules.trans second.modules⟩

theorem wrap {interceptor : Interceptor σ} {target : PatchTarget} {patch : Patch σ}
    (wrapped : sites.wrap interceptor target = .ok (patch, other)) : other.SameTables sites := by
  unfold CallSites.wrap at wrapped
  cases found : sites.findTarget target with
  | error reason =>
    rw [found] at wrapped
    cases wrapped
  | ok result =>
    rw [found] at wrapped
    cases wrapped
    exact ⟨rfl, rfl⟩

theorem patchTarget (interceptor : Interceptor σ) (state : Patched σ (KeyedList String (Patch σ)))
    (target : PatchTarget) : (Manager.patchTarget interceptor state target).sites.SameTables state.sites := by
  unfold Manager.patchTarget
  split
  · exact refl _
  · cases wrapped : state.sites.wrap interceptor target with
    | error reason => exact refl _
    | ok result => exact wrap wrapped

theorem patchAll (interceptor : Interceptor σ) (targets : List PatchTarget)
    (patches : KeyedList String (Patch σ)) (sites : CallSites σ) :
    (Manager.patchAll interceptor targets patches sites).sites.SameTables sites := by
  let same : Patched σ (KeyedList String (Patch σ)) → Prop := fun state => state.sites.SameTables sites
  have start : same ⟨patches, sites, []⟩ := refl sites
  exact List.foldlRecOn targets _ start fun state same target _ =>
    (patchTarget interceptor state target).trans same

end CallSites.SameTables

/-! ## Factories -/

/-- Whether a provider comes of calling the factory. Else the factory returned an error or aborted, or what it made
aborts when it is asked for its targets. -/
def Factory.delivers (factory : Factory σ) (sites : CallSites σ) : Bool :=
  match factory sites with
  | .ok interceptor => interceptor.targets.isOk
  | .error _ => false

namespace Registry

theorem build_of_delivers {factory : Factory σ} {sites : CallSites σ} (delivers : factory.delivers sites = true) :
    ∃ built, build factory sites = .ok built ∧ built.sites.SameTables sites := by
  unfold Factory.delivers at delivers
  cases made : factory sites with
  | error fault =>
    rw [made] at delivers
    contradiction
  | ok interceptor =>
    rw [made] at delivers
    cases named : interceptor.targets with
    | error reason =>
      simp only [named] at delivers
      contradiction
    | ok targets =>
      rw [build, made]
      simp only [Manager.instrument, Manager.new, named, Bool.false_eq_true, if_false]
      exact ⟨_, rfl, .patchAll interceptor targets [] sites⟩

theorem build_of_not_delivers {factory : Factory σ} {sites : CallSites σ}
    (fails : factory.delivers sites = false) : ∃ fault, build factory sites = .error fault := by
  unfold Factory.delivers at fails
  unfold build
  cases made : factory sites with
  | error fault => exact ⟨fault, rfl⟩
  | ok interceptor =>
    rw [made] at fails
    cases named : interceptor.targets with
    | error reason =>
      simp only [Manager.instrument, Manager.new, named, Bool.false_eq_true, if_false]
      exact ⟨_, rfl⟩
    | ok targets =>
      simp only [named] at fails
      contradiction

/-- Whether a name can not be activated: it is not active, and nothing comes of its factory, if it has one. -/
def fails (registry : Registry σ) (sites : CallSites σ) (name : String) : Bool :=
  !KeyedList.contains name registry.active &&
    !(KeyedList.find? name registry.factories).any (Factory.delivers · sites)

/-- A name that is not active and does not fail has a factory that something comes of. -/
theorem exists_factory_of_not_fails {registry : Registry σ} {sites : CallSites σ} {name : String}
    (inactive : KeyedList.contains name registry.active = false) (sound : registry.fails sites name = false) :
    ∃ factory, KeyedList.find? name registry.factories = some factory ∧ Factory.delivers factory sites = true := by
  rw [fails, inactive, Bool.not_false, Bool.true_and, Bool.not_eq_false'] at sound
  exact (Option.any_eq_true _ _).mp sound

/-- Every factory ends the same way on all directories with these tables. -/
def Steady (registry : Registry σ) (sites : CallSites σ) : Prop :=
  ∀ name factory, KeyedList.find? name registry.factories = some factory →
    ∀ later : CallSites σ, later.SameTables sites → Factory.delivers factory later = Factory.delivers factory sites

end Registry

/-- The name that could not be activated, when this is what the notice tells. -/
def Notice.refused? : Notice → Option String
  | .unknownProvider name => some name
  | .providerUnavailable name _ => some name
  | .activationPanicked name => some name
  | _ => none

/-! ## One name -/

namespace Registry

variable {state : Activation σ} {name : String} {factory : Factory σ}

theorem activateOne_of_active (active : KeyedList.contains name state.registry.active = true) :
    activateOne state name = { state with activated := state.activated ++ [name] } :=
  if_pos active

/-- A name that fails leaves a notice and nothing else. -/
theorem activateOne_of_fails (fails : state.registry.fails state.sites name = true) :
    ∃ notice, Notice.refused? notice = some name ∧
      activateOne state name = { state with notices := state.notices ++ [notice] } := by
  obtain ⟨inactive, nothing⟩ := Bool.and_eq_true_iff.mp fails
  rw [Bool.not_eq_true'] at inactive nothing
  unfold activateOne
  rw [inactive, if_neg Bool.false_ne_true]
  cases known : KeyedList.find? name state.registry.factories with
  | none => exact ⟨.unknownProvider name, rfl, rfl⟩
  | some factory =>
    rw [known] at nothing
    obtain ⟨fault, failed⟩ := build_of_not_delivers nothing
    dsimp only
    rw [failed]
    cases fault with
    | error reason => exact ⟨.providerUnavailable name reason, rfl, rfl⟩
    | panic message => exact ⟨.activationPanicked name, rfl, rfl⟩

theorem activateOne_of_delivers (inactive : KeyedList.contains name state.registry.active = false)
    (known : KeyedList.find? name state.registry.factories = some factory)
    (delivers : Factory.delivers factory state.sites = true) :
    ∃ built : Patched σ (Manager σ), built.sites.SameTables state.sites ∧
      activateOne state name =
        { registry := { state.registry with
            active := KeyedList.insertSorted name built.value state.registry.active }
          sites := built.sites
          activated := state.activated ++ [name]
          notices := state.notices ++ built.notices ++ [.providerActivated name] } := by
  obtain ⟨built, done, same⟩ := build_of_delivers delivers
  refine ⟨built, same, ?_⟩
  unfold activateOne
  rw [inactive, if_neg Bool.false_ne_true, known]
  dsimp only
  rw [done]

/-- What it can do to ask for one name: the name is listed since its provider is active, or refused, or there is a
new provider. -/
theorem activateOne_does (state : Activation σ) (name : String) :
    activateOne state name = { state with activated := state.activated ++ [name] } ∨
    (∃ notice, activateOne state name = { state with notices := state.notices ++ [notice] }) ∨
    ∃ built : Patched σ (Manager σ), KeyedList.contains name state.registry.active = false ∧
      activateOne state name =
        { registry := { state.registry with
            active := KeyedList.insertSorted name built.value state.registry.active }
          sites := built.sites
          activated := state.activated ++ [name]
          notices := state.notices ++ built.notices ++ [.providerActivated name] } := by
  cases active : KeyedList.contains name state.registry.active with
  | true => exact .inl (activateOne_of_active active)
  | false =>
    cases failed : state.registry.fails state.sites name with
    | true =>
      obtain ⟨notice, -, done⟩ := activateOne_of_fails failed
      exact .inr (.inl ⟨notice, done⟩)
    | false =>
      obtain ⟨factory, known, delivers⟩ := exists_factory_of_not_fails active failed
      obtain ⟨built, -, done⟩ := activateOne_of_delivers active known delivers
      exact .inr (.inr ⟨built, rfl, done⟩)

/-! ## What stays -/

/-- A provider that is active stays so, with its manager. -/
theorem find?_activateOne {manager : Manager σ} {other : String}
    (active : KeyedList.find? other state.registry.active = some manager) (name : String) :
    KeyedList.find? other (activateOne state name).registry.active = some manager := by
  obtain done | ⟨notice, done⟩ | ⟨built, inactive, done⟩ := activateOne_does state name
  · rwa [done]
  · rwa [done]
  · have apart : name ≠ other := by
      rintro rfl
      rw [KeyedList.contains, active] at inactive
      contradiction
    rw [done]
    exact (KeyedList.find?_insertSorted ..).trans ((if_neg apart).trans active)

theorem notices_activateOne {notice : Notice} (told : notice ∈ state.notices) (name : String) :
    notice ∈ (activateOne state name).notices := by
  obtain done | ⟨notice, done⟩ | ⟨built, -, done⟩ := activateOne_does state name
  · rwa [done]
  · rw [done]
    exact List.mem_append_left _ told
  · rw [done]
    exact List.mem_append_left _ (List.mem_append_left _ told)

theorem factories_activateOne (state : Activation σ) (name : String) :
    (activateOne state name).registry.factories = state.registry.factories := by
  obtain done | ⟨notice, done⟩ | ⟨built, -, done⟩ := activateOne_does state name <;> rw [done]

/-- What an activation has done, without what it has told. -/
def Activation.silent (state : Activation σ) : Activation σ :=
  { state with notices := [] }

theorem silent_activateOne {other : Activation σ} (same : state.silent = other.silent) (name : String) :
    (activateOne state name).silent = (activateOne other name).silent := by
  obtain ⟨registry, sites, activated, notices⟩ := state
  obtain ⟨_, _, _, notices'⟩ := other
  cases same
  unfold activateOne
  dsimp only
  split
  · rfl
  · split
    · rfl
    · split <;> rfl

/-- The same with other factories in the registry. -/
def Activation.withFactories (state : Activation σ) (factories : KeyedList String (Factory σ)) : Activation σ :=
  { state with registry := { state.registry with factories := factories } }

/-- The factory of a name that is active is not looked at. -/
theorem activateOne_withFactories {factories : KeyedList String (Factory σ)}
    (same : KeyedList.contains name state.registry.active = false →
      KeyedList.find? name factories = KeyedList.find? name state.registry.factories) :
    activateOne (state.withFactories factories) name = (activateOne state name).withFactories factories := by
  unfold activateOne
  cases active : KeyedList.contains name state.registry.active with
  | true => simp [Activation.withFactories, active]
  | false =>
    simp only [Activation.withFactories, active, same active, Bool.false_eq_true, if_false]
    split
    · rfl
    · split <;> rfl

/-! ## All names -/

section Run

variable {names : List String}

theorem find?_activated {manager : Manager σ}
    (active : KeyedList.find? name state.registry.active = some manager) (names : List String) :
    KeyedList.find? name (names.foldl activateOne state).registry.active = some manager := by
  induction names generalizing state with
  | nil => exact active
  | cons other rest ih => exact ih (find?_activateOne active other)

theorem notices_activated {notice : Notice} (told : notice ∈ state.notices) (names : List String) :
    notice ∈ (names.foldl activateOne state).notices := by
  induction names generalizing state with
  | nil => exact told
  | cons name rest ih => exact ih (notices_activateOne told name)

theorem contains_activated (active : KeyedList.contains name state.registry.active = true)
    (names : List String) :
    KeyedList.contains name (names.foldl activateOne state).registry.active = true := by
  obtain ⟨manager, found⟩ := Option.isSome_iff_exists.mp active
  rw [KeyedList.contains, find?_activated found names, Option.isSome_some]

theorem silent_activated {other : Activation σ} (same : state.silent = other.silent) (names : List String) :
    (names.foldl activateOne state).silent = (names.foldl activateOne other).silent := by
  induction names generalizing state other with
  | nil => exact same
  | cons name rest ih => exact ih (silent_activateOne same name)

theorem activated_withFactories {factories : KeyedList String (Factory σ)}
    (same : ∀ name, KeyedList.contains name state.registry.active = false →
      KeyedList.find? name factories = KeyedList.find? name state.registry.factories) (names : List String) :
    names.foldl activateOne (state.withFactories factories) =
      (names.foldl activateOne state).withFactories factories := by
  induction names generalizing state with
  | nil => rfl
  | cons name rest ih =>
    rw [List.foldl_cons, List.foldl_cons, activateOne_withFactories (same name)]
    refine ih fun other inactive => ?_
    rw [factories_activateOne]
    refine same other (Bool.eq_false_iff.mpr fun active => ?_)
    have still : KeyedList.contains other (activateOne state name).registry.active = true :=
      contains_activated active [name]
    rw [still] at inactive
    contradiction

/-- An activation that began with the given registry and directory. -/
structure Underway (first : Registry σ) (sites : CallSites σ) (state : Activation σ) : Prop where
  factories : state.registry.factories = first.factories
  tables : state.sites.SameTables sites
  inactive : ∀ name, first.fails sites name = true → KeyedList.contains name state.registry.active = false
  active : ∀ name, KeyedList.contains name first.active = true →
    KeyedList.contains name state.registry.active = true

namespace Underway

variable {first : Registry σ} {sites : CallSites σ}

theorem start (first : Registry σ) (sites : CallSites σ) :
    Underway first sites { registry := first, sites := sites } where
  factories := rfl
  tables := .refl sites
  inactive name fails := by
    obtain ⟨inactive, -⟩ := Bool.and_eq_true_iff.mp fails
    rwa [Bool.not_eq_true'] at inactive
  active _ active := active

/-- A name fails on the way if it fails in the beginning. -/
theorem fails (underway : Underway first sites state) (steady : first.Steady sites)
    (failed : first.fails sites name = true) : state.registry.fails state.sites name = true := by
  obtain ⟨-, nothing⟩ := Bool.and_eq_true_iff.mp failed
  rw [Registry.fails, underway.inactive name failed, underway.factories, Bool.not_false, Bool.true_and,
    ← nothing]
  cases known : KeyedList.find? name first.factories with
  | none => rfl
  | some factory =>
    simp only [Option.any_some, steady name factory known state.sites underway.tables]

/-- A name that does not fail in the beginning is active after its turn, and in the list. -/
theorem succeeds (underway : Underway first sites state) (steady : first.Steady sites)
    (sound : first.fails sites name = false) :
    KeyedList.contains name (activateOne state name).registry.active = true ∧
      (activateOne state name).activated = state.activated ++ [name] ∧
      Underway first sites (activateOne state name) := by
  cases active : KeyedList.contains name state.registry.active with
  | true =>
    rw [activateOne_of_active active]
    exact ⟨active, rfl, { underway with }⟩
  | false =>
    obtain ⟨factory, known, delivers⟩ : ∃ factory, KeyedList.find? name first.factories = some factory ∧
        Factory.delivers factory sites = true := by
      have idle : KeyedList.contains name first.active = false :=
        Bool.eq_false_iff.mpr fun before => by simp [underway.active name before] at active
      exact exists_factory_of_not_fails idle sound
    rw [← steady name factory known state.sites underway.tables] at delivers
    rw [← underway.factories] at known
    obtain ⟨built, same, done⟩ := activateOne_of_delivers active known delivers
    rw [done]
    have found (other : String) : KeyedList.contains other
        (KeyedList.insertSorted name built.value state.registry.active) =
          (decide (name = other) || KeyedList.contains other state.registry.active) := by
      rw [KeyedList.contains, KeyedList.find?_insertSorted, KeyedList.contains]
      by_cases here : name = other <;> simp [here]
    refine ⟨?_, rfl, underway.factories, same.trans underway.tables, fun other failed => ?_,
      fun other before => ?_⟩
    · rw [found, decide_eq_true rfl, Bool.true_or]
    · have apart : name ≠ other := by
        rintro rfl
        rw [failed] at sound
        contradiction
      rw [found, decide_eq_false apart, Bool.false_or]
      exact underway.inactive other failed
    · rw [found, underway.active other before, Bool.or_true]

/-- A name that fails in the beginning leaves a notice and nothing else. -/
theorem refuses (underway : Underway first sites state) (steady : first.Steady sites)
    (failed : first.fails sites name = true) :
    (∃ notice ∈ (activateOne state name).notices, Notice.refused? notice = some name) ∧
      (activateOne state name).silent = state.silent ∧ Underway first sites (activateOne state name) := by
  obtain ⟨notice, tells, done⟩ := activateOne_of_fails (underway.fails steady failed)
  rw [done]
  exact ⟨⟨notice, List.mem_append_right _ List.mem_cons_self, tells⟩, rfl, { underway with }⟩

theorem activateOne (underway : Underway first sites state) (steady : first.Steady sites) (name : String) :
    Underway first sites (activateOne state name) := by
  cases failed : first.fails sites name with
  | true => exact (underway.refuses steady failed).2.2
  | false => exact (underway.succeeds steady failed).2.2

theorem run (underway : Underway first sites state) (steady : first.Steady sites) (names : List String) :
    Underway first sites (names.foldl Registry.activateOne state) := by
  induction names generalizing state with
  | nil => exact underway
  | cons name rest ih => exact ih (underway.activateOne steady name)

theorem activated_run (underway : Underway first sites state) (steady : first.Steady sites)
    (names : List String) : (names.foldl Registry.activateOne state).activated =
      state.activated ++ names.filter (!first.fails sites ·) := by
  induction names generalizing state with
  | nil => exact (List.append_nil _).symm
  | cons name rest ih =>
    rw [List.foldl_cons, ih (underway.activateOne steady name)]
    cases failed : first.fails sites name with
    | true =>
      have passed := (underway.refuses steady failed).2.1
      have same : (Registry.activateOne state name).activated = state.activated := by
        show (Registry.activateOne state name).silent.activated = _
        rw [passed]
        rfl
      simp [same, failed]
    | false =>
      have listed := (underway.succeeds steady failed).2.1
      simp [listed, failed]

/-- Of the names that are asked for, those are active in the end that do not fail. -/
theorem contains_run (underway : Underway first sites state) (steady : first.Steady sites)
    (asked : name ∈ names) :
    KeyedList.contains name (names.foldl Registry.activateOne state).registry.active =
      !first.fails sites name := by
  cases failed : first.fails sites name with
  | true => exact (underway.run steady names).inactive name failed
  | false =>
    obtain ⟨earlier, later, rfl⟩ := List.append_of_mem asked
    rw [List.foldl_append, List.foldl_cons]
    exact contains_activated ((underway.run steady earlier).succeeds steady failed).1 later

theorem told_run (underway : Underway first sites state) (steady : first.Steady sites) (asked : name ∈ names)
    (failed : first.fails sites name = true) :
    ∃ notice ∈ (names.foldl Registry.activateOne state).notices, Notice.refused? notice = some name := by
  obtain ⟨earlier, later, rfl⟩ := List.append_of_mem asked
  rw [List.foldl_append, List.foldl_cons]
  obtain ⟨notice, told, tells⟩ := ((underway.run steady earlier).refuses steady failed).1
  exact ⟨notice, notices_activated told later, tells⟩

/-- The names that fail might as well not be asked for. -/
theorem silent_filter (underway : Underway first sites state) (steady : first.Steady sites)
    (names : List String) :
    ((names.filter (!first.fails sites ·)).foldl Registry.activateOne state).silent =
      (names.foldl Registry.activateOne state).silent := by
  induction names generalizing state with
  | nil => rfl
  | cons name rest ih =>
    rw [List.foldl_cons]
    cases failed : first.fails sites name with
    | true =>
      have passed := (underway.refuses steady failed).2.1
      rw [List.filter_cons_of_neg (by simp [failed]), ih underway]
      exact (silent_activated passed rest).symm
    | false =>
      rw [List.filter_cons_of_pos (by simp [failed]), List.foldl_cons]
      exact ih (underway.activateOne steady name)

end Underway

end Run

/-- However the names of a request are mixed, and whatever becomes of their factories, the request is answered. Those
of its names are in the answer that are active then; the others are told in notices. A provider that was active
keeps its manager, whatever there is in the place of its factory. A name that fails changes neither the registry
nor the directory, so that the request without such names does the same and has the same answer. -/
theorem activate_isolates_failures {registry : Registry σ} {sites : CallSites σ} (steady : registry.Steady sites)
    (names : Option (List String)) :
    let requested := names.getD registry.registered
    let done := registry.activate names sites
    done.activated = requested.filter (KeyedList.contains · done.registry.active) ∧
      (∀ name ∈ requested, KeyedList.contains name done.registry.active = !registry.fails sites name) ∧
      (∀ name ∈ requested, registry.fails sites name = true →
        ∃ notice ∈ done.notices, Notice.refused? notice = some name) ∧
      (∀ name manager, KeyedList.find? name registry.active = some manager →
        KeyedList.find? name done.registry.active = some manager) ∧
      (∀ factories, (∀ name, KeyedList.contains name registry.active = false →
          KeyedList.find? name factories = KeyedList.find? name registry.factories) →
        activate { registry with factories := factories } (some requested) sites =
          done.withFactories factories) ∧
      (∀ earlier name, registry.fails sites name = true →
        (registry.activate (some (earlier ++ [name])) sites).silent =
          (registry.activate (some earlier) sites).silent) ∧
      (registry.activate (some (requested.filter (!registry.fails sites ·))) sites).silent = done.silent := by
  intro requested done
  have start := Underway.start registry sites
  have active (name : String) (asked : name ∈ requested) :
      KeyedList.contains name done.registry.active = !registry.fails sites name :=
    start.contains_run steady asked
  refine ⟨?_, active, fun name => start.told_run steady, fun name manager found => ?_,
    fun factories same => ?_, fun earlier name failed => ?_, start.silent_filter steady requested⟩
  · rw [List.filter_congr active]
    exact start.activated_run steady requested
  · exact find?_activated found requested
  · let began : Activation σ := { registry := registry, sites := sites }
    have unseen : ∀ name, KeyedList.contains name began.registry.active = false →
      KeyedList.find? name factories = KeyedList.find? name began.registry.factories := same
    exact activated_withFactories unseen requested
  · have underway := start.run steady earlier
    have passed := (underway.refuses steady failed).2.1
    show ((earlier ++ [name]).foldl activateOne _).silent = _
    rw [List.foldl_append]
    exact passed

/-- One provider of five is new and can be activated, and one was active; its factory would abort now. The others
return an error, abort, or abort when they are asked for their targets. -/
theorem activate_isolates_failures_among_five :
    ∃ (registry : Registry Unit) (sites : CallSites Unit), registry.Steady sites ∧
      let done := registry.activate (some ["c", "e", "x", "a", "d", "b", "a", "c"]) sites
      done.activated = ["e", "a", "a"] ∧ done.registry.activeNames = ["a", "e"] ∧
        (done.sites.get? 0 "create").map Handler.identity = some (.wrapper 0) ∧
        (registry.activate (some ["e", "a", "a"]) sites).silent = done.silent := by
  let echo : Handler Unit := .sync 0 fun args _ => (.ok args, ())
  let sites : CallSites Unit := (CallSites.register {} "api" none "create" echo).2
  let reader (targets : Except Panic (List PatchTarget)) : Interceptor Unit :=
    ⟨"reader", targets, fun _ => .ok false, fun _ _ _ host => (.error (.error "unread"), host)⟩
  let factories : KeyedList String (Factory Unit) :=
    [("a", fun _ => .ok (reader (.ok [⟨"api", none, "create", false⟩]))),
      ("b", fun _ => .error (.error "missing")),
      ("c", fun _ => .error (.panic "broken")),
      ("d", fun _ => .ok (reader (.error ⟨"no targets"⟩))),
      ("e", fun _ => .error (.panic "called"))]
  let registry : Registry Unit := ⟨factories, [("e", ⟨reader (.ok []), [], true⟩)]⟩
  have steady : registry.Steady sites := by
    intro name factory known later _
    have listed : (name, factory) ∈ factories := KeyedList.mem_of_find? known
    simp only [factories, List.mem_cons, Prod.mk.injEq, List.not_mem_nil, or_false] at listed
    obtain ⟨-, rfl⟩ | ⟨-, rfl⟩ | ⟨-, rfl⟩ | ⟨-, rfl⟩ | ⟨-, rfl⟩ := listed <;> rfl
  let names := ["c", "e", "x", "a", "d", "b", "a", "c"]
  obtain ⟨activated, -, -, -, -, -, without⟩ := activate_isolates_failures steady (some names)
  have kept : names.filter (!registry.fails sites ·) = ["e", "a", "a"] := by decide +kernel
  have listed : (registry.activate (some names) sites).activated = ["e", "a", "a"] := by
    rw [activated]
    decide +kernel
  rw [Option.getD_some, kept] at without
  refine ⟨registry, sites, steady, listed, ?_, ?_, without⟩
  · decide +kernel
  · decide +kernel

end Registry

end LlmTelemetry
