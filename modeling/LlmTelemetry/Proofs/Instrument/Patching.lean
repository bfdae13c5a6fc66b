import LlmTelemetry.Instrument.Manager
import LlmTelemetry.Proofs.Instrument.Directory
import Mathlib.Data.List.Nodup
/-!
# Installing and putting back

The patches of a manager account for everything that is different after it has installed its wrappers
(`Wraps`). No two of them are at one place: targets of different names belong to different parts or have
different members, and the directory is sound. That is why the replaced handlers can be put back in any order.
-/

namespace LlmTelemetry

variable {σ : Type}

/-- The place of a patch: a table and a name in it. -/
def Patch.place (patch : Patch σ) : TableId × String :=
  (patch.owner, patch.member)

def places (patches : KeyedList String (Patch σ)) : List (TableId × String) :=
  patches.map fun entry => entry.2.place

theorem mem_places {patches : KeyedList String (Patch σ)} {table : TableId} {member : String} :
    (table, member) ∈ places patches ↔
      ∃ entry ∈ patches, entry.2.owner = table ∧ entry.2.member = member := by
  simp only [places, Patch.place, List.mem_map, Prod.mk.injEq]

theorem place_mem_places {patches : KeyedList String (Patch σ)} {entry : String × Patch σ}
    (among : entry ∈ patches) : entry.2.place ∈ places patches :=
  List.mem_map_of_mem among

/-- Targets of different names are different parts or different members. -/
theorem PatchTarget.key_congr {target other : PatchTarget} (moduleName : target.moduleName = other.moduleName)
    (className : target.className = other.className) (member : target.member = other.member) :
    target.key = other.key := by
  rw [key, key, moduleName, className, member]

namespace CallSites

/-! ## Putting back -/

/-- Put the handlers back that the patches replaced, in the order of the list. -/
def restoreAll (sites : CallSites σ) (patches : KeyedList String (Patch σ)) : CallSites σ :=
  patches.foldl (fun sites entry => sites.restore entry.2) sites

section Restore

variable {patches : KeyedList String (Patch σ)} {entry : String × Patch σ} {table : TableId} {member : String}

theorem restoreAll_names (sites : CallSites σ) (patches : KeyedList String (Patch σ)) :
    (sites.restoreAll patches).names = sites.names := by
  induction patches generalizing sites with
  | nil => rfl
  | cons entry rest ih => exact ih (sites.restore entry.2)

theorem restoreAll_modules (sites : CallSites σ) (patches : KeyedList String (Patch σ)) :
    (sites.restoreAll patches).modules = sites.modules := by
  induction patches generalizing sites with
  | nil => rfl
  | cons entry rest ih => exact ih (sites.restore entry.2)

theorem get?_restoreAll_of_not_mem (sites : CallSites σ) (elsewhere : (table, member) ∉ places patches) :
    (sites.restoreAll patches).get? table member = sites.get? table member := by
  induction patches generalizing sites with
  | nil => rfl
  | cons entry rest ih =>
    obtain ⟨apart, elsewhere⟩ := not_or.mp (List.mem_cons.not.mp elsewhere)
    have later := ih (sites.restore entry.2) elsewhere
    have now : (sites.restore entry.2).get? table member = sites.get? table member := by
      rw [restore, get?_set, if_neg]
      exact fun same => apart same.symm
    exact later.trans now

theorem get?_restoreAll_of_mem (sites : CallSites σ) (distinct : (places patches).Nodup)
    (among : entry ∈ patches) :
    (sites.restoreAll patches).get? entry.2.owner entry.2.member = some entry.2.replaced := by
  induction patches generalizing sites with
  | nil => cases among
  | cons first rest ih =>
    obtain ⟨apart, distinct⟩ := List.nodup_cons.mp distinct
    cases among with
    | tail _ among => exact ih (sites.restore first.2) distinct among
    | head =>
      -- No later patch is at this place, so the handler that is put back first stays.
      have later := get?_restoreAll_of_not_mem (sites.restore entry.2) apart
      refine later.trans ?_
      rw [restore, get?_set, if_pos rfl]

end Restore

/-! ## Installing -/

/-- Installing the patches, all for one interceptor and its targets, leads from one directory to the other. -/
structure Wraps (interceptor : Interceptor σ) (targets : List PatchTarget) (before : CallSites σ)
    (patches : KeyedList String (Patch σ)) (after : CallSites σ) : Prop where
  names : after.names = before.names
  modules : after.modules = before.modules
  distinct : (places patches).Nodup
  target : ∀ entry ∈ patches, ∃ target ∈ targets, target.key = entry.1 ∧ target.member = entry.2.member ∧
    before.resolve target.moduleName target.className = .ok entry.2.owner
  replaced : ∀ entry ∈ patches, before.get? entry.2.owner entry.2.member = some entry.2.replaced
  wrapped : ∀ entry ∈ patches, ∃ id,
    after.get? entry.2.owner entry.2.member = some (.wrapper id interceptor entry.2.replaced)
  untouched : ∀ table member, (table, member) ∉ places patches →
    after.get? table member = before.get? table member

variable {interceptor : Interceptor σ} {targets : List PatchTarget} {target : PatchTarget}
  {before after : CallSites σ} {patches : KeyedList String (Patch σ)} {patch : Patch σ}

theorem wrap_eq_ok (wrapped : before.wrap interceptor target = .ok (patch, after)) :
    patch.member = target.member ∧ before.resolve target.moduleName target.className = .ok patch.owner ∧
      before.get? patch.owner patch.member = some patch.replaced ∧
      after = { before.set patch.owner patch.member (.wrapper before.wrappers interceptor patch.replaced) with
        wrappers := before.wrappers + 1 } := by
  unfold wrap findTarget at wrapped
  cases resolved : before.resolve target.moduleName target.className with
  | error reason =>
    rw [resolved] at wrapped
    cases wrapped
  | ok owner =>
    cases found : before.handlerOfKind ⟨owner, target.member⟩ target.isAsync with
    | error reason =>
      rw [resolved] at wrapped
      simp only [bind, Except.bind, found] at wrapped
      cases wrapped
    | ok replaced =>
      rw [resolved] at wrapped
      simp only [bind, Except.bind, found] at wrapped
      cases wrapped
      refine ⟨rfl, rfl, ?_, rfl⟩
      unfold handlerOfKind handler at found
      cases installed : before.get? owner target.member with
      | none =>
        simp only [installed] at found
        cases found
      | some handler =>
        simp only [installed] at found
        split at found
        · cases found
          rfl
        · cases found

namespace Wraps

theorem nothing (interceptor : Interceptor σ) (targets : List PatchTarget) (sites : CallSites σ) :
    Wraps interceptor targets sites [] sites where
  names := rfl
  modules := rfl
  distinct := List.nodup_nil
  target _ none := nomatch none
  replaced _ none := nomatch none
  wrapped _ none := nomatch none
  untouched _ _ _ := rfl

/-- A target whose name is new is at a new place. -/
theorem not_mem_places (wraps : Wraps interceptor targets before patches after) (sound : before.Sound)
    {owner : TableId} (resolved : before.resolve target.moduleName target.className = .ok owner)
    (fresh : target.key ∉ KeyedList.keys patches) : (owner, target.member) ∉ places patches := by
  intro taken
  obtain ⟨entry, among, rfl, sameMember⟩ := mem_places.mp taken
  obtain ⟨other, -, key, member, reached⟩ := wraps.target entry among
  obtain ⟨sameModule, sameClass⟩ := sound.apart _ _ _ _ _ reached resolved
  have sameKey : other.key = target.key :=
    PatchTarget.key_congr sameModule sameClass (member.trans sameMember)
  exact fresh (List.mem_map.mpr ⟨entry, among, key.symm.trans sameKey⟩)

theorem add (wraps : Wraps interceptor targets before patches after) (sound : before.Sound)
    (among : target ∈ targets) (fresh : target.key ∉ KeyedList.keys patches) {next : CallSites σ}
    (wrapped : after.wrap interceptor target = .ok (patch, next)) :
    Wraps interceptor targets before (patches ++ [(target.key, patch)]) next := by
  obtain ⟨member, resolved, installed, rfl⟩ := wrap_eq_ok wrapped
  rw [resolve_of_modules wraps.modules] at resolved
  have new : patch.place ∉ places patches := by
    have new := wraps.not_mem_places sound resolved fresh
    rwa [← member] at new
  have placed : places (patches ++ [(target.key, patch)]) = places patches ++ [patch.place] :=
    List.map_append
  refine ⟨wraps.names, wraps.modules, ?_, ?_, ?_, ?_, ?_⟩
  · rw [placed]
    exact List.nodup_append_comm.mp (List.nodup_cons.mpr ⟨new, wraps.distinct⟩)
  · intro entry here
    obtain here | here := List.mem_append.mp here
    · exact wraps.target entry here
    · cases List.mem_singleton.mp here
      exact ⟨target, among, rfl, member.symm, resolved⟩
  · intro entry here
    obtain here | here := List.mem_append.mp here
    · exact wraps.replaced entry here
    · cases List.mem_singleton.mp here
      exact (wraps.untouched _ _ new).symm.trans installed
  · intro entry here
    show ∃ id, (after.set _ _ _).get? _ _ = _
    obtain here | here := List.mem_append.mp here
    · have apart : patch.place ≠ entry.2.place := by
        intro same
        exact new (same ▸ place_mem_places here)
      obtain ⟨id, still⟩ := wraps.wrapped entry here
      refine ⟨id, ?_⟩
      rw [get?_set]
      exact (if_neg apart).trans still
    · cases List.mem_singleton.mp here
      refine ⟨after.wrappers, ?_⟩
      rw [get?_set]
      exact if_pos rfl
  · intro table name elsewhere
    show (after.set _ _ _).get? table name = _
    rw [placed, List.mem_append, List.mem_singleton, not_or] at elsewhere
    rw [get?_set, if_neg fun same => elsewhere.2 same.symm]
    exact wraps.untouched table name elsewhere.1

theorem patchTarget (sound : before.Sound) {state : Patched σ (KeyedList String (Patch σ))}
    (wraps : Wraps interceptor targets before state.value state.sites) (among : target ∈ targets) :
    Wraps interceptor targets before (Manager.patchTarget interceptor state target).value
      (Manager.patchTarget interceptor state target).sites := by
  unfold Manager.patchTarget
  split
  · exact wraps
  · rename_i new
    have fresh : target.key ∉ KeyedList.keys state.value := fun known =>
      new (KeyedList.contains_eq_true.mpr known)
    cases wrapped : state.sites.wrap interceptor target with
    | error reason => exact wraps
    | ok result =>
      obtain ⟨patch, next⟩ := result
      show Wraps _ _ _ (KeyedList.put target.key patch state.value) next
      rw [KeyedList.put_of_not_mem patch fresh]
      exact wraps.add sound among fresh wrapped

theorem patchAll (interceptor : Interceptor σ) (targets : List PatchTarget) (sound : before.Sound) :
    Wraps interceptor targets before (Manager.patchAll interceptor targets [] before).value
      (Manager.patchAll interceptor targets [] before).sites := by
  have fold : ∀ some ⊆ targets, ∀ state : Patched σ (KeyedList String (Patch σ)),
      Wraps interceptor targets before state.value state.sites →
        Wraps interceptor targets before (some.foldl (Manager.patchTarget interceptor) state).value
          (some.foldl (Manager.patchTarget interceptor) state).sites := by
    intro some within
    induction some with
    | nil => exact fun _ wraps => wraps
    | cons target rest ih =>
      obtain ⟨among, within⟩ := List.cons_subset.mp within
      exact fun state wraps => ih within _ (wraps.patchTarget sound among)
  exact fold targets (List.Subset.refl _) _ (nothing interceptor targets before)

theorem sound (wraps : Wraps interceptor targets before patches after) (sound : before.Sound) :
    after.Sound :=
  sound.of_modules wraps.names wraps.modules

/-- Whatever order the patches are put back in, every handler is again what it was. -/
theorem get?_restoreAll (wraps : Wraps interceptor targets before patches after)
    {order : KeyedList String (Patch σ)} (all : order.Perm patches) (table : TableId) (member : String) :
    (after.restoreAll order).get? table member = before.get? table member := by
  have samePlaces : (places order).Perm (places patches) := all.map _
  by_cases patched : (table, member) ∈ places patches
  · obtain ⟨entry, among, rfl, rfl⟩ := mem_places.mp patched
    have distinct : (places order).Nodup := samePlaces.nodup_iff.mpr wraps.distinct
    rw [get?_restoreAll_of_mem after distinct (all.mem_iff.mpr among)]
    exact (wraps.replaced entry among).symm
  · have elsewhere : (table, member) ∉ places order := fun taken => patched (samePlaces.mem_iff.mp taken)
    rw [get?_restoreAll_of_not_mem after elsewhere]
    exact wraps.untouched table member patched

end Wraps

end CallSites

theorem Manager.instrument_wraps {manager : Manager σ} {sites : CallSites σ} {done : Patched σ (Manager σ)}
    (sound : sites.Sound) (idle : manager.instrumented = false) (bare : manager.patches = [])
    (instrumented : manager.instrument sites = .ok done) :
    ∃ targets patches, manager.interceptor.targets = .ok targets ∧
      done.value = { manager with patches := patches, instrumented := true } ∧
      CallSites.Wraps manager.interceptor targets sites patches done.sites := by
  unfold instrument at instrumented
  rw [idle, bare] at instrumented
  cases named : manager.interceptor.targets with
  | error reason =>
    simp only [named, Bool.false_eq_true, if_false] at instrumented
    cases instrumented
  | ok targets =>
    simp only [named, Bool.false_eq_true, if_false] at instrumented
    cases instrumented
    exact ⟨targets, _, rfl, rfl, .patchAll manager.interceptor targets sound⟩

end LlmTelemetry
