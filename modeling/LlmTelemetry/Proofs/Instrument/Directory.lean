import LlmTelemetry.Instrument.CallSites
/-!
# The directory of call sites

The host builds the directory by four kinds of writes. Whatever it writes, two different parts of the
directory never lead to one table: a table is made for one part only, and a part that is forgotten and
registered again gets a new one. So a place in a table can be reached through one part and one name.
-/

namespace LlmTelemetry

/-- The table of the functions of a module, or of one of its classes. -/
def ModuleEntry.table? (entry : ModuleEntry) : (className : Option String) → Option TableId
  | none => some entry.functions
  | some className => KeyedList.find? className entry.classes

namespace CallSites

variable {σ : Type} {sites after : CallSites σ} {moduleName : String} {className : Option String}
  {table : TableId} {member : String}

theorem resolve_eq_ok : sites.resolve moduleName className = .ok table ↔
    ∃ entry, KeyedList.find? moduleName sites.modules = some entry ∧ entry.table? className = some table := by
  unfold resolve
  cases found : KeyedList.find? moduleName sites.modules with
  | none => simp
  | some entry =>
    cases className with
    | none => simp [ModuleEntry.table?]
    | some className =>
      simp only [Option.some.injEq, exists_eq_left', ModuleEntry.table?]
      cases KeyedList.find? className entry.classes <;> simp

theorem resolve_of_modules (same : after.modules = sites.modules) :
    after.resolve moduleName className = sites.resolve moduleName className := by
  unfold resolve
  rw [same]

theorem callSite_eq_ok {site : CallSite} (found : sites.callSite moduleName className member = .ok site) :
    site.member = member ∧ sites.resolve moduleName className = .ok site.table ∧
      (sites.get? site.table site.member).isSome = true := by
  unfold callSite at found
  cases resolved : sites.resolve moduleName className with
  | error reason =>
    rw [resolved] at found
    cases found
  | ok table =>
    cases installed : sites.get? table member with
    | none => simp [resolved, bind, Except.bind, handler, installed] at found
    | some handler =>
      simp only [resolved, bind, Except.bind, CallSites.handler, installed] at found
      cases found
      exact ⟨rfl, rfl, by rw [installed]; rfl⟩

theorem handler_of_get? {site : CallSite} {handler : Handler σ}
    (installed : sites.get? site.table site.member = some handler) : sites.handler site = .ok handler := by
  rw [CallSites.handler, installed]

theorem get?_set (sites : CallSites σ) (table other : TableId) (member name : String)
    (handler : Handler σ) : (sites.set table member handler).get? other name =
      if (table, member) = (other, name) then some handler else sites.get? other name :=
  KeyedList.find?_put (table, member) (other, name) handler sites.entries

theorem ensureModule_entries (sites : CallSites σ) (moduleName : String) :
    (sites.ensureModule moduleName).2.entries = sites.entries := by
  unfold ensureModule
  split <;> rfl

theorem ensureTable_entries (sites : CallSites σ) (moduleName : String) (className : Option String) :
    (sites.ensureTable moduleName className).2.entries = sites.entries := by
  have first := sites.ensureModule_entries moduleName
  unfold ensureTable
  cases className with
  | none => exact first
  | some className =>
    dsimp only
    split <;> exact first

theorem get?_ensureTable (sites : CallSites σ) (moduleName : String) (className : Option String) (table : TableId)
    (member : String) : (sites.ensureTable moduleName className).2.get? table member = sites.get? table member := by
  rw [get?, ensureTable_entries, get?]

theorem get?_register (sites : CallSites σ) (moduleName : String) (className : Option String) (name : String)
    (handler : Handler σ) (table : TableId) (member : String) :
    (sites.register moduleName className name handler).2.get? table member =
      if ((sites.ensureTable moduleName className).1, name) = (table, member) then some handler
      else sites.get? table member := by
  rw [← sites.get?_ensureTable moduleName className]
  exact get?_set _ _ _ _ _ _

/-! ## Where the directory leads -/

/-- Writing the entry of a module changes where this module leads, and no other. -/
theorem resolve_of_put {entry : ModuleEntry}
    (put : after.modules = KeyedList.put moduleName entry sites.modules) {other : String} {className : Option String} :
    after.resolve other className = .ok table ↔
      if moduleName = other then entry.table? className = some table else sites.resolve other className = .ok table := by
  rw [resolve_eq_ok, resolve_eq_ok, put, KeyedList.find?_put]
  split <;> simp

theorem find?_ensureModule (sites : CallSites σ) (moduleName : String) :
    KeyedList.find? moduleName (sites.ensureModule moduleName).2.modules =
      some (sites.ensureModule moduleName).1 := by
  unfold ensureModule
  cases known : KeyedList.find? moduleName sites.modules with
  | some entry => exact known
  | none => exact (KeyedList.find?_put _ _ _ _).trans (if_pos rfl)

/-- A new module leads to the table that was just made, as the table of its functions. -/
theorem resolve_ensureModule_of_new (unknown : KeyedList.find? moduleName sites.modules = none) {other : String}
    {className : Option String} : (sites.ensureModule moduleName).2.resolve other className = .ok table ↔
      sites.resolve other className = .ok table ∨
        other = moduleName ∧ className = none ∧ table = sites.names.length := by
  unfold ensureModule
  rw [unknown, resolve_of_put rfl]
  split
  · rename_i same
    subst same
    have nowhere : sites.resolve moduleName className ≠ .ok table := by
      rw [Ne, resolve_eq_ok, unknown]
      simp
    cases className with
    | none => simp [ModuleEntry.table?, nowhere, newTable, eq_comm]
    | some className => simp [ModuleEntry.table?, KeyedList.find?, nowhere]
  · rename_i apart
    have same : (sites.newTable moduleName).2.resolve other className = sites.resolve other className :=
      resolve_of_modules rfl
    simp [same, Ne.symm apart]

/-- A new class leads to the table that was just made. -/
theorem resolve_ensureTable_of_new {className : String}
    (unknown : KeyedList.find? className (sites.ensureModule moduleName).1.classes = none) {other : String}
    {otherClass : Option String} :
    (sites.ensureTable moduleName (some className)).2.resolve other otherClass = .ok table ↔
      (sites.ensureModule moduleName).2.resolve other otherClass = .ok table ∨
        other = moduleName ∧ otherClass = some className ∧ table = (sites.ensureModule moduleName).2.names.length := by
  have present := sites.find?_ensureModule moduleName
  unfold ensureTable
  simp only [unknown]
  rw [resolve_of_put rfl]
  split
  · rename_i same
    subst same
    have leads : (sites.ensureModule moduleName).2.resolve moduleName otherClass = .ok table ↔
        (sites.ensureModule moduleName).1.table? otherClass = some table := by
      rw [resolve_eq_ok, present]
      simp
    cases otherClass with
    | none => simp [ModuleEntry.table?, leads]
    | some otherClass =>
      simp only [ModuleEntry.table?, leads, KeyedList.find?_put]
      split
      · rename_i same
        subst same
        simp [unknown, newTable, eq_comm]
      · rename_i apart
        simp [Ne.symm apart]
  · rename_i apart
    have same : ((sites.ensureModule moduleName).2.newTable (moduleName ++ "." ++ className)).2.resolve other otherClass =
        (sites.ensureModule moduleName).2.resolve other otherClass := resolve_of_modules rfl
    simp [same, Ne.symm apart]

theorem ensureModule_of_known {entry : ModuleEntry}
    (known : KeyedList.find? moduleName sites.modules = some entry) :
    sites.ensureModule moduleName = (entry, sites) := by
  rw [ensureModule, known]

theorem names_ensureModule (sites : CallSites σ) (moduleName : String) :
    sites.names.length ≤ (sites.ensureModule moduleName).2.names.length := by
  unfold ensureModule
  split
  · exact Nat.le_refl _
  · simp [newTable]

/-- Making the entry of a module changes nothing where the directory led before. Where it did not lead before, it
leads to a table that was just made. -/
theorem resolve_ensureModule_cases (sites : CallSites σ) (moduleName other : String) (className : Option String)
    (table : Nat) :
    (sites.resolve other className = .ok table →
      (sites.ensureModule moduleName).2.resolve other className = .ok table) ∧
      ((sites.ensureModule moduleName).2.resolve other className = .ok table →
        sites.resolve other className = .ok table ∨ sites.names.length ≤ table) := by
  cases known : KeyedList.find? moduleName sites.modules with
  | some entry =>
    rw [ensureModule_of_known known]
    exact ⟨id, .inl⟩
  | none =>
    rw [resolve_ensureModule_of_new known]
    exact ⟨.inl, fun found => found.imp_right fun new => Nat.le_of_eq new.2.2.symm⟩

theorem ensureTable_of_known {className : String}
    (known : KeyedList.find? className (sites.ensureModule moduleName).1.classes = some table) :
    sites.ensureTable moduleName (some className) = (table, (sites.ensureModule moduleName).2) := by
  unfold ensureTable
  simp only [known]

theorem ensureTable_of_new {className : String}
    (unknown : KeyedList.find? className (sites.ensureModule moduleName).1.classes = none) :
    (sites.ensureTable moduleName (some className)).1 = (sites.ensureModule moduleName).2.names.length := by
  unfold ensureTable
  simp only [unknown]
  rfl

/-- The same for the table of a part. -/
theorem resolve_ensureTable_cases (sites : CallSites σ) (moduleName : String) (className : Option String)
    {other : String} {otherClass : Option String} {table : Nat} :
    (sites.resolve other otherClass = .ok table →
      (sites.ensureTable moduleName className).2.resolve other otherClass = .ok table) ∧
      ((sites.ensureTable moduleName className).2.resolve other otherClass = .ok table →
        sites.resolve other otherClass = .ok table ∨ sites.names.length ≤ table) := by
  have first := sites.resolve_ensureModule_cases moduleName other otherClass table
  cases className with
  | none => exact first
  | some className =>
    cases known : KeyedList.find? className (sites.ensureModule moduleName).1.classes with
    | some present =>
      rw [ensureTable_of_known known]
      exact first
    | none =>
      rw [resolve_ensureTable_of_new known]
      refine ⟨fun found => .inl (first.1 found), fun found => found.elim first.2 fun new => .inr ?_⟩
      exact Nat.le_trans (sites.names_ensureModule moduleName) (Nat.le_of_eq new.2.2.symm)

theorem names_ensureTable (sites : CallSites σ) (moduleName : String) (className : Option String) :
    sites.names.length ≤ (sites.ensureTable moduleName className).2.names.length := by
  have first := sites.names_ensureModule moduleName
  unfold ensureTable
  cases className with
  | none => exact first
  | some className =>
    dsimp only
    split
    · exact first
    · exact Nat.le_trans first (by simp [newTable])

/-- A module that is forgotten leads nowhere, and the others lead where they led. -/
theorem resolve_unregister {other : String} : (sites.unregister moduleName).resolve other className = .ok table ↔
    moduleName ≠ other ∧ sites.resolve other className = .ok table := by
  rw [resolve_eq_ok, resolve_eq_ok, unregister, KeyedList.find?_erase]
  split <;> simp [*]

/-- The table that was asked for is the one to which the directory leads. -/
theorem resolve_ensureTable (sites : CallSites σ) (moduleName : String) (className : Option String) :
    (sites.ensureTable moduleName className).2.resolve moduleName className =
      .ok (sites.ensureTable moduleName className).1 := by
  have present := sites.find?_ensureModule moduleName
  cases className with
  | none => exact resolve_eq_ok.mpr ⟨_, present, rfl⟩
  | some className =>
    cases known : KeyedList.find? className (sites.ensureModule moduleName).1.classes with
    | some table =>
      rw [ensureTable_of_known known]
      exact resolve_eq_ok.mpr ⟨_, present, known⟩
    | none => exact (resolve_ensureTable_of_new known).mpr (.inr ⟨rfl, rfl, ensureTable_of_new known⟩)

/-! ## Soundness -/

/-- Every table that the directory leads to exists, and is the table of one part only. -/
structure Sound (sites : CallSites σ) : Prop where
  known : ∀ moduleName className (table : Nat), sites.resolve moduleName className = .ok table →
    table < sites.names.length
  apart : ∀ moduleName className otherModule otherClass table,
    sites.resolve moduleName className = .ok table → sites.resolve otherModule otherClass = .ok table →
      moduleName = otherModule ∧ className = otherClass

namespace Sound

theorem empty : ({} : CallSites σ).Sound where
  known _ _ _ found := nomatch found
  apart _ _ _ _ _ found := nomatch found

/-- The directory stays sound when it leads nowhere else than before. -/
theorem of_resolve (sound : sites.Sound) (tables : sites.names.length ≤ after.names.length)
    (leads : ∀ moduleName className table, after.resolve moduleName className = .ok table →
      sites.resolve moduleName className = .ok table) : after.Sound where
  known moduleName className table found :=
    Nat.lt_of_lt_of_le (sound.known _ _ _ (leads moduleName className table found)) tables
  apart _ _ _ _ _ found also := sound.apart _ _ _ _ _ (leads _ _ _ found) (leads _ _ _ also)

/-- The directory stays sound when one more part leads to the table that was just made. -/
theorem of_newTable (sound : sites.Sound) (moduleName : String) (className : Option String)
    (tables : after.names.length = sites.names.length + 1)
    (leads : ∀ moduleName' className' (table : Nat), after.resolve moduleName' className' = .ok table →
      sites.resolve moduleName' className' = .ok table ∨
        moduleName' = moduleName ∧ className' = className ∧ table = sites.names.length) :
    after.Sound where
  known moduleName' className' table found := by
    obtain before | ⟨-, -, rfl⟩ := leads _ _ _ found
    · have exist := sound.known _ _ _ before
      omega
    · omega
  apart first firstClass second secondClass table found also := by
    obtain before | ⟨rfl, rfl, rfl⟩ := leads _ _ _ found
    · obtain other | ⟨-, -, rfl⟩ := leads _ _ _ also
      · exact sound.apart _ _ _ _ _ before other
      · have exist := sound.known _ _ _ before
        omega
    · obtain other | ⟨rfl, rfl, -⟩ := leads _ _ _ also
      · have exist := sound.known _ _ _ other
        omega
      · exact ⟨rfl, rfl⟩

theorem of_modules (sound : sites.Sound) (tables : after.names = sites.names)
    (same : after.modules = sites.modules) : after.Sound := by
  refine sound.of_resolve (Nat.le_of_eq (congrArg List.length tables.symm)) ?_
  intro moduleName className table found
  rwa [resolve_of_modules same] at found

theorem set (sound : sites.Sound) (table : TableId) (member : String) (handler : Handler σ) :
    (sites.set table member handler).Sound :=
  sound.of_modules rfl rfl

theorem newTable (sound : sites.Sound) (name : String) : (sites.newTable name).2.Sound := by
  refine sound.of_resolve ?_ fun _ _ _ found => found
  simp [CallSites.newTable]

theorem unregister (sound : sites.Sound) (moduleName : String) :
    (sites.unregister moduleName).Sound :=
  sound.of_resolve (Nat.le_refl _) fun _ _ _ found => (resolve_unregister.mp found).2

theorem ensureModule (sound : sites.Sound) (moduleName : String) :
    (sites.ensureModule moduleName).2.Sound := by
  cases known : KeyedList.find? moduleName sites.modules with
  | some entry =>
    rw [ensureModule_of_known known]
    exact sound
  | none =>
    refine sound.of_newTable moduleName none ?_ fun _ _ _ => (resolve_ensureModule_of_new known).mp
    simp [CallSites.ensureModule, known, CallSites.newTable]

theorem ensureTable (sound : sites.Sound) (moduleName : String) (className : Option String) :
    (sites.ensureTable moduleName className).2.Sound := by
  have first := sound.ensureModule moduleName
  cases className with
  | none => exact first
  | some className =>
    cases known : KeyedList.find? className (sites.ensureModule moduleName).1.classes with
    | some table =>
      rw [ensureTable_of_known known]
      exact first
    | none =>
      refine first.of_newTable moduleName (some className) ?_ fun _ _ _ => (resolve_ensureTable_of_new known).mp
      simp [CallSites.ensureTable, known, CallSites.newTable]

theorem register (sound : sites.Sound) (moduleName : String) (className : Option String)
    (member : String) (handler : Handler σ) :
    (sites.register moduleName className member handler).2.Sound :=
  (sound.ensureTable moduleName className).set _ _ _

end Sound

end CallSites

/-! ## What the host does -/

/-- What the host does to the directory. -/
inductive HostWrite (σ : Type) where
  | newTable (name : String)
  | register (moduleName : String) (className : Option String) (member : String) (handler : Handler σ)
  | set (table : TableId) (member : String) (handler : Handler σ)
  | unregister (moduleName : String)

namespace HostWrite

variable {σ : Type}

def apply (sites : CallSites σ) : HostWrite σ → CallSites σ
  | newTable name => (sites.newTable name).2
  | register moduleName className member handler => (sites.register moduleName className member handler).2
  | set table member handler => sites.set table member handler
  | unregister moduleName => sites.unregister moduleName

/-- The handler that is installed. -/
def handler? : HostWrite σ → Option (Handler σ)
  | register _ _ _ handler => some handler
  | set _ _ handler => some handler
  | newTable _ => none
  | unregister _ => none

theorem apply_sound {sites : CallSites σ} (sound : sites.Sound) (write : HostWrite σ) :
    (write.apply sites).Sound := by
  cases write with
  | newTable name => exact sound.newTable name
  | register moduleName className member handler => exact sound.register moduleName className member handler
  | set table member handler => exact sound.set table member handler
  | unregister moduleName => exact sound.unregister moduleName

/-- A write leaves the handler of a place, or installs its own there. -/
theorem get?_apply (write : HostWrite σ) (sites : CallSites σ) (table : TableId) (member : String) :
    (write.apply sites).get? table member = sites.get? table member ∨
      (write.apply sites).get? table member = write.handler? ∧ write.handler?.isSome = true := by
  cases write with
  | newTable name => exact .inl rfl
  | unregister moduleName => exact .inl rfl
  | set owner name handler =>
    rw [apply, CallSites.get?_set]
    split
    · exact .inr ⟨rfl, rfl⟩
    · exact .inl rfl
  | register moduleName className name handler =>
    rw [apply, CallSites.get?_register]
    split
    · exact .inr ⟨rfl, rfl⟩
    · exact .inl rfl

end HostWrite

end LlmTelemetry
