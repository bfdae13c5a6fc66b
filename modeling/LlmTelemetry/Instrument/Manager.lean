import LlmTelemetry.Instrument.CallSites
/-!
# Managers

A manager installs the wrappers of one interceptor and puts the handlers back that were there before. It
keeps one patch under the dotted name of each target; a target whose name is taken is passed over, and one
that can not be patched is told in a notice. Instrumenting twice, or taking back twice, does nothing more.
-/

namespace LlmTelemetry

/-- A wrapper that is installed, with the handler that it replaced. -/
structure Patch (σ : Type) where
  owner : TableId
  member : String
  replaced : Handler σ

structure Manager (σ : Type) where
  interceptor : Interceptor σ
  patches : KeyedList String (Patch σ) := []
  instrumented : Bool := false

structure Patched (σ α : Type) where
  value : α
  sites : CallSites σ
  notices : List Notice

namespace CallSites

variable {σ : Type}

/-- What stands at a target. -/
def findTarget (sites : CallSites σ) (target : PatchTarget) :
    Except ResolveError (TableId × Handler σ) := do
  let owner ← sites.resolve target.moduleName target.className
  let handler ← sites.handlerOfKind ⟨owner, target.member⟩ target.isAsync
  return (owner, handler)

def wrap (sites : CallSites σ) (interceptor : Interceptor σ) (target : PatchTarget) :
    Except ResolveError (Patch σ × CallSites σ) := do
  let (owner, replaced) ← sites.findTarget target
  let wrapper := Handler.wrapper sites.wrappers interceptor replaced
  let sites := { sites.set owner target.member wrapper with wrappers := sites.wrappers + 1 }
  return (⟨owner, target.member, replaced⟩, sites)

def restore (sites : CallSites σ) (patch : Patch σ) : CallSites σ :=
  sites.set patch.owner patch.member patch.replaced

end CallSites

namespace Manager

variable {σ : Type}

def new (interceptor : Interceptor σ) : Manager σ :=
  { interceptor := interceptor }

/-- Patch one target, unless there is a patch under its name. -/
def patchTarget (interceptor : Interceptor σ)
    (state : Patched σ (KeyedList String (Patch σ))) (target : PatchTarget) :
    Patched σ (KeyedList String (Patch σ)) :=
  if KeyedList.contains target.key state.value then state
  else
    match state.sites.wrap interceptor target with
    | .ok (patch, sites) =>
      { state with value := KeyedList.put target.key patch state.value, sites := sites }
    | .error reason =>
      { state with notices := state.notices ++ [.skipped target.key reason] }

def patchAll (interceptor : Interceptor σ) (targets : List PatchTarget)
    (patches : KeyedList String (Patch σ)) (sites : CallSites σ) :
    Patched σ (KeyedList String (Patch σ)) :=
  targets.foldl (patchTarget interceptor) ⟨patches, sites, []⟩

/-- Install the wrappers. Aborts before it changes anything when the interceptor aborts. -/
def instrument (manager : Manager σ) (sites : CallSites σ) :
    Except Panic (Patched σ (Manager σ)) :=
  if manager.instrumented then .ok ⟨manager, sites, []⟩
  else
    match manager.interceptor.targets with
    | .error reason => .error reason
    | .ok targets =>
      let patched := patchAll manager.interceptor targets manager.patches sites
      let notice := Notice.instrumented manager.interceptor.provider patched.value.length
      .ok {
        value := { manager with patches := patched.value, instrumented := true }
        sites := patched.sites
        notices := patched.notices ++ [notice] }

/-- Put every replaced handler back. -/
def uninstrument (manager : Manager σ) (sites : CallSites σ) : Patched σ (Manager σ) :=
  if manager.instrumented then
    { value := { manager with patches := [], instrumented := false }
      sites := manager.patches.foldl (fun sites entry => sites.restore entry.2) sites
      notices := [.uninstrumented manager.interceptor.provider] }
  else ⟨manager, sites, []⟩

end Manager

end LlmTelemetry
