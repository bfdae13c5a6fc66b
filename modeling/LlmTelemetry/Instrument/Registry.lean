import LlmTelemetry.Instrument.Manager
import LlmTelemetry.Provider.Anthropic
import LlmTelemetry.Provider.OpenAI
/-!
# The registry of providers

For each provider a factory that makes its interceptor, and a manager while the provider is active. To
activate a provider never fails: names that are unknown, factories that fail and code that aborts are told
in notices, and leave everything as it was.
-/

namespace LlmTelemetry

/-- Makes the interceptor of a provider, or tells why it is not available. -/
abbrev Factory (σ : Type) := CallSites σ → Ending String (Interceptor σ)

structure Registry (σ : Type) where
  factories : KeyedList String (Factory σ) := []
  active : KeyedList String (Manager σ) := []

/-- The factory of a provider that is available once the application has registered its module. -/
def Provider.factory {σ : Type} (provider : Provider) (moduleName : String) : Factory σ :=
  fun sites =>
    if sites.hasModule moduleName then .ok provider.interceptor
    else .error (.error ("no call sites registered for '" ++ moduleName ++ "'"))

namespace Registry

variable {σ : Type}

/-- Add a factory, in the place of one of the same name. -/
def provide (registry : Registry σ) (name : String) (factory : Factory σ) : Registry σ :=
  { registry with factories := KeyedList.insertSorted name factory registry.factories }

def builtin : Registry σ :=
  ({} : Registry σ)
    |>.provide Provider.OpenAI.providerName (Provider.openai.factory Provider.OpenAI.moduleName)
    |>.provide Provider.Anthropic.providerName
      (Provider.anthropic.factory Provider.Anthropic.moduleName)

def registered (registry : Registry σ) : List String :=
  KeyedList.keys registry.factories

def activeNames (registry : Registry σ) : List String :=
  KeyedList.keys registry.active

def build (factory : Factory σ) (sites : CallSites σ) : Ending String (Patched σ (Manager σ)) :=
  match factory sites with
  | .error fault => .error fault
  | .ok interceptor => Panic.toEnding ((Manager.new interceptor).instrument sites)

/-- A registry on the way, with the names that are active among those asked for. -/
structure Activation (σ : Type) where
  registry : Registry σ
  sites : CallSites σ
  activated : List String := []
  notices : List Notice := []

def activateOne (state : Activation σ) (name : String) : Activation σ :=
  if KeyedList.contains name state.registry.active then
    { state with activated := state.activated ++ [name] }
  else
    match KeyedList.find? name state.registry.factories with
    | none => { state with notices := state.notices ++ [.unknownProvider name] }
    | some factory =>
      match build factory state.sites with
      | .ok built =>
        let active := KeyedList.insertSorted name built.value state.registry.active
        { registry := { state.registry with active := active }
          sites := built.sites
          activated := state.activated ++ [name]
          notices := state.notices ++ built.notices ++ [.providerActivated name] }
      | .error (.error reason) =>
        { state with notices := state.notices ++ [.providerUnavailable name reason] }
      | .error (.panic _) =>
        { state with notices := state.notices ++ [.activationPanicked name] }

/-- Activate the named providers, all of them when there are no names. -/
def activate (registry : Registry σ) (names : Option (List String)) (sites : CallSites σ) :
    Activation σ :=
  (names.getD registry.registered).foldl activateOne { registry := registry, sites := sites }

def deactivateOne (state : Patched σ (Registry σ)) (name : String) : Patched σ (Registry σ) :=
  match KeyedList.find? name state.value.active with
  | none => state
  | some manager =>
    let undone := manager.uninstrument state.sites
    { value := { state.value with active := KeyedList.erase name state.value.active }
      sites := undone.sites
      notices := state.notices ++ undone.notices }

/-- Deactivate the named providers, all that are active when there are no names. -/
def deactivate (registry : Registry σ) (names : Option (List String)) (sites : CallSites σ) :
    Patched σ (Registry σ) :=
  (names.getD registry.activeNames).foldl deactivateOne ⟨registry, sites, []⟩

end Registry

end LlmTelemetry
