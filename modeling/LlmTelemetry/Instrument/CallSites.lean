import LlmTelemetry.Instrument.Handler
import LlmTelemetry.Instrument.Notice
/-!
# Call sites

Calls go through tables of handlers. A module has a table for its functions and one for each of its
classes, made when something is first registered there. A call site keeps its table even when the module
is forgotten, and always calls what is installed in the table now.
-/

namespace LlmTelemetry

/-- The name of a table in the store of all tables. -/
abbrev TableId := Nat

structure ModuleEntry where
  functions : TableId
  classes : KeyedList String TableId := []
deriving DecidableEq

/-- All tables and the directory of modules. -/
structure CallSites (σ : Type) where
  /-- The names of the tables, by number. -/
  names : List String := []
  entries : KeyedList (TableId × String) (Handler σ) := []
  modules : KeyedList String ModuleEntry := []
  /-- How many wrappers were made. -/
  wrappers : Nat := 0

structure CallSite where
  table : TableId
  member : String
deriving DecidableEq

namespace CallSites

variable {σ : Type}

/-! ## Tables -/

def newTable (sites : CallSites σ) (name : String) : TableId × CallSites σ :=
  (sites.names.length, { sites with names := sites.names ++ [name] })

def tableName (sites : CallSites σ) (table : TableId) : String :=
  sites.names[table]?.getD ""

/-- The handler that is installed in a table. -/
def get? (sites : CallSites σ) (table : TableId) (member : String) : Option (Handler σ) :=
  KeyedList.find? (table, member) sites.entries

def set (sites : CallSites σ) (table : TableId) (member : String) (handler : Handler σ) :
    CallSites σ :=
  { sites with entries := KeyedList.put (table, member) handler sites.entries }

/-- The handler that is installed in a table, or why there is none. -/
def handler (sites : CallSites σ) (site : CallSite) : Except ResolveError (Handler σ) :=
  match sites.get? site.table site.member with
  | some handler => .ok handler
  | none => .error (.member (sites.tableName site.table) site.member)

/-- The handler of the given kind. -/
def handlerOfKind (sites : CallSites σ) (site : CallSite) (isAsync : Bool) :
    Except ResolveError (Handler σ) :=
  match sites.handler site with
  | .error reason => .error reason
  | .ok handler =>
    if handler.isAsync = isAsync then .ok handler
    else .error (.kind (sites.tableName site.table) site.member isAsync)

/-! ## Modules -/

def hasModule (sites : CallSites σ) (moduleName : String) : Bool :=
  KeyedList.contains moduleName sites.modules

/-- The entry of a module, made when it is not there. -/
def ensureModule (sites : CallSites σ) (moduleName : String) : ModuleEntry × CallSites σ :=
  match KeyedList.find? moduleName sites.modules with
  | some entry => (entry, sites)
  | none =>
    let (functions, sites) := sites.newTable moduleName
    let entry : ModuleEntry := { functions := functions }
    (entry, { sites with modules := KeyedList.put moduleName entry sites.modules })

/-- The table of a module or of one of its classes, made when it is not there. -/
def ensureTable (sites : CallSites σ) (moduleName : String) (className : Option String) :
    TableId × CallSites σ :=
  let (entry, sites) := sites.ensureModule moduleName
  match className with
  | none => (entry.functions, sites)
  | some className =>
    match KeyedList.find? className entry.classes with
    | some table => (table, sites)
    | none =>
      let (table, sites) := sites.newTable (moduleName ++ "." ++ className)
      let entry := { entry with classes := KeyedList.put className table entry.classes }
      (table, { sites with modules := KeyedList.put moduleName entry sites.modules })

/-- Install a handler in a module or a class, and give the call site. -/
def register (sites : CallSites σ) (moduleName : String) (className : Option String)
    (member : String) (handler : Handler σ) : CallSite × CallSites σ :=
  let (table, sites) := sites.ensureTable moduleName className
  (⟨table, member⟩, sites.set table member handler)

def resolve (sites : CallSites σ) (moduleName : String) (className : Option String) :
    Except ResolveError TableId :=
  match KeyedList.find? moduleName sites.modules, className with
  | none, _ => .error (.module moduleName)
  | some entry, none => .ok entry.functions
  | some entry, some className =>
    match KeyedList.find? className entry.classes with
    | some table => .ok table
    | none => .error (.cls moduleName className)

def callSite (sites : CallSites σ) (moduleName : String) (className : Option String)
    (member : String) : Except ResolveError CallSite := do
  let table ← sites.resolve moduleName className
  let _ ← sites.handler ⟨table, member⟩
  return ⟨table, member⟩

/-- Forget a module and its classes. Their tables stay for the call sites that have them. -/
def unregister (sites : CallSites σ) (moduleName : String) : CallSites σ :=
  { sites with modules := KeyedList.erase moduleName sites.modules }

end CallSites

end LlmTelemetry
