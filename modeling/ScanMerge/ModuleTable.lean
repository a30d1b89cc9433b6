import ScanMerge.Project

/-!
The modules of a run. The first module that is registered under a key stays.
-/

set_option autoImplicit false

namespace ScanMerge

/-- The answer to registering a module. -/
inductive ModuleRegistration where
  /-- The key was not registered before. -/
  | new
  /-- The same module is registered. -/
  | unchanged
  /-- Another module is registered under the key. -/
  | conflicting (kept : Module)
  deriving DecidableEq, Repr

/-- The modules of a run, by key. -/
abbrev ModuleTable : Type :=
  KeyMap Module

namespace ModuleTable

def register (table : ModuleTable) (module : Module) : ModuleRegistration × ModuleTable :=
  match table.get? module.key with
  | none => (.new, table.insert module.key module)
  | some kept => if kept.same module then (.unchanged, table) else (.conflicting kept, table)

/-- The project type of a module; unknown when no module has the key. -/
def projectType (table : ModuleTable) (moduleKey : String) : ProjectType :=
  ((table.get? moduleKey).map Module.projectType).getD .unknown

def count (table : ModuleTable) (projectType : ProjectType) : Nat :=
  table.values.countP (·.projectType = projectType)

/-- The numbers of modules of each project type. -/
def counts (table : ModuleTable) : ModuleCounts :=
  ⟨table.count .main, table.count .test, table.count .unknown⟩

end ModuleTable

end ScanMerge
