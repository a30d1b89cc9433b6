import ScanMerge.Facts
import ScanMerge.Project

/-!
The methods of a project: for each module that declares any, its distinct methods in order.
-/

set_option autoImplicit false

namespace ScanMerge

/-- An ascending list of distinct methods with one method more. -/
def MethodDeclaration.insert (method : MethodDeclaration) :
    List MethodDeclaration → List MethodDeclaration
  | [] => [method]
  | present :: rest =>
    match method.compare present with
    | .lt => method :: present :: rest
    | .eq => present :: rest
    | .gt => present :: insert method rest

/-- The distinct methods of a list, ascending. -/
def MethodDeclaration.distinct (methods : List MethodDeclaration) : List MethodDeclaration :=
  methods.foldl (fun present method => method.insert present) []

/-- The methods of each module, by module. -/
def ModuleMethods.ofFacts (projectType : String → ProjectType) (facts : Facts MethodDeclaration) :
    List ModuleMethods :=
  facts.entries.map fun entry =>
    { moduleKey := entry.1
      projectType := projectType entry.1
      methods := MethodDeclaration.distinct entry.2 }

end ScanMerge
