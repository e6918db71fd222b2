import BoundaryLint.Path.Project
import BoundaryLint.SourceUnit

/-!
The context of a boundary module: the directory grouping that owns its domain, application and
infrastructure. Contexts nest, and the module name decides before the path does.
-/

namespace BoundaryLint

namespace Boundary

structure Context where
  /-- The module that the layers of the context stand under. -/
  root : ModuleRef
  directory : String
  layer : Layer
  /-- The directory lies below an app, so that its files can be probed. -/
  located : Bool
deriving DecidableEq, Repr

namespace Context

def domain (context : Context) : ModuleRef := context.root.child "Domain"

def application (context : Context) : ModuleRef := context.root.child "Application"

def applicationLayer (context : Context) : ModuleRef := context.root.child "ApplicationLayer"

def applications (context : Context) : List ModuleRef :=
  [context.application, context.applicationLayer]

def ancestorDomains (context : Context) : List ModuleRef :=
  context.root.ancestors.map fun ancestor => ancestor.child "Domain"

def sibling (context : Context) (file : String) : String :=
  if context.directory = "" then file else s!"{context.directory}/{file}"

end Context

def layerSegments : List String := ["Domain", "Application", "ApplicationLayer", "Infrastructure"]

def layerOfFile? (file : String) : Option Layer :=
  [("domain.ex", Layer.domain), ("application_layer.ex", .application),
    ("application.ex", .application), ("infrastructure.ex", .infrastructure)].lookup file

def lifecycleModule : ModuleRef := ⟨["Application"], by simp, by decide⟩

def usesLifecycle : Node → Bool
  | .directive .using base _ _ _ => base = some lifecycleModule
  | _ => false

/-- The module that starts and stops an app: one with `use Application`, or `<App>.Application`
directly in the app directory. An app directory that gives no module name is refused. -/
def isLifecycleModule (unit : SourceUnit) : Except ModuleRef.Fault Bool :=
  if unit.nodes.any usesLifecycle then .ok true
  else match ProjectPath.locate? unit.path with
    | none => .ok false
    | some project =>
      if project.isTopLevel then do
        let expected ← ModuleRef.ofSegments [project.appModule, "Application"]
        let module := match unit.declaration with
          | some declaration => some declaration.module
          | none => unit.moduleName?
        return module = some expected
      else .ok false

/-- The layer of a boundary module: by its file name, else as classified. The lifecycle module keeps
its classified layer. -/
def layerOf (unit : SourceUnit) : Except ModuleRef.Fault Layer := do
  let named := (layerOfFile? unit.filename).getD unit.layer
  if unit.filename = "application.ex" then
    return if ← isLifecycleModule unit then unit.layer else named
  else return named

def rootOfModule? (module : ModuleRef) : Option ModuleRef :=
  let before := module.segments.takeWhile (!layerSegments.contains ·)
  if before.length < module.segments.length then
    (ModuleRef.ofSegments before).toOption
  else none

/-- The context of a module in a file; none when neither name nor path gives its root. -/
def resolve (unit : SourceUnit) (module : ModuleRef) : Except ModuleRef.Fault (Option Context) :=
  match (rootOfModule? module).or (Path.modulePrefix? unit.path) with
  | none => .ok none
  | some root => do
    let layer ← layerOf unit
    return some ⟨root, Path.contextDirectory unit.path, layer,
      (ProjectPath.locate? unit.path).isSome⟩

end Boundary

end BoundaryLint
