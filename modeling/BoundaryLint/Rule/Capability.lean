import BoundaryLint.Tree.Node

/-!
Calls that reach outside a module: persistence, requests, clocks, files and processes, recognised by
the names of modules and functions.
-/

namespace BoundaryLint

namespace ModuleRef

def isRepo (ref : ModuleRef) : Bool := ref.last = "Repo"

def isRepoLike (ref : ModuleRef) : Bool :=
  Text.endsWith ref.name "Repo" || Text.endsWith ref.name "Repository"

end ModuleRef

namespace Call

def isOf (call : Call) (module : String) : Bool := call.module?.any (·.name = module)

def isTo (call : Call) (module : String) (functions : List String) : Bool :=
  call.isOf module && functions.contains call.function

def isToErlang (call : Call) (module : String) (functions : List String) : Bool :=
  match call.target with
  | some (.atom name _) => name = module && functions.contains call.function
  | _ => false

def isToRepo (call : Call) (functions : List String) : Bool :=
  call.module?.any (·.isRepo) && functions.contains call.function

def httpClients : List String := ["HTTPoison", "Req", "Finch", "HTTPClient", "Tesla", "Mint"]

def httpFunctions : List String := ["get", "post", "put", "delete", "patch", "request"]

def isHttp (call : Call) : Bool :=
  call.module?.any (httpClients.contains ·.name) && httpFunctions.contains call.function

def clockFunctions : List (String × String) :=
  [("DateTime", "utc_now"), ("DateTime", "now"), ("DateTime", "now!"), ("NaiveDateTime", "utc_now"),
    ("NaiveDateTime", "local_now"), ("Date", "utc_today"), ("Time", "utc_now")]

def isClock (call : Call) : Bool :=
  call.module?.any fun ref => clockFunctions.contains (ref.name, call.function)

def isSystemClock (call : Call) : Bool :=
  call.isTo "System" ["system_time", "monotonic_time", "os_time"] ||
    call.isToErlang "os" ["system_time", "timestamp"]

def fileFunctions : List String :=
  ["read", "read!", "write", "write!", "open", "mkdir", "rm", "rm_rf"]

def isFile (call : Call) : Bool := call.isTo "File" fileFunctions

def isCommand (call : Call) : Bool := call.isTo "System" ["cmd", "shell"]

end Call

namespace Node

def referencedModules : Node → List ModuleRef
  | .directive .aliasing _ refs _ _ => refs
  | node => (node.call?.bind (·.module?)).toList

end Node

end BoundaryLint
