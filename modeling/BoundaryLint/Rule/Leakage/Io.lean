import BoundaryLint.Rule.Basic
import BoundaryLint.Rule.Capability

/-!
Domain services and domain tests do no input or output, and running code reads its configuration
instead of the environment.
-/

namespace BoundaryLint.Rule

def serviceRepoFunctions : List String :=
  ["insert", "insert!", "update", "update!", "delete", "delete!", "get", "get!", "get_by", "all",
    "one", "transaction"]

def describeIo? (call : Call) : Option String :=
  match call.module? with
  | none => none
  | some ref =>
    if ref.isRepoLike && serviceRepoFunctions.contains call.function then some "database I/O"
    else if call.isHttp then some "HTTP I/O"
    else if call.isFile then some "file I/O"
    else if Text.contains ref.name "PubSub" &&
        ["broadcast", "broadcast!", "subscribe", "unsubscribe"].contains call.function then
      some "PubSub I/O"
    else if call.isCommand then some "system call"
    else if call.isTo "GenServer" ["call", "cast", "start_link"] then some "process I/O"
    else none

def noIoInDomainServices : Rule where
  id := "no_io_in_domain_services"
  label := "NoIoInDomainServices"
  family := .layerLeakage
  severity := .high
  layers := some [.domain]
  appliesTo _ unit :=
    .ok (Text.contains unit.path "/domain/services/" && !Path.isTest unit.path)
  inspect := visitingCalls fun call =>
    (describeIo? call).toList.map fun description =>
      { message := s!"Domain service contains I/O operation ({description} in domain service). " ++
          "Domain services must be pure functions. Let use cases fetch the data " ++
          "or move the I/O to the infrastructure layer."
        line := call.line
        trigger := call.qualifiedName }

def noEnvInRuntime : Rule where
  id := "no_env_in_runtime"
  label := "NoEnvInRuntime"
  family := .layerLeakage
  category := .warning
  severity := .low
  defaults := [("allowed_paths", textList ["config/runtime.exs", "/release.ex", "lib/mix/tasks/"])]
  appliesTo options unit :=
    if Path.isTest unit.path then .ok false
    else return !Path.containsAny unit.path (← listed options "allowed_paths")
  inspect := visitingCalls fun call =>
    if call.isTo "System" ["get_env", "fetch_env!"] then
      [{ message := s!"Runtime environment variable access with {call.qualifiedName}. " ++
          "Use Application.get_env/3 or Application.compile_env/2 and set " ++
          "environment-driven values in config/runtime.exs."
         line := call.line
         trigger := call.qualifiedName }]
    else []

def domainTestPurity : Rule where
  id := "domain_test_purity"
  label := "DomainTestPurity"
  family := .layerLeakage
  category := .warning
  severity := .high
  appliesTo _ unit :=
    .ok (Text.endsWith unit.path "_test.exs" &&
      (Path.containsAny unit.path ["/policies/", "/services/"] ||
        (Path.isTest unit.path && Text.contains unit.path "/domain/")))
  inspect := visiting fun
    | .directive .using _ refs _ line =>
      (refs.filter (·.last = "DataCase")).map fun ref =>
        { message := s!"Domain test uses {ref.name} but should use ExUnit.Case. " ++
            "Domain tests are pure unit tests with no database access: " ++
            "replace with `use ExUnit.Case, async: true` and keep DataCase for " ++
            "infrastructure tests."
          line
          trigger := s!"use {ref.name}" }
    | _ => []

end BoundaryLint.Rule
