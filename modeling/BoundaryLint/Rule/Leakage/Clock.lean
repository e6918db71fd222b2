import BoundaryLint.Rule.Basic
import BoundaryLint.Rule.Capability
import BoundaryLint.Tree.Occurrence

/-!
Domain code reads no clock. A clock call that is the default of a parameter or of an option can be
replaced by the caller, so it is allowed there and only there.
-/

namespace BoundaryLint.Rule

def isClockNode (node : Node) : Bool := node.call?.any (·.isClock)

def clockDefault? (occurrence : Occurrence) : Option (List Nat) :=
  match occurrence.node with
  | .binary op _ right _ =>
    if op = "\\\\" && isClockNode right then some (1 :: occurrence.place) else none
  | .call target function [first, second, third] block elseBlock line =>
    let call : Call := ⟨target, function, [first, second, third], block, elseBlock, line⟩
    if call.isTo "Keyword" ["get"] && isClockNode third then
      some ((target.toList.length + 2) :: occurrence.place)
    else none
  | _ => none

def clockReads (body : List Node) : List Call :=
  let occurrences := Occurrence.ofBody body
  let exempt := occurrences.filterMap clockDefault?
  occurrences.filterMap fun occurrence =>
    match occurrence.node.call? with
    | none => none
    | some call =>
      if (call.isClock || call.isSystemClock) && !exempt.contains occurrence.place then some call
      else none

def clockFinding (call : Call) : Finding where
  message := s!"Non-deterministic time call in domain layer ({call.qualifiedName}). " ++
    "Domain policies, entities and services must be deterministic. " ++
    "Accept the current time as a parameter: " ++
    "`def my_function(arg, current_time \\\\ DateTime.utc_now())`."
  line := call.line
  trigger := call.qualifiedName

def noDateTimeNowInDomain : Rule where
  id := "no_datetime_now_in_domain"
  label := "NoDateTimeNowInDomain"
  family := .layerLeakage
  severity := .high
  layers := some [.domain]
  appliesTo _ unit :=
    .ok (Path.containsAny unit.path
        ["/domain/policies/", "/domain/entities/", "/domain/services/"] &&
      Text.endsWith unit.path ".ex" && !Path.isTest unit.path)
  inspect inspection := .ok ((clockReads inspection.unit.tree.body).map clockFinding)

end BoundaryLint.Rule
