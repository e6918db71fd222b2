import BoundaryLint.Rule.Basic
import BoundaryLint.Rule.Capability
import BoundaryLint.Tree.Occurrence

/-!
Broadcasts happen after a transaction commits. Only the closure that a transaction runs is searched,
so a broadcast after the transaction is fine; of nested transactions the outermost one is named.
-/

namespace BoundaryLint.Rule

def clauseBody (place : List Nat) : Node → List Occurrence
  | .clause params body guard _ =>
    Occurrence.walk (Occurrence.numbered place (params.length + guard.toList.length) body)
  | _ => []

def transactionBody? (occurrence : Occurrence) : Option (List Occurrence) :=
  match occurrence.node.call? with
  | none => none
  | some call =>
    match call.args with
    | .anonymous clauses _ :: _ =>
      if call.isToRepo ["transaction", "transact"] then
        let closure := call.target.toList.length :: occurrence.place
        some ((Occurrence.numbered closure 0 clauses).flatMap fun clause =>
          clauseBody clause.place clause.node)
      else none
    | _ => none

def broadcast? (node : Node) : Option String :=
  match node.call? with
  | none => none
  | some call =>
    if call.isTo "Phoenix.PubSub" ["broadcast", "broadcast_from"] then some call.qualifiedName
    else if Text.startsWith call.function "broadcast_" then some call.function
    else none

def broadcastFinding (transaction : Nat) (trigger : String) (line : Nat) : Finding where
  message := s!"Found '{trigger}' inside transaction (line {transaction}). " ++
    "Broadcasts must happen after the transaction commits to avoid " ++
    "notifying about rolled-back data. Move the broadcast after the " ++
    "Repo.transaction/transact block."
  line := line
  trigger := trigger

def newBroadcasts (reported : List (List Nat)) (transaction : Nat) (inside : List Occurrence) :
    List (List Nat × Finding) :=
  inside.filterMap fun occurrence =>
    if reported.contains occurrence.place then none
    else (broadcast? occurrence.node).map fun trigger =>
      (occurrence.place, broadcastFinding transaction trigger occurrence.node.line)

def transactionBroadcasts (reported : List (List Nat)) : List Occurrence → List Finding
  | [] => []
  | occurrence :: rest =>
    match transactionBody? occurrence with
    | none => transactionBroadcasts reported rest
    | some inside =>
      let found := newBroadcasts reported occurrence.node.line inside
      found.map (·.2) ++ transactionBroadcasts (found.map (·.1) ++ reported) rest

def noBroadcastInTransaction : Rule where
  id := "no_broadcast_in_transaction"
  label := "NoBroadcastInTransaction"
  family := .delegationBypass
  category := .warning
  severity := .high
  inspect inspection :=
    .ok (transactionBroadcasts [] (Occurrence.ofBody inspection.unit.tree.body))

end BoundaryLint.Rule
