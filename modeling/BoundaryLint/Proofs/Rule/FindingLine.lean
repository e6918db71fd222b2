import BoundaryLint.Proofs.Source.Outcome
import BoundaryLint.Proofs.Tree.Visit
import BoundaryLint.Rule.Catalog
import Mathlib

/-!
Where rules find something. Whatever its options are, a rule points at the line of a node of the file, or at the
first line when the file as a whole is at fault.
-/

namespace BoundaryLint

/-- A line that a file shows: the first one, or that of a node. -/
def SourceUnit.Shows (unit : SourceUnit) (line : Nat) : Prop := line = 1 ∨ line ∈ Node.listLines unit.tree.body

theorem SourceUnit.shows_node {unit : SourceUnit} {node : Node} (mem : node ∈ unit.nodes) : unit.Shows node.line :=
  .inr (unit.tree.lines_nodes_subset node mem node.line_mem_lines)

namespace Rule

def Points [Host] (rule : Rule) : Prop :=
  ∀ inspection, Outcome (fun findings => ∀ finding ∈ findings, inspection.unit.Shows finding.line) (fun _ => True)
    (rule.inspect inspection)

section Visitors

variable {inspection : Inspection}

/-- A rule that reads options first. -/
theorem shows_of_bind {α : Type} {step : Except RuleFault α} {inspect : α → Except RuleFault (List Finding)}
    {good : List Finding → Prop} (later : ∀ value, Outcome good (fun _ => True) (inspect value)) :
    Outcome good (fun _ => True) (step >>= inspect) :=
  Outcome.bind (.any step) fun value _ => later value

theorem shows_visiting {visit : Node → List Finding}
    (here : ∀ node, ∀ finding ∈ visit node, finding.line = node.line) :
    Outcome (fun findings => ∀ finding ∈ findings, inspection.unit.Shows finding.line) (fun _ => True)
      (visiting visit inspection) := by
  intro finding mem
  obtain ⟨node, visited, found⟩ := List.mem_flatMap.mp mem
  rw [here node finding found]
  exact SourceUnit.shows_node visited

theorem line_of_call? {node : Node} {call : Call} (found : node.call? = some call) : call.line = node.line := by
  cases node <;> cases found
  rfl

theorem shows_visitingCalls {visit : Call → List Finding}
    (here : ∀ call, ∀ finding ∈ visit call, finding.line = call.line) :
    Outcome (fun findings => ∀ finding ∈ findings, inspection.unit.Shows finding.line) (fun _ => True)
      (visitingCalls visit inspection) := by
  refine shows_visiting ?_
  intro node finding mem
  cases node with
  | call target function args block elseBlock line => exact here _ finding mem
  | _ => cases mem

theorem line_of_mem_map {α : Type} {items : List α} {find : α → Finding} {line : Nat}
    (same : ∀ item, (find item).line = line) : ∀ finding ∈ items.map find, finding.line = line := by
  intro finding mem
  obtain ⟨item, -, rfl⟩ := List.mem_map.mp mem
  exact same item

end Visitors

section Nodes

theorem points_noInfrastructureInDomainEntities [Host] : noInfrastructureInDomainEntities.Points := by
  intro inspection
  refine shows_of_bind fun namespaces => shows_of_bind fun services => shows_visiting ?_
  intro node
  unfold infrastructureUses
  split
  · exact line_of_mem_map fun _ => rfl
  · split
    · next call same =>
      cases node <;> cases same
      split
      · exact fun finding mem => by cases List.mem_singleton.mp mem; rfl
      · simp
    · simp

theorem points_noEnvInRuntime [Host] : noEnvInRuntime.Points := by
  intro inspection
  refine shows_visitingCalls ?_
  intro call
  split
  · exact fun finding mem => by cases List.mem_singleton.mp mem; rfl
  · simp

theorem points_domainTestPurity [Host] : domainTestPurity.Points := by
  intro inspection
  refine shows_visiting ?_
  intro node
  split
  · exact line_of_mem_map fun _ => rfl
  · simp

theorem points_noInfrastructureAliasInApplication [Host] : noInfrastructureAliasInApplication.Points := by
  intro inspection
  refine shows_of_bind fun patterns => shows_visiting ?_
  intro node
  split
  · exact line_of_mem_map fun _ => rfl
  · simp

theorem points_crossContextAccess [Host] (id label : String) (kind : PrivateKind) (excluded : List String) :
    (crossContextAccess id label kind excluded).Points := by
  intro inspection
  simp only [crossContextAccess]
  split
  · exact fun _ mem => by cases mem
  · refine shows_visiting ?_
    intro node finding mem
    obtain ⟨ref, -, found⟩ := List.mem_filterMap.mp mem
    obtain ⟨context, -, rfl⟩ := Option.map_eq_some_iff.mp found
    rfl

theorem points_noCrossContextSchemaAccess [Host] : noCrossContextSchemaAccess.Points := by
  intro inspection
  refine shows_of_bind fun owners => ?_
  split
  · exact fun _ mem => by cases mem
  · exact shows_visitingCalls fun call => line_of_mem_map fun _ => rfl

theorem points_noDateTimeNowInDomain [Host] : noDateTimeNowInDomain.Points := by
  intro inspection finding mem
  obtain ⟨call, read, rfl⟩ := List.mem_map.mp mem
  obtain ⟨occurrence, visited, found⟩ := List.mem_filterMap.mp read
  have inside := Occurrence.lines_ofBody_subset inspection.unit.tree.body occurrence visited
  have line : call.line = occurrence.node.line := by
    split at found
    · cases found
    · next same =>
      split at found
      · cases found
        exact line_of_call? same
      · cases found
  refine .inr (inside ?_)
  show call.line ∈ _
  rw [line]
  exact occurrence.node.line_mem_lines

theorem lines_helperBody? {node : Node} {body : List Node} (found : helperBody? node = some body) :
    Node.listLines body ⊆ node.lines := by
  cases node with
  | definition kind name params inner guard line =>
    simp only [helperBody?] at found
    split at found
    · cases found
      refine List.Subset.trans ?_ (Node.lines_children_subset _)
      simp only [Node.children, Node.listLines_append]
      exact List.subset_append_right _ _
    · cases found
  | _ => cases found

theorem points_useCaseConsistentInjection [Host] : useCaseConsistentInjection.Points := by
  intro inspection
  refine shows_of_bind fun patterns => ?_
  intro finding mem
  obtain ⟨body, helper, own⟩ := List.mem_flatMap.mp mem
  obtain ⟨dependency, direct, rfl⟩ := List.mem_map.mp own
  obtain ⟨definition, visited, same⟩ := List.mem_filterMap.mp helper
  obtain ⟨node, below, called⟩ := List.mem_filterMap.mp direct
  have line : dependency.2 = node.line := by
    split at called
    · split at called
      · cases called
        rfl
      · cases called
    · cases called
  refine .inr ?_
  show dependency.2 ∈ _
  rw [line]
  apply inspection.unit.tree.lines_nodes_subset definition visited
  apply lines_helperBody? same
  exact Node.lines_walkOutside_subset isKeywordGet body node below node.line_mem_lines

end Nodes

section Transactions

theorem lines_clauseBody {place : List Nat} {node : Node} :
    ∀ inner ∈ clauseBody place node, inner.node.lines ⊆ node.lines := by
  intro inner mem
  cases node with
  | clause params body guard line =>
    have below := Occurrence.lines_walk_subset _ inner mem
    rw [Occurrence.map_node_numbered] at below
    refine List.Subset.trans below (List.Subset.trans ?_ (Node.lines_children_subset _))
    simp only [Node.children, Node.listLines_append]
    exact List.subset_append_right _ _
  | _ => cases mem

theorem lines_arg_subset {node arg : Node} {call : Call} (same : node.call? = some call) (mem : arg ∈ call.args) :
    arg.lines ⊆ node.lines := by
  cases node <;> cases same
  refine List.Subset.trans ?_ (Node.lines_children_subset _)
  intro line inside
  exact Node.mem_listLines.mpr ⟨arg, by simp [Node.children, mem], inside⟩

theorem lines_transactionBody? {occurrence : Occurrence} {inside : List Occurrence}
    (found : transactionBody? occurrence = some inside) :
    ∀ inner ∈ inside, inner.node.lines ⊆ occurrence.node.lines := by
  unfold transactionBody? at found
  split at found
  · cases found
  next call same =>
  split at found
  · next clauses line rest args =>
    split at found
    · cases found
      intro inner mem
      obtain ⟨clause, numbered, body⟩ := List.mem_flatMap.mp mem
      have closure : Node.anonymous clauses line ∈ call.args := by simp [args]
      refine List.Subset.trans (lines_clauseBody inner body) (List.Subset.trans ?_ (lines_arg_subset same closure))
      refine List.Subset.trans ?_ (Node.lines_children_subset _)
      intro line inside
      exact Node.mem_listLines.mpr ⟨clause.node, Occurrence.node_mem_of_mem_numbered numbered, inside⟩
    · cases found
  · cases found

theorem lines_newBroadcasts {lines : List Nat} {reported : List (List Nat)} {transaction : Nat}
    {occurrences : List Occurrence} (inside : ∀ occurrence ∈ occurrences, occurrence.node.lines ⊆ lines) :
    ∀ found ∈ newBroadcasts reported transaction occurrences, found.2.line ∈ lines := by
  intro found mem
  obtain ⟨occurrence, visited, same⟩ := List.mem_filterMap.mp mem
  split at same
  · cases same
  · obtain ⟨trigger, -, rfl⟩ := Option.map_eq_some_iff.mp same
    exact inside occurrence visited occurrence.node.line_mem_lines

/-- Broadcasts are found inside of transactions only, however many transactions were looked at before. -/
theorem lines_transactionBroadcasts {lines : List Nat} (reported : List (List Nat)) (occurrences : List Occurrence)
    (inside : ∀ occurrence ∈ occurrences, occurrence.node.lines ⊆ lines) :
    ∀ finding ∈ transactionBroadcasts reported occurrences, finding.line ∈ lines := by
  fun_induction transactionBroadcasts reported occurrences with
  | case1 => simp
  | case2 reported occurrence rest _ ih => exact ih (List.forall_mem_cons.mp inside).2
  | case3 reported occurrence rest body found broadcasts ih =>
    obtain ⟨here, later⟩ := List.forall_mem_cons.mp inside
    intro finding mem
    rcases List.mem_append.mp mem with own | other
    · obtain ⟨broadcast, new, rfl⟩ := List.mem_map.mp own
      refine lines_newBroadcasts ?_ broadcast new
      exact fun inner among => List.Subset.trans (lines_transactionBody? found inner among) here
    · exact ih later finding other

theorem points_noBroadcastInTransaction [Host] : noBroadcastInTransaction.Points := by
  intro inspection finding mem
  exact .inr (lines_transactionBroadcasts [] _ (Occurrence.lines_ofBody_subset inspection.unit.tree.body) finding mem)

end Transactions

section Boundaries

theorem line_of_directive? {node : Node} {directive : Boundary.Directive}
    (found : Boundary.directive? node = some directive) : directive.line = node.line := by
  unfold Boundary.directive? at found
  split at found
  · split at found
    · cases found
      rfl
    · cases found
  · cases found

theorem lines_directives {nodes : List Node} {directive : Boundary.Directive}
    (found : nodes.findSome? Boundary.directive? = some directive) : directive.line ∈ Node.listLines nodes := by
  obtain ⟨node, mem, same⟩ := List.exists_of_findSome?_eq_some found
  rw [line_of_directive? same]
  exact Node.mem_listLines.mpr ⟨node, mem, node.line_mem_lines⟩

/-- The directive that declares a boundary is a node of the file. -/
theorem shows_findDirective? {tree : SyntaxTree} {name : Option ModuleRef} {directive : Boundary.Directive}
    (found : Boundary.findDirective? tree = some (name, directive)) :
    directive.line ∈ Node.listLines tree.body := by
  unfold Boundary.findDirective? at found
  dsimp only at found
  split at found
  · next inModules =>
    cases found
    obtain ⟨node, visited, same⟩ := List.exists_of_findSome?_eq_some inModules
    split at same
    · next name body line =>
      obtain ⟨given, among, pair⟩ := Option.map_eq_some_iff.mp same
      cases pair
      apply tree.lines_nodes_subset _ visited
      exact Node.lines_children_subset _ (lines_directives among)
    · cases same
  · obtain ⟨given, among, pair⟩ := Option.map_eq_some_iff.mp found
    cases pair
    exact lines_directives among

theorem line_of_publicApiFindings {appModule : String} {directive : Boundary.Directive}
    {declaration : Option Declaration} :
    ∀ finding ∈ publicApiFindings appModule directive declaration, finding.line = directive.line := by
  intro finding mem
  simp only [publicApiFindings, List.mem_append] at mem
  rcases mem with (mem | mem) | mem <;> split at mem <;> simp_all

theorem points_publicApiBoundary [Host] : publicApiBoundary.Points := by
  intro inspection
  simp only [publicApiBoundary]
  split
  · next name directive found =>
    intro finding mem
    rw [line_of_publicApiFindings finding mem]
    exact .inr (shows_findDirective? found)
  · intro finding mem
    cases List.mem_singleton.mp mem
    cases first : inspection.unit.tree.modules.head? with
    | none => exact .inl rfl
    | some module =>
      obtain ⟨node, visited, same⟩ := List.mem_filterMap.mp (List.mem_of_head? first)
      split at same
      · cases same
        exact SourceUnit.shows_node visited
      · cases same

end Boundaries

section Files

theorem line_of_servicePlacement {project : ProjectPath} {path name : String} :
    ∀ finding ∈ servicePlacement project path name, finding.line = 1 := by
  intro finding mem
  simp only [servicePlacement] at mem
  repeat' split at mem
  all_goals first
    | cases List.mem_singleton.mp mem; rfl
    | cases mem

theorem points_servicesInCorrectLayer [Host] : servicesInCorrectLayer.Points := by
  intro inspection
  simp only [servicesInCorrectLayer]
  split
  · exact fun _ mem => by cases mem
  · exact fun finding mem => .inl (line_of_servicePlacement finding mem)

theorem shows_misplaced {unit : SourceUnit} (headline destination trigger : String) :
    ∀ finding ∈ [misplaced headline destination trigger], unit.Shows finding.line := by
  intro finding mem
  cases List.mem_singleton.mp mem
  exact .inl rfl

theorem points_infrastructureOrganization [Host] : infrastructureOrganization.Points := by
  intro inspection
  simp only [infrastructureOrganization]
  split
  · split
    · exact fun _ mem => by cases mem
    · exact shows_misplaced _ _ _
  · exact fun _ mem => by cases mem

theorem points_useCasesInApplicationLayer [Host] : useCasesInApplicationLayer.Points := by
  intro inspection
  simp only [useCasesInApplicationLayer]
  split
  · exact fun _ mem => by cases mem
  split
  · exact fun _ mem => by cases mem
  split
  · trivial
  · exact shows_misplaced _ _ _

theorem points_policiesInCorrectLayer [Host] : policiesInCorrectLayer.Points := by
  intro inspection
  simp only [policiesInCorrectLayer]
  split
  · exact fun _ mem => by cases mem
  split
  · exact fun _ mem => by cases mem
  · exact shows_misplaced _ _ _

theorem points_missingQueriesModule [Host] : missingQueriesModule.Points := by
  intro inspection
  refine shows_of_bind fun templates => shows_of_bind fun candidates => ?_
  split
  · exact fun _ mem => by cases mem
  · intro finding mem
    cases List.mem_singleton.mp mem
    exact .inl rfl

theorem points_architecturalLayersDefined [Host] : architecturalLayersDefined.Points := by
  intro inspection
  simp only [architecturalLayersDefined]
  split
  · exact fun _ mem => by cases mem
  · refine shows_of_bind fun excluded => ?_
    split
    · exact fun _ mem => by cases mem
    · refine shows_of_bind fun files => ?_
      intro finding mem
      obtain ⟨file, -, rfl⟩ := List.mem_map.mp mem
      exact .inl rfl

end Files

/-- No rule, with whatever options, points at a line that is none of the file. -/
theorem points_all [Host] : ∀ rule ∈ all, rule.Points := by
  intro rule mem
  simp only [all, List.mem_cons, List.not_mem_nil, or_false] at mem
  rcases mem with rfl | rfl | rfl | rfl | rfl | rfl | rfl | rfl | rfl | rfl | rfl | rfl | rfl | rfl | rfl | rfl | rfl |
    rfl | rfl | rfl | rfl | rfl | rfl | rfl | rfl | rfl | rfl | rfl
  · exact fun _ => shows_visiting fun node => line_of_mem_map fun _ => rfl
  · exact fun _ => shows_visitingCalls fun call => line_of_mem_map fun _ => rfl
  · exact points_noInfrastructureInDomainEntities
  · exact fun _ => shows_visiting fun node => line_of_mem_map fun _ => rfl
  · exact points_noDateTimeNowInDomain
  · exact fun _ => shows_visitingCalls fun call => line_of_mem_map fun _ => rfl
  · exact points_noEnvInRuntime
  · exact fun _ => shows_of_bind fun _ => shows_of_bind fun _ => shows_visiting fun node => line_of_mem_map fun _ => rfl
  · exact points_domainTestPurity
  · exact fun _ => shows_visiting fun node => line_of_mem_map fun _ => rfl
  · exact fun _ => shows_visitingCalls fun call => line_of_mem_map fun _ => rfl
  · exact points_noInfrastructureAliasInApplication
  · exact fun _ => shows_visitingCalls fun call => line_of_mem_map fun _ => rfl
  · exact fun _ => shows_of_bind fun _ => shows_visiting fun node => line_of_mem_map fun _ => rfl
  · exact fun _ => shows_visiting fun node => line_of_mem_map fun _ => rfl
  · exact points_useCaseConsistentInjection
  · exact points_noBroadcastInTransaction
  · exact points_crossContextAccess _ _ _ _
  · exact points_crossContextAccess _ _ _ _
  · exact points_noCrossContextSchemaAccess
  · exact fun _ => shows_visiting fun node => line_of_mem_map fun _ => rfl
  · exact points_servicesInCorrectLayer
  · exact points_infrastructureOrganization
  · exact points_useCasesInApplicationLayer
  · exact points_policiesInCorrectLayer
  · exact points_missingQueriesModule
  · exact points_architecturalLayersDefined
  · exact points_publicApiBoundary

end Rule

end BoundaryLint
