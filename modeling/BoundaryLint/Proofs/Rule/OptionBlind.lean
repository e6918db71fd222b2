import BoundaryLint.Proofs.Boundary.Directive
import BoundaryLint.Rule.Catalog
import Mathlib

/-!
No rule sees the options of a directive but through the boundary declaration. Files whose bare trees and
declarations are the same have the same findings.
-/

namespace BoundaryLint

namespace Call

def bare (call : Call) : Call :=
  ⟨Node.optionBare call.target, call.function, Node.listBare call.args, Node.listBare call.block,
    Node.listBare call.elseBlock, call.line⟩

variable (call : Call)

@[simp] theorem function_bare : call.bare.function = call.function := rfl

@[simp] theorem line_bare : call.bare.line = call.line := rfl

@[simp] theorem module?_bare : call.bare.module? = call.module? := by
  obtain ⟨target, function, args, block, elseBlock, line⟩ := call
  cases target with
  | none => rfl
  | some target => cases target <;> rfl

@[simp] theorem qualifiedName_bare : call.bare.qualifiedName = call.qualifiedName := by
  obtain ⟨target, function, args, block, elseBlock, line⟩ := call
  cases target with
  | none => rfl
  | some target => cases target <;> rfl

@[simp] theorem isToErlang_bare (module : String) (functions : List String) :
    call.bare.isToErlang module functions = call.isToErlang module functions := by
  obtain ⟨target, function, args, block, elseBlock, line⟩ := call
  cases target with
  | none => rfl
  | some target => cases target <;> rfl

@[simp] theorem isOf_bare (module : String) : call.bare.isOf module = call.isOf module := by
  simp [isOf]

@[simp] theorem isTo_bare (module : String) (functions : List String) :
    call.bare.isTo module functions = call.isTo module functions := by
  simp [isTo]

@[simp] theorem isToRepo_bare (functions : List String) : call.bare.isToRepo functions = call.isToRepo functions := by
  simp [isToRepo]

@[simp] theorem isHttp_bare : call.bare.isHttp = call.isHttp := by
  simp [isHttp]

@[simp] theorem isClock_bare : call.bare.isClock = call.isClock := by
  simp [isClock]

@[simp] theorem isSystemClock_bare : call.bare.isSystemClock = call.isSystemClock := by
  simp [isSystemClock]

@[simp] theorem isFile_bare : call.bare.isFile = call.isFile := by
  simp [isFile]

@[simp] theorem isCommand_bare : call.bare.isCommand = call.isCommand := by
  simp [isCommand]

end Call

namespace Node

@[simp] theorem call?_bare (node : Node) : node.bare.call? = node.call?.map Call.bare := by
  cases node <;> rfl

@[simp] theorem isMatchHead_bare (node : Node) : node.bare.isMatchHead = node.isMatchHead := by
  cases node <;> rfl

@[simp] theorem referencedModules_bare (node : Node) : node.bare.referencedModules = node.referencedModules := by
  have called : (node.bare.call?.bind (·.module?)).toList = (node.call?.bind (·.module?)).toList := by
    simp [Option.bind_map]
  cases node with
  | directive kind base refs options line => cases kind <;> rfl
  | _ => exact called

end Node

/-- Files that only the options of directives tell apart, and these not through the boundary declaration. -/
structure SourceUnit.Indistinct (unit other : SourceUnit) : Prop where
  path : unit.path = other.path
  layer : unit.layer = other.layer
  declaration : unit.declaration = other.declaration
  body : unit.tree.body.map Node.bare = other.tree.body.map Node.bare
  directive : (Boundary.findDirective? unit.tree).map (·.2.line) = (Boundary.findDirective? other.tree).map (·.2.line)

namespace SourceUnit.Indistinct

variable {unit other : SourceUnit}

theorem filename (same : unit.Indistinct other) : unit.filename = other.filename := by
  rw [SourceUnit.filename, same.path, SourceUnit.filename]

theorem nodes (same : unit.Indistinct other) : unit.nodes.map Node.bare = other.nodes.map Node.bare := by
  rw [SourceUnit.nodes, SyntaxTree.nodes, ← Node.walkAll_bare, same.body, Node.walkAll_bare]
  rfl

theorem occurrences (same : unit.Indistinct other) :
    (Occurrence.ofBody unit.tree.body).map Occurrence.stripped =
      (Occurrence.ofBody other.tree.body).map Occurrence.stripped := by
  rw [← Occurrence.ofBody_bare, same.body, Occurrence.ofBody_bare]

theorem modules (same : unit.Indistinct other) : unit.tree.modules = other.tree.modules := by
  have bare := Boundary.modules_bare other.tree.path unit.tree.body
  rw [same.body, Boundary.modules_bare] at bare
  exact bare.symm

end SourceUnit.Indistinct

namespace Rule

/-- The rule chooses and judges files alike that only options of directives tell apart. -/
structure Blind [Host] (rule : Rule) : Prop where
  applies : ∀ {unit other : SourceUnit}, unit.Indistinct other → ∀ options,
    rule.appliesTo options unit = rule.appliesTo options other
  inspects : ∀ {unit other : SourceUnit}, unit.Indistinct other → ∀ options probe,
    rule.inspect ⟨unit, probe, options⟩ = rule.inspect ⟨other, probe, options⟩

section Visitors

variable {unit other : SourceUnit} {probe : Probe} {options : Options}

theorem visiting_blind {visit : Node → List Finding} (blind : ∀ node, visit node.bare = visit node)
    (same : unit.Indistinct other) : visiting visit ⟨unit, probe, options⟩ = visiting visit ⟨other, probe, options⟩ := by
  have bared : ∀ unit : SourceUnit, unit.nodes.flatMap visit = (unit.nodes.map Node.bare).flatMap visit := by
    intro unit
    simp only [List.flatMap_map, blind]
  show Except.ok (unit.nodes.flatMap visit) = .ok (other.nodes.flatMap visit)
  rw [bared, same.nodes, ← bared]

theorem visitingCalls_blind {visit : Call → List Finding} (blind : ∀ call, visit call.bare = visit call)
    (same : unit.Indistinct other) :
    visitingCalls visit ⟨unit, probe, options⟩ = visitingCalls visit ⟨other, probe, options⟩ := by
  refine visiting_blind (fun node => ?_) same
  simp only [Node.call?_bare, Option.map_map, Function.comp_def, blind]

end Visitors

section Nodes

theorem repoUse?_bare (node : Node) : repoUse? node.bare = repoUse? node := by
  cases node with
  | directive kind base refs options line => cases kind <;> rfl
  | call target function args block elseBlock line =>
    cases target with
    | none =>
      by_cases query : function = "from"
      · cases query
        rfl
      · simp [repoUse?, Node.bare, Node.optionBare, Node.call?, Call.module?, query]
    | some target => cases target <;> rfl
  | _ => rfl

theorem inlineQuery?_bare (node : Node) : inlineQuery? node.bare = inlineQuery? node := by
  cases node with
  | call target function args block elseBlock line =>
    cases target with
    | none =>
      by_cases query : function = "from"
      · cases query
        rfl
      by_cases fragment : function = "fragment"
      · cases fragment
        rfl
      · simp [inlineQuery?, Node.bare, Node.optionBare, query, fragment]
    | some target => rfl
  | _ => rfl

theorem ectoUse?_bare (node : Node) : ectoUse? node.bare = ectoUse? node := by
  cases node with
  | directive kind base refs options line => cases kind <;> rfl
  | definition kind name params body guard line =>
    cases kind with
    | publicFunction =>
      by_cases changeset : name = "changeset"
      · cases changeset
        rfl
      · simp [ectoUse?, Node.bare, Node.call?, changeset]
    | _ => rfl
  | call target function args block elseBlock line =>
    cases target with
    | none =>
      by_cases schema : function = "schema"
      · cases schema
        cases args with
        | nil => rfl
        | cons first rest =>
          cases first with
          | literal value place => cases value <;> rfl
          | _ => rfl
      · simp [ectoUse?, Node.bare, Node.optionBare, Node.call?, Call.isTo, Call.isOf, Call.module?, schema]
    | some target => cases target <;> rfl
  | _ => rfl

theorem schemaLogic?_bare (business dataFunctions : List String) (node : Node) :
    schemaLogic? business dataFunctions node.bare = schemaLogic? business dataFunctions node := by
  cases node with
  | definition kind name params body guard line => cases kind <;> rfl
  | call target function args block elseBlock line =>
    cases target with
    | none => rfl
    | some target => cases target <;> rfl
  | _ => rfl

theorem infrastructureUses_bare (namespaces services : List String) (node : Node) :
    infrastructureUses namespaces services node.bare = infrastructureUses namespaces services node := by
  cases node with
  | directive kind base refs options line => cases kind <;> rfl
  | call target function args block elseBlock line =>
    cases target with
    | none => rfl
    | some target => cases target <;> rfl
  | _ => rfl

theorem directRepoUses_bare (node : Node) : directRepoUses node.bare = directRepoUses node := by
  cases node with
  | directive kind base refs options line => cases kind <;> rfl
  | call target function args block elseBlock line =>
    cases target with
    | none => rfl
    | some target => cases target <;> rfl
  | _ => rfl

theorem orchestration?_bare (threshold : Int) (node : Node) :
    orchestration? threshold node.bare = orchestration? threshold node := by
  cases node with
  | withForm clauses body elseClauses line =>
    simp [orchestration?, Node.bare, List.filter_map, Function.comp_def]
  | call target function args block elseBlock line =>
    -- Only the first argument counts, and only if it is a closure.
    cases args with
    | nil =>
      cases target with
      | none => rfl
      | some target => cases target <;> rfl
    | cons first rest =>
      cases rest with
      | nil =>
        cases first with
        | anonymous clauses place =>
          cases target with
          | none => rfl
          | some target => cases target <;> rfl
        | _ => rfl
      | cons second rest => cases first <;> rfl
  | _ => rfl

theorem readSchema?_bare (call : Call) : readSchema? call.bare = readSchema? call := by
  obtain ⟨target, function, args, block, elseBlock, line⟩ := call
  rw [readSchema?, Call.isToRepo_bare, readSchema?]
  cases args with
  | nil => rfl
  | cons first rest => cases first <;> rfl

theorem foreignSchema?_bare (owners : List (Value × Value)) (project : ProjectPath) (call : Call) :
    foreignSchema? owners project call.bare = foreignSchema? owners project call := by
  rw [foreignSchema?, readSchema?_bare, foreignSchema?]

theorem schemaFinding_bare (project : ProjectPath) (call : Call) (schema : ModuleRef) (owner : String) :
    schemaFinding project call.bare schema owner = schemaFinding project call schema owner := by
  unfold schemaFinding
  rw [Call.line_bare, Call.function_bare]

theorem foreignAccesses_bare (kind : PrivateKind) (project : ProjectPath) (node : Node) :
    foreignAccesses kind project node.bare = foreignAccesses kind project node := by
  simp only [foreignAccesses, Node.referencedModules_bare, Node.line_bare]

theorem declaredApp?_bare (nodes : List Node) : declaredApp? (nodes.map Node.bare) = declaredApp? nodes := by
  rw [declaredApp?, List.findSome?_map, declaredApp?]
  congr 1
  funext node
  cases node with
  | pair key value line =>
    cases key with
    | atom name place =>
      by_cases app : name = "app"
      · cases app
        cases value <;> rfl
      · simp [Node.bare, app]
    | _ => rfl
  | _ => rfl

theorem isKeywordGet_bare (node : Node) : isKeywordGet node.bare = isKeywordGet node := by
  simp [isKeywordGet, Option.any_map]

theorem directDependencies_bare (patterns : List String) (body : List Node) :
    directDependencies patterns (body.map Node.bare) = directDependencies patterns body := by
  rw [directDependencies, Node.walkOutside_bare isKeywordGet_bare, List.filterMap_map, directDependencies]
  congr 1
  funext node
  simp only [Function.comp_apply, Node.call?_bare, Option.bind_map, Call.module?_bare, Node.line_bare]

theorem helperBody?_bare (node : Node) : helperBody? node.bare = (helperBody? node).map (List.map Node.bare) := by
  cases node with
  | definition kind name params body guard line =>
    simp only [Node.bare, helperBody?, Node.listBare_eq_map]
    split <;> rfl
  | _ => rfl

end Nodes

section Occurrences

open Occurrence (stripped)

theorem clockDefault?_stripped (occurrence : Occurrence) :
    clockDefault? occurrence.stripped = clockDefault? occurrence := by
  have clock : ∀ node : Node, node.bare.call?.any (·.isClock) = node.call?.any (·.isClock) := by
    intro node
    simp [Option.any_map]
  obtain ⟨place, node⟩ := occurrence
  cases node with
  | binary op left right line =>
    show (if op = "\\\\" && right.bare.call?.any (·.isClock) then some (1 :: place) else none) =
      if op = "\\\\" && right.call?.any (·.isClock) then some (1 :: place) else none
    rw [clock]
  | call target function args block elseBlock line =>
    match args with
    | [first, second, third] =>
      let call : Call := ⟨target, function, [first, second, third], block, elseBlock, line⟩
      show (if call.bare.isTo "Keyword" ["get"] && third.bare.call?.any (·.isClock) then
        some (((Node.optionBare target).toList.length + 2) :: place) else none) =
          if call.isTo "Keyword" ["get"] && third.call?.any (·.isClock) then
            some ((target.toList.length + 2) :: place) else none
      rw [clock, Call.isTo_bare, Node.optionBare_eq_map, Option.toList_map, List.length_map]
    | [] | [_] | [_, _] | _ :: _ :: _ :: _ :: _ => rfl
  | _ => rfl

/-- The clock calls of two bodies with one bare form are the same but for the options in them. -/
theorem clockReads_bare {body body' : List Node} (same : body.map Node.bare = body'.map Node.bare) :
    (clockReads body).map Call.bare = (clockReads body').map Call.bare := by
  have bared : ∀ body, (clockReads body).map Call.bare = clockReads (body.map Node.bare) := by
    intro body
    simp only [clockReads, Occurrence.ofBody_bare, List.map_filterMap, List.filterMap_map, Function.comp_def,
      clockDefault?_stripped]
    apply List.filterMap_congr
    rintro ⟨place, node⟩ -
    simp only [stripped, Node.call?_bare]
    cases node.call? with
    | none => rfl
    | some call =>
      simp only [Option.map_some, Call.isClock_bare, Call.isSystemClock_bare]
      split <;> rfl
  rw [bared, same, ← bared]

theorem clauseBody_bare (place : List Nat) (node : Node) :
    clauseBody place node.bare = (clauseBody place node).map stripped := by
  cases node with
  | clause params body guard line =>
    simp only [Node.bare, clauseBody, Node.listBare_eq_map, Node.optionBare_eq_map, List.length_map, Option.toList_map,
      Occurrence.numbered_bare, Occurrence.walk_stripped]
  | _ => rfl

theorem transactionBody?_stripped (occurrence : Occurrence) :
    transactionBody? occurrence.stripped = (transactionBody? occurrence).map (List.map stripped) := by
  obtain ⟨place, node⟩ := occurrence
  cases node with
  | call target function args block elseBlock line =>
    cases args with
    | nil => rfl
    | cons first rest =>
      cases first with
      | anonymous clauses closure =>
        let call : Call := ⟨target, function, .anonymous clauses closure :: rest, block, elseBlock, line⟩
        show (if call.bare.isToRepo ["transaction", "transact"] then
          some ((Occurrence.numbered ((Node.optionBare target).toList.length :: place) 0 (Node.listBare clauses)).flatMap
            fun clause => clauseBody clause.place clause.node) else none) =
          (if call.isToRepo ["transaction", "transact"] then
            some ((Occurrence.numbered (target.toList.length :: place) 0 clauses).flatMap
              fun clause => clauseBody clause.place clause.node) else none).map (List.map stripped)
        rw [Call.isToRepo_bare, Node.optionBare_eq_map, Option.toList_map, List.length_map, Node.listBare_eq_map,
          Occurrence.numbered_bare, List.flatMap_map]
        split
        · simp only [stripped, clauseBody_bare, Option.map_some, List.map_flatMap]
        · rfl
      | _ => rfl
  | _ => rfl

theorem broadcast?_bare (node : Node) : broadcast? node.bare = broadcast? node := by
  simp only [broadcast?, Node.call?_bare]
  cases node.call? with
  | none => rfl
  | some call =>
    simp only [Option.map_some, Call.isTo_bare, Call.qualifiedName_bare, Call.function_bare]
    rfl

theorem newBroadcasts_stripped (reported : List (List Nat)) (transaction : Nat) (inside : List Occurrence) :
    newBroadcasts reported transaction (inside.map stripped) = newBroadcasts reported transaction inside := by
  simp only [newBroadcasts, List.filterMap_map, Function.comp_def, stripped, broadcast?_bare, Node.line_bare]

theorem transactionBroadcasts_stripped (reported : List (List Nat)) (occurrences : List Occurrence) :
    transactionBroadcasts reported (occurrences.map stripped) = transactionBroadcasts reported occurrences := by
  fun_induction transactionBroadcasts reported occurrences with
  | case1 => rfl
  | case2 reported occurrence rest none ih =>
    rw [List.map_cons, transactionBroadcasts, transactionBody?_stripped, none, Option.map_none, ih]
  | case3 reported occurrence rest inside some found ih =>
    have line : occurrence.stripped.node.line = occurrence.node.line := Node.line_bare _
    rw [List.map_cons, transactionBroadcasts, transactionBody?_stripped, some, Option.map_some]
    simp only [newBroadcasts_stripped, line]
    rw [ih]

end Occurrences

section Choice

variable {unit other : SourceUnit}

theorem usesModule_blind (same : unit.Indistinct other) (ref : ModuleRef) :
    usesModule unit ref = usesModule other ref := by
  have bared : ∀ (test : Node → Bool), (∀ node, test node.bare = test node) →
      ∀ unit : SourceUnit, unit.nodes.any test = (unit.nodes.map Node.bare).any test := by
    intro test blind unit
    simp only [List.any_map, Function.comp_def, blind]
  have alike : ∀ (test : Node → Bool), (∀ node, test node.bare = test node) →
      unit.nodes.any test = other.nodes.any test := by
    intro test blind
    rw [bared test blind, same.nodes, ← bared test blind]
  refine alike _ fun node => ?_
  cases node with
  | directive kind base refs options line => cases kind <;> rfl
  | _ => rfl

theorem appliesTo_blind [Host] {rule : Rule} (mem : rule ∈ all) (same : unit.Indistinct other) (options : Options) :
    rule.appliesTo options unit = rule.appliesTo options other := by
  simp only [all, List.mem_cons, List.not_mem_nil, or_false] at mem
  rcases mem with rfl | rfl | rfl | rfl | rfl | rfl | rfl | rfl | rfl | rfl | rfl | rfl | rfl | rfl | rfl | rfl | rfl |
    rfl | rfl | rfl | rfl | rfl | rfl | rfl | rfl | rfl | rfl | rfl
  all_goals
    simp only [noRepoInDomain, noSideEffectsInDomain, noInfrastructureInDomainEntities, noEctoInDomainLayer,
      noDateTimeNowInDomain, noIoInDomainServices, noEnvInRuntime, noBusinessLogicInSchemas,
      domainTestPurity, noDirectRepoInUseCases, noDirectFileOperationsInUseCases,
      noInfrastructureAliasInApplication, applicationLayerInfrastructureDependency, useCaseAdoption,
      noInlineQueriesInContexts, useCaseConsistentInjection, noBroadcastInTransaction,
      noCrossContextPolicyAccess, noCrossContextQueryAccess, crossContextAccess, noCrossContextSchemaAccess,
      noInfrastructureSchemaInWeb, servicesInCorrectLayer, infrastructureOrganization,
      useCasesInApplicationLayer, policiesInCorrectLayer, missingQueriesModule,
      architecturalLayersDefined, publicApiBoundary, isDomainEntity, isUseCase, same.path, same.filename,
      usesModule_blind same]

end Choice

section Judgement

variable {unit other : SourceUnit} (same : unit.Indistinct other) (probe : Probe) (options : Options)
include same

theorem inspect_noDateTimeNowInDomain [Host] :
    noDateTimeNowInDomain.inspect ⟨unit, probe, options⟩ = noDateTimeNowInDomain.inspect ⟨other, probe, options⟩ := by
  have found : ∀ find : Call → Finding, (∀ call, find call.bare = find call) →
      (clockReads unit.tree.body).map find = (clockReads other.tree.body).map find := by
    intro find blind
    have bared : ∀ calls : List Call, calls.map find = (calls.map Call.bare).map find := by
      intro calls
      simp only [List.map_map, Function.comp_def, blind]
    rw [bared, clockReads_bare same.body, ← bared]
  refine congrArg Except.ok (found _ fun call => ?_)
  obtain ⟨target, function, args, block, elseBlock, line⟩ := call
  cases target with
  | none => rfl
  | some target => cases target <;> rfl

theorem inspect_useCaseConsistentInjection [Host] :
    useCaseConsistentInjection.inspect ⟨unit, probe, options⟩ =
      useCaseConsistentInjection.inspect ⟨other, probe, options⟩ := by
  have found : ∀ (patterns : List String) (find : ModuleRef × Nat → Finding),
      (unit.nodes.filterMap helperBody?).flatMap (fun body => (directDependencies patterns body).map find) =
        (other.nodes.filterMap helperBody?).flatMap fun body => (directDependencies patterns body).map find := by
    intro patterns find
    have bared : ∀ unit : SourceUnit,
        (unit.nodes.filterMap helperBody?).flatMap (fun body => (directDependencies patterns body).map find) =
          ((unit.nodes.map Node.bare).filterMap helperBody?).flatMap fun body =>
            (directDependencies patterns body).map find := by
      intro unit
      rw [List.filterMap_map]
      have helpers : helperBody? ∘ Node.bare = fun node => (helperBody? node).map (List.map Node.bare) :=
        funext helperBody?_bare
      rw [helpers, ← List.map_filterMap, List.flatMap_map]
      simp only [directDependencies_bare]
    rw [bared, same.nodes, ← bared]
  show (strings options "infrastructure_patterns" >>= fun patterns => pure _) =
    strings options "infrastructure_patterns" >>= fun patterns => pure _
  simp only [found]

theorem inspect_noBroadcastInTransaction [Host] :
    noBroadcastInTransaction.inspect ⟨unit, probe, options⟩ = noBroadcastInTransaction.inspect ⟨other, probe, options⟩ := by
  show Except.ok (transactionBroadcasts [] (Occurrence.ofBody unit.tree.body)) =
    .ok (transactionBroadcasts [] (Occurrence.ofBody other.tree.body))
  rw [← transactionBroadcasts_stripped, same.occurrences, transactionBroadcasts_stripped]

theorem inspect_publicApiBoundary [Host] :
    publicApiBoundary.inspect ⟨unit, probe, options⟩ = publicApiBoundary.inspect ⟨other, probe, options⟩ := by
  have directives := same.directive
  simp only [publicApiBoundary, same.filename, same.declaration, same.modules]
  cases first : Boundary.findDirective? unit.tree with
  | none =>
    rw [first, Option.map_none, eq_comm, Option.map_eq_none_iff] at directives
    rw [directives]
  | some found =>
    rw [first, Option.map_some, eq_comm, Option.map_eq_some_iff] at directives
    obtain ⟨⟨name, directive⟩, second, line⟩ := directives
    have lined : directive.line = found.2.line := line
    simp only [second, publicApiFindings, lined]

theorem inspect_architecturalLayersDefined [Host] :
    architecturalLayersDefined.inspect ⟨unit, probe, options⟩ =
      architecturalLayersDefined.inspect ⟨other, probe, options⟩ := by
  have app : declaredApp? unit.nodes = declaredApp? other.nodes := by
    rw [← declaredApp?_bare, same.nodes, declaredApp?_bare]
  simp only [architecturalLayersDefined, app, same.path]

end Judgement

theorem bind_blind {α β : Type} {step : Except RuleFault α} {next next' : α → Except RuleFault β}
    (each : ∀ value, next value = next' value) : (step >>= next) = (step >>= next') := by
  rw [funext each]

theorem inspect_crossContextAccess [Host] {unit other : SourceUnit} (same : unit.Indistinct other) (probe : Probe)
    (options : Options) (id label : String) (kind : PrivateKind) (excluded : List String) :
    (crossContextAccess id label kind excluded).inspect ⟨unit, probe, options⟩ =
      (crossContextAccess id label kind excluded).inspect ⟨other, probe, options⟩ := by
  simp only [crossContextAccess, same.path]
  split
  · rfl
  · exact visiting_blind (foreignAccesses_bare _ _) same

/-- No rule sees the options of a directive. -/
theorem blind_all [Host] : ∀ rule ∈ all, rule.Blind := by
  intro rule mem
  refine ⟨fun same options => appliesTo_blind mem same options, ?_⟩
  intro unit other same options probe
  simp only [all, List.mem_cons, List.not_mem_nil, or_false] at mem
  rcases mem with rfl | rfl | rfl | rfl | rfl | rfl | rfl | rfl | rfl | rfl | rfl | rfl | rfl | rfl | rfl | rfl | rfl |
    rfl | rfl | rfl | rfl | rfl | rfl | rfl | rfl | rfl | rfl | rfl
  · exact visiting_blind (fun node => by simp only [repoUse?_bare, Node.line_bare]) same
  · exact visitingCalls_blind (fun call => by simp [sideEffect?]) same
  · exact bind_blind fun namespaces => bind_blind fun services => visiting_blind (infrastructureUses_bare _ _) same
  · exact visiting_blind (fun node => by simp only [ectoUse?_bare, Node.line_bare]) same
  · exact inspect_noDateTimeNowInDomain same probe options
  · exact visitingCalls_blind (fun call => by simp [describeIo?]) same
  · exact visitingCalls_blind (fun call => by simp) same
  · refine bind_blind fun business => bind_blind fun dataFunctions => visiting_blind (fun node => ?_) same
    simp only [schemaLogic?_bare, Node.line_bare]
  · refine visiting_blind (fun node => ?_) same
    cases node with
    | directive kind base refs options line => cases kind <;> rfl
    | _ => rfl
  · exact visiting_blind (fun node => by simp only [directRepoUses_bare, Node.line_bare]) same
  · exact visitingCalls_blind (fun call => by simp [fileSuggestion?]) same
  · refine bind_blind fun patterns => visiting_blind (fun node => ?_) same
    cases node with
    | directive kind base refs options line => cases kind <;> rfl
    | _ => rfl
  · exact visitingCalls_blind (fun call => by simp [applicationIo?]) same
  · refine bind_blind fun threshold => visiting_blind (fun node => ?_) same
    simp only [orchestration?_bare, Node.line_bare]
  · simp only [noInlineQueriesInContexts, same.path]
    exact visiting_blind (fun node => by simp only [inlineQuery?_bare, Node.line_bare]) same
  · exact inspect_useCaseConsistentInjection same probe options
  · exact inspect_noBroadcastInTransaction same probe options
  · exact inspect_crossContextAccess same probe options _ _ _ _
  · exact inspect_crossContextAccess same probe options _ _ _ _
  · refine bind_blind fun owners => ?_
    simp only [same.path]
    split
    · rfl
    · exact visitingCalls_blind (fun call => by simp only [foreignSchema?_bare, schemaFinding_bare]) same
  · exact visiting_blind (fun node => by simp) same
  · simp only [servicesInCorrectLayer, same.path, same.filename]
  · simp only [infrastructureOrganization, same.path, same.filename]
  · simp only [useCasesInApplicationLayer, same.path]
  · simp only [policiesInCorrectLayer, same.path, same.filename]
  · simp only [missingQueriesModule, same.path, same.filename]
  · exact inspect_architecturalLayersDefined same probe options
  · exact inspect_publicApiBoundary same probe options

end Rule

end BoundaryLint
