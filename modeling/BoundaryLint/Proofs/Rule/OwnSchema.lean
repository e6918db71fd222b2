import BoundaryLint.Host.Ordinary
import BoundaryLint.Proofs.Lint.OptionCheck
import BoundaryLint.Proofs.Path.WordBoundary
import BoundaryLint.Proofs.Rule.CallPlace
import BoundaryLint.Proofs.Tree.Pruning
import Mathlib

/-!
Schemas of the context that reads them. The rule turns the module of a schema back into the name of a directory to see
whose it is, so a context is taken for another one when its own name does not come back.
-/

namespace BoundaryLint

theorem ProjectPath.context_of_snake {context : String} (snake : Path.IsSnake context) (base app : String) :
    ProjectPath.context ⟨base, app, context ++ ".ex"⟩ = context := by
  have slashless : '/' ∉ (context ++ ".ex").toList := by
    rw [String.toList_append, List.mem_append, not_or]
    refine ⟨fun mem => ?_, by decide⟩
    exact absurd (snake '/' mem) (by decide)
  have ends : Text.endsWith (context ++ ".ex") ".ex" = true := by
    rw [Text.endsWith_iff, String.toList_append]
    exact List.suffix_append _ _
  rw [ProjectPath.context, ProjectPath.parts, Path.components_of_slashless slashless, List.headD_cons, Text.dropEnding,
    if_pos ends]
  simp

namespace Rule

open Occurrence (Stands Precedes)

def ReadsOwn (app context : String) (node : Node) : Prop :=
  ∃ call repo repoLine schema line others name, node.call? = some call ∧ call.target = some (.alias repo repoLine) ∧
    repo.isRepo = true ∧ call.function ∈ ["get", "get!", "get_by", "get_by!", "one", "one!", "preload"] ∧
    call.args = .alias schema line :: others ∧ schema.segments = [Path.camelize app, Path.camelize context, name]

def ReportsRead (active : ActiveRule) (file : String) (project : ProjectPath) (read : Occurrence) (issue : Issue) :
    Prop :=
  ∃ call schema owner, read.node.call? = some call ∧ readSchema? call = some schema ∧
    issue = active.issue file (schemaFinding project call schema owner)

variable {owners : List (Value × Value)} {project : ProjectPath} {node : Node} {app context : String}

def foreignRead? (owners : List (Value × Value)) (project : ProjectPath) (node : Node) :
    Option (Call × ModuleRef × String) :=
  node.call?.bind fun call => (foreignSchema? owners project call).map (call, ·)

theorem foreignSchema?_eq_some_iff {call : Call} {schema : ModuleRef} {owner : String} :
    foreignSchema? owners project call = some (schema, owner) ↔
      readSchema? call = some schema ∧ schemaOwner? owners project.appModule schema = some owner ∧
        owner ≠ project.context := by
  simp only [foreignSchema?, Option.bind_eq_bind, Option.bind_eq_some_iff, Option.ite_none_left_eq_some,
    Option.some.injEq, Prod.mk.injEq]
  constructor
  · intro ⟨read, found, _, owned, other, same, same'⟩
    subst same same'
    exact ⟨found, owned, other⟩
  · intro ⟨found, owned, other⟩
    exact ⟨schema, found, owner, owned, other, rfl, rfl⟩

/-- A context is told about its own schema exactly if its name does not come back. -/
theorem isSome_foreignRead?_iff (snake : Path.IsSnake context) {base : String} (own : ReadsOwn app context node) :
    (foreignRead? owners ⟨base, app, context ++ ".ex"⟩ node).isSome = true ↔ ¬ Path.Separable context := by
  obtain ⟨call, repo, repoLine, schema, line, others, name, isCall, target, isRepo, function, args, segments⟩ := own
  have read : readSchema? call = some schema := by
    rw [readSchema?, if_pos (Call.isToRepo_iff.mpr ⟨repo, repoLine, target, isRepo, function⟩), args]
  have owned : schemaOwner? owners (Path.camelize app) schema = some (Path.underscore (Path.camelize context)) := by
    simp [schemaOwner?, segments]
  have valid : ModuleRef.isSegment (Path.camelize context) = true := by
    apply schema.wellFormed
    simp [segments]
  rw [foreignRead?, isCall, Option.bind_some, Option.isSome_map, Option.isSome_iff_exists, Prod.exists,
    ← Path.underscore_camelize_iff snake valid]
  simp only [foreignSchema?_eq_some_iff, ProjectPath.appModule, ProjectPath.context_of_snake snake]
  constructor
  · intro ⟨_, owner, found, owned', other⟩
    rw [read, Option.some.injEq] at found
    rw [← found, owned, Option.some.injEq] at owned'
    rw [owned']
    exact other
  · intro lost
    exact ⟨schema, _, read, owned, lost⟩

def schemaFindings (owners : List (Value × Value)) (project : ProjectPath) (node : Node) : List Finding :=
  (node.call?.map fun call => (foreignSchema? owners project call).toList.map fun (schema, owner) =>
    schemaFinding project call schema owner).getD []

theorem schemaFindings_eq (owners : List (Value × Value)) (project : ProjectPath) (node : Node) :
    schemaFindings owners project node = ((foreignRead? owners project node).map fun (call, schema, owner) =>
      schemaFinding project call schema owner).toList := by
  cases call : node.call? with
  | none => simp [schemaFindings, foreignRead?, call]
  | some own => cases found : foreignSchema? owners project own <;> simp [schemaFindings, foreignRead?, call, found]

def foreignReads (owners : List (Value × Value)) (project : ProjectPath) (body : List Node) : List Occurrence :=
  (Occurrence.ofBody body).filter fun occurrence => (foreignRead? owners project occurrence.node).isSome

theorem forall₂_foreignReads (active : ActiveRule) (file : String) (owners : List (Value × Value))
    (project : ProjectPath) (body : List Node) :
    List.Forall₂ (ReportsRead active file project) (foreignReads owners project body)
      (((Node.walkAll body).flatMap (schemaFindings owners project)).map (active.issue file)) := by
  have found : (Node.walkAll body).flatMap (schemaFindings owners project) =
      ((Occurrence.ofBody body).filterMap fun occurrence => foreignRead? owners project occurrence.node).map
        fun (call, schema, owner) => schemaFinding project call schema owner := by
    rw [← Occurrence.map_node_ofBody, List.flatMap_map, List.map_filterMap, List.filterMap_eq_flatMap_toList]
    simp only [schemaFindings_eq]
  rw [found, List.forall₂_map_right_iff, List.forall₂_map_right_iff]
  apply (forall₂_filterMap _ _).imp
  intro occurrence ⟨call, schema, owner⟩ ⟨_, read⟩
  obtain ⟨own, isCall, read⟩ := Option.bind_eq_some_iff.mp read
  obtain ⟨⟨schema', owner'⟩, foreign, same⟩ := Option.map_eq_some_iff.mp read
  cases same
  exact ⟨call, schema, owner, isCall, (foreignSchema?_eq_some_iff.mp foreign).1, rfl⟩

theorem check_eq_flatMap [Host] {active : ActiveRule} {unit : SourceUnit} {probe : Probe}
    (named : active.rule = noCrossContextSchemaAccess) (entries : active.options.entries "schema_contexts" = .ok owners)
    (located : ProjectPath.locate? unit.path = some project) :
    active.check unit probe =
      .ok (((Node.walkAll unit.tree.body).flatMap (schemaFindings owners project)).map (active.issue unit.path)) := by
  rw [ActiveRule.check, named]
  simp only [noCrossContextSchemaAccess, entries, located]
  rfl

/-- Of the reads of its own schemas a context is told about all or none: about none exactly if its name comes back from
camel case. -/
theorem check_own_schemas [Host] {settings : RuleConfig} {active : ActiveRule}
    (configured : noCrossContextSchemaAccess.configure settings = .ok (some active)) {unit : SourceUnit} {base : String}
    (located : ProjectPath.locate? unit.path = some ⟨base, app, context ++ ".ex"⟩) (snake : Path.IsSnake context)
    (probe : Probe) :
    ∃ reads issues, active.check unit probe = .ok issues ∧
      List.Forall₂ (ReportsRead active unit.path ⟨base, app, context ++ ".ex"⟩) reads issues ∧ reads.Pairwise Precedes ∧
      (∀ read ∈ reads, Stands unit.tree.body read) ∧
      ∀ occurrence, Stands unit.tree.body occurrence → ReadsOwn app context occurrence.node →
        (occurrence ∈ reads ↔ ¬ Path.Separable context) := by
  obtain ⟨named, keeps⟩ := keeps_of_configure configured
  have known : noCrossContextSchemaAccess.defaults.lookup "schema_contexts" = some (textTable
      [("User", "accounts"), ("Workspace", "workspaces"), ("WorkspaceMember", "workspaces"), ("Project", "projects"),
        ("Page", "pages"), ("PageComponent", "pages"), ("Note", "notes")]) := rfl
  obtain ⟨owners, entries⟩ := keeps.entries known
  refine ⟨foreignReads owners ⟨base, app, context ++ ".ex"⟩ unit.tree.body, _, check_eq_flatMap named entries located,
    forall₂_foreignReads _ _ _ _ _, (Occurrence.pairwise_ofBody _).filter _, ?_, ?_⟩
  · intro read listed
    exact Occurrence.mem_ofBody.mp (List.mem_of_mem_filter listed)
  · intro occurrence stands own
    rw [foreignReads, List.mem_filter, Occurrence.mem_ofBody, isSome_foreignRead?_iff snake own]
    exact and_iff_right stands

section Shop

def shopRepo : ModuleRef := ⟨["Shop", "Repo"], by simp, by decide⟩

def orderSchema : ModuleRef := ⟨["Shop", "OrderLines", "Item"], by simp, by decide⟩

def versionSchema : ModuleRef := ⟨["Shop", "V2", "Item"], by simp, by decide⟩

def itemRead (schema : ModuleRef) : Node := .call (some (.alias shopRepo 1)) "get" [.alias schema 1] [] [] 1

def readingFile (path : String) (schema : ModuleRef) : SourceUnit := ⟨⟨path, [itemRead schema]⟩, .unknown, none⟩

attribute [local instance] Host.ordinary in
theorem check_own_schemas_orders :
    noCrossContextSchemaAccess.configure {} = .ok (some noCrossContextSchemaAccess.default) ∧
      ∃ reads issues, noCrossContextSchemaAccess.default.check (readingFile "lib/shop/order_lines.ex" orderSchema) .denied =
          .ok issues ∧
        List.Forall₂ (ReportsRead noCrossContextSchemaAccess.default "lib/shop/order_lines.ex"
          ⟨"lib/shop/", "shop", "order_lines.ex"⟩) reads issues ∧
        ⟨[0], itemRead orderSchema⟩ ∉ reads := by
  have configured : noCrossContextSchemaAccess.configure {} = .ok (some noCrossContextSchemaAccess.default) := rfl
  have located : ProjectPath.locate? "lib/shop/order_lines.ex" = some ⟨"lib/shop/", "shop", "order_lines" ++ ".ex"⟩ := by
    decide
  obtain ⟨reads, issues, checked, reported, -, -, exactly⟩ :=
    @check_own_schemas "shop" "order_lines" _ _ _ configured (readingFile "lib/shop/order_lines.ex" orderSchema) _ located
      (by decide) .denied
  have stands : Stands [itemRead orderSchema] ⟨[0], itemRead orderSchema⟩ := .root List.mem_cons_self
  have own : ReadsOwn "shop" "order_lines" (itemRead orderSchema) :=
    ⟨_, shopRepo, 1, orderSchema, 1, [], "Item", rfl, rfl, by decide, by decide, rfl, by decide⟩
  have separable : Path.Separable "order_lines" := by decide
  refine ⟨configured, reads, issues, checked, reported, ?_⟩
  intro listed
  exact (exactly _ stands own).mp listed separable

attribute [local instance] Host.ordinary in
/-- The context `V2` of the directory `v_2` is told that its own schema belongs to another context. -/
theorem check_own_schemas_versions :
    ProjectPath.locate? "lib/shop/v_2.ex" = some ⟨"lib/shop/", "shop", "v_2" ++ ".ex"⟩ ∧ Path.IsSnake "v_2" ∧
      ModuleRef.isSegment (Path.camelize "v_2") = true ∧ ReadsOwn "shop" "v_2" (itemRead versionSchema) ∧
      noCrossContextSchemaAccess.default.applicable (readingFile "lib/shop/v_2.ex" versionSchema) = .ok true ∧
      ∃ call, (itemRead versionSchema).call? = some call ∧
        noCrossContextSchemaAccess.default.check (readingFile "lib/shop/v_2.ex" versionSchema) .denied =
          .ok [noCrossContextSchemaAccess.default.issue "lib/shop/v_2.ex"
            (schemaFinding ⟨"lib/shop/", "shop", "v_2.ex"⟩ call versionSchema "v2")] := by
  have located : ProjectPath.locate? "lib/shop/v_2.ex" = some ⟨"lib/shop/", "shop", "v_2.ex"⟩ := by decide
  obtain ⟨owners, entries⟩ : ∃ owners, noCrossContextSchemaAccess.default.options.entries "schema_contexts" = .ok owners :=
    ⟨_, rfl⟩
  have nodes : Node.walkAll [itemRead versionSchema] =
      [itemRead versionSchema, .alias shopRepo 1, .alias versionSchema 1] := by cbv
  have found : schemaFindings owners ⟨"lib/shop/", "shop", "v_2.ex"⟩ (itemRead versionSchema) =
      [schemaFinding ⟨"lib/shop/", "shop", "v_2.ex"⟩ ⟨some (.alias shopRepo 1), "get", [.alias versionSchema 1], [], [], 1⟩
        versionSchema "v2"] := rfl
  refine ⟨located, by decide, by decide, ?_, rfl, _, rfl, ?_⟩
  · exact ⟨_, shopRepo, 1, versionSchema, 1, [], "Item", rfl, rfl, by decide, by decide, rfl, by decide⟩
  · have place : ProjectPath.locate? (readingFile "lib/shop/v_2.ex" versionSchema).path =
        some ⟨"lib/shop/", "shop", "v_2.ex"⟩ := located
    rw [check_eq_flatMap rfl entries place, readingFile, nodes, List.flatMap_cons, found]
    rfl

end Shop

end Rule

end BoundaryLint
