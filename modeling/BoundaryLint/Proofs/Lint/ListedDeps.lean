import BoundaryLint.Host.Ordinary
import BoundaryLint.Proofs.Boundary.Dependency
import BoundaryLint.Proofs.Grammar.ListLiteral
import BoundaryLint.Proofs.Lint.IssueLine
import BoundaryLint.Proofs.Rule.OptionBlind
import Mathlib

/-!
Only the modules that a list of dependencies names count. Two texts that differ in the entries of the list of their
boundary directive, and in nothing else that is read, declare the same dependencies if their lists name the same
modules; and runs over them report the same.
-/

namespace BoundaryLint

namespace Boundary

/-- An entry of a list of dependencies names a module: it is a bare alias, or a tuple that starts with one. -/
inductive Names : Node → ModuleRef → Prop
  | alias (ref : ModuleRef) (line : Nat) : Names (.alias ref line) ref
  | tuple (ref : ModuleRef) (line : Nat) (more : List Node) (place : Nat) : Names (.tuple (.alias ref line :: more) place) ref

theorem entryRef?_eq_some_iff {entry : Node} {ref : ModuleRef} : entryRef? entry = some ref ↔ Names entry ref := by
  constructor
  · intro found
    unfold entryRef? at found
    split at found
    · cases found
      exact .alias _ _
    · cases found
      exact .tuple _ _ _ _
    · cases found
  · rintro (⟨⟩ | ⟨⟩) <;> rfl

theorem mem_named_iff {entries : List Node} {ref : ModuleRef} :
    ref ∈ entries.filterMap entryRef? ↔ ∃ entry ∈ entries, Names entry ref := by
  simp only [List.mem_filterMap, entryRef?_eq_some_iff]

theorem declaration?_of_list {tree : SyntaxTree} {name : Option ModuleRef} {directive : Directive} {entries : List Node}
    {line : Nat} (found : findDirective? tree = some (name, directive))
    (listed : Node.lookup? "deps" directive.options = some (.list entries line)) :
    declaration? tree = name.map fun module => Declaration.make module (entries.filterMap entryRef?) directive.line
      (directive.options.filterMap setOption?) := by
  cases name with
  | none => simp [declaration?, found]
  | some module => simp [declaration?, found, depsOf?, listed]

section Blindness

variable {unit other : SourceUnit}

theorem usesLifecycle_bare (node : Node) : usesLifecycle node.bare = usesLifecycle node := by
  cases node with
  | directive kind base refs options line => cases kind <;> rfl
  | _ => rfl

theorem isLifecycleModule_blind (same : unit.Indistinct other) : isLifecycleModule unit = isLifecycleModule other := by
  have bared : ∀ unit : SourceUnit, unit.nodes.any usesLifecycle = (unit.nodes.map Node.bare).any usesLifecycle := by
    intro unit
    simp only [List.any_map, Function.comp_def, usesLifecycle_bare]
  have named : unit.moduleName? = other.moduleName? := by
    simp only [SourceUnit.moduleName?, SyntaxTree.moduleName?, same.modules]
  simp only [isLifecycleModule, bared, same.nodes, same.path, same.declaration, named]

theorem validateUnit_blind (same : unit.Indistinct other) (options : GraphOptions) (probe : Probe) :
    validateUnit options probe unit = validateUnit options probe other := by
  have issues : violationIssue options unit = violationIssue options other := by
    funext declaration violation
    simp only [violationIssue, same.path]
  simp only [validateUnit, resolve, layerOf, isLifecycleModule_blind same, same.declaration, same.path, same.filename,
    same.layer, issues]

end Blindness

end Boundary

namespace ModuleRef

theorem sortDistinct_eq {refs others : List ModuleRef} (same : ∀ ref, ref ∈ refs ↔ ref ∈ others) :
    sortDistinct refs = sortDistinct others := by
  have distinct : ∀ refs, (sortDistinct refs).Nodup := fun refs =>
    (pairwise_sortDistinct refs).imp fun less equal => absurd (equal ▸ less) (String.lt_irrefl _)
  have perm : (sortDistinct refs).Perm (sortDistinct others) := by
    rw [List.perm_ext_iff_of_nodup (distinct refs) (distinct others)]
    intro ref
    rw [mem_sortDistinct, mem_sortDistinct, same]
  refine perm.eq_of_pairwise ?_ (pairwise_sortDistinct refs) (pairwise_sortDistinct others)
  intro a b _ _ less greater
  exact absurd (String.lt_trans less greater) (String.lt_irrefl _)

end ModuleRef

theorem mapM_congr {α β ε : Type} {f g : α → Except ε β} {items : List α} (each : ∀ item ∈ items, f item = g item) :
    items.mapM f = items.mapM g := by
  induction items with
  | nil => rfl
  | cons item items ih =>
    obtain ⟨first, rest⟩ := List.forall_mem_cons.mp each
    rw [List.mapM_cons, List.mapM_cons, first, ih rest]

namespace Lint

section Runs

variable {engine : Engine} {probe : Probe} {path source source' : String} {body body' : List Node}

theorem applyRule_blind [Host] {unit other : SourceUnit} {active : ActiveRule} (blind : active.rule.Blind)
    (same : unit.Indistinct other) (probe : Probe) : applyRule probe unit active = applyRule probe other active := by
  simp only [applyRule, ActiveRule.applicable, ActiveRule.check, blind.applies same, blind.inspects same, same.layer,
    same.path]

theorem checkGraph_blind {unit other : SourceUnit} (same : unit.Indistinct other) :
    checkGraph engine probe [unit] = checkGraph engine probe [other] := by
  simp only [checkGraph, Boundary.validate, List.mapM_cons, List.mapM_nil, Boundary.validateUnit_blind same]

/-- Whether a text that can be read gives a unit depends on its path alone. -/
theorem analyze_of_parse [Host] (classifier : Classifier) (path : String) :
    (∃ fault, ∀ source body, Grammar.parse source = .ok body → analyze classifier path source = .error (.stop fault)) ∨
      ∀ source body, Grammar.parse source = .ok body →
        analyze classifier path source = .ok (unitOfTree classifier ⟨path, body⟩) := by
  by_cases empty : path = ""
  · refine .inl ⟨.path .empty, fun source body parsed => ?_⟩
    simp only [analyze, readTree, parsed, SyntaxTree.make, if_pos empty]
    rfl
  by_cases backslash : '\\' ∈ path.toList
  · refine .inl ⟨.path (.backslash path), fun source body parsed => ?_⟩
    simp only [analyze, readTree, parsed, SyntaxTree.make, if_neg empty, if_pos backslash]
    rfl
  · refine .inr fun source body parsed => ?_
    simp only [analyze, readTree, parsed, SyntaxTree.make, if_neg empty, if_neg backslash]
    rfl

/-- Files that only options of directives tell apart give the same to a run. -/
theorem share_blind [Host] (known : ∀ active ∈ engine.rules, active.rule ∈ Rule.all)
    (parsed : Grammar.parse source = .ok body) (parsed' : Grammar.parse source' = .ok body')
    (same : (unitOfTree engine.classifier ⟨path, body⟩).Indistinct (unitOfTree engine.classifier ⟨path, body'⟩)) :
    share engine probe (path, source) = share engine probe (path, source') := by
  have rules : engine.rules.mapM (applyRule probe (unitOfTree engine.classifier ⟨path, body⟩)) =
      engine.rules.mapM (applyRule probe (unitOfTree engine.classifier ⟨path, body'⟩)) := by
    apply mapM_congr
    intro active mem
    exact applyRule_blind (Rule.blind_all _ (known active mem)) same probe
  simp only [share, checkFile]
  rcases analyze_of_parse engine.classifier path with ⟨fault, stops⟩ | reads
  · rw [stops source body parsed, stops source' body' parsed']
  · rw [reads source body parsed, reads source' body' parsed']
    dsimp only
    rw [rules]
    cases engine.rules.mapM (applyRule probe (unitOfTree engine.classifier ⟨path, body'⟩)) with
    | error fault => rfl
    | ok issues =>
      show (checkGraph engine probe [_] >>= fun boundary => pure _) = checkGraph engine probe [_] >>= fun boundary => pure _
      rw [checkGraph_blind same]

theorem run_congr [Host] {before after : List (String × String)}
    (same : share engine probe (path, source) = share engine probe (path, source')) (result : LintResult) :
    run engine probe (before ++ (path, source) :: after) = .ok result ↔
      run engine probe (before ++ (path, source') :: after) = .ok result := by
  let twin (file : String × String) : (String × String) × (String × String) := (file, file)
  let pairs := before.map twin ++ ((path, source), (path, source')) :: after.map twin
  have agree : ∀ pair ∈ pairs, pair.1.1 = pair.2.1 ∧ share engine probe pair.1 = share engine probe pair.2 := by
    intro pair mem
    simp only [pairs, List.mem_append, List.mem_cons, List.mem_map] at mem
    rcases mem with ⟨file, -, rfl⟩ | rfl | ⟨file, -, rfl⟩
    · exact ⟨rfl, rfl⟩
    · exact ⟨rfl, same⟩
    · exact ⟨rfl, rfl⟩
  have first : pairs.map Prod.fst = before ++ (path, source) :: after := by
    simp [pairs, twin, Function.comp_def]
  have second : pairs.map Prod.snd = before ++ (path, source') :: after := by
    simp [pairs, twin, Function.comp_def]
  have sorted : (before ++ (path, source) :: after).mergeSort (fun a b => a.1 ≤ b.1) =
      (pairs.mergeSort fun a b => a.1.1 ≤ b.1.1).map Prod.fst := by
    rw [← first]
    exact (List.map_mergeSort (f := Prod.fst) fun _ _ _ _ => rfl).symm
  have sorted' : (before ++ (path, source') :: after).mergeSort (fun a b => a.1 ≤ b.1) =
      (pairs.mergeSort fun a b => a.1.1 ≤ b.1.1).map Prod.snd := by
    rw [← second]
    refine (List.map_mergeSort fun a memA b memB => ?_).symm
    rw [(agree a memA).1, (agree b memB).1]
  have shares : (pairs.mergeSort fun a b => a.1.1 ≤ b.1.1).mapM (share engine probe ∘ Prod.fst) =
      (pairs.mergeSort fun a b => a.1.1 ≤ b.1.1).mapM (share engine probe ∘ Prod.snd) :=
    mapM_congr fun pair mem => (agree pair (List.mem_mergeSort.mp mem)).2
  rw [run_eq_ok_iff, run_eq_ok_iff, sorted, sorted', List.mapM_map, List.mapM_map, shares]

theorem indistinct_of_bare (classifier : Classifier) (bare : body.map Node.bare = body'.map Node.bare)
    (declared : Boundary.declaration? ⟨path, body⟩ = Boundary.declaration? ⟨path, body'⟩)
    (directive : (Boundary.findDirective? ⟨path, body⟩).map (·.2.line) =
      (Boundary.findDirective? ⟨path, body'⟩).map (·.2.line)) :
    (unitOfTree classifier ⟨path, body⟩).Indistinct (unitOfTree classifier ⟨path, body'⟩) where
  path := rfl
  layer := by
    have modules : (SyntaxTree.mk path body).modules = (SyntaxTree.mk path body').modules := by
      rw [← Boundary.modules_bare, bare, Boundary.modules_bare]
    simp only [unitOfTree, SyntaxTree.moduleName?, modules]
  declaration := declared
  body := bare
  directive := directive

end Runs

open Boundary (findDirective? declaration? Names)

/-- Only the modules that the list names matter. Of two texts that are read alike but for the entries of the literal
list of their boundary directive, and whose lists name the same modules, both have the same declaration, with just
these modules as dependencies, and runs over them at the same path report the same. -/
theorem run_namedDeps [Host] (gap : Grammar.Gap) {source source' path : String} {front : List Token}
    {body body' : List Node} {name name' : Option ModuleRef} {directive directive' : Boundary.Directive}
    (scanned : Token.scan source = .ok (front ++ gap.tokens))
    (scanned' : Token.scan source' = .ok (front ++ gap.tokens'))
    (parsed : Grammar.parse source = .ok body) (parsed' : Grammar.parse source' = .ok body')
    (found : findDirective? ⟨path, body⟩ = some (name, directive))
    (listed : Node.lookup? "deps" directive.options = some (.list gap.entries gap.line))
    (found' : findDirective? ⟨path, body'⟩ = some (name', directive'))
    (listed' : Node.lookup? "deps" directive'.options = some (.list gap.entries' gap.line))
    (named : ∀ ref, (∃ entry ∈ gap.entries, Names entry ref) ↔ ∃ entry ∈ gap.entries', Names entry ref) :
    declaration? ⟨path, body⟩ = declaration? ⟨path, body'⟩ ∧
      (∀ module ∈ name, ∃ declaration, declaration? ⟨path, body⟩ = some declaration ∧ declaration.module = module ∧
        (∀ ref, ref ∈ declaration.deps ↔ ∃ entry ∈ gap.entries, Names entry ref) ∧
        declaration.deps.Pairwise fun a b => a.name < b.name) ∧
      ∀ config engine probe before after result, Engine.ofConfig config = .ok engine →
        (run engine probe (before ++ (path, source) :: after) = .ok result ↔
          run engine probe (before ++ (path, source') :: after) = .ok result) := by
  have close : Node.RowClose (Grammar.Gap.Swaps (some gap)) 1 body body' := by
    simp only [Grammar.parse, scanned, scanned'] at parsed parsed'
    exact Grammar.program_rowClose gap parsed parsed'
  have only : ∀ first second, Grammar.Gap.Swaps (some gap) first second → first = gap.entries ∧ second = gap.entries' := by
    rintro first second ⟨_, ⟨⟩, entries⟩
    exact entries
  obtain ⟨bare, rfl, line, set⟩ := Boundary.findDirective?_alike close only found listed found' listed'
  have same : ModuleRef.sortDistinct (gap.entries.filterMap Boundary.entryRef?) =
      ModuleRef.sortDistinct (gap.entries'.filterMap Boundary.entryRef?) :=
    ModuleRef.sortDistinct_eq fun ref => by rw [Boundary.mem_named_iff, Boundary.mem_named_iff, named]
  have declared : declaration? ⟨path, body⟩ = declaration? ⟨path, body'⟩ := by
    rw [Boundary.declaration?_of_list found listed, Boundary.declaration?_of_list found' listed']
    simp only [Declaration.make, same, line, set]
  refine ⟨declared, ?_, ?_⟩
  · rintro module ⟨⟩
    refine ⟨_, Boundary.declaration?_of_list found listed, rfl, ?_, ModuleRef.pairwise_sortDistinct _⟩
    intro ref
    exact ModuleRef.mem_sortDistinct.trans Boundary.mem_named_iff
  · intro config engine probe before after result made
    refine run_congr (share_blind (rules_of_config made) parsed parsed' ?_) result
    exact indistinct_of_bare engine.classifier bare declared (by rw [found, found', Option.map_some, Option.map_some, line])

section Cart

attribute [local instance] Host.ordinary

def cart : ModuleRef := ⟨["Cart"], by simp, by decide⟩

def repo : ModuleRef := ⟨["Repo"], by simp, by decide⟩

def mail : ModuleRef := ⟨["Mail"], by simp, by decide⟩

def cartText (entries : String) : String :=
  "defmodule Cart do use Boundary, deps: [" ++ entries ++ "]\nSystem.get_env end"

def cartFront : List Token :=
  [⟨.identifier, "defmodule", 1, false, false⟩, ⟨.alias, "Cart", 1, true, false⟩, ⟨.keyword, "do", 1, true, false⟩,
    ⟨.identifier, "use", 1, true, false⟩, ⟨.alias, "Boundary", 1, true, false⟩, ⟨.punctuation, ",", 1, false, false⟩]

def cartBack (line : Nat) : List Token :=
  [⟨.alias, "System", line, true, true⟩, ⟨.operator, ".", line, false, false⟩,
    ⟨.identifier, "get_env", line, false, false⟩, ⟨.keyword, "end", line, true, false⟩]

def cartGap : Grammar.Gap where
  key := ⟨.key, "deps", 1, true, false⟩
  isKey := by decide
  back := cartBack 2
  line := 1
  written := [⟨.punctuation, "[", 1, true, false⟩, ⟨.alias, "Repo", 1, false, false⟩,
    ⟨.punctuation, ",", 1, false, false⟩, ⟨.alias, "Mail", 1, true, false⟩, ⟨.punctuation, "]", 1, false, false⟩]
  entries := [.alias repo 1, .alias mail 1]
  isList := ⟨by decide, 3, true, by cbv⟩
  written' := [⟨.punctuation, "[", 1, true, false⟩, ⟨.punctuation, "\x7b", 1, false, false⟩,
    ⟨.alias, "Mail", 1, false, false⟩, ⟨.punctuation, "\x7d", 1, false, false⟩, ⟨.punctuation, ",", 1, false, false⟩,
    ⟨.integer, "1", 1, true, false⟩, ⟨.punctuation, ",", 1, false, false⟩, ⟨.alias, "Repo", 1, true, false⟩,
    ⟨.punctuation, "]", 1, false, false⟩]
  entries' := [.tuple [.alias mail 1] 1, .literal (.integer 1) 1, .alias repo 1]
  isList' := ⟨by decide, 3, true, by cbv⟩

def cartDirective (entries : List Node) : Boundary.Directive := ⟨[.pair (.atom "deps" 1) (.list entries 1) 1], 1⟩

def cartBody (entries : List Node) (line : Nat) : List Node :=
  [.moduleDecl (some cart)
    [.directive .using (some Boundary.boundaryModule) [Boundary.boundaryModule] (cartDirective entries).options 1,
      .call (some (.alias ⟨["System"], by simp, by decide⟩ line)) "get_env" [] [] [] line] 1]

theorem findDirective?_cart (path : String) (entries : List Node) (line : Nat) :
    findDirective? ⟨path, cartBody entries line⟩ = some (some cart, cartDirective entries) := by
  simp [findDirective?, SyntaxTree.nodes, cartBody, Node.walkAll, Boundary.directive?, cartDirective]

theorem scan_cart : Token.scan (cartText "Repo, Mail") = .ok (cartFront ++ cartGap.tokens) := by decide +kernel

theorem scan_cart' : Token.scan (cartText "\x7bMail\x7d, 1, Repo") = .ok (cartFront ++ cartGap.tokens') := by
  decide +kernel

theorem parse_cart : Grammar.parse (cartText "Repo, Mail") = .ok (cartBody cartGap.entries 2) := by
  rw [Grammar.parse, scan_cart]
  cbv

theorem parse_cart' : Grammar.parse (cartText "\x7bMail\x7d, 1, Repo") = .ok (cartBody cartGap.entries' 2) := by
  rw [Grammar.parse, scan_cart']
  cbv

theorem run_namedDeps_cart :
    (∀ ref, (∃ entry ∈ cartGap.entries, Names entry ref) ↔ ∃ entry ∈ cartGap.entries', Names entry ref) ∧
      declaration? ⟨"lib/cart.ex", cartBody cartGap.entries 2⟩ =
        declaration? ⟨"lib/cart.ex", cartBody cartGap.entries' 2⟩ ∧
      ∀ config engine probe result, Engine.ofConfig config = .ok engine →
        (run engine probe [("lib/cart.ex", cartText "Repo, Mail")] = .ok result ↔
          run engine probe [("lib/cart.ex", cartText "\x7bMail\x7d, 1, Repo")] = .ok result) := by
  have named : ∀ ref, (∃ entry ∈ cartGap.entries, Names entry ref) ↔ ∃ entry ∈ cartGap.entries', Names entry ref := by
    intro ref
    rw [← Boundary.mem_named_iff, ← Boundary.mem_named_iff]
    exact (List.Perm.swap mail repo []).mem_iff
  obtain ⟨declared, -, alike⟩ := run_namedDeps cartGap scan_cart scan_cart' parse_cart parse_cart'
    (findDirective?_cart "lib/cart.ex" _ _) rfl (findDirective?_cart "lib/cart.ex" _ _) rfl named
  exact ⟨named, declared, fun config engine probe => alike config engine probe [] []⟩

def envConfig : Config :=
  ⟨[], [], [], (Rule.knownIds.filter (· ≠ Rule.noEnvInRuntime.id)).map fun id => (id, ⟨false, none, none, []⟩), .low, 1, []⟩

def envEngine : Engine := ⟨⟨[]⟩, [Rule.default Rule.noEnvInRuntime], none, ⟨false, none, none, []⟩, .low⟩

theorem ofConfig_env : Engine.ofConfig envConfig = .ok envEngine := by rfl

theorem lines_of_run {finished : Except Lint.Fault LintResult} {lines : List Nat}
    (found : finished.toOption.map (fun result => result.issues.map (·.line)) = some lines) :
    ∃ result, finished = .ok result ∧ result.issues.map (·.line) = lines := by
  cases finished with
  | error fault => cases found
  | ok result => exact ⟨result, rfl, Option.some.inj found⟩

/-- Two lists that name no module and take the same lines are not the same to a run if one of them holds a sigil with a
line break behind a backslash: that break is not counted, and what stands after the list is reported a line too early. -/
theorem run_namedDeps_sigil :
    ∃ entries entries' line line' result result',
      Grammar.parse (cartText "~s(\\\n)") = .ok (cartBody entries line) ∧
      Grammar.parse (cartText "\n") = .ok (cartBody entries' line') ∧
      (∀ ref, (∃ entry ∈ entries, Names entry ref) ↔ ∃ entry ∈ entries', Names entry ref) ∧
      Engine.ofConfig envConfig = .ok envEngine ∧
      run envEngine .denied [("lib/cart.ex", cartText "~s(\\\n)")] = .ok result ∧
      run envEngine .denied [("lib/cart.ex", cartText "\n")] = .ok result' ∧
      result.issues.map (·.line) = [2] ∧ result'.issues.map (·.line) = [3] := by
  have scanned : Token.scan (cartText "~s(\\\n)") = .ok (cartFront ++ [⟨.key, "deps", 1, true, false⟩,
      ⟨.punctuation, "[", 1, true, false⟩, ⟨.sigil, "~s\\\n", 1, false, false⟩, ⟨.punctuation, "]", 1, false, false⟩] ++
      cartBack 2) := by decide +kernel
  have scanned' : Token.scan (cartText "\n") = .ok (cartFront ++ [⟨.key, "deps", 1, true, false⟩,
      ⟨.punctuation, "[", 1, true, false⟩, ⟨.punctuation, "]", 2, true, true⟩] ++ cartBack 3) := by decide +kernel
  have parsed : Grammar.parse (cartText "~s(\\\n)") = .ok (cartBody [.literal (.text "~s\\\n") 1] 2) := by
    rw [Grammar.parse, scanned]
    cbv
  have parsed' : Grammar.parse (cartText "\n") = .ok (cartBody [] 3) := by
    rw [Grammar.parse, scanned']
    cbv
  obtain ⟨result, ran, lines⟩ : ∃ result, run envEngine .denied [("lib/cart.ex", cartText "~s(\\\n)")] = .ok result ∧
      result.issues.map (·.line) = [2] := lines_of_run (by decide +kernel)
  obtain ⟨result', ran', lines'⟩ : ∃ result, run envEngine .denied [("lib/cart.ex", cartText "\n")] = .ok result ∧
      result.issues.map (·.line) = [3] := lines_of_run (by decide +kernel)
  refine ⟨_, _, _, _, result, result', parsed, parsed', ?_, ofConfig_env, ran, ran', lines, lines'⟩
  intro ref
  rw [← Boundary.mem_named_iff, ← Boundary.mem_named_iff]
  rfl

end Cart

end Lint

end BoundaryLint
