import BoundaryLint.Boundary.Declaration
import BoundaryLint.Proofs.Tree.Bare
import BoundaryLint.Proofs.Tree.Visit
import Mathlib

/-!
The directive that declares a boundary, in trees that differ in one list of dependencies. If the list is hidden in a
directive, both trees have the same directives up to that list. If it is not, the first boundary directive is the
same one in both trees, or it stands among the entries of the list and so has another list than that.
-/

namespace BoundaryLint

section Options

variable {α β : Type} {differ : α → α → Prop} {other : β → β → Prop} {off : Nat}

theorem Near.or {first first' second second' : Option β} (near : Near (OptionOff other) off first first')
    (later : Near (OptionOff other) off second second') :
    Near (OptionOff other) off (first.or second) (first'.or second') := by
  rcases near with rfl | ⟨some, optional⟩
  · cases first with
    | none => simpa only [Option.none_or] using later
    | some value => exact .refl _ _
  · cases optional with
    | some differs => exact .inr ⟨some, .some differs⟩

theorem Near.head? {items items' : List α} (near : Near (OneOff differ) off items items') :
    Near (OptionOff differ) off items.head? items'.head? := by
  refine near.map fun one => ?_
  cases one with
  | head rest differs => exact .of_differ (.some differs)
  | tail item later => exact .refl _ _

theorem Near.findSome? {items items' : List α} {f : α → Option β} (near : Near (OneOff differ) off items items')
    (each : ∀ {item item'}, differ item item' → Near (OptionOff other) 1 (f item) (f item')) :
    Near (OptionOff other) off (items.findSome? f) (items'.findSome? f) := by
  rw [← List.head?_filterMap, ← List.head?_filterMap]
  exact (near.filterMap each).head?

end Options

namespace Node

section Size

theorem length_listLines_children (node : Node) : (listLines node.children).length < node.lines.length := by
  cases node <;> simp [children, lines, listLines, listLines_append, ← optionLines_eq] <;> omega

theorem length_lines_of_mem {node : Node} {nodes : List Node} (mem : node ∈ nodes) :
    node.lines.length ≤ (listLines nodes).length := by
  induction nodes with
  | nil => cases mem
  | cons first rest ih =>
    rw [listLines, List.length_append]
    rcases List.mem_cons.mp mem with rfl | later
    · omega
    · have := ih later
      omega

theorem length_lines_of_mem_walkAll {node : Node} {pending : List Node} (mem : node ∈ walkAll pending) :
    node.lines.length ≤ (listLines pending).length := by
  fun_induction walkAll pending with
  | case1 => cases mem
  | case2 first rest ih =>
    rcases List.mem_cons.mp mem with rfl | later
    · exact length_lines_of_mem List.mem_cons_self
    · have fewer := ih later
      have smaller := length_listLines_children first
      rw [listLines_append, List.length_append] at fewer
      rw [listLines, List.length_append]
      omega

theorem length_lines_of_lookup? {key : String} {pairs : List Node} {value : Node}
    (found : lookup? key pairs = some value) : value.lines.length < (listLines pairs).length := by
  obtain ⟨pair, mem, given⟩ := List.exists_of_findSome?_eq_some found
  have smaller := length_lines_of_mem mem
  split at given
  · split at given
    · cases given
      simp only [lines, List.length_cons, List.length_append] at smaller
      omega
    · cases given
  · cases given

end Size

theorem walkAll_append (first second : List Node) : walkAll (first ++ second) = walkAll first ++ walkAll second := by
  fun_induction walkAll first with
  | case1 => rfl
  | case2 node rest ih => rw [List.cons_append, walkAll, ← List.append_assoc, ih, List.cons_append]

end Node

namespace Boundary

open Node (Differ Differs RowClose)

def moduleDirective? : Node → Option (Option ModuleRef × Directive)
  | .moduleDecl name body _ => (body.findSome? directive?).map fun found => (name, found)
  | _ => none

def foundIn (nodes : List Node) : Option (Option ModuleRef × Directive) :=
  (Node.walkAll nodes).findSome? moduleDirective?

theorem findDirective?_eq (tree : SyntaxTree) :
    findDirective? tree =
      (foundIn tree.body).or ((tree.body.findSome? directive?).map fun found => (tree.moduleName?, found)) := by
  unfold findDirective?
  dsimp only
  split
  · next found inModules =>
    rw [show foundIn tree.body = some found from inModules, Option.some_or]
  · next inModules =>
    rw [show foundIn tree.body = none from inModules, Option.none_or]

theorem foundIn_nil : foundIn [] = none := by
  rw [foundIn, Node.walkAll, List.findSome?_nil]

theorem foundIn_append (first second : List Node) : foundIn (first ++ second) = (foundIn first).or
    (foundIn second) := by
  rw [foundIn, Node.walkAll_append, List.findSome?_append]
  rfl

theorem foundIn_cons (node : Node) (rest : List Node) : foundIn (node :: rest) = (foundIn [node]).or (foundIn rest) :=
  foundIn_append [node] rest

theorem foundIn_node (node : Node) : foundIn [node] = (moduleDirective? node).or (foundIn node.children) := by
  rw [foundIn, Node.walkAll, List.append_nil, List.findSome?_cons]
  cases moduleDirective? node with
  | none => rfl
  | some found => rfl

section Differing

variable {swap : List Node → List Node → Prop} {node node' : Node}

theorem children_eq_parts (plain : node.isDirective = false) : node.children = node.parts := by
  cases node <;> first | rfl | cases plain

theorem children_of_directive (directive : node.isDirective = true) : node.children = [] := by
  cases node <;> first | rfl | cases directive

theorem directive?_directive (kind : DirectiveKind) (base : Option ModuleRef) (refs : List ModuleRef)
    (options : List Node) (line : Nat) :
    directive? (.directive kind base refs options line) =
      if kind = .using ∧ refs = [boundaryModule] then some ⟨options, line⟩ else none := by
  cases kind <;> simp [directive?]

theorem directive?_of_not (plain : node.isDirective = false) : directive? node = none := by
  cases node <;> first | rfl | cases plain

/-- A difference that shows is not in a directive. -/
theorem isDirective_of_visible {hidden : Bool} (differ : Differ swap hidden node node') (visible : hidden = false) :
    node.isDirective = false ∧ node'.isDirective = false := by
  cases differ with
  | here line listLine swaps => exact ⟨rfl, rfl⟩
  | inside form split split' differs =>
    have plain := (Bool.or_eq_false_iff.mp visible).2
    exact ⟨plain, (Node.isDirective_of_form form).symm.trans plain⟩

def DirectiveOff (swap : List Node → List Node → Prop) (directive directive' : Directive) : Prop :=
  directive.line = directive'.line ∧ OneOff (Differs swap) directive.options directive'.options

def FoundOff (swap : List Node → List Node → Prop) (found found' : Option ModuleRef × Directive) : Prop :=
  found.1 = found'.1 ∧ DirectiveOff swap found.2 found'.2

theorem foundOff_of_directiveOff {found found' : Option Directive} (name : Option ModuleRef)
    (optional : OptionOff (DirectiveOff swap) found found') :
    Near (OptionOff (FoundOff swap)) 1 (found.map fun found => (name, found)) (found'.map fun found => (name, found)) := by
  cases optional with
  | some differs => exact .of_differ (.some ⟨rfl, differs⟩)

theorem directive?_near (differs : Differs swap node node') :
    Near (OptionOff (DirectiveOff swap)) 1 (directive? node) (directive? node') := by
  rcases differs.cases with ⟨entries, entries', line, listLine, rfl, rfl, -⟩ | ⟨form, one⟩
  · exact .refl _ _
  cases node with
  | directive kind base refs options line =>
    cases node' <;> simp only [Node.hollow, reduceCtorEq] at form
    simp only [Node.directive.injEq] at form
    obtain ⟨rfl, rfl, rfl, -, rfl⟩ := form
    rw [directive?_directive, directive?_directive]
    split
    · exact .of_differ (.some ⟨rfl, one⟩)
    · exact .refl _ _
  | _ =>
    cases node' <;> simp only [Node.hollow, reduceCtorEq] at form
    exact .refl _ _

theorem moduleDirective?_near (differs : Differs swap node node') :
    Near (OptionOff (FoundOff swap)) 1 (moduleDirective? node) (moduleDirective? node') := by
  rcases differs.cases with ⟨entries, entries', line, listLine, rfl, rfl, -⟩ | ⟨form, one⟩
  · exact .refl _ _
  cases node with
  | moduleDecl name body line =>
    cases node' <;> simp only [Node.hollow, reduceCtorEq] at form
    simp only [Node.moduleDecl.injEq] at form
    obtain ⟨rfl, -, rfl⟩ := form
    have near : Near (OptionOff (DirectiveOff swap)) 1 _ _ := (Near.of_differ one).findSome? directive?_near
    exact near.map (f := Option.map fun found => (name, found)) (foundOff_of_directiveOff name)
  | _ =>
    cases node' <;> simp only [Node.hollow, reduceCtorEq] at form
    exact .refl _ _

/-- Where the difference is hidden, the first boundary directives are the same up to their options. -/
theorem foundIn_near {hidden : Bool} (differ : Differ swap hidden node node') (covered : hidden = true) :
    Near (OptionOff (FoundOff swap)) 1 (foundIn [node]) (foundIn [node']) := by
  induction differ with
  | here line listLine swaps => cases covered
  | @inside hidden node node' part part' before after form split split' differs ih =>
    rw [foundIn_node, foundIn_node]
    refine (moduleDirective?_near ⟨_, .inside form split split' differs⟩).or ?_
    cases plain : node.isDirective with
    | true =>
      rw [children_of_directive plain, children_of_directive ((Node.isDirective_of_form form).symm.trans plain)]
      exact .refl _ _
    | false =>
      rw [plain, Bool.or_false] at covered
      rw [children_eq_parts plain, children_eq_parts ((Node.isDirective_of_form form).symm.trans plain), split, split',
        foundIn_append, foundIn_append, foundIn_cons part, foundIn_cons part']
      exact (Near.refl 1 _).or ((ih covered).or (.refl 1 _))

theorem moduleDirective?_of_visible {hidden : Bool} (differ : Differ swap hidden node node')
    (visible : hidden = false) :
    moduleDirective? node = moduleDirective? node' := by
  cases differ with
  | here line listLine swaps => rfl
  | @inside hidden node node' part part' before after form split split' differs =>
    obtain ⟨plain, plain'⟩ := isDirective_of_visible differs (Bool.or_eq_false_iff.mp visible).1
    cases node with
    | moduleDecl name body line =>
      cases node' <;> simp only [Node.hollow, reduceCtorEq] at form
      simp only [Node.moduleDecl.injEq] at form
      obtain ⟨rfl, -, rfl⟩ := form
      simp only [Node.parts, Node.children] at split split'
      rw [moduleDirective?, moduleDirective?, split, split', List.findSome?_append, List.findSome?_append,
        List.findSome?_cons, List.findSome?_cons, directive?_of_not plain, directive?_of_not plain']
    | _ =>
      cases node' <;> simp only [Node.hollow, reduceCtorEq] at form
      rfl

theorem foundIn_of_visible {hidden : Bool} (differ : Differ swap hidden node node') (visible : hidden = false) :
    ∃ (entries entries' : List Node) (left right : Option (Option ModuleRef × Directive)),
      swap entries entries' ∧ foundIn [node] = left.or ((foundIn entries).or right) ∧
      foundIn [node'] = left.or ((foundIn entries').or right) := by
  induction differ with
  | @here entries entries' line listLine swaps =>
    have single : ∀ items, foundIn [.pair (.atom "deps" line) (.list items listLine) line] = foundIn items := by
      intro items
      rw [foundIn_node, Node.children, foundIn_cons, foundIn_node, foundIn_node]
      simp [moduleDirective?, Node.children, foundIn_nil]
    exact ⟨entries, entries', none, none, swaps, by simp [single], by simp [single]⟩
  | @inside hidden node node' part part' before after form split split' differs ih =>
    obtain ⟨shown, plain⟩ := Bool.or_eq_false_iff.mp visible
    obtain ⟨entries, entries', left, right, swaps, found, found'⟩ := ih shown
    have same := moduleDirective?_of_visible (.inside form split split' differs) visible
    refine ⟨entries, entries', (moduleDirective? node).or ((foundIn before).or left), right.or (foundIn after), swaps, ?_, ?_⟩
    · rw [foundIn_node, children_eq_parts plain, split, foundIn_append, foundIn_cons, found]
      simp only [Option.or_assoc]
    · rw [foundIn_node, children_eq_parts ((Node.isDirective_of_form form).symm.trans plain), split', foundIn_append,
        foundIn_cons, found', same]
      simp only [Option.or_assoc]

theorem length_lines_of_directive? {directive : Directive} (found : directive? node = some directive) :
    (Node.listLines directive.options).length < node.lines.length := by
  unfold directive? at found
  split at found
  · split at found
    · cases found
      simp [Node.lines]
    · cases found
  · cases found

theorem not_listed_of_foundIn {entries : List Node} {name : Option ModuleRef} {directive : Directive} {line : Nat}
    (found : foundIn entries = some (name, directive)) :
    Node.lookup? "deps" directive.options ≠ some (.list entries line) := by
  intro listed
  obtain ⟨module, visited, given⟩ := List.exists_of_findSome?_eq_some found
  unfold moduleDirective? at given
  split at given
  · next own body place =>
    obtain ⟨own, among, same⟩ := Option.map_eq_some_iff.mp given
    cases same
    obtain ⟨node, mem, inside⟩ := List.exists_of_findSome?_eq_some among
    have outer := Node.length_lines_of_mem_walkAll visited
    have middle := Node.length_lines_of_mem mem
    have inner := length_lines_of_directive? inside
    have least := Node.length_lines_of_lookup? listed
    simp only [Node.lines, List.length_cons] at outer least
    omega
  · cases given

end Differing

section Trees

variable {swap : List Node → List Node → Prop} {body body' entries entries' : List Node} {path : String}
  {name name' : Option ModuleRef} {directive directive' : Directive} {line : Nat}

theorem modules_bare (path : String) (body : List Node) :
    (SyntaxTree.mk path (body.map Node.bare)).modules = (SyntaxTree.mk path body).modules := by
  rw [SyntaxTree.modules, SyntaxTree.nodes, Node.walkAll_bare, List.filterMap_map]
  apply List.filterMap_congr
  intro node _
  cases node <;> rfl

/-- Where the difference shows, the lists of the boundary directives are the same. -/
theorem entries_eq_of_visible {before after : List Node} {node node' : Node} (differ : Differ swap false node node')
    (only : ∀ first second, swap first second → first = entries ∧ second = entries')
    (found : findDirective? ⟨path, before ++ node :: after⟩ = some (name, directive))
    (listed : Node.lookup? "deps" directive.options = some (.list entries line))
    (found' : findDirective? ⟨path, before ++ node' :: after⟩ = some (name', directive'))
    (listed' : Node.lookup? "deps" directive'.options = some (.list entries' line)) : entries = entries' := by
  have same_of_eq : directive = directive' → entries = entries' := by
    rintro rfl
    rw [listed] at listed'
    cases listed'
    rfl
  obtain ⟨plain, plain'⟩ := isDirective_of_visible differ rfl
  obtain ⟨first, second, left, right, swaps, inside, inside'⟩ := foundIn_of_visible differ rfl
  obtain ⟨rfl, rfl⟩ := only first second swaps
  have split : ∀ node items, foundIn [node] = left.or ((foundIn items).or right) → directive? node = none →
      findDirective? ⟨path, before ++ node :: after⟩ = ((foundIn before).or left).or ((foundIn items).or
        ((right.or (foundIn after)).or (((before ++ after).findSome? directive?).map fun found =>
          ((SyntaxTree.mk path (before ++ node :: after)).moduleName?, found)))) := by
    intro node items found none
    rw [findDirective?_eq]
    simp only [foundIn_append, foundIn_cons, found, List.findSome?_append, List.findSome?_cons, none, Option.or_assoc]
  rw [split node first inside (directive?_of_not plain)] at found
  rw [split node' second inside' (directive?_of_not plain')] at found'
  generalize (foundIn before).or left = early at found found'
  generalize right.or (foundIn after) = late at found found'
  generalize (before ++ after).findSome? directive? = top at found found'
  -- What is found before or behind the list is the same in both trees, and nothing is found in it.
  cases early with
  | some given =>
    cases found
    cases found'
    exact same_of_eq rfl
  | none =>
  cases inner : foundIn first with
  | some given =>
    rw [inner] at found
    cases found
    exact absurd listed (not_listed_of_foundIn inner)
  | none =>
  cases inner' : foundIn second with
  | some given =>
    rw [inner'] at found'
    cases found'
    exact absurd listed' (not_listed_of_foundIn inner')
  | none =>
  rw [inner] at found
  rw [inner'] at found'
  cases late with
  | some given =>
    cases found
    cases found'
    exact same_of_eq rfl
  | none =>
    cases top with
    | none => cases found
    | some given =>
      cases found
      cases found'
      exact same_of_eq rfl

/-- Where the difference is hidden, the boundary directives are the same up to their options. -/
theorem findDirective?_near {before after : List Node} {node node' : Node} (differ : Differ swap true node node') :
    Near (OptionOff (FoundOff swap)) 1 (findDirective? ⟨path, before ++ node :: after⟩)
      (findDirective? ⟨path, before ++ node' :: after⟩) := by
  have named : (SyntaxTree.mk path (before ++ node :: after)).moduleName? =
      (SyntaxTree.mk path (before ++ node' :: after)).moduleName? := by
    rw [SyntaxTree.moduleName?, SyntaxTree.moduleName?, ← modules_bare, ← modules_bare path (before ++ node' :: after)]
    simp [differ.bare_eq rfl]
  rw [findDirective?_eq, findDirective?_eq, ← named]
  dsimp only
  rw [foundIn_append, foundIn_append, foundIn_cons node, foundIn_cons node']
  refine ((Near.refl 1 _).or ((foundIn_near differ rfl).or (.refl 1 _))).or ?_
  have differs : Differs swap node node' := ⟨true, differ⟩
  have near : Near (OptionOff (DirectiveOff swap)) 1 _ _ :=
    (Near.of_differ (OneOff.of_split before after differs)).findSome? directive?_near
  exact near.map (f := Option.map fun found => ((SyntaxTree.mk path (before ++ node :: after)).moduleName?, found))
    (foundOff_of_directiveOff _)

theorem leaves_of_setOption? {key value : Node} {place : Nat} {option : String}
    (set : setOption? (.pair key value place) = some option) : key.parts = [] ∧ value.parts = [] := by
  unfold setOption? at set
  split at set
  · next same =>
    cases same
    exact ⟨rfl, rfl⟩
  · cases set

theorem setOption?_eq {node node' : Node} (differs : Differs swap node node') : setOption? node = setOption? node' := by
  rcases differs.cases with ⟨entries, entries', line, listLine, rfl, rfl, -⟩ | ⟨form, one⟩
  · rfl
  cases node with
  | pair key value place =>
    cases node' <;> simp only [Node.hollow, reduceCtorEq] at form
    next key' value' place' =>
    have unset : ∀ {set : Option String}, (∀ option, set ≠ some option) → set = none := Option.eq_none_iff_forall_ne_some.mpr
    simp only [Node.parts, Node.children] at one
    rcases one.cons_inv with ⟨item, same, first⟩ | ⟨rest, same, later⟩
    · cases same
      rw [unset fun option set => Node.not_differs_of_leaf (leaves_of_setOption? set).1 first,
        unset fun option set => Node.not_differs_from_leaf (leaves_of_setOption? set).1 first]
    · rcases later.cons_inv with ⟨item, inner, second⟩ | ⟨none, -, impossible⟩
      · cases same
        cases inner
        rw [unset fun option set => Node.not_differs_of_leaf (leaves_of_setOption? set).2 second,
          unset fun option set => Node.not_differs_from_leaf (leaves_of_setOption? set).2 second]
      · cases impossible
  | _ =>
    cases node' <;> simp only [Node.hollow, reduceCtorEq] at form
    rfl

theorem setOptions_eq {options options' : List Node} (one : OneOff (Differs swap) options options') :
    options.filterMap setOption? = options'.filterMap setOption? := by
  induction one with
  | head rest differs => rw [List.filterMap_cons, List.filterMap_cons, setOption?_eq differs]
  | tail item later ih => rw [List.filterMap_cons, List.filterMap_cons, ih]

theorem eq_or_hidden (close : RowClose swap 1 body body')
    (only : ∀ first second, swap first second → first = entries ∧ second = entries')
    (found : findDirective? ⟨path, body⟩ = some (name, directive))
    (listed : Node.lookup? "deps" directive.options = some (.list entries line))
    (found' : findDirective? ⟨path, body'⟩ = some (name', directive'))
    (listed' : Node.lookup? "deps" directive'.options = some (.list entries' line)) :
    body = body' ∨ ∃ before node node' after, body = before ++ node :: after ∧ body' = before ++ node' :: after ∧
      Differ swap true node node' := by
  rcases close with same | ⟨-, one⟩
  · exact .inl same
  obtain ⟨before, node, node', after, rfl, rfl, hidden, differ⟩ := one.split
  cases hidden with
  | false =>
    have same := entries_eq_of_visible differ only found listed found' listed'
    have equal : node = node' := differ.eq_of_swap fun first second swaps => by
      obtain ⟨rfl, rfl⟩ := only first second swaps
      exact same
    exact .inl (by rw [equal])
  | true => exact .inr ⟨before, node, node', after, rfl, rfl, differ⟩

/-- Trees that differ in the list of the boundary directive have one bare tree and, but for that list, the same
directive. -/
theorem findDirective?_alike (close : RowClose swap 1 body body')
    (only : ∀ first second, swap first second → first = entries ∧ second = entries')
    (found : findDirective? ⟨path, body⟩ = some (name, directive))
    (listed : Node.lookup? "deps" directive.options = some (.list entries line))
    (found' : findDirective? ⟨path, body'⟩ = some (name', directive'))
    (listed' : Node.lookup? "deps" directive'.options = some (.list entries' line)) :
    body.map Node.bare = body'.map Node.bare ∧ name = name' ∧ directive.line = directive'.line ∧
      directive.options.filterMap setOption? = directive'.options.filterMap setOption? := by
  rcases eq_or_hidden close only found listed found' listed' with rfl | ⟨before, node, node', after, rfl, rfl, differ⟩
  · rw [found] at found'
    cases found'
    exact ⟨rfl, rfl, rfl, rfl⟩
  have near : Near (OptionOff (FoundOff swap)) 1 (some (name, directive)) (some (name', directive')) := by
    rw [← found, ← found']
    exact findDirective?_near differ
  refine ⟨by simp [differ.bare_eq rfl], ?_⟩
  rcases near with same | ⟨-, optional⟩
  · cases same
    exact ⟨rfl, rfl, rfl⟩
  · cases optional with
    | some differs =>
      obtain ⟨named, lined, one⟩ := differs
      exact ⟨named, lined, setOptions_eq one⟩

end Trees

end Boundary

end BoundaryLint
