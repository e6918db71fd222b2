import BoundaryLint.Tree.Node
import Mathlib

/-!
Trees that differ in one list. Of two trees one has, as the value of a key `deps`, a list with other entries than
the other tree has there; all else is the same. How far two things may differ is counted: with nothing off they are
equal, with one off they may differ at one place.
-/

namespace BoundaryLint

variable {α β : Type} {differ : α → α → Prop} {other : β → β → Prop}

inductive OneOff (differ : α → α → Prop) : List α → List α → Prop
  | head {item item' : α} (rest : List α) (differs : differ item item') : OneOff differ (item :: rest) (item' :: rest)
  | tail (item : α) {rest rest' : List α} (later : OneOff differ rest rest') :
    OneOff differ (item :: rest) (item :: rest')

inductive OptionOff (differ : α → α → Prop) : Option α → Option α → Prop
  | some {value value' : α} (differs : differ value value') : OptionOff differ (some value) (some value')

def Near (differ : α → α → Prop) (off : Nat) (value value' : α) : Prop := value = value' ∨ 0 < off ∧ differ value value'

namespace OneOff

variable {items items' : List α}

theorem length_eq (one : OneOff differ items items') : items.length = items'.length := by
  induction one with
  | head rest differs => rfl
  | tail item later ih => rw [List.length_cons, List.length_cons, ih]

theorem append_right (one : OneOff differ items items') (rest : List α) :
    OneOff differ (items ++ rest) (items' ++ rest) := by
  induction one with
  | head more differs => exact .head (more ++ rest) differs
  | tail item later ih => exact .tail item ih

theorem append_left (front : List α) (one : OneOff differ items items') :
    OneOff differ (front ++ items) (front ++ items') := by
  induction front with
  | nil => exact one
  | cons item front ih => exact .tail item ih

theorem split (one : OneOff differ items items') :
    ∃ before item item' after, items = before ++ item :: after ∧ items' = before ++ item' :: after ∧
      differ item item' := by
  induction one with
  | head rest differs => exact ⟨[], _, _, rest, rfl, rfl, differs⟩
  | tail item later ih =>
    obtain ⟨before, first, first', after, rfl, rfl, differs⟩ := ih
    exact ⟨item :: before, first, first', after, rfl, rfl, differs⟩

theorem of_split (before after : List α) {item item' : α} (differs : differ item item') :
    OneOff differ (before ++ item :: after) (before ++ item' :: after) :=
  (head after differs).append_left before

theorem cons_inv {item : α} {rest : List α} (one : OneOff differ (item :: rest) items') :
    (∃ item', items' = item' :: rest ∧ differ item item') ∨ ∃ rest', items' = item :: rest' ∧ OneOff differ rest rest' := by
  cases one with
  | head _ differs => exact .inl ⟨_, rfl, differs⟩
  | tail _ later => exact .inr ⟨_, rfl, later⟩

theorem append_inv {rest rest' : List α} (one : OneOff differ (items ++ rest) (items' ++ rest'))
    (long : items.length = items'.length) :
    OneOff differ items items' ∧ rest = rest' ∨ items = items' ∧ OneOff differ rest rest' := by
  induction items generalizing items' with
  | nil =>
    cases List.eq_nil_of_length_eq_zero long.symm
    exact .inr ⟨rfl, one⟩
  | cons item items ih =>
    cases items' with
    | nil => cases long
    | cons item' items' =>
      rcases one.cons_inv with ⟨first, same, differs⟩ | ⟨following, same, later⟩
      · obtain ⟨rfl, tails⟩ := List.cons.inj same
        obtain ⟨rfl, rfl⟩ := List.append_inj tails (Nat.succ.inj long).symm
        exact .inl ⟨.head _ differs, rfl⟩
      · obtain ⟨rfl, rfl⟩ := List.cons.inj same
        rcases ih later (Nat.succ.inj long) with ⟨early, rfl⟩ | ⟨rfl, late⟩
        · exact .inl ⟨.tail _ early, rfl⟩
        · exact .inr ⟨rfl, late⟩

theorem filterMap {f : α → Option β} (one : OneOff differ items items')
    (each : ∀ {item item'}, differ item item' → Near (OptionOff other) 1 (f item) (f item')) :
    Near (OneOff other) 1 (items.filterMap f) (items'.filterMap f) := by
  induction one with
  | head rest differs =>
    rcases each differs with same | ⟨-, off⟩
    · exact .inl (by simp only [List.filterMap_cons, same])
    · generalize found : f _ = first at off
      generalize found' : f _ = first' at off
      cases off with
      | some differs =>
        simp only [List.filterMap_cons, found, found']
        exact .inr ⟨Nat.one_pos, .head _ differs⟩
  | tail item later ih =>
    cases found : f item with
    | none => simpa only [List.filterMap_cons, found] using ih
    | some value =>
      simp only [List.filterMap_cons, found]
      rcases ih with same | ⟨some, one⟩
      · exact .inl (by rw [same])
      · exact .inr ⟨some, .tail value one⟩

end OneOff

namespace Near

variable {off more : Nat} {value value' : α} {items items' : List α}

theorem refl (off : Nat) (value : α) : Near differ off value value := .inl rfl

theorem mono (near : Near differ off value value') (le : off ≤ more) : Near differ more value value' :=
  near.imp id (And.imp_left fun some => by omega)

theorem of_differ (differs : differ value value') : Near differ 1 value value' := .inr ⟨Nat.one_pos, differs⟩

theorem eq_of_zero (near : Near differ 0 value value') : value = value' :=
  near.resolve_right fun some => absurd some.1 (Nat.lt_irrefl 0)

theorem map {f : α → β} (near : Near differ off value value')
    (keeps : differ value value' → Near other 1 (f value) (f value')) : Near other off (f value) (f value') := by
  rcases near with same | ⟨some, differs⟩
  · exact .inl (by rw [same])
  · exact (keeps differs).mono some

theorem cons {rest rest' : List α} (first : Near differ off value value') (later : Near (OneOff differ) more rest rest')
    (single : off + more ≤ 1) : Near (OneOff differ) (off + more) (value :: rest) (value' :: rest') := by
  rcases first with rfl | ⟨some, differs⟩
  · rcases later with rfl | ⟨some, one⟩
    · exact .refl _ _
    · exact .inr ⟨by omega, .tail value one⟩
  · have same : Near (OneOff differ) 0 rest rest' := later.mono (by omega)
    exact same.eq_of_zero ▸ .inr ⟨by omega, .head rest differs⟩

theorem append {rest rest' : List α} (first : Near (OneOff differ) off items items')
    (later : Near (OneOff differ) more rest rest') (single : off + more ≤ 1) :
    Near (OneOff differ) (off + more) (items ++ rest) (items' ++ rest') := by
  rcases first with rfl | ⟨some, one⟩
  · rcases later with rfl | ⟨some, one⟩
    · exact .refl _ _
    · exact .inr ⟨by omega, one.append_left items⟩
  · have same : Near (OneOff differ) 0 rest rest' := later.mono (by omega)
    exact same.eq_of_zero ▸ .inr ⟨by omega, one.append_right rest⟩

theorem length_eq (near : Near (OneOff differ) off items items') : items.length = items'.length := by
  rcases near with rfl | ⟨-, one⟩
  · rfl
  · exact one.length_eq

theorem isEmpty_eq (near : Near (OneOff differ) off items items') : items.isEmpty = items'.isEmpty := by
  rw [Bool.eq_iff_iff, List.isEmpty_iff_length_eq_zero, List.isEmpty_iff_length_eq_zero, near.length_eq]

theorem nil_inv (near : Near (OneOff differ) off [] items') : items' = [] :=
  List.eq_nil_of_length_eq_zero near.length_eq.symm

theorem cons_inv {rest : List α} (near : Near (OneOff differ) off (value :: rest) items') :
    ∃ value' rest' early late, items' = value' :: rest' ∧ early + late ≤ off ∧ Near differ early value value' ∧
      Near (OneOff differ) late rest rest' := by
  rcases near with rfl | ⟨some, one⟩
  · exact ⟨value, rest, 0, 0, rfl, Nat.zero_le _, .refl _ _, .refl _ _⟩
  · rcases one.cons_inv with ⟨value', rfl, differs⟩ | ⟨rest', rfl, later⟩
    · exact ⟨value', rest, 1, 0, rfl, some, .of_differ differs, .refl _ _⟩
    · exact ⟨value, rest', 0, 1, rfl, by omega, .refl _ _, .of_differ later⟩

theorem append_inv {rest rest' : List α} (near : Near (OneOff differ) off (items ++ rest) (items' ++ rest'))
    (long : items.length = items'.length) :
    ∃ early late, early + late ≤ off ∧ Near (OneOff differ) early items items' ∧ Near (OneOff differ) late rest rest' := by
  rcases near with same | ⟨some, one⟩
  · obtain ⟨rfl, rfl⟩ := List.append_inj same long
    exact ⟨0, 0, Nat.zero_le _, .refl _ _, .refl _ _⟩
  · rcases one.append_inv long with ⟨early, rfl⟩ | ⟨rfl, late⟩
    · exact ⟨1, 0, some, .of_differ early, .refl _ _⟩
    · exact ⟨0, 1, by omega, .refl _ _, .of_differ late⟩

theorem concat_inv {init : List α} (near : Near (OneOff differ) off (init ++ [value]) items') :
    ∃ init' value' early late, items' = init' ++ [value'] ∧ early + late ≤ off ∧
      Near (OneOff differ) early init init' ∧ Near differ late value value' := by
  have long := near.length_eq
  rcases List.eq_nil_or_concat' items' with rfl | ⟨init', value', rfl⟩
  · simp at long
  · obtain ⟨early, late, most, first, last⟩ := near.append_inv (by simpa using long)
    obtain ⟨other, nothing, here, none, same, fewer, final, -⟩ := last.cons_inv
    cases same
    exact ⟨init', value', early, here, rfl, by omega, first, final⟩

theorem filterMap {f : α → Option β} (near : Near (OneOff differ) off items items')
    (each : ∀ {value value'}, differ value value' → Near (OptionOff other) 1 (f value) (f value')) :
    Near (OneOff other) off (items.filterMap f) (items'.filterMap f) :=
  near.map fun one => one.filterMap each

theorem toList {found found' : Option α} (near : Near (OptionOff differ) off found found') :
    Near (OneOff differ) off found.toList found'.toList := by
  refine near.map fun optional => ?_
  cases optional with
  | some differs => exact .of_differ (.head [] differs)

theorem of_toList {found found' : Option α} (near : Near (OneOff differ) off found.toList found'.toList) :
    Near (OptionOff differ) off found found' := by
  rcases near with same | ⟨some, one⟩
  · cases found <;> cases found' <;> simp_all [Near]
  · refine .inr ⟨some, ?_⟩
    cases found with
    | none => cases one
    | some value =>
      cases found' with
      | none => cases one.length_eq
      | some value' =>
        cases one with
        | head rest differs => exact .some differs
        | tail item later => cases later

theorem isSome_eq {found found' : Option α} (near : Near (OptionOff differ) off found found') :
    found.isSome = found'.isSome := by
  rcases near with rfl | ⟨-, optional⟩
  · rfl
  · cases optional
    rfl

end Near

namespace Node

def blank : Node := .var "" 0

/-- The node without its parts; what is left is its form and how many parts it has. -/
def hollow : Node → Node
  | .alias ref line => .alias ref line
  | .atom name line => .atom name line
  | .literal value line => .literal value line
  | .var name line => .var name line
  | .call target function args block elseBlock line =>
    .call (target.map fun _ => blank) function (args.map fun _ => blank) (block.map fun _ => blank)
      (elseBlock.map fun _ => blank) line
  | .pair _ _ line => .pair blank blank line
  | .directive kind base refs options line => .directive kind base refs (options.map fun _ => blank) line
  | .moduleDecl name body line => .moduleDecl name (body.map fun _ => blank) line
  | .definition kind name params body guard line =>
    .definition kind name (params.map fun _ => blank) (body.map fun _ => blank) (guard.map fun _ => blank) line
  | .clause params body guard line =>
    .clause (params.map fun _ => blank) (body.map fun _ => blank) (guard.map fun _ => blank) line
  | .anonymous clauses line => .anonymous (clauses.map fun _ => blank) line
  | .withForm clauses body elseClauses line =>
    .withForm (clauses.map fun _ => blank) (body.map fun _ => blank) (elseClauses.map fun _ => blank) line
  | .binary op _ _ line => .binary op blank blank line
  | .unary op _ line => .unary op blank line
  | .list items line => .list (items.map fun _ => blank) line
  | .tuple items line => .tuple (items.map fun _ => blank) line
  | .map entries struct update line =>
    .map (entries.map fun _ => blank) (struct.map fun _ => blank) (update.map fun _ => blank) line
  | .sequence body line => .sequence (body.map fun _ => blank) line

def isDirective : Node → Bool
  | .directive _ _ _ _ _ => true
  | _ => false

/-- All nodes directly inside a node: the children, and of a directive its options. -/
def parts : Node → List Node
  | .directive _ _ _ options _ => options
  | node => node.children

/-- Trees that differ in one list of dependencies, where `swap` holds of its entries; the list is hidden in a
directive or not. -/
inductive Differ (swap : List Node → List Node → Prop) : Bool → Node → Node → Prop
  | here {entries entries' : List Node} (line listLine : Nat) (swaps : swap entries entries') :
    Differ swap false (.pair (.atom "deps" line) (.list entries listLine) line)
      (.pair (.atom "deps" line) (.list entries' listLine) line)
  | inside {hidden : Bool} {node node' part part' : Node} {before after : List Node} (form : node.hollow = node'.hollow)
    (split : node.parts = before ++ part :: after) (split' : node'.parts = before ++ part' :: after)
    (differs : Differ swap hidden part part') : Differ swap (hidden || node.isDirective) node node'

def Differs (swap : List Node → List Node → Prop) (node node' : Node) : Prop := ∃ hidden, Differ swap hidden node node'

abbrev Close (swap : List Node → List Node → Prop) : Nat → Node → Node → Prop := Near (Differs swap)

abbrev RowClose (swap : List Node → List Node → Prop) : Nat → List Node → List Node → Prop :=
  Near (OneOff (Differs swap))

abbrev OptionClose (swap : List Node → List Node → Prop) : Nat → Option Node → Option Node → Prop :=
  Near (OptionOff (Differs swap))

section Forms

variable {swap : List Node → List Node → Prop} {off : Nat} {node node' : Node}

theorem differs_of_parts (form : node.hollow = node'.hollow) (one : OneOff (Differs swap) node.parts node'.parts) :
    Differs swap node node' := by
  obtain ⟨before, part, part', after, split, split', hidden, differs⟩ := one.split
  exact ⟨_, .inside form split split' differs⟩

/-- Two nodes that differ are the pairs around the list, or are of one form and differ in one part. -/
theorem Differs.cases (differs : Differs swap node node') :
    (∃ entries entries' line listLine, node = .pair (.atom "deps" line) (.list entries listLine) line ∧
      node' = .pair (.atom "deps" line) (.list entries' listLine) line ∧ swap entries entries') ∨
    node.hollow = node'.hollow ∧ OneOff (Differs swap) node.parts node'.parts := by
  obtain ⟨hidden, differs⟩ := differs
  cases differs with
  | here line listLine swaps => exact .inl ⟨_, _, line, listLine, rfl, rfl, swaps⟩
  | inside form split split' differs =>
    rw [split, split']
    exact .inr ⟨form, .of_split _ _ ⟨_, differs⟩⟩

theorem toList_append_inj {found found' : Option Node} {rest rest' : List Node}
    (same : found.toList ++ rest = found'.toList ++ rest')
    (form : found.map (fun _ => blank) = found'.map fun _ => blank) :
    found = found' ∧ rest = rest' := by
  cases found <;> cases found' <;> simp_all

theorem append_inj_of_form {items items' rest rest' : List Node} (same : items ++ rest = items' ++ rest')
    (form : (items.map fun _ => blank) = items'.map fun _ => blank) : items = items' ∧ rest = rest' :=
  List.append_inj same (by simpa using congrArg List.length form)

/-- A node is its form with its parts. -/
theorem eq_of_form (form : node.hollow = node'.hollow) (same : node.parts = node'.parts) : node = node' := by
  cases node with
  | call target function args block elseBlock line =>
    cases node' <;> simp only [hollow, reduceCtorEq] at form
    simp only [call.injEq] at form
    obtain ⟨targets, rfl, arguments, blocks, sections, rfl⟩ := form
    simp only [parts, children, List.append_assoc] at same
    obtain ⟨rfl, later⟩ := toList_append_inj same targets
    obtain ⟨rfl, last⟩ := append_inj_of_form later arguments
    obtain ⟨rfl, rfl⟩ := append_inj_of_form last blocks
    rfl
  | definition kind name params body guard line =>
    cases node' <;> simp only [hollow, reduceCtorEq] at form
    simp only [definition.injEq] at form
    obtain ⟨rfl, rfl, parameters, bodies, guards, rfl⟩ := form
    simp only [parts, children, List.append_assoc] at same
    obtain ⟨rfl, later⟩ := append_inj_of_form same parameters
    obtain ⟨rfl, rfl⟩ := toList_append_inj later guards
    rfl
  | clause params body guard line =>
    cases node' <;> simp only [hollow, reduceCtorEq] at form
    simp only [clause.injEq] at form
    obtain ⟨parameters, bodies, guards, rfl⟩ := form
    simp only [parts, children, List.append_assoc] at same
    obtain ⟨rfl, later⟩ := append_inj_of_form same parameters
    obtain ⟨rfl, rfl⟩ := toList_append_inj later guards
    rfl
  | withForm clauses body elseClauses line =>
    cases node' <;> simp only [hollow, reduceCtorEq] at form
    simp only [withForm.injEq] at form
    obtain ⟨heads, bodies, sections, rfl⟩ := form
    simp only [parts, children, List.append_assoc] at same
    obtain ⟨rfl, later⟩ := append_inj_of_form same heads
    obtain ⟨rfl, rfl⟩ := append_inj_of_form later bodies
    rfl
  | map entries struct update line =>
    cases node' <;> simp only [hollow, reduceCtorEq] at form
    simp only [map.injEq] at form
    obtain ⟨items, structs, updates, rfl⟩ := form
    simp only [parts, children, List.append_assoc] at same
    obtain ⟨rfl, later⟩ := toList_append_inj same structs
    obtain ⟨rfl, rfl⟩ := toList_append_inj later updates
    rfl
  | _ =>
    cases node' <;> simp only [hollow, reduceCtorEq] at form
    simp_all [parts, children]

theorem close_of_parts (form : node.hollow = node'.hollow)
    (near : RowClose swap off node.parts node'.parts) : Close swap off node node' := by
  rcases near with same | ⟨some, one⟩
  · exact .inl (eq_of_form form same)
  · exact .inr ⟨some, differs_of_parts form one⟩

theorem map_blank {items items' : List Node} (near : RowClose swap off items items') :
    (items.map fun _ => blank) = items'.map fun _ => blank := by
  rw [List.map_const', List.map_const', near.length_eq]

theorem optionMap_blank {found found' : Option Node} (near : OptionClose swap off found found') :
    (found.map fun _ => blank) = found'.map fun _ => blank := by
  rcases near with rfl | ⟨-, optional⟩
  · rfl
  · cases optional
    rfl

section Building

variable {first second third fourth : Nat} {items items' more more' most most' : List Node} {found found' extra extra' : Option Node}

theorem close_call (function : String) (line : Nat) (target : OptionClose swap first found found')
    (args : RowClose swap second items items') (block : RowClose swap third more more')
    (sections : RowClose swap fourth most most') (single : first + second + third + fourth ≤ 1) :
    Close swap (first + second + third + fourth) (.call found function items more most line)
      (.call found' function items' more' most' line) := by
  apply close_of_parts
  · simp only [hollow, optionMap_blank target, map_blank args, map_blank block, map_blank sections]
  · exact ((target.toList.append args (by omega)).append block (by omega)).append sections single

theorem close_definition (kind : DefinitionKind) (name : String) (line : Nat)
    (params : RowClose swap first items items') (body : RowClose swap second more more')
    (guard : OptionClose swap third found found') (single : first + third + second ≤ 1) :
    Close swap (first + third + second) (.definition kind name items more found line)
      (.definition kind name items' more' found' line) := by
  apply close_of_parts
  · simp only [hollow, map_blank params, map_blank body, optionMap_blank guard]
  · exact (params.append guard.toList (by omega)).append body single

theorem close_clause (line : Nat) (params : RowClose swap first items items')
    (body : RowClose swap second more more') (guard : OptionClose swap third found found')
    (single : first + third + second ≤ 1) :
    Close swap (first + third + second) (.clause items more found line) (.clause items' more' found' line) := by
  apply close_of_parts
  · simp only [hollow, map_blank params, map_blank body, optionMap_blank guard]
  · exact (params.append guard.toList (by omega)).append body single

theorem close_withForm (line : Nat) (clauses : RowClose swap first items items')
    (body : RowClose swap second more more') (sections : RowClose swap third most most')
    (single : first + second + third ≤ 1) :
    Close swap (first + second + third) (.withForm items more most line) (.withForm items' more' most' line) := by
  apply close_of_parts
  · simp only [hollow, map_blank clauses, map_blank body, map_blank sections]
  · exact (clauses.append body (by omega)).append sections single

theorem close_map (line : Nat) (entries : RowClose swap third items items')
    (struct : OptionClose swap first found found') (update : OptionClose swap second extra extra')
    (single : first + second + third ≤ 1) :
    Close swap (first + second + third) (.map items found extra line) (.map items' found' extra' line) := by
  apply close_of_parts
  · simp only [hollow, map_blank entries, optionMap_blank struct, optionMap_blank update]
  · exact (struct.toList.append update.toList (by omega)).append entries single

/-- Of a form with one row of parts, the nodes are as near as the rows. -/
theorem close_of_row {f : List Node → Node} (row : ∀ items, (f items).parts = items)
    (form : ∀ items, (f items).hollow = f (items.map fun _ => blank))
    (near : RowClose swap off items items') : Close swap off (f items) (f items') := by
  apply close_of_parts
  · rw [form, form, map_blank near]
  · rw [row, row]
    exact near

variable {left left' right right' : Node}

theorem rowClose_pair (near : Close swap first left left') (later : Close swap second right right')
    (single : first + second ≤ 1) : RowClose swap (first + second) [left, right] [left', right'] :=
  near.cons (later.cons (.refl 0 []) (by omega)) single

theorem close_binary (op : String) (line : Nat) (near : Close swap first left left')
    (later : Close swap second right right') (single : first + second ≤ 1) :
    Close swap (first + second) (.binary op left right line) (.binary op left' right' line) :=
  close_of_parts rfl (rowClose_pair near later single)

theorem close_pair (line : Nat) (near : Close swap first left left')
    (later : Close swap second right right') (single : first + second ≤ 1) :
    Close swap (first + second) (.pair left right line) (.pair left' right' line) :=
  close_of_parts rfl (rowClose_pair near later single)

theorem close_unary (op : String) (line : Nat) (near : Close swap off left left') (single : off ≤ 1) :
    Close swap off (.unary op left line) (.unary op left' line) := by
  apply close_of_parts
  · rfl
  · exact near.cons (.refl 0 []) single

end Building

/-- The hollow of a node shows what the node is. -/
theorem Differs.of_hollow {γ : Type} {f : Node → γ} (differs : Differs swap node node')
    (shown : ∀ node, f node.hollow = f node)
    (paired : ∀ value value' line, f (.pair (.atom "deps" line) value line) = f (.pair (.atom "deps" line) value' line)) :
    f node = f node' := by
  rcases differs.cases with ⟨entries, entries', line, listLine, rfl, rfl, -⟩ | ⟨form, -⟩
  · exact paired _ _ line
  · rw [← shown node, form, shown node']

theorem Differs.line_eq (differs : Differs swap node node') : node.line = node'.line :=
  differs.of_hollow (fun node => by cases node <;> rfl) fun _ _ _ => rfl

theorem Differs.isPair_eq (differs : Differs swap node node') : node.isPair = node'.isPair :=
  differs.of_hollow (fun node => by cases node <;> rfl) fun _ _ _ => rfl

theorem Differs.isClause_eq (differs : Differs swap node node') : node.isClause = node'.isClause :=
  differs.of_hollow (fun node => by cases node <;> rfl) fun _ _ _ => rfl

/-- A node without parts differs from none. -/
theorem not_differs_of_leaf (leaf : node.parts = []) : ¬ Differs swap node node' := by
  intro differs
  rcases differs.cases with ⟨entries, entries', line, listLine, rfl, -, -⟩ | ⟨-, one⟩
  · cases leaf
  · rw [leaf] at one
    cases one

theorem not_differs_from_leaf (leaf : node'.parts = []) : ¬ Differs swap node node' := by
  intro differs
  rcases differs.cases with ⟨entries, entries', line, listLine, -, rfl, -⟩ | ⟨-, one⟩
  · cases leaf
  · obtain ⟨before, part, part', after, -, split, -⟩ := one.split
    simp [leaf] at split

theorem Differs.list_inv {items : List Node} {line : Nat} (differs : Differs swap (.list items line) node') :
    ∃ items', node' = .list items' line ∧ OneOff (Differs swap) items items' := by
  rcases differs.cases with ⟨entries, entries', line, listLine, impossible, -, -⟩ | ⟨form, one⟩
  · cases impossible
  · cases node' <;> simp only [hollow, reduceCtorEq, list.injEq] at form
    obtain ⟨-, rfl⟩ := form
    exact ⟨_, rfl, one⟩

theorem Differs.binary_inv {op : String} {left right : Node} {line : Nat}
    (differs : Differs swap (.binary op left right line) node') :
    ∃ left' right' early late, node' = .binary op left' right' line ∧ early + late ≤ 1 ∧
      Close swap early left left' ∧ Close swap late right right' := by
  rcases differs.cases with ⟨entries, entries', line, listLine, impossible, -, -⟩ | ⟨form, one⟩
  · cases impossible
  · cases node' <;> simp only [hollow, reduceCtorEq, binary.injEq] at form
    obtain ⟨rfl, -, -, rfl⟩ := form
    obtain ⟨left', rest', early, late, same, most, first, later⟩ := (Near.of_differ one).cons_inv
    obtain ⟨right', nothing, middle, last, same', fewer, second, -⟩ := later.cons_inv
    cases same'
    cases same
    exact ⟨_, _, early, middle, rfl, by omega, first, second⟩

theorem length_toList_of_form {found found' : Option Node}
    (form : found.map (fun _ => blank) = found'.map fun _ => blank) : found.toList.length = found'.toList.length := by
  cases found <;> cases found' <;> simp_all

theorem Differs.call_inv {target : Option Node} {function : String} {args block elseBlock : List Node} {line : Nat}
    (differs : Differs swap (.call target function args block elseBlock line) node') :
    ∃ target' args' block' elseBlock' first second third fourth,
      node' = .call target' function args' block' elseBlock' line ∧ first + second + third + fourth ≤ 1 ∧
      OptionClose swap first target target' ∧ RowClose swap second args args' ∧
      RowClose swap third block block' ∧ RowClose swap fourth elseBlock elseBlock' := by
  rcases differs.cases with ⟨entries, entries', line, listLine, impossible, -, -⟩ | ⟨form, one⟩
  · cases impossible
  · cases node' <;> simp only [hollow, reduceCtorEq, call.injEq] at form
    obtain ⟨targets, rfl, arguments, blocks, -, rfl⟩ := form
    have listed : (args.map fun _ => blank).length = (List.map (fun _ => blank) _).length := congrArg List.length arguments
    have blocked : (block.map fun _ => blank).length = (List.map (fun _ => blank) _).length := congrArg List.length blocks
    simp only [List.length_map] at listed blocked
    simp only [parts, children] at one
    obtain ⟨front, fourth, most, near, last⟩ := (Near.of_differ one).append_inv
      (by simp [length_toList_of_form targets, listed, blocked])
    obtain ⟨start, third, fewer, near, later⟩ := near.append_inv (by simp [length_toList_of_form targets, listed])
    obtain ⟨first, second, least, early, middle⟩ := near.append_inv (length_toList_of_form targets)
    exact ⟨_, _, _, _, first, second, third, fourth, rfl, by omega, .of_toList early, middle, later, last⟩

theorem Differs.pair_inv {key value : Node} {line : Nat} (differs : Differs swap (.pair key value line) node') :
    ∃ key' value', node' = .pair key' value' line ∧
      ((∃ place, key = .atom "deps" place ∧ key' = key) ∨
        ∃ early late, early + late ≤ 1 ∧ Close swap early key key' ∧ Close swap late value value') := by
  rcases differs.cases with ⟨entries, entries', place, listLine, same, rfl, -⟩ | ⟨form, one⟩
  · cases same
    exact ⟨_, _, rfl, .inl ⟨_, rfl, rfl⟩⟩
  · cases node' <;> simp only [hollow, reduceCtorEq, pair.injEq] at form
    obtain ⟨-, -, rfl⟩ := form
    refine ⟨_, _, rfl, .inr ?_⟩
    obtain ⟨left', rest', early, late, same, most, first, later⟩ := (Near.of_differ one).cons_inv
    obtain ⟨right', nothing, middle, last, same', fewer, second, -⟩ := later.cons_inv
    cases same'
    cases same
    exact ⟨early, middle, by omega, first, second⟩

end Forms

end Node

end BoundaryLint
