import BoundaryLint.Host.Ordinary
import BoundaryLint.Proofs.Grammar.Operand

/-!
A block belongs to the outermost of the calls without parentheses before it. Brackets and the body of an anonymous
function start afresh: a block among them belongs to the outermost call inside.
-/

namespace BoundaryLint.Grammar

namespace Phrase

def Callee.call (callee : Callee) (args block more : List Node) : Node :=
  .call (callee.qualifier.map Qualifier.node) callee.function args block more 1

def chain : List Callee → Phrase → Phrase
  | [], core => core
  | callee :: callees, core => bareCall callee [chain callees core] none

def nested : List Callee → Node → Node
  | [], node => node
  | callee :: callees, node => callee.call [nested callees node] [] []

def blockCall (callee : Callee) (callees : List Callee) (core block : Phrase) : Phrase :=
  bareCall callee [chain callees core] (some block)

/-- The phrase is read as `node`, also as the right operand of an operator. -/
structure Binds (phrase : Phrase) (node : Node) : Prop extends phrase.Reads node where
  binds : ∀ {depth}, phrase.depth ≤ depth → ∀ floor space {rest}, Closed rest →
    expression depth floor false (phrase.tokens space ++ rest) = .ok (node, rest)

theorem binds_of_expression {phrase : Phrase} {node : Node} (opened : ∀ space, Opened 1 (phrase.tokens space))
    (reads : ∀ {depth}, phrase.depth ≤ depth → ∀ floor space {rest}, Closed rest →
      expression depth floor false (phrase.tokens space ++ rest) = .ok (node, rest))
    (lined : node.line = 1) (notClause : node.isClause = false) : phrase.Binds node where
  opened := opened
  reads fits space _ closed := reads fits 0 space closed
  lined := lined
  notClause := notClause
  binds := reads

/-- The phrase is an operand by itself that is read on the first line. -/
structure Encloses (phrase : Phrase) (node : Node) : Prop extends phrase.Stands node where
  lined : node.line = 1
  notClause : node.isClause = false

theorem Encloses.binds {phrase : Phrase} {node : Node} (encloses : phrase.Encloses node) : phrase.Binds node :=
  binds_of_expression encloses.opened
    (fun fits floor space _ closed => encloses.expression fits floor space closed.loose (closed.yields false))
    encloses.lined encloses.notClause

section Chains

variable {core : Phrase} {node : Node} {callees : List Callee} {depth : Nat} {outerDo : Bool} {rest : List Token}

theorem opened_chain (stands : core.Stands node) (callees : List Callee) (space : Bool) :
    Opened 1 ((chain callees core).tokens space) := by
  cases callees with
  | nil => exact stands.opened space
  | cons callee callees => exact callee.opened space _

theorem bare_chain (stands : core.Stands node) (callees : List Callee) (rest : List Token) :
    startsBareArgs ((chain callees core).tokens true ++ rest) = true := by
  cases callees with
  | nil => exact stands.bare rest
  | cons callee callees =>
    simp only [chain, bareCall, List.append_assoc]
    exact callee.bare _

/-- One more call in front of a chain, with a block behind it or without. -/
theorem expression_before_chain {callee : Callee} (ordinary : callee.Ordinary) (stands : core.Stands node)
    (inner : ∀ {rest}, Ended rest → expression depth 0 true ((chain callees core).tokens true ++ rest) =
      .ok (nested callees node, rest)) {block : Option Phrase} {nodes more : List Node} (ends : Ends block nodes more)
    (fits : endingDepth block ≤ depth) (own : block.isSome = true → outerDo = false) (loose : Loose rest)
    (ended : Ended (ending block ++ rest)) (yields : Yields outerDo rest) (floor : Nat) (space : Bool) :
    expression (depth + 1) floor outerDo ((bareCall callee [chain callees core] block).tokens space ++ rest) =
      .ok (callee.call [nested callees node] nodes more, rest) := by
  have given : callArgs (expression depth) ((chain callees core).tokens true ++ (ending block ++ rest)) =
      .ok (some [nested callees node], ending block ++ rest) :=
    callArgs_single (opened_chain stands callees true) (bare_chain stands callees _) (inner ended) ended.noComma
  have read : expression (depth + 1) floor outerDo
      (callee.tokens space ++ ((chain callees core).tokens true ++ (ending block ++ rest))) = _ :=
    expression_ending given (fun none => absurd none (Option.some_ne_none _)) ends fits own loose yields floor space
  rw [Callee.node_ordinary ordinary] at read
  simpa [bareCall, rowOf, row, Callee.call] using read

theorem expression_chain (ordinary : ∀ callee ∈ callees, callee.Ordinary) (stands : core.Stands node)
    (fits : (chain callees core).depth ≤ depth) (floor : Nat) (space : Bool) (ended : Ended rest)
    (yields : Yields outerDo rest) :
    expression depth floor outerDo ((chain callees core).tokens space ++ rest) = .ok (nested callees node, rest) := by
  induction callees generalizing depth floor space outerDo rest with
  | nil => exact stands.expression fits floor space ended.toLoose yields
  | cons callee callees ih =>
    obtain ⟨depth, rfl⟩ : ∃ d, depth = d + 1 := Nat.exists_eq_add_one.mpr (Nat.lt_of_lt_of_le (Nat.succ_pos _) fits)
    have fitsInner : (chain callees core).depth ≤ depth := by
      simpa [chain, bareCall, deepest, endingDepth] using fits
    -- Behind the name the rest of the chain leaves every block to an outer call.
    have inner : ∀ {rest}, Ended rest → expression depth 0 true ((chain callees core).tokens true ++ rest) =
        .ok (nested callees node, rest) := fun ended =>
      ih (fun callee member => ordinary callee (List.mem_cons_of_mem _ member)) fitsInner 0 true ended (yields_true _)
    exact expression_before_chain (ordinary callee (by simp)) stands inner .bare (Nat.zero_le _) (by simp)
      ended.toLoose ended yields floor space

/-- The block behind a chain belongs to its first call. -/
theorem binds_blockCall {callee : Callee} (ordinary : ∀ caller ∈ callee :: callees, caller.Ordinary)
    (stands : core.Stands node) {block : Phrase} {nodes more : List Node} (blocks : block.Blocks nodes more) :
    (blockCall callee callees core block).Binds (callee.call [nested callees node] nodes more) := by
  refine binds_of_expression (fun space => callee.opened space _) ?_ rfl rfl
  intro depth fits floor space rest closed
  obtain ⟨depth, rfl⟩ : ∃ d, depth = d + 1 := Nat.exists_eq_add_one.mpr (Nat.lt_of_lt_of_le (Nat.succ_pos _) fits)
  simp only [blockCall, bareCall, deepest, endingDepth, List.foldr_cons, List.foldr_nil, Nat.add_le_add_iff_right, Nat.max_le,
    Option.map_some, Option.getD_some] at fits
  have inner : ∀ {rest}, Ended rest → expression depth 0 true ((chain callees core).tokens true ++ rest) =
      .ok (nested callees node, rest) := fun ended =>
    expression_chain (fun caller member => ordinary caller (List.mem_cons_of_mem _ member)) stands fits.1.1 0 true ended
      (yields_true _)
  exact expression_before_chain (ordinary callee (by simp)) stands inner (.block blocks) fits.2 (fun _ => rfl) closed.loose
    (blocks.ended rest) (closed.yields false) floor space

end Chains

section Brackets

variable {inner : Phrase} {node : Node}

structure Statements (inner : Phrase) (node : Node) (items : List (Phrase × Node)) : Prop where
  held : (inner, node) ∈ items
  others : ∀ i ∈ items, i ≠ (inner, node) → i.1.Reads i.2

inductive Carries (inner : Phrase) (node : Node) : Phrase × Argument → Prop
  | plain : Carries inner node (inner, .plain node)
  | keyed (key : String) : Carries inner node (keyed key inner, .keyword (.pair (.atom key 1) node 1))

structure Arguments (inner : Phrase) (node : Node) (items : List (Phrase × Argument)) : Prop where
  held : ∃ i ∈ items, Carries inner node i
  others : ∀ i ∈ items, ¬ Carries inner node i → i.1.Argues i.2

def joined (op : String) (left right : Phrase) : Phrase where
  tokens space := left.parens.tokens space ++ (operatorTokens op ++ right.tokens true)
  depth := max left.parens.depth (right.depth + 1)

inductive Values (inner : Phrase) (node : Node) : Phrase × Node → Prop
  | keyed (key : String) : Values inner node (keyed key inner, .pair (.atom key 1) node 1)
  | arrow {left : Phrase} {key : Node} (read : left.Reads key) : Values inner node (joined "=>" left inner, .pair key node 1)

structure Entries (inner : Phrase) (node : Node) (items : List (Phrase × Node)) : Prop where
  held : ∃ i ∈ items, Values inner node i
  others : ∀ i ∈ items, ¬ Values inner node i → i.1.Enters i.2

inductive Clause (inner : Phrase) (node : Node) : Phrase × List Node × List Node → Prop
  | intro {heads statements : List (Phrase × Node)} (inputs : ∀ i ∈ heads, i.1.Reads i.2)
    (among : Statements inner node statements) :
    Clause inner node (clause (heads.map Prod.fst) (statements.map Prod.fst), heads.map Prod.snd, statements.map Prod.snd)

inductive Brackets (inner : Phrase) (node : Node) : Phrase → Node → Prop
  | sequence {items : List (Phrase × Node)} (among : Statements inner node items) :
    Brackets inner node (.sequence (items.map Prod.fst)) (unwrap (items.map Prod.snd) 1)
  | call {callee : Callee} (ordinary : callee.Ordinary) {items : List (Phrase × Argument)} (among : Arguments inner node items) :
    Brackets inner node (parenCall callee (items.map Prod.fst) none)
      (callee.call (gatherKeywords (items.map Prod.snd)) [] [])
  | applied {target : Phrase} {function : Node} (read : target.Reads function) {items : List (Phrase × Argument)}
    (among : Arguments inner node items) :
    Brackets inner node (.applied target (items.map Prod.fst))
      (.call (some function) "." (gatherKeywords (items.map Prod.snd)) [] [] 1)
  | dotCall {target : Phrase} {value : Node} (points : target.Points value) {function : String}
    {items : List (Phrase × Argument)} (among : Arguments inner node items) :
    Brackets inner node (.dotCall target function (items.map Prod.fst))
      (.call (some value) function (gatherKeywords (items.map Prod.snd)) [] [] 1)
  | dotBraces {target : Phrase} {value : Node} (points : target.Points value) {items : List (Phrase × Argument)}
    (among : Arguments inner node items) :
    Brackets inner node (.dotBraces target (items.map Prod.fst))
      (.call (some value) "\x7b\x7d" (gatherKeywords (items.map Prod.snd)) [] [] 1)
  | list {items : List (Phrase × Argument)} (among : Arguments inner node items) :
    Brackets inner node (.bracketed "[" "]" (items.map Prod.fst)) (.list (items.map fun i => i.2.node) 1)
  | indexed {target : Phrase} {value : Node} (read : target.Reads value) :
    Brackets inner node (.indexed target inner) (.call (some value) "[]" [node] [] [] 1)
  | tuple {items : List (Phrase × Argument)} (among : Arguments inner node items) :
    Brackets inner node (.bracketed "\x7b" "\x7d" (items.map Prod.fst)) (.tuple (gatherKeywords (items.map Prod.snd)) 1)
  | map {struct : List String} {name : Option Node} {update : Option Phrase} {changed : Option Node}
    (named : ∀ rest, optionalStructName (dotted false struct ++ mark "\x7b" false :: rest) =
      .ok (name, mark "\x7b" false :: rest))
    (updated : Option.Rel Reads update changed) {items : List (Phrase × Node)} (among : Entries inner node items) :
    Brackets inner node (.map struct update (items.map Prod.fst)) (.map (items.map Prod.snd) name changed 1)
  | anonymous {items : List (Phrase × List Node × List Node)} (held : ∃ i ∈ items, Clause inner node i)
    (others : ∀ i ∈ items, ¬ Clause inner node i → i.1.ReadsClause i.2.1 i.2.2) :
    Brackets inner node (.anonymous (items.map Prod.fst)) (.anonymous (items.map fun i => clauseNode i.2.1 i.2.2) 1)

theorem encloses_sequence {items : List (Phrase × Node)} (reads : ∀ i ∈ items, i.1.Reads i.2) :
    (Phrase.sequence (items.map Prod.fst)).Encloses (unwrap (items.map Prod.snd) 1) := by
  refine ⟨⟨fun _ => opened_cons rfl rfl, fun _ => rfl, Nat.succ_pos _, ?_⟩, ?_, ?_⟩
  · intro depth fits outerDo space rest _
    exact operand_sequence reads (Nat.le_of_succ_le_succ fits) outerDo space rest
  · match items, reads with
    | [], _ => rfl
    | [item], reads => simpa [unwrap, (reads item (by simp)).notClause] using (reads item (by simp)).lined
    | _ :: _ :: _, _ => rfl
  · match items, reads with
    | [], _ => rfl
    | [item], reads => simp [unwrap, (reads item (by simp)).notClause]
    | _ :: _ :: _, _ => rfl

theorem encloses_parenCall {callee : Callee} (ordinary : callee.Ordinary) {items : List (Phrase × Argument)}
    (argues : ∀ i ∈ items, i.1.Argues i.2) :
    (parenCall callee (items.map Prod.fst) none).Encloses
      (callee.call (gatherKeywords (items.map Prod.snd)) [] []) := by
  refine ⟨⟨fun space => callee.opened space _, ?_, Nat.succ_pos _, ?_⟩, rfl, rfl⟩
  · intro rest
    simp only [parenCall, List.append_assoc]
    exact callee.bare _
  · intro depth fits outerDo space rest yields
    have inner : deepest (items.map Prod.fst) ≤ depth := by
      simpa [parenCall, endingDepth] using fits
    have given := callArgs_argued argues inner rest
    have noBlock : optionalDoBlock (expression depth) outerDo rest = .ok (([], []), rest) :=
      optionalDoBlock_ending .bare (Nat.zero_le _) (by simp) yields
    have called := callee.operand_callee given noBlock (fun none => absurd none (Option.some_ne_none _)) space
    rw [Callee.node_ordinary ordinary] at called
    simpa [parenCall, ending, Callee.call] using called

variable (binds : inner.Binds node)

include binds

theorem Statements.reads {items : List (Phrase × Node)} (among : Statements inner node items) :
    ∀ i ∈ items, i.1.Reads i.2 := by
  intro i member
  by_cases held : i = (inner, node)
  · rw [held]
    exact binds.toReads
  · exact among.others i member held

theorem Arguments.argues {items : List (Phrase × Argument)} (among : Arguments inner node items) :
    ∀ i ∈ items, i.1.Argues i.2 := by
  intro i member
  by_cases held : Carries inner node i
  · cases held with
    | plain => exact binds.argues
    | keyed key => exact binds.keyed
  · exact among.others i member held

/-- A binary operator between a left operand in parentheses and a right one without. -/
theorem expression_joined_bare {op : String} {left : Phrase} {key : Node} (known : (binding? op).isSome = true)
    {floor depth : Nat} (strong : ∀ binding ∈ binding? op, floor < binding.power) (read : left.Reads key)
    (fits : (joined op left inner).depth ≤ depth) (space : Bool) {rest : List Token} (closed : Closed rest) :
    expression depth floor false ((joined op left inner).tokens space ++ rest) = .ok (.binary op key node 1, rest) := by
  simp only [joined, Nat.max_le] at fits
  obtain ⟨depth, rfl⟩ : ∃ d, depth = d + 1 := Nat.exists_eq_add_one.mpr (Nat.lt_of_lt_of_le (Nat.succ_pos _) fits.2)
  have first := (operand_parens read (Nat.le_of_succ_le_succ fits.1) false space
    (operatorTokens op ++ (inner.tokens true ++ rest))).trans (postfixes_stop (startsPostfix_operatorTokens known _))
  have whole := expression_operation known strong first
    (fun binding _ => binds.binds (Nat.le_of_succ_le_succ fits.2) binding.rightFloor true closed) closed.binaryOperator?
  rw [read.lined] at whole
  simpa [joined] using whole

theorem reads_joined {op : String} {left : Phrase} {key : Node} (known : (binding? op).isSome = true)
    (read : left.Reads key) : (joined op left inner).Reads (.binary op key node 1) where
  opened _ := opened_cons rfl rfl
  reads fits space _ closed :=
    expression_joined_bare binds known (fun _ found => power_pos found) read fits space closed
  lined := rfl
  notClause := rfl

theorem enters_joined {left : Phrase} {key : Node} (read : left.Reads key) :
    (joined "=>" left inner).Enters (.pair key node 1) where
  reads fits space rest closed := by
    have arrowed := reads_joined binds (by decide : (binding? "=>").isSome = true) read
    simp [mapItem, arrowed.argues.reads fits space rest closed, mapEntry, bind, Except.bind, pure, Except.pure]
  goes := (reads_joined binds (by decide) read).argues.goes "\x7d" (by decide)
  leads fits space rest closed := by
    have strong : ∀ binding ∈ binding? "=>", mapUpdateFloor < binding.power := by decide
    exact .inr ⟨rfl, _, rfl, expression_joined_bare binds (by decide) strong read fits space closed⟩

theorem Entries.enters {items : List (Phrase × Node)} (among : Entries inner node items) :
    ∀ i ∈ items, i.1.Enters i.2 := by
  intro i member
  by_cases held : Values inner node i
  · cases held with
    | keyed key => exact enters_keyed binds.toReads
    | arrow read => exact enters_joined binds read
  · exact among.others i member held

theorem Clause.readsClause {item : Phrase × List Node × List Node} (holds : Clause inner node item) :
    item.1.ReadsClause item.2.1 item.2.2 := by
  cases holds with
  | intro inputs among => exact Phrase.readsClause inputs (among.reads binds)

/-- What stands in brackets is read on its own, so the brackets are an operand wherever they stand. -/
theorem Brackets.encloses {outer : Phrase} {whole : Node} (brackets : Brackets inner node outer whole) :
    outer.Encloses whole := by
  cases brackets with
  | sequence among => exact encloses_sequence (among.reads binds)
  | call ordinary among => exact encloses_parenCall ordinary (among.argues binds)
  | @applied target function read items among =>
    refine ⟨⟨fun _ => opened_cons rfl rfl, fun _ => rfl, by simp [Phrase.applied, parens], ?_⟩, rfl, rfl⟩
    intro depth fits outerDo space rest _
    simp only [Phrase.applied, parens, Nat.max_le, Nat.add_le_add_iff_right] at fits
    exact operand_applied read (among.argues binds) fits.1 fits.2 outerDo space rest
  | @dotCall target value points function items among =>
    refine ⟨⟨fun space => (points.opened space).append _, ?_, by simp [Phrase.dotCall], ?_⟩, rfl, rfl⟩
    · intro rest
      rw [Phrase.dotCall, List.append_assoc]
      exact points.bare _
    · intro depth fits outerDo space rest yields
      simp only [Phrase.dotCall, Nat.max_le, Nat.add_le_add_iff_right] at fits
      exact operand_dotCall points (among.argues binds) fits.1 fits.2 space yields
  | @dotBraces target value points items among =>
    refine ⟨⟨fun space => (points.opened space).append _, ?_, by simp [Phrase.dotBraces], ?_⟩, rfl, rfl⟩
    · intro rest
      rw [Phrase.dotBraces, List.append_assoc]
      exact points.bare _
    · intro depth fits outerDo space rest _
      simp only [Phrase.dotBraces, Nat.max_le, Nat.add_le_add_iff_right] at fits
      exact operand_dotBraces points (among.argues binds) fits.1 fits.2 outerDo space rest
  | list among =>
    refine ⟨⟨fun _ => opened_cons rfl rfl, fun _ => rfl, Nat.succ_pos _, ?_⟩, rfl, rfl⟩
    intro depth fits outerDo space rest _
    exact operand_list (among.argues binds) (Nat.le_of_succ_le_succ fits) outerDo space rest
  | indexed read =>
    refine ⟨⟨fun _ => opened_cons rfl rfl, fun _ => rfl, by simp [Phrase.indexed, parens], ?_⟩, rfl, rfl⟩
    intro depth fits outerDo space rest _
    simp only [Phrase.indexed, parens, Nat.max_le, Nat.add_le_add_iff_right] at fits
    exact operand_indexed read binds.toReads fits.1 fits.2 outerDo space rest
  | tuple among =>
    refine ⟨⟨fun _ => opened_cons rfl rfl, fun _ => rfl, Nat.succ_pos _, ?_⟩, rfl, rfl⟩
    intro depth fits outerDo space rest _
    exact operand_tuple (among.argues binds) (Nat.le_of_succ_le_succ fits) outerDo space rest
  | map named updated among =>
    refine ⟨⟨fun _ => opened_cons rfl rfl, fun _ => rfl, Nat.succ_pos _, ?_⟩, rfl, rfl⟩
    intro depth fits outerDo space rest _
    exact operand_map named updated (among.enters binds) fits outerDo space rest
  | @anonymous items held others =>
    have nonempty : items ≠ [] := by
      rintro rfl
      simp at held
    have reads : ∀ i ∈ items, i.1.ReadsClause i.2.1 i.2.2 := by
      intro i member
      by_cases holds : Clause inner node i
      · exact holds.readsClause binds
      · exact others i member holds
    refine ⟨⟨fun _ => opened_cons rfl rfl, fun _ => rfl, Nat.succ_pos _, ?_⟩, rfl, rfl⟩
    intro depth fits outerDo space rest _
    exact operand_anonymous nonempty reads (Nat.le_of_succ_le_succ fits) outerDo space rest

end Brackets

theorem Encloses.parens_chain {core : Phrase} {node : Node} {callees : List Callee} (encloses : core.Encloses node)
    (ordinary : ∀ callee ∈ callees, callee.Ordinary) :
    (chain callees core).parens.Encloses (nested callees node) := by
  have lined : (nested callees node).line = 1 := by
    cases callees with
    | nil => exact encloses.lined
    | cons callee callees => rfl
  have notClause : (nested callees node).isClause = false := by
    cases callees with
    | nil => exact encloses.notClause
    | cons callee callees => rfl
  have ended : Ended [mark ")" false] := ⟨⟨rfl, rfl⟩, rfl⟩
  have fills : Fills ⟨fun space => (chain callees core).tokens space ++ [mark ")" false], (chain callees core).depth⟩
      (nested callees node) := by
    have read := expression_chain ordinary encloses.toStands (Nat.le_refl _) 0 false ended
      (rfl : Yields false [mark ")" false])
    have alone := body_statement (by decide) (opened_chain encloses.toStands callees false) read
      (rfl : endsBody [")"] (mark ")" false) = true) (by decide)
    simp [Fills, group, alone, unwrap, notClause, expect_mark, bind, Except.bind, pure, Except.pure]
  exact ⟨fills.stands, lined, notClause⟩

/-- The phrase stands around `inner`: brackets, or brackets around a call that holds such brackets. -/
inductive Within (inner : Phrase) (node : Node) : Phrase → Node → Prop
  | here {outer : Phrase} {whole : Node} (brackets : Brackets inner node outer whole) : Within inner node outer whole
  | around {middle outer : Phrase} {part whole : Node} (within : Within inner node middle part)
    (brackets : Brackets middle part outer whole) : Within inner node outer whole
  | chain {middle : Phrase} {part : Node} (within : Within inner node middle part) {callees : List Callee}
    (ordinary : ∀ callee ∈ callees, callee.Ordinary) :
    Within inner node (chain callees middle).parens (nested callees part)
  | blockCall {middle outer : Phrase} {part whole : Node} (within : Within inner node middle part) {callee : Callee}
    {callees : List Callee} (ordinary : ∀ caller ∈ callee :: callees, caller.Ordinary) {block : Phrase}
    {nodes more : List Node} (blocks : block.Blocks nodes more)
    (brackets : Brackets (blockCall callee callees middle block) (callee.call [nested callees part] nodes more) outer
      whole) : Within inner node outer whole

theorem Within.encloses {inner outer : Phrase} {node whole : Node} (within : Within inner node outer whole)
    (binds : inner.Binds node) : outer.Encloses whole := by
  induction within with
  | here brackets => exact brackets.encloses binds
  | around within brackets ih => exact brackets.encloses ih.binds
  | chain within ordinary ih => exact ih.parens_chain ordinary
  | blockCall within ordinary blocks brackets ih =>
    exact brackets.encloses (binds_blockCall ordinary ih.toStands blocks)

theorem parses_chain [Host] {core : Phrase} {node : Node} {callees : List Callee}
    (ordinary : ∀ callee ∈ callees, callee.Ordinary) (stands : core.Stands node) :
    (chain callees core).Parses (nested callees node) :=
  parses_of_expression (opened_chain stands callees false) fun fits =>
    expression_chain ordinary stands fits 0 false ended_nil rfl

theorem Binds.parses [Host] {phrase : Phrase} {node : Node} (binds : phrase.Binds node) : phrase.Parses node :=
  parses_of_expression (binds.opened false) fun fits => binds.reads fits false [] (by simp [Closed])

/-- A block belongs to the first of the calls without parentheses before it, and to none behind that one. Where brackets
stand around some of the calls and the block, it belongs to the first call inside, whatever calls stand before the
brackets and whatever block stands behind them. -/
theorem parses_blockCall [Host] {callee : Callee} {callees : List Callee}
    (ordinary : ∀ caller ∈ callee :: callees, caller.Ordinary) {inner : Phrase} {value : Node}
    (fills : inner.Fills value) {block : Phrase} {nodes more : List Node} (blocks : block.Blocks nodes more) :
    (blockCall callee callees inner.enclosed block).Parses (callee.call [nested callees value] nodes more) ∧
      ∀ {outer whole}, Within (blockCall callee callees inner.enclosed block)
        (callee.call [nested callees value] nodes more) outer whole → ∀ {callers : List Callee},
        (∀ caller ∈ callers, caller.Ordinary) → (chain callers outer).Parses (nested callers whole) ∧
          ∀ {caller own ownNodes ownMore}, Callee.Ordinary caller → Blocks own ownNodes ownMore →
            (blockCall caller callers outer own).Parses (caller.call [nested callers whole] ownNodes ownMore) := by
  have binds := binds_blockCall ordinary fills.stands blocks
  refine ⟨binds.parses, fun {outer whole} within {callers} outside => ?_⟩
  have stands := (within.encloses binds).toStands
  refine ⟨parses_chain outside stands, fun first ownBlocks => ?_⟩
  exact (binds_blockCall (List.forall_mem_cons.mpr ⟨first, outside⟩) stands ownBlocks).parses

section Suite

def suiteName : Qualifier := .alias ⟨["Suite"], by simp, by decide⟩

def suiteTest : Callee := ⟨some suiteName, "test"⟩

def checkOrder : Callee := ⟨none, "check"⟩

def testGroup : Callee := ⟨none, "group"⟩

def orderName : Phrase := ⟨fun space => [identifier "order" space, mark ")" false], 2⟩

def paidBlock : Phrase :=
  ⟨fun space => [keyword "do" space, ⟨.identifier, "paid", 2, true, true⟩, ⟨.keyword, "end", 3, true, true⟩], 2⟩

def cartBlock : Phrase := ⟨fun space => [keyword "do" space, identifier "cart" true, keyword "end" true], 2⟩

def paidTest : Phrase := blockCall suiteTest [checkOrder] orderName.enclosed paidBlock

def paidNode : Node := suiteTest.call [checkOrder.call [.var "order" 1] [] []] [.var "paid" 2] []

attribute [local instance] Host.ordinary in
theorem parses_blockCall_suite :
    parse "Suite.test check (order) do\n paid\nend" = .ok [paidNode] ∧
      (∃ nodes, parse "group check [Suite.test check (order) do\n paid\nend, fast] do cart end" = .ok nodes ∧
        Node.listOnLine 1 nodes = Node.listOnLine 1
          [testGroup.call [checkOrder.call [.list [paidNode, .var "fast" 1] 1] [] []] [.var "cart" 1] []]) ∧
      ∃ nodes, parse "check Suite.\x7bSuite.test check (order) do\n paid\nend, fast\x7d" = .ok nodes ∧
        Node.listOnLine 1 nodes = Node.listOnLine 1 [checkOrder.call
          [.call (some suiteName.node) "\x7b\x7d" [paidNode, .var "fast" 1] [] [] 1] [] []] := by
  have order : orderName.Fills (.var "order" 1) := by cbv
  have paid : paidBlock.Blocks [.var "paid" 2] [] := by cbv
  have cart : cartBlock.Blocks [.var "cart" 1] [] := by cbv
  have check : ∀ callee ∈ [checkOrder], callee.Ordinary := List.forall_mem_singleton.mpr fun _ => by decide
  have callees : ∀ callee ∈ [suiteTest, checkOrder], callee.Ordinary :=
    List.forall_mem_cons.mpr ⟨fun bare => absurd bare (Option.some_ne_none _), check⟩
  have group : testGroup.Ordinary := fun _ => by decide
  have among : Arguments paidTest paidNode
      [(paidTest, .plain paidNode), (.single .identifier "fast", .plain (.var "fast" 1))] := by
    refine ⟨⟨_, List.mem_cons_self, .plain⟩, ?_⟩
    simp only [List.forall_mem_cons]
    exact ⟨fun other => absurd .plain other, fun _ => (reads_var "fast").argues, by simp⟩
  obtain ⟨alone, inside⟩ := parses_blockCall callees order paid
  have grouped := (inside (.here (.list among)) check).2 group cart
  have braced := (inside (.here (.dotBraces suiteName.points among)) check).1
  exact ⟨alone.parse (by decide +kernel) (by decide), grouped.relaid (by decide +kernel) (by decide),
    braced.relaid (by decide +kernel) (by decide)⟩

end Suite

end Phrase

end BoundaryLint.Grammar
