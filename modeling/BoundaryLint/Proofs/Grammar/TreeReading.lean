import BoundaryLint.Proofs.Grammar.FormReading
import BoundaryLint.Proofs.Source.Numeral
import Mathlib.Tactic.Choose

/-!
Every printable tree is read back from its tokens, put on the first line.
-/

namespace BoundaryLint.Grammar

open Phrase

theorem Style.reads_part (style : Style) {node value : Node} {phrase : Phrase} (read : phrase.Reads value) :
    (style.part node phrase).Reads value := by
  unfold Style.part
  split
  · exact read.parens
  · exact read

/-- What a tree is read as where it stands in a larger one. -/
def ReadsAs (style : Style) : Role → Node → Prop
  | .expression, node => (node.phrase style).Reads (node.onLine 1)
  | .item, node => ∃ item : Argument, item.node = node.onLine 1 ∧
      (style.part node (node.phrase style)).Argues item
  | .entry, node => (node.entryPhrase style).Enters (node.onLine 1)
  | .clause, node => ∃ params statements, clauseNode params statements = node.onLine 1 ∧
      (node.phrase style).ReadsClause params statements

section Parts

variable {style : Style}

theorem reads_parts {nodes : List Node} (read : ∀ node ∈ nodes, ReadsAs style .expression node) :
    ∀ node ∈ nodes, (style.part node (node.phrase style)).Reads (node.onLine 1) :=
  fun node member => style.reads_part (read node member)

theorem reads_optional {node : Option Node} (read : ∀ n ∈ node, ReadsAs style .expression n) :
    Option.Rel Reads (node.map (Node.phrase style)) (node.map (Node.onLine 1)) := by
  cases node with
  | none => exact .none
  | some node => exact .some (read node rfl)

theorem isNumber_onLine (node : Node) : isNumber (node.onLine 1) = isNumber node := by
  cases node with
  | literal value => cases value <;> rfl
  | _ => rfl

theorem isGuarded_onLine (node : Node) : isGuarded (node.onLine 1) = isGuarded node := by
  cases node <;> simp [Node.onLine, isGuarded]

theorem splitGuard_unguarded {params : List Node}
    (unguarded : ∀ last ∈ params.getLast?, isGuarded last = false) : splitGuard params = (params, none) := by
  unfold splitGuard
  split
  · next op left right line last =>
    have plain := unguarded _ last
    simp only [isGuarded, decide_eq_false_iff_not] at plain
    rw [if_neg plain]
  · rfl

theorem splitGuard_guarded (params : List Node) (last guard : Node) (line : Nat) :
    splitGuard (params ++ [.binary "when" last guard line]) = (params ++ [last], some guard) := by
  simp [splitGuard]

theorem readsAs_clause {params body : List Node} {line : Nat}
    (inputs : ∀ param ∈ params, ReadsAs style .expression param)
    (unguarded : ∀ last ∈ params.getLast?, isGuarded last = false)
    (read : ∀ node ∈ body, ReadsAs style .expression node) :
    ReadsAs style .clause (.clause params body none line) := by
  have plain : ∀ last ∈ (params.map (Node.onLine 1)).getLast?, isGuarded last = false := by
    intro last member
    rw [List.getLast?_map] at member
    obtain ⟨param, found, rfl⟩ := Option.map_eq_some_iff.mp member
    rw [isGuarded_onLine]
    exact unguarded param found
  refine ⟨params.map (Node.onLine 1), body.map (Node.onLine 1), ?_, ?_⟩
  · simp [clauseNode, splitGuard_unguarded plain, Node.onLine, Node.listOnLine_eq_map, Node.optionOnLine]
  · rw [Node.phrase, Node.parts_eq_map, Node.parts_eq_map, Node.optionalPhrase, heads_unguarded]
    exact readsClause (reads_parts inputs) (reads_parts read)

theorem readsAs_guardedClause {params body : List Node} {guard : Node} {line : Nat}
    (inputs : ∀ param ∈ params, ReadsAs style .expression param)
    (guarded : ReadsAs style .expression guard) (headed : params ≠ [])
    (read : ∀ node ∈ body, ReadsAs style .expression node) :
    ReadsAs style .clause (.clause params body (some guard) line) := by
  obtain ⟨init, last, rfl⟩ : ∃ init last, params = init ++ [last] :=
    ⟨params.dropLast, params.getLast headed, (List.dropLast_append_getLast headed).symm⟩
  have last_reads := reads_binary (by decide : (binding? "when").isSome = true) (inputs last (by simp)) guarded
  -- The heads as phrases with what they are read as.
  let heads : List (Phrase × Node) :=
    init.map (fun param => (style.part param (param.phrase style), param.onLine 1)) ++
      [(.binary "when" (last.phrase style) (guard.phrase style),
        .binary "when" (last.onLine 1) (guard.onLine 1) 1)]
  have heads_read : ∀ head ∈ heads, head.1.Reads head.2 := by
    intro head member
    rcases List.mem_append.mp member with early | late
    · obtain ⟨param, found, rfl⟩ := List.mem_map.mp early
      exact style.reads_part (inputs param (by simp [found]))
    · obtain rfl := List.mem_singleton.mp late
      exact last_reads
  refine ⟨heads.map (·.2), body.map (Node.onLine 1), ?_, ?_⟩
  · simp [heads, clauseNode, Function.comp_def, splitGuard_guarded, Node.onLine, Node.listOnLine_eq_map,
      Node.optionOnLine]
  · have shape : (Node.clause (init ++ [last]) body (some guard) line).phrase style =
        .clause (heads.map (·.1)) (body.map fun node => style.part node (node.phrase style)) := by
      rw [Node.phrase, Node.heads_guarded, Node.parts_eq_map]
      simp [heads, Function.comp_def]
    rw [shape]
    exact readsClause heads_read (reads_parts read)

end Parts

/-- Every printable tree is read back where it stands. -/
theorem Printable.readsAs {role : Role} {node : Node} (printable : Printable role node) (style : Style) :
    ReadsAs style role node := by
  induction printable with
  | var known => exact reads_var _
  | reference oneLine => exact reads_reference _
  | atom word => exact reads_atom _
  | integer short => exact reads_integer (Numeral.integer_toString short)
  | @boolean value line =>
    cases value
    · exact reads_word "false"
    · exact reads_word "true"
  | nil => exact reads_word "nil"
  | text plain => exact reads_text _
  | call known ordinary _ ih =>
    simp only [ReadsAs, Node.phrase, Node.parts_eq_map, Node.onLine, Node.listOnLine_eq_map, Node.optionOnLine]
    exact reads_call ordinary (reads_parts ih)
  | @remote target function args line known _ _ callee ih =>
    have named : function ≠ "." ∧ function ≠ "[]" := by
      constructor <;> rintro rfl <;> exact absurd known (by decide)
    simp only [ReadsAs, Node.phrase, Node.parts_eq_map, Node.onLine, Node.listOnLine_eq_map, Node.optionOnLine,
      named.1, named.2, if_false]
    exact reads_remote callee (reads_parts ih)
  | applied _ _ callee ih =>
    simp only [ReadsAs, Node.phrase, Node.parts_eq_map, Node.onLine, Node.listOnLine_eq_map, Node.optionOnLine,
      if_true]
    exact reads_applied callee (reads_parts ih)
  | indexed _ _ container ih => exact reads_indexed container (style.reads_part ih)
  | @list items line _ ih =>
    have : Inhabited Argument := ⟨.plain default⟩
    choose! item same argue using ih
    have nodes : items.map (Node.onLine 1) = items.map fun i => (item i).node :=
      List.map_congr_left fun i member => (same i member).symm
    simp only [ReadsAs, Node.phrase, Node.parts_eq_map, Node.onLine, Node.listOnLine_eq_map, nodes]
    exact reads_list argue
  | tuple _ ih =>
    simp only [ReadsAs, Node.phrase, Node.parts_eq_map, Node.onLine, Node.listOnLine_eq_map]
    exact reads_tuple (reads_parts ih)
  | map entries _ ih changed =>
    simp only [ReadsAs, Node.phrase, Node.onLine, Node.listOnLine_eq_map, Node.optionOnLine_eq_map,
      Node.optionalPhrase_eq_map, Node.entries_eq_map style fun entry member =>
        (entries entry member).isPair]
    exact reads_map (optionalStructName_bare false) (reads_optional changed) ih
  | @struct _ ref _ _ _ oneLine entries _ ih changed =>
    simp only [ReadsAs, Node.phrase, Node.onLine, Node.listOnLine_eq_map, Node.optionOnLine_eq_map,
      Node.optionalPhrase_eq_map, Node.entries_eq_map style fun entry member =>
        (entries entry member).isPair]
    exact reads_map (optionalStructName_dotted ref) (reads_optional changed) ih
  | binary known _ _ first second => exact reads_binary known first second
  | unary known unsigned _ ih =>
    exact reads_unary known (fun minus => (isNumber_onLine _).trans (unsigned minus)) ih
  | sequence several _ ih =>
    simp only [ReadsAs, Node.phrase, Node.parts_eq_map, Node.onLine, Node.listOnLine_eq_map]
    exact reads_sequence several (reads_parts ih)
  | @anonymous clauses line nonempty _ ih =>
    choose! params statements same read using ih
    have nodes : clauses.map (Node.onLine 1) = clauses.map fun i => clauseNode (params i) (statements i) :=
      List.map_congr_left fun i member => (same i member).symm
    simp only [ReadsAs, Node.phrase, Node.phrases_eq_map, Node.onLine, Node.listOnLine_eq_map, nodes]
    exact reads_anonymous nonempty read
  | @moduleDecl ref body line oneLine _ ih =>
    simp only [ReadsAs, Node.phrase, Node.parts_eq_map, Node.onLine, Node.listOnLine_eq_map]
    exact reads_moduleDecl ref (reads_parts ih)
  | @definition kind name params body guard line known ordinary _ _ _ inputs guarded ih =>
    simp only [ReadsAs, Node.phrase, Node.parts_eq_map, Node.onLine, Node.listOnLine_eq_map,
      Node.optionOnLine_eq_map, Node.optionalPhrase_eq_map]
    exact reads_definition kind ordinary (reads_parts inputs) (reads_optional guarded) (reads_parts ih)
  | plainItem _ ih => exact ⟨.plain _, rfl, (style.reads_part ih).argues⟩
  | @keyedItem key value line here word _ ih =>
    have bare : style.part (.pair (.atom key here) value line) ((Node.pair (.atom key here) value line).phrase
        style) = .keyed key (style.part value (value.phrase style)) := by
      simp [Style.part, Node.isPair, Node.phrase]
    exact ⟨_, rfl, bare ▸ (style.reads_part ih).keyed⟩
  | @entry key value line _ _ first second =>
    have arrowed := enters_arrow first second
    cases key with
    | atom name here =>
      simp only [ReadsAs, Node.entryPhrase, Style.entry]
      split
      · exact arrowed
      · exact enters_keyed (style.reads_part second)
    | _ => exact arrowed
  | @clause params body guard line _ _ headed unguarded _ inputs guarded ih =>
    cases guard with
    | none => exact readsAs_clause inputs (unguarded rfl) ih
    | some guard => exact readsAs_guardedClause inputs (guarded guard rfl) (headed rfl) ih

end BoundaryLint.Grammar
