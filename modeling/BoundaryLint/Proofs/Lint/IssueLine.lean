import BoundaryLint.Host.Ordinary
import BoundaryLint.Proofs.Grammar.Moving
import BoundaryLint.Proofs.Lint.Completion
import BoundaryLint.Proofs.Rule.FindingLine
import Mathlib

/-!
Every reported line exists. A text is read as a tree whose nodes stand on lines of the text, or refused at one
of its lines for a reason that is told. Whatever a run reports about the file, found by a rule, by the check of
the boundaries or by the reader, lies on such a line.
-/

namespace BoundaryLint

namespace Token

theorem breaks_unifyBreaks (chars : List Char) : breaks (unifyBreaks chars) = breaks chars := by
  fun_induction unifyBreaks chars with
  | case1 => rfl
  | case2 => rfl
  | case3 c d rest both ih =>
    obtain ⟨rfl, rfl⟩ := both
    rw [breaks_cons, breaks_cons '\r', breaks_cons '\n', ih, lineAfter_of_ne (by decide : '\r' ≠ '\n'), Nat.zero_add]
  | case4 c d rest other ih => rw [breaks_cons, breaks_cons, ih]

end Token

def HasLine (source : String) (line : Nat) : Prop := 1 ≤ line ∧ line ≤ source.toList.count '\n' + 1

instance (source : String) (line : Nat) : Decidable (HasLine source line) := inferInstanceAs (Decidable (_ ∧ _))

theorem hasLine_one (source : String) : HasLine source 1 := ⟨Nat.le_refl 1, Nat.le_add_left 1 _⟩

theorem hasLine_iff {source : String} {line : Nat} :
    HasLine source line ↔ 1 ≤ line ∧ line ≤ 1 + Token.breaks (Token.unifyBreaks source.toList) := by
  rw [Token.breaks_unifyBreaks, Nat.add_comm]
  exact Iff.rfl

theorem Numeral.Fault.message_ne_empty (fault : Numeral.Fault) : fault.message ≠ "" := by
  cases fault with
  | integer base text => exact append_ne_empty (append_ne_empty (append_ne_empty (by decide) _) _) _
  | float text => exact append_ne_empty (by decide) _
  | tooManyDigits count =>
    exact append_ne_empty (append_ne_empty (append_ne_empty (append_ne_empty (append_ne_empty (by decide) _) _) _) _) _

theorem Source.Cause.message_ne_empty (cause : Source.Cause) : cause.message ≠ "" := by
  cases cause with
  | unexpectedColon | unterminatedString | unterminatedInterpolation | unterminatedHeredoc | endOfFile
  | expressionBeforeClause | nestingTooDeep => decide
  | numeral fault => exact fault.message_ne_empty
  | unexpectedCharacter _ | unterminatedSigil _ | invalidSigilDelimiter _ | endOfFileBefore _ | unexpected _
  | invalidAliasSegment _ | invalidStructName _ | invalidModuleSegment _ => exact append_ne_empty (by decide) _
  | unexpectedAfterDot _ | unexpectedInStruct _ | notAnIdentifier _ =>
    exact append_ne_empty (append_ne_empty (by decide) _) _
  | unexpectedBefore _ _ => exact append_ne_empty (append_ne_empty (append_ne_empty (by decide) _) _) _

namespace Grammar

/-- The nodes of a text stand on its lines. -/
theorem lines_of_parse [Host] {source : String} {nodes : List Node} (read : parse source = .ok nodes) :
    ∀ line ∈ Node.listLines nodes, HasLine source line := by
  obtain ⟨tokens, scanned, parsed⟩ := bind_eq_ok.mp read
  have placed := Token.scanFrom_between 1 (Token.unifyBreaks source.toList)
  rw [show Token.scanFrom 1 (Token.unifyBreaks source.toList) = .ok tokens from scanned] at placed
  intro line mem
  rw [hasLine_iff]
  exact lines_of_program ⟨Nat.le_refl 1, Nat.le_add_right 1 _⟩ placed parsed line mem

end Grammar

namespace Lint

variable {engine : Engine} {probe : Probe} {path source : String}

/-- What reading a file can end in: a tree with all its nodes on lines of the text, or a reason and a line. -/
def ReadsWithin (source : String) (outcome : Except UnitFault SyntaxTree) : Prop :=
  (∃ tree, outcome = .ok tree ∧ ∀ line ∈ Node.listLines tree.body, HasLine source line) ∨
    ∃ cause line, outcome = .error (.source cause line) ∧ cause.message ≠ "" ∧ HasLine source line

theorem hasLine_of_parse [Host] {cause : Source.Cause} {line : Nat}
    (refused : Grammar.parse source = .error (.at cause line)) :
    HasLine source line := by
  have between := Grammar.parse_between source
  rw [refused] at between
  exact hasLine_iff.mpr between

/-- A path that can name a file, and strings that do not nest too deep, leave no other outcome. -/
theorem readsWithin_readTree [Host] (named : path ≠ "") (slashes : '\\' ∉ path.toList)
    (shallow : Grammar.parse source ≠ .error .literalsTooDeep) : ReadsWithin source (readTree path source) := by
  unfold readTree
  cases parsed : Grammar.parse source with
  | error fault =>
    cases fault with
    | literalsTooDeep => exact absurd parsed shallow
    | «at» cause line => exact .inr ⟨cause, line, rfl, cause.message_ne_empty, hasLine_of_parse parsed⟩
  | ok body =>
    refine .inl ⟨⟨path, body⟩, ?_, Grammar.lines_of_parse parsed⟩
    simp [SyntaxTree.make, named, slashes, Except.mapError]

theorem parse_of_readTree [Host] {tree : SyntaxTree} (read : readTree path source = .ok tree) :
    Grammar.parse source = .ok tree.body := by
  unfold readTree at read
  split at read
  · cases read
  · cases read
  · next body parsed =>
    rw [mapError_eq_ok] at read
    unfold SyntaxTree.make at read
    split at read
    · cases read
    split at read
    · cases read
    · cases read
      exact parsed

theorem parse_of_refusal [Host] {classifier : Classifier} {cause : Source.Cause} {line : Nat}
    (refused : analyze classifier path source = .error (.source cause line)) :
    Grammar.parse source = .error (.at cause line) := by
  unfold analyze readTree at refused
  split at refused
  · next parsed =>
    cases refused
    exact parsed
  · cases refused
  · next body parsed =>
    cases made : SyntaxTree.make path body <;> simp [made, Except.mapError, bind, Except.bind, pure, Except.pure] at refused

structure UnitOf [Host] (source : String) (unit : SourceUnit) : Prop where
  parsed : Grammar.parse source = .ok unit.tree.body
  declared : unit.declaration = Boundary.declaration? unit.tree

theorem UnitOf.hasLine [Host] {unit : SourceUnit} (read : UnitOf source unit) {line : Nat} (shown : unit.Shows line) :
    HasLine source line := by
  rcases shown with rfl | mem
  · exact hasLine_one source
  · exact Grammar.lines_of_parse read.parsed line mem

theorem unitOf_analyze [Host] {unit : SourceUnit} (analyzed : analyze engine.classifier path source = .ok unit) :
    UnitOf source unit := by
  obtain ⟨tree, read, same⟩ := bind_eq_ok.mp analyzed
  cases same
  exact ⟨parse_of_readTree read, rfl⟩

theorem line_of_parseIssue {settings : RuleConfig} {cause : Source.Cause} {line : Nat} {issue : Issue}
    (made : parseIssue settings path cause line = .ok issue) : issue.line = line := by
  simp only [parseIssue, Issue.make] at made
  repeat' split at made
  all_goals cases made
  rfl

theorem hasLine_of_applyRule [Host] {unit : SourceUnit} (read : UnitOf source unit) {active : ActiveRule}
    (points : active.rule.Points) {issues : List Issue} (applied : applyRule probe unit active = .ok issues) :
    ∀ issue ∈ issues, HasLine source issue.line := by
  obtain ⟨verdict, -, checked⟩ := bind_eq_ok.mp applied
  cases verdict with
  | false =>
    cases checked
    simp
  | true =>
    obtain ⟨findings, found, same⟩ := bind_eq_ok.mp checked
    cases same
    have shown := points ⟨unit, probe, active.options⟩
    rw [found] at shown
    intro issue mem
    obtain ⟨finding, among, rfl⟩ := List.mem_map.mp mem
    have here := read.hasLine (shown finding among)
    rwa [show (active.issue unit.path finding).line = finding.line from Nat.max_eq_left here.1]

/-- The boundary of a file is declared by one of its directives. -/
theorem hasLine_of_validateUnit [Host] {options : Boundary.GraphOptions} {unit : SourceUnit} (read : UnitOf source unit)
    {issues : List Issue} (validated : Boundary.validateUnit options probe unit = .ok issues) :
    ∀ issue ∈ issues, HasLine source issue.line := by
  have declares : ∀ declaration, unit.declaration = some declaration → HasLine source declaration.line := by
    intro declaration same
    rw [read.declared] at same
    simp only [Boundary.declaration?, Option.bind_eq_bind, Option.bind_eq_some_iff] at same
    obtain ⟨⟨name, directive⟩, found, module, -, deps, -, made⟩ := same
    cases made
    exact read.hasLine (.inr (Rule.shows_findDirective? found))
  unfold Boundary.validateUnit at validated
  split at validated
  · cases validated
    simp
  next declaration same =>
  split at validated
  · obtain ⟨context?, -, checked⟩ := bind_eq_ok.mp validated
    split at checked
    · cases checked
      simp
    · split at checked
      · cases checked
        intro issue mem
        obtain ⟨violation, -, rfl⟩ := List.mem_map.mp mem
        exact declares declaration same
      · cases checked
        simp
  · cases validated
    simp

theorem hasLine_of_checkFile [Host] (known : ∀ active ∈ engine.rules, active.rule ∈ Rule.all)
    {unit? : Option SourceUnit}
    {found : List Issue} (checked : checkFile engine probe path source = .ok (unit?, found)) :
    (∀ unit ∈ unit?, UnitOf source unit) ∧ ∀ issue ∈ found, HasLine source issue.line := by
  unfold checkFile at checked
  split at checked
  · cases checked
  · next cause line refused =>
    have parsed := parse_of_refusal refused
    split at checked
    · split at checked
      · next issue made =>
        cases checked
        refine ⟨by simp, ?_⟩
        intro other mem
        cases List.mem_singleton.mp mem
        rw [line_of_parseIssue made]
        exact hasLine_of_parse parsed
      · cases checked
    · cases checked
      simp
  · next unit analyzed =>
    have read := unitOf_analyze analyzed
    split at checked
    · next issues applied =>
      cases checked
      refine ⟨fun other same => Option.some.inj same ▸ read, fun issue mem => ?_⟩
      obtain ⟨part, among, inside⟩ := List.mem_flatten.mp mem
      obtain ⟨active, listed, given⟩ := exists_of_mem_mapM applied among
      exact hasLine_of_applyRule read (Rule.points_all _ (known active listed)) given issue inside
    · cases checked

theorem hasLine_of_checkGraph [Host] {unit? : Option SourceUnit} (read : ∀ unit ∈ unit?, UnitOf source unit)
    {issues : List Issue} (validated : checkGraph engine probe unit?.toList = .ok issues) :
    ∀ issue ∈ issues, HasLine source issue.line := by
  unfold checkGraph at validated
  split at validated
  · cases validated
    simp
  · cases unit? with
    | none =>
      cases validated
      simp
    | some unit =>
      rw [Option.toList_some, Boundary.validate_singleton, mapError_eq_ok] at validated
      exact hasLine_of_validateUnit (read unit rfl) validated

/-- Whatever a file gives to a run lies on its lines. -/
theorem hasLine_of_share [Host] (known : ∀ active ∈ engine.rules, active.rule ∈ Rule.all) {file : String × String}
    {given : List Issue × List Issue} (shared : share engine probe file = .ok given) :
    ∀ issue ∈ given.1 ++ given.2, HasLine file.2 issue.line := by
  obtain ⟨outcome, checked⟩ := checkFile_of_share shared
  obtain ⟨found, boundary⟩ := (share_eq_ok_iff file checked).mp shared
  obtain ⟨read, own⟩ := hasLine_of_checkFile known checked
  intro issue mem
  rcases List.mem_append.mp mem with inside | beyond
  · exact own issue (found ▸ inside)
  · exact hasLine_of_checkGraph read boundary issue beyond

theorem rule_of_configure {rule : Rule} {settings : RuleConfig} {active : ActiveRule}
    (configured : rule.configure settings = .ok (some active)) : active.rule = rule := by
  unfold Rule.configure at configured
  split at configured
  · obtain ⟨activated, made, same⟩ := bind_eq_ok.mp configured
    cases same
    obtain ⟨options, -, validated⟩ := bind_eq_ok.mp made
    obtain ⟨_, -, built⟩ := bind_eq_ok.mp validated
    cases built
    rfl
  · cases configured

/-- The rules of an engine are rules of the catalog, whatever the configuration says about them. -/
theorem rules_of_config [Host] {config : Config} (made : Engine.ofConfig config = .ok engine) :
    ∀ active ∈ engine.rules, active.rule ∈ Rule.all := by
  obtain ⟨rules, configured, later⟩ := bind_eq_ok.mp made
  obtain ⟨graph, -, later⟩ := bind_eq_ok.mp later
  obtain ⟨classifier, -, same⟩ := bind_eq_ok.mp later
  cases same
  unfold Rule.configured at configured
  split at configured
  · cases configured
  · obtain ⟨each, mapped, same⟩ := bind_eq_ok.mp configured
    cases same
    intro active mem
    obtain ⟨some?, among, rfl⟩ := List.mem_filterMap.mp mem
    obtain ⟨rule, listed, given⟩ := exists_of_mem_mapM mapped among
    rw [rule_of_configure given]
    exact listed

/-- Every reported line exists. A file with a path that can name one, whose strings do not nest too deep, is read
as a tree with all its nodes on lines of the text or refused with a reason at one of its lines; and every issue
that a run under any configuration reports for it lies on one of its lines. -/
theorem reported_lines_exist [Host] (path source : String) (named : path ≠ "") (slashes : '\\' ∉ path.toList)
    (shallow : Grammar.parse source ≠ .error .literalsTooDeep) :
    ReadsWithin source (readTree path source) ∧
      ∀ config engine probe files result, Engine.ofConfig config = .ok engine → (files.map Prod.fst).Nodup →
        (path, source) ∈ files → run engine probe files = .ok result →
          ∀ issue ∈ result.issues, issue.file = path → HasLine source issue.line := by
  refine ⟨readsWithin_readTree named slashes shallow, ?_⟩
  intro config engine probe files result made distinct mem finished issue reported home
  obtain ⟨shares, shared, rfl⟩ := run_eq_ok_iff.mp finished
  have sorted : (files.mergeSort fun a b => a.1 ≤ b.1).Perm files := List.mergeSort_perm _ _
  have among : issue ∈ allIssues shares := (List.mergeSort_perm _ _).mem_iff.mp reported
  obtain ⟨own, gives⟩ := exists_ok_of_mem shared (sorted.mem_iff.mpr mem)
  have filtered : (allIssues shares).filter (fun issue => issue.file = path) =
      (own.1 ++ own.2).filter fun issue => issue.file = path :=
    filter_allIssues_eq ((sorted.map Prod.fst).nodup_iff.mpr distinct) shared (sorted.mem_iff.mpr mem) gives (by simp)
  have kept : issue ∈ (allIssues shares).filter fun issue => issue.file = path := by
    simpa using ⟨among, home⟩
  rw [filtered] at kept
  exact hasLine_of_share (rules_of_config made) gives issue (List.mem_of_mem_filter kept)

attribute [local instance] Host.ordinary in
theorem reported_lines_exist_order :
    ReadsWithin "x\n$" (readTree "lib/order.ex" "x\n$") ∧
      ∃ engine result issue, Engine.ofConfig Config.default = .ok engine ∧
        run engine .denied [("lib/order.ex", "x\n$")] = .ok result ∧ issue ∈ result.issues ∧
        issue.file = "lib/order.ex" ∧ issue.line = 2 ∧ HasLine "x\n$" issue.line := by
  have scanned : Token.scan "x\n$" = .error (.at (.unexpectedCharacter '$') 2) := by decide +kernel
  have refused : Grammar.parse "x\n$" = .error (.at (.unexpectedCharacter '$') 2) := by
    rw [Grammar.parse, scanned]
    rfl
  have configured := ofConfig_default fun _ _ _ _ => rfl
  generalize Classifier.defaultClassifier = classifier at configured
  obtain ⟨reads, reports⟩ := reported_lines_exist "lib/order.ex" "x\n$" (by decide) (by decide) (by simp [refused])
  have shared : share (defaultEngine classifier) .denied ("lib/order.ex", "x\n$") =
      .ok ([refusalIssue "lib/order.ex" (.unexpectedCharacter '$') 2], []) :=
    share_default_of_refused (by decide) refused
  have finished : run (defaultEngine classifier) .denied [("lib/order.ex", "x\n$")] =
      .ok (gather (defaultEngine classifier) [([refusalIssue "lib/order.ex" (.unexpectedCharacter '$') 2], [])]) := by
    refine run_eq_ok_iff.mpr ⟨_, ?_, rfl⟩
    rw [List.mergeSort_singleton, mapM_eq_ok_iff]
    exact .cons shared .nil
  have mem : refusalIssue "lib/order.ex" (.unexpectedCharacter '$') 2 ∈
      (gather (defaultEngine classifier) [([refusalIssue "lib/order.ex" (.unexpectedCharacter '$') 2], [])]).issues := by
    simp [gather, allIssues, LintResult.ofIssues, Issue.sort]
  exact ⟨reads, _, _, _, configured, finished, mem, rfl, rfl,
    reports _ _ _ _ _ configured (by decide) (.head _) finished _ mem rfl⟩

end Lint

end BoundaryLint
