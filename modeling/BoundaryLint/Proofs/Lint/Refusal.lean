import BoundaryLint.Host.Ordinary
import BoundaryLint.Proofs.Config.Complaint
import BoundaryLint.Proofs.Rule.OptionKind
import Mathlib

/-!
What the user is told about a document that cannot be used. There are three ways for the complaint about it to
fail: the tools of a shared file are no table, a rule has no name, or the reason shows a value that cannot be
written out. No other document is refused without a complaint.
-/

namespace BoundaryLint

namespace Rule

open Config (Fault.Tellable)

variable {named written : Prop} {config : Config}

theorem plain_of_coerce [Host] (key : String) (default value : Value) :
    Outcome (fun _ => True) (fun cause => cause.unwritable? = none) (Options.coerce key default value) := by
  unfold Options.coerce
  repeat' split
  any_goals exact trivial
  all_goals rfl

theorem plain_of_override [Host] (defaults values : List (String × Value)) (options : Options) :
    Outcome (fun _ => True) (fun cause => cause.unwritable? = none) (Options.override defaults options values) := by
  induction values generalizing options with
  | nil => exact trivial
  | cons entry rest ih =>
    unfold Options.override
    split
    · rfl
    · exact (plain_of_coerce _ _ _).bind fun setting _ => ih _

theorem plain_of_configure [Host] (defaults values : List (String × Value)) :
    Outcome (Options.Keeps defaults values) (fun cause => written → cause.unwritable? = none)
      (Options.configure defaults values) := by
  have plain := plain_of_override defaults values defaults
  cases made : Options.configure defaults values with
  | ok options => exact Options.keeps_configure made
  | error cause =>
    rw [show Options.override defaults defaults values = .error cause from made] at plain
    exact fun _ => plain

theorem validate_useCaseAdoption {options : Options} {threshold : Int}
    (read : options.integer "with_clause_threshold" = .ok threshold) :
    useCaseAdoption.validate options = if threshold < 1 then .error (.thresholdTooLow threshold) else .ok () := by
  simp only [useCaseAdoption, checkThreshold, read]

theorem validate_of_mem {rule : Rule} (mem : rule ∈ all) :
    rule = useCaseAdoption ∨ ∀ options, rule.validate options = .ok () := by
  simp only [all, List.mem_cons, List.not_mem_nil, or_false] at mem
  rcases mem with rfl | rfl | rfl | rfl | rfl | rfl | rfl | rfl | rfl | rfl | rfl | rfl | rfl | rfl | rfl | rfl | rfl |
    rfl | rfl | rfl | rfl | rfl | rfl | rfl | rfl | rfl | rfl | rfl
  case inr.inr.inr.inr.inr.inr.inr.inr.inr.inr.inr.inr.inr.inl => exact .inl rfl
  all_goals exact .inr fun options => rfl

/-- The only check of a value that goes beyond its kind shows the value, which is the default or configured. -/
theorem plain_of_validate [Host] {rule : Rule} (mem : rule ∈ all) {values : List (String × Value)} {options : Options}
    (keeps : options.Keeps rule.defaults values) (whole : written → ∀ option ∈ values, option.2.Writable) :
    Outcome (fun _ => True) (fun cause => written → cause.unwritable? = none) (rule.validate options) := by
  obtain rfl | unchecked := validate_of_mem mem
  · have known : useCaseAdoption.defaults.lookup "with_clause_threshold" = some (.integer 5) := rfl
    obtain ⟨threshold, read, origin⟩ := keeps.integer known
    rw [validate_useCaseAdoption read]
    split
    · next low =>
      intro on
      obtain rfl | given := origin
      · exact absurd low (by decide)
      · exact whole on _ given
    · exact trivial
  · rw [unchecked]
    exact trivial

theorem id_ne_empty : ∀ rule ∈ all, rule.id ≠ "" := by decide

theorem tellable_of_plain [Host] {α : Type} {good : α → Prop} {x : Except Config.Cause α} {id : String}
    (keyed : id ≠ "") (plain : Outcome good (fun cause => written → cause.unwritable? = none) x) :
    Outcome good (Fault.Tellable named written) (x.mapError (⟨id, ·⟩)) := by
  cases x with
  | ok value => exact plain
  | error cause => exact ⟨fun _ => keyed, plain⟩

theorem tellable_configure [Host] {rule : Rule} (mem : rule ∈ all) {settings : RuleConfig}
    (whole : written → settings.Written) :
    Outcome (fun _ => True) (Fault.Tellable named written) (rule.configure settings) := by
  have keyed := id_ne_empty rule mem
  unfold configure
  split
  · have activated : Outcome (fun _ => True) (Fault.Tellable named written)
        (rule.activate settings.severity settings.exitStatus settings.options) := by
      apply (tellable_of_plain keyed (plain_of_configure rule.defaults settings.options)).bind
      intro options keeps
      apply (tellable_of_plain keyed (plain_of_validate mem keeps whole)).bind
      intro _ _
      exact trivial
    exact activated.bind fun active _ => trivial
  · exact trivial

theorem tellable_configured [Host] (tellable : config.Tellable named written) :
    Outcome (fun _ => True) (Fault.Tellable named written) (configured config) := by
  unfold configured
  split
  · next id unknown =>
    have given : id ∈ config.rules.map (·.1) := List.mem_of_find?_eq_some unknown
    obtain ⟨entry, mem, rfl⟩ := List.mem_map.mp given
    exact ⟨fun on => tellable.names on entry mem, fun _ => rfl⟩
  · apply Outcome.bind (Outcome.mapM fun rule mem => tellable_configure mem fun on => tellable.written_rule on rule.id)
    intro actives _
    exact trivial

end Rule

namespace Boundary

open Config (Fault.Tellable)

variable {named written : Prop}

theorem tellable_readGraphOption [Host] {values : List (String × Value)}
    (whole : written → ∀ option ∈ values, option.2.Writable) (key : String) (default : List String) :
    Outcome (fun _ => True) (Fault.Tellable named written) (readGraphOption values key default) := by
  have keyed : Rule.boundaryDepsId ≠ "" := by decide
  have unwritten : ∀ {value items reason}, values.lookup key = some value → value.parts? = some items →
      items.findSome? Value.unwritable? = some reason → ¬written := by
    intro value items reason found held unwritable on
    obtain ⟨item, mem, because⟩ := List.exists_of_findSome?_eq_some unwritable
    have fine : item.Writable := (whole on _ (mem_of_lookup found)).part held mem
    rw [fine] at because
    cases because
  unfold readGraphOption
  split
  · exact trivial
  · next items found =>
    split
    · next reason unwritable => exact ⟨fun _ => keyed, fun on => absurd on (unwritten found rfl unwritable)⟩
    · exact trivial
  · next items found =>
    split
    · next reason unwritable => exact ⟨fun _ => keyed, fun on => absurd on (unwritten found rfl unwritable)⟩
    · exact trivial
  · exact ⟨fun _ => keyed, fun _ => rfl⟩

theorem tellable_configure [Host] {config : Config} (tellable : config.Tellable named written) :
    Outcome (fun _ => True) (Fault.Tellable named written) (GraphOptions.configure config) := by
  have whole : written → (config.rule Rule.boundaryDepsId).Written := fun on => tellable.written_rule on _
  unfold GraphOptions.configure
  dsimp only
  split
  · exact trivial
  split
  · exact ⟨fun _ => (by decide : Rule.boundaryDepsId ≠ ""), fun _ => rfl⟩
  · apply (tellable_readGraphOption whole _ _).bind
    intro ignored _
    apply (tellable_readGraphOption whole _ _).bind
    intro suffixes _
    exact trivial

end Boundary

namespace Lint

open Config (Fault.Tellable)

theorem tellable_ofConfig [Host] {named written : Prop} {config : Config} (tellable : config.Tellable named written) :
    Outcome (fun _ => True) (Fault.Tellable named written) (Engine.ofConfig config) := by
  apply (Rule.tellable_configured tellable).bind
  intro rules _
  apply (Boundary.tellable_configure tellable).bind
  intro graph _
  have classified : Outcome (fun _ => True) (Fault.Tellable named written) config.classifier := by
    unfold Config.classifier
    cases Classifier.ofPatterns Host.pattern config.layerPatterns with
    | ok classifier => exact trivial
    | error fault => exact ⟨fun _ => Config.layerPatterns_ne_empty fault.layer, fun _ => rfl⟩
  exact classified.bind fun classifier _ => trivial

def Engine.load [Host] (disk : Disk) (path : DiskPath) : Except Config.FileFault Engine := do
  (Engine.ofConfig (← Config.load disk path)).mapError .config

end Lint

namespace Config

variable {disk : Disk} {path : DiskPath} {entries : List (String × Datum)}

def sectionOf (path : DiskPath) (entries : List (String × Datum)) : Except FileFault Datum :=
  if path.name = sharedFile then sharedSection entries else .ok (.table entries)

theorem load_of_document [Host] (read : readDocument disk path = .ok entries) :
    load disk path = sectionOf path entries >>= fun found => (ofSection found).mapError .config := by
  simp only [load, read, sectionOf, bind, Except.bind]
  split
  · rfl
  · rfl

inductive Refusal [Host] (path : DiskPath) (entries : List (String × Datum)) : FileFault → Prop
  | told {fault : Fault} {complaint : Complaint} :
    fault.complaint = .ok complaint → Refusal path entries (.config fault)
  /-- The section has a rule without a name, and the complaint no subject. -/
  | unnamed {fault : Fault} {found datum : Datum} :
    fault.complaint = .error .emptySubject → sectionOf path entries = .ok found →
      ("", datum) ∈ ruleEntries found → Refusal path entries (.config fault)
  /-- The document holds a value that cannot be written out, and the complaint shows it. -/
  | unwritten {fault : Fault} {reason : Value.Unwritable} :
    fault.complaint = .error (.unwritable reason) → ¬(Datum.table entries).Writable →
      Refusal path entries (.config fault)
  /-- The tools of a shared file are no table. -/
  | noSections {found : Datum} :
    path.name = sharedFile → toolSections entries = found → (∀ sections, found ≠ .table sections) →
      Refusal path entries (.noSections found)

theorem Refusal.of_tellable [Host] {found : Datum} {fault : Fault} (located : sectionOf path entries = .ok found)
    (tellable : fault.Tellable (∀ rule ∈ ruleEntries found, rule.1 ≠ "") (Datum.table entries).Writable) :
    Refusal path entries (.config fault) := by
  obtain ⟨complaint, said⟩ | ⟨silent, unnamed⟩ | ⟨reason, silent, unwritable⟩ := complaint_of_tellable tellable
  · exact .told said
  · simp only [ne_eq, not_forall, not_not] at unnamed
    obtain ⟨⟨id, datum⟩, mem, rfl⟩ := unnamed
    exact .unnamed silent located mem
  · exact .unwritten silent unwritable

theorem writable_sectionOf [Host] {found : Datum} (located : sectionOf path entries = .ok found)
    (whole : (Datum.table entries).Writable) : found.Writable := by
  unfold sectionOf at located
  split at located
  · unfold sharedSection at located
    split at located
    · next sections tools =>
      cases located
      have inner : (Datum.table sections).Writable := by
        unfold toolSections at tools
        cases given : entries.lookup "tool" with
        | none =>
          simp only [given, Option.getD_none, Datum.table.injEq] at tools
          subst tools
          exact whole.empty
        | some value =>
          rw [given, Option.getD_some] at tools
          subst tools
          exact whole.lookup given
      cases own : sections.lookup "layerguard" with
      | none => exact whole.empty
      | some value => exact inner.lookup own
    · cases located
  · cases located
    exact whole

theorem refusal_of_sectionOf [Host] {fault : FileFault} (unlocated : sectionOf path entries = .error fault) :
    Refusal path entries fault := by
  unfold sectionOf at unlocated
  split at unlocated
  · next shared =>
    unfold sharedSection at unlocated
    split at unlocated
    · cases unlocated
    · next found other =>
      cases unlocated
      exact .noSections shared rfl other
  · cases unlocated

end Config

namespace Lint

open Config

/-- A document is taken, or refused in one of these ways and no other. -/
theorem load_refused [Host] {disk : Disk} {path : DiskPath} {entries : List (String × Datum)}
    (read : readDocument disk path = .ok entries) :
    Succeeds (Engine.load disk path) ∨
      ∃ fault, Engine.load disk path = .error fault ∧ Refusal path entries fault := by
  have outcome : Outcome (fun _ => True) (Refusal path entries) (Engine.load disk path) := by
    unfold Engine.load
    rw [load_of_document read]
    cases located : sectionOf path entries with
    | error fault => exact refusal_of_sectionOf located
    | ok found =>
      have configured := (tellable_ofSection (fun on => on) (writable_sectionOf located)).mono
        fun fault => Refusal.of_tellable located
      apply configured.mapError.bind
      intro config tellable
      exact ((tellable_ofConfig tellable).mono fun fault => Refusal.of_tellable located).mapError
  cases loaded : Engine.load disk path with
  | ok engine => exact .inl (.ok engine)
  | error fault =>
    rw [loaded] at outcome
    exact .inr ⟨fault, rfl, outcome⟩

def ownDisk (text : String) : Disk := ⟨[([ownFile], .file (text.toList.map fun c => UInt8.ofNat c.toNat))], []⟩

def ownPath : DiskPath := ⟨.here, [ownFile]⟩

theorem readDocument_ownDisk {text : String} {entries : List (String × Datum)}
    (decoded : Utf8.decode (text.toList.map fun c => UInt8.ofNat c.toNat) = .ok text.toList)
    (parsed : Toml.parse text.toList = .ok entries) : readDocument (ownDisk text) ownPath = .ok entries := by
  have held : (ownDisk text).read ownPath = .ok (text.toList.map fun c => UInt8.ofNat c.toNat) := rfl
  simp only [readDocument, held, decoded, parsed]

attribute [local instance] Host.ordinary in
theorem load_refused_workers :
    let text := "workers = \"two\"\n[rules]\nno_env_in_runtime = false\n"
    let entries := [("workers", .text "two"), ("rules", .table [("no_env_in_runtime", .boolean false)])]
    readDocument (ownDisk text) ownPath = .ok entries ∧
      (Succeeds (Engine.load (ownDisk text) ownPath) ∨
        ∃ fault, Engine.load (ownDisk text) ownPath = .error fault ∧ Refusal ownPath entries fault) := by
  intro text entries
  have read : readDocument (ownDisk text) ownPath = .ok entries :=
    readDocument_ownDisk (by decide +kernel) (by cbv)
  exact ⟨read, load_refused read⟩

attribute [local instance] Host.ordinary in
/-- A rule with the empty name is unknown, and no complaint can say so. -/
theorem load_unnamed :
    ¬∀ disk path entries, readDocument disk path = .ok entries →
      Succeeds (Engine.load disk path) ∨
        ∃ fault complaint, Engine.load disk path = .error (.config fault) ∧ fault.complaint = .ok complaint := by
  intro always
  have read : readDocument (ownDisk "[rules]\n\"\" = true\n") ownPath =
      .ok [("rules", .table [("", .boolean true)])] := readDocument_ownDisk (by decide +kernel) (by cbv)
  have config : ofSection (.table [("rules", .table [("", .boolean true)])]) =
      .ok { Config.default with rules := [("", {})] } := by cbv
  have refused : Engine.load (ownDisk "[rules]\n\"\" = true\n") ownPath = .error (.config ⟨"", .unknownRule⟩) := by
    have located : sectionOf ownPath [("rules", .table [("", .boolean true)])] =
        .ok (.table [("rules", .table [("", .boolean true)])]) := rfl
    simp only [Engine.load, load_of_document read, located, config, bind, Except.bind, Except.mapError]
    rfl
  obtain ⟨engine, made⟩ | ⟨fault, complaint, same, said⟩ := always _ _ _ read
  · rw [refused] at made
    cases made
  · rw [refused] at same
    cases same
    cases said

end Lint

end BoundaryLint
