import BoundaryLint.Config.File
import BoundaryLint.Proofs.Lint.IssueLine
import Mathlib

/-!
Complaints about a configuration. A complaint names its subject and gives a reason. Whatever a section is refused
for can be told, as long as every rule in it has a name and every value in it can be written out.
-/

namespace BoundaryLint

namespace Value

def Writable [Host] (value : Value) : Prop := value.unwritable? = none

instance [Host] (value : Value) : Decidable value.Writable := inferInstanceAs (Decidable (value.unwritable? = none))

attribute [local simp] parts?

theorem unwritableWithin?_eq_none_iff {room : Nat} {value : Value} : unwritableWithin? room value = none ↔
    (∀ number, value = .integer number → Numeral.isWritable number = true) ∧
      ∀ parts, value.parts? = some parts → ∃ less, room = less + 1 ∧
        ∀ part ∈ parts, unwritableWithin? less part = none := by
  cases value with
  | integer number => simp [unwritableWithin?]
  | null | boolean _ | float _ | text _ | moment _ | bytes _ | object _ _ _ =>
    unfold unwritableWithin?
    simp
  | list _ | tuple _ | set _ | frozenSet _ | table _ | view _ =>
    conv_lhs => unfold unwritableWithin?
    cases room with
    | zero => simp
    | succ less => simp

theorem unwritableWithin?_more {room : Nat} {value : Value} (written : unwritableWithin? room value = none) :
    unwritableWithin? (room + 1) value = none := by
  induction room generalizing value with
  | zero =>
    rw [unwritableWithin?_eq_none_iff] at written ⊢
    refine ⟨written.1, fun parts held => ?_⟩
    obtain ⟨less, impossible, -⟩ := written.2 parts held
    cases impossible
  | succ room ih =>
    rw [unwritableWithin?_eq_none_iff] at written ⊢
    refine ⟨written.1, fun parts held => ?_⟩
    obtain ⟨less, same, inner⟩ := written.2 parts held
    cases same
    exact ⟨_, rfl, fun part mem => ih (inner part mem)⟩

theorem writable_integer [Host] {number : Int} : (integer number).Writable ↔ Numeral.isWritable number = true := by
  rw [Writable, unwritable?, unwritableWithin?_eq_none_iff]
  simp

theorem writable_text [Host] (content : String) : (text content).Writable :=
  unwritableWithin?_eq_none_iff.mpr ⟨by simp, by simp⟩

/-- What stands in a value that can be written out can be written out alone. -/
theorem Writable.part [Host] {value part : Value} {parts : List Value} (whole : value.Writable)
    (held : value.parts? = some parts) (mem : part ∈ parts) : part.Writable := by
  obtain ⟨less, room, inner⟩ := (unwritableWithin?_eq_none_iff.mp whole).2 parts held
  rw [Writable, unwritable?, room]
  exact unwritableWithin?_more (inner part mem)

end Value

namespace Datum

theorem toValue_table (entries : List (String × Datum)) :
    (table entries).toValue = .table (entries.map fun entry => (.text entry.1, entry.2.toValue)) := by
  have each : entryValues entries = entries.map fun entry => (.text entry.1, entry.2.toValue) := by
    induction entries with
    | nil => rfl
    | cons entry rest ih => rw [entryValues, ih, List.map_cons, entryValue]
  rw [toValue, each]

def Writable [Host] (datum : Datum) : Prop := datum.toValue.Writable

theorem Writable.entry [Host] {entries : List (String × Datum)} {key : String} {datum : Datum}
    (whole : (table entries).Writable) (mem : (key, datum) ∈ entries) : datum.Writable := by
  rw [Writable, toValue_table] at whole
  refine whole.part rfl (List.mem_flatMap.mpr ⟨_, List.mem_map_of_mem mem, ?_⟩)
  exact List.mem_cons_of_mem _ (List.mem_singleton.mpr rfl)

/-- Where a table can be written out, the empty table can. -/
theorem Writable.empty [Host] {entries : List (String × Datum)} (whole : (table entries).Writable) :
    (table []).Writable := by
  obtain ⟨less, room, -⟩ := (Value.unwritableWithin?_eq_none_iff.mp whole).2 _ rfl
  refine Value.unwritableWithin?_eq_none_iff.mpr ⟨by simp [toValue_table], fun parts held => ⟨less, room, ?_⟩⟩
  cases held
  exact List.forall_mem_nil _

theorem Writable.lookup [Host] {entries : List (String × Datum)} {key : String} {datum : Datum}
    (whole : (table entries).Writable) (found : entries.lookup key = some datum) : datum.Writable :=
  whole.entry (mem_of_lookup found)

end Datum

theorem Value.Unwritable.message_ne_empty (reason : Value.Unwritable) : reason.message ≠ "" := by
  cases reason with
  | tooManyDigits => exact append_ne_empty (append_ne_empty (append_ne_empty (by decide) _) _) _
  | nestedTooDeep => decide

def RuleConfig.Written [Host] (settings : RuleConfig) : Prop := ∀ option ∈ settings.options, option.2.Writable

namespace Config

theorem Cause.message_ne_empty (cause : Cause) : cause.message ≠ "" := by
  cases cause with
  | notTable | notTableOrBoolean | notStrings | patternsOfFallback | groupOfFallback | enabledNotBoolean
  | statusNotInteger | unknownRule => decide
  | notInteger _ | notSeverity _ | unknownKey _ | unknownLayer _ | duplicateGroup _ | statusOutOfRange _
  | tooFewWorkers _ | notRuleSettings _ | unknownOption _ | thresholdTooLow _ | unreadableFile _
  | badDocument _ =>
    exact append_ne_empty (by decide) _
  | optionNotBoolean _ | optionNotInteger _ | optionNotText _ | optionNotStrings _ | optionNotTable _
  | optionNotTextTable _ => exact append_ne_empty (append_ne_empty (by decide) _) _
  | unknownSeverity unknown => exact append_ne_empty (append_ne_empty (append_ne_empty (by decide) _) _) _
  | badPattern _ _ => exact append_ne_empty (append_ne_empty (append_ne_empty (by decide) _) _) _
  | unreadablePattern reason => exact reason.property
  | unwritableItem reason => exact reason.message_ne_empty

/-- The fault has a subject if all rules have names, and a reason if all values can be written out. -/
structure Fault.Tellable [Host] (named written : Prop) (fault : Fault) : Prop where
  subject : named → fault.subject ≠ ""
  reason : written → fault.cause.unwritable? = none

section Reading

variable {named written : Prop} {entries : List (String × Datum)} {id : String}

theorem tellable_readStrings [Host] {key : String} (keyed : key ≠ "") (default : List String) :
    Outcome (fun _ => True) (Fault.Tellable named written) (readStrings entries key default) := by
  unfold readStrings
  split
  · exact trivial
  · exact trivial
  split
  · exact trivial
  · exact ⟨fun _ => keyed, fun _ => rfl⟩

theorem tellable_readInteger [Host] {key : String} (keyed : key ≠ "") {default : Int}
    (short : (Value.integer default).Writable) (whole : written → (Datum.table entries).Writable) :
    Outcome (fun number => written → (Value.integer number).Writable) (Fault.Tellable named written)
      (readInteger entries key default) := by
  unfold readInteger
  split
  · exact fun _ => short
  · next number found => exact fun on => (whole on).lookup found
  · next value _ found => exact ⟨fun _ => keyed, fun on => (whole on).lookup found⟩

theorem tellable_readSeverity [Host] {subject : String} (keyed : subject ≠ "") {value : Datum}
    (whole : written → value.Writable) :
    Outcome (fun _ => True) (Fault.Tellable named written) (readSeverity subject value) := by
  unfold readSeverity
  split
  · apply Outcome.mapError
    cases Severity.parse _ with
    | ok severity => exact trivial
    | error unknown => exact ⟨fun _ => keyed, fun _ => rfl⟩
  · exact ⟨fun _ => keyed, whole⟩

theorem tellable_readOverrides [Host] (names : List (String × Datum)) :
    Outcome (fun _ => True) (Fault.Tellable named written) (readOverrides entries names) := by
  induction names with
  | nil => exact trivial
  | cons head rest ih =>
    unfold readOverrides
    split
    · exact ⟨fun _ => (by decide : "layers" ≠ ""), fun _ => rfl⟩
    · exact ⟨fun _ => (by decide : "layers" ≠ ""), fun _ => rfl⟩
    · next layer _ found =>
      -- No layer is called by the empty name.
      have keyed : head.1 ≠ "" := by
        intro silent
        rw [silent] at found
        cases found
      apply (tellable_readStrings keyed []).bind
      intro patterns _
      apply ih.bind
      intro others _
      exact trivial

theorem tellable_readLayers [Host] (found : Option Datum) :
    Outcome (fun _ => True) (Fault.Tellable named written) (readLayers found) := by
  unfold readLayers
  split
  · exact trivial
  · exact trivial
  · exact (tellable_readOverrides _).bind fun overrides _ => trivial
  · exact ⟨fun _ => by decide, fun _ => rfl⟩

theorem tellable_readEnabled [Host] (keyed : named → id ≠ "") :
    Outcome (fun _ => True) (Fault.Tellable named written) (readEnabled id entries) := by
  unfold readEnabled
  split
  · exact trivial
  · exact trivial
  · exact ⟨keyed, fun _ => rfl⟩

theorem tellable_readStatus [Host] (keyed : named → id ≠ "") (whole : written → (Datum.table entries).Writable) :
    Outcome (fun status => ∀ number ∈ status, written → (Value.integer number).Writable)
      (Fault.Tellable named written) (readStatus id entries) := by
  unfold readStatus
  split
  · simp [Outcome]
  · simp [Outcome]
  · next status found =>
    intro number same on
    cases same
    exact (whole on).lookup found
  · exact ⟨keyed, fun _ => rfl⟩

theorem tellable_readRuleSeverity [Host] (whole : written → (Datum.table entries).Writable) :
    Outcome (fun _ => True) (Fault.Tellable named written) (readRuleSeverity id entries) := by
  unfold readRuleSeverity
  split
  · exact trivial
  · exact trivial
  · next value _ found =>
    have keyed : id ++ ".severity" ≠ "" := by
      intro silent
      exact absurd (String.append_eq_empty_iff.mp silent).2 (by decide)
    exact (tellable_readSeverity keyed fun on => (whole on).lookup found).bind fun severity _ => trivial

theorem tellable_make [Host] {enabled : Bool} {severity : Option Severity} {status : Option Int}
    {options : List (String × Value)} (short : ∀ number ∈ status, written → (Value.integer number).Writable)
    (whole : written → ∀ option ∈ options, option.2.Writable) :
    Outcome (fun settings => written → settings.Written) (Fault.Tellable named written)
      (RuleConfig.make enabled severity status options) := by
  unfold RuleConfig.make
  split
  · exact whole
  split
  · exact whole
  · exact ⟨fun _ => (by decide : "exit_status" ≠ ""), short _ rfl⟩

theorem tellable_readRule [Host] {value : Datum} (keyed : named → id ≠ "") (whole : written → value.Writable) :
    Outcome (fun settings => written → settings.Written) (Fault.Tellable named written) (readRule id value) := by
  unfold readRule
  split
  · exact fun _ option mem => absurd mem List.not_mem_nil
  · next entries =>
    apply (tellable_readEnabled keyed).bind
    intro enabled _
    apply (tellable_readStatus keyed whole).bind
    intro status short
    apply (tellable_readRuleSeverity whole).bind
    intro severity _
    apply tellable_make
    · exact short
    · intro on option mem
      obtain ⟨entry, kept, rfl⟩ := List.mem_map.mp mem
      exact (whole on).entry (List.mem_of_mem_filter kept)
  · exact ⟨keyed, fun _ => rfl⟩

def ruleEntries : Datum → List (String × Datum)
  | .table entries =>
    match entries.lookup "rules" with
    | some (.table rules) => rules
    | _ => []
  | _ => []

structure Tellable [Host] (named written : Prop) (config : Config) : Prop where
  names : named → ∀ entry ∈ config.rules, entry.1 ≠ ""
  options : written → ∀ entry ∈ config.rules, entry.2.Written

theorem tellable_readRules [Host] (found : Option Datum) :
    Outcome (fun rules => found = none ∧ rules = [] ∨ found = some (.table rules)) (Fault.Tellable named written)
      (readRules found) := by
  unfold readRules
  split
  · exact .inl ⟨rfl, rfl⟩
  · exact .inr rfl
  · exact ⟨fun _ => (by decide : "rules" ≠ ""), fun _ => rfl⟩

theorem layerPatterns_ne_empty (layer : Layer) : s!"layer_patterns.{layer.name}" ≠ "" :=
  append_ne_empty (by decide) _

theorem tellable_checkPatterns [Host] (layer : Layer) (patterns : List String) :
    Outcome (fun _ => True) (Fault.Tellable named written) (checkPatterns layer patterns) := by
  induction patterns with
  | nil => exact trivial
  | cons pattern rest ih =>
    unfold checkPatterns
    split
    · exact ih
    · exact ⟨fun _ => layerPatterns_ne_empty layer, fun _ => rfl⟩

theorem tellable_checkGroups [Host] (seen : List Layer) (groups : PatternGroups) :
    Outcome (fun _ => True) (Fault.Tellable named written) (checkGroups seen groups) := by
  induction groups generalizing seen with
  | nil => exact trivial
  | cons group rest ih =>
    unfold checkGroups
    split
    · exact ⟨fun _ => (by decide : "layer_patterns" ≠ ""), fun _ => rfl⟩
    split
    · exact ⟨fun _ => (by decide : "layer_patterns" ≠ ""), fun _ => rfl⟩
    · exact (tellable_checkPatterns _ _).bind fun _ _ => ih _

theorem tellable_makeConfig [Host] {patterns : PatternGroups} {included excluded apps : List String}
    {rules : List (String × RuleEntry)} {severity : Severity} {workers : Int}
    (short : written → (Value.integer workers).Writable)
    (given : ∀ rule ∈ rules, ∃ settings, rule.2 = .settings settings ∧ (named → rule.1 ≠ "") ∧
      (written → settings.Written)) :
    Outcome (Tellable named written) (Fault.Tellable named written)
      (make patterns included excluded rules severity workers apps) := by
  unfold make
  split
  · exact ⟨fun _ => (by decide : "workers" ≠ ""), short⟩
  apply (tellable_checkGroups _ _).bind
  intro _ _
  have each : Outcome (fun settled : List (String × RuleConfig) =>
      ∀ rule ∈ settled, (named → rule.1 ≠ "") ∧ (written → rule.2.Written)) (Fault.Tellable named written)
      (rules.mapM ruleSettings) := by
    apply Outcome.mapM
    intro rule mem
    obtain ⟨settings, same, keyed, whole⟩ := given rule mem
    obtain ⟨id, entry⟩ := rule
    cases same
    exact ⟨keyed, whole⟩
  apply each.bind
  intro settled all
  exact ⟨fun on rule mem => (all rule mem).1 on, fun on rule mem => (all rule mem).2 on⟩

theorem tellable_ofSection [Host] {found : Datum} (keyed : named → ∀ rule ∈ ruleEntries found, rule.1 ≠ "")
    (whole : written → found.Writable) :
    Outcome (Tellable named written) (Fault.Tellable named written) (ofSection found) := by
  unfold ofSection
  split
  · next entries =>
    dsimp only
    split
    · exact ⟨fun _ => (by decide : "tool.layerguard" ≠ ""), fun _ => rfl⟩
    apply (tellable_readRules _).bind
    intro rules origin
    -- The rules are those that the section sets, so their values can be written out as the section can.
    have own : ∀ rule ∈ rules, (named → rule.1 ≠ "") ∧ (written → rule.2.Writable) := by
      intro rule mem
      obtain ⟨-, rfl⟩ | found := origin
      · cases mem
      · have same : ruleEntries (.table entries) = rules := by simp only [ruleEntries, found]
        rw [same] at keyed
        exact ⟨fun on => keyed on rule mem, fun on => ((whole on).lookup found).entry mem⟩
    apply (tellable_readLayers _).bind
    intro patterns _
    apply (tellable_readStrings (by decide) _).bind
    intro included _
    apply (tellable_readStrings (by decide) _).bind
    intro excluded _
    have settled : Outcome (fun settled : List (String × RuleEntry) => ∀ rule ∈ settled, ∃ settings,
        rule.2 = .settings settings ∧ (named → rule.1 ≠ "") ∧ (written → settings.Written))
        (Fault.Tellable named written)
        (rules.mapM fun rule => do return (rule.1, RuleEntry.settings (← readRule rule.1 rule.2))) := by
      apply Outcome.mapM
      intro rule mem
      obtain ⟨keyed, whole⟩ := own rule mem
      apply (tellable_readRule keyed whole).bind
      intro settings fine
      exact ⟨settings, rfl, keyed, fine⟩
    apply settled.bind
    intro settings all
    have severity : written → ((entries.lookup "min_severity").getD (.text Severity.low.name)).Writable := by
      intro on
      cases set : entries.lookup "min_severity" with
      | none => exact Value.writable_text _
      | some value => exact (whole on).lookup set
    apply (tellable_readSeverity (by decide) severity).bind
    intro minSeverity _
    apply (tellable_readInteger (by decide) (Value.writable_integer.mpr (by decide)) whole).bind
    intro workers short
    apply (tellable_readStrings (by decide) _).bind
    intro apps _
    exact tellable_makeConfig short all
  · exact ⟨fun _ => (by decide : "tool.layerguard" ≠ ""), fun _ => rfl⟩

theorem Tellable.written_rule [Host] {config : Config} (tellable : config.Tellable named written) (on : written)
    (id : String) : (config.rule id).Written := by
  unfold rule
  cases found : config.rules.lookup id with
  | none => exact fun option mem => absurd mem List.not_mem_nil
  | some settings => exact tellable.options on _ (mem_of_lookup found)

end Reading

theorem complaint_of_tellable [Host] {named written : Prop} {fault : Fault} (tellable : fault.Tellable named written) :
    (∃ complaint, fault.complaint = .ok complaint) ∨ (fault.complaint = .error .emptySubject ∧ ¬named) ∨
      ∃ reason, fault.complaint = .error (.unwritable reason) ∧ ¬written := by
  unfold Fault.complaint
  cases shown : fault.cause.unwritable? with
  | some reason =>
    refine .inr (.inr ⟨reason, rfl, fun on => ?_⟩)
    rw [tellable.reason on] at shown
    cases shown
  | none =>
    by_cases silent : fault.subject = ""
    · refine .inr (.inl ⟨?_, fun on => tellable.subject on silent⟩)
      simp only [Complaint.make, if_pos silent]
    · refine .inl ⟨⟨fault.subject, fault.cause.message⟩, ?_⟩
      simp only [Complaint.make, if_neg silent, if_neg fault.cause.message_ne_empty]

end Config

end BoundaryLint
