import BoundaryLint.Host.Ordinary
import BoundaryLint.Proofs.Lint.Refusal
import Mathlib

/-!
Rules with options of their own. A rule is set up exactly if every value is meant for one of its options and is of the
kind of that option's default, and passes the check of the rule. Its options are then those that it lists, every one
keeps its kind, and reading it as what it is cannot fail. Otherwise the user is told why, unless the reason shows a
number that has too many digits.
-/

namespace BoundaryLint

def Value.IsTyped (value : Value) : Prop :=
  match value with
  | .boolean _ | .integer _ | .text _ => True
  | .tuple items => ∃ texts : List String, items = texts.map .text
  | .table entries | .view entries =>
    ∃ texts : List (String × String), entries = texts.map fun entry => (.text entry.1, .text entry.2)
  | _ => False

instance (value : Value) : Decidable value.IsTyped :=
  match value with
  | .boolean _ | .integer _ | .text _ => isTrue trivial
  | .tuple items => decidable_of_iff (Options.isTextRow items = true) Options.isTextRow_iff
  | .table entries | .view entries => decidable_of_iff (Options.isTextTable entries = true) Options.isTextTable_iff
  | .null | .float _ | .moment _ | .bytes _ | .list _ | .set _ | .frozenSet _ | .object _ _ _ => isFalse id

def Config.Complains [Host] {α : Type} (step : Except Config.Fault α) : Prop :=
  ∃ fault complaint, step = .error fault ∧ fault.complaint = .ok complaint

namespace Options

/-- An option has a value of the kind of its default, and every reader for that kind gives the value. -/
def ReadsLike (options : Options) (key : String) (default value : Value) : Prop :=
  match default with
  | .boolean _ => ∃ answer, value = .boolean answer ∧ options.number key = .ok (.boolean answer)
  | .integer _ => ∃ number, value = .integer number ∧ options.number key = .ok (.integer number) ∧
      options.integer key = .ok number
  | .text _ => ∃ content, value = .text content
  | .tuple _ => ∃ texts, value = Rule.textList texts ∧ options.items key = .ok (texts.map .text) ∧
      options.strings key = .ok texts
  | .table _ | .view _ => ∃ texts : List (String × String),
      value.entries? = some (texts.map fun entry => (.text entry.1, .text entry.2)) ∧
      options.entries key = .ok (texts.map fun entry => (.text entry.1, .text entry.2)) ∧
      options.strings key = .ok (texts.map Prod.fst)
  | _ => False

variable {defaults values rest : List (String × Value)} {options result : Options} {key : String}

theorem number_boolean {answer : Bool} (found : options.lookup key = some (.boolean answer)) :
    options.number key = .ok (.boolean answer) := by
  simp only [number, get, found, bind, Except.bind]
  rfl

theorem entries_of_lookup {value : Value} {entries : List (Value × Value)} (found : options.lookup key = some value)
    (held : value.entries? = some entries) : options.entries key = .ok entries := by
  simp only [Options.entries, get, found, bind, Except.bind, held]
  rfl

theorem strings_of_entries {value : Value} {texts : List (String × String)} (found : options.lookup key = some value)
    (held : value.entries? = some (texts.map fun entry => (.text entry.1, .text entry.2))) :
    options.strings key = .ok (texts.map Prod.fst) := by
  have keys : (texts.map fun entry => ((.text entry.1, .text entry.2) : Value × Value)).map (·.1.plain) =
      texts.map Prod.fst := by
    simp [Value.plain, Function.comp_def]
  have visited : value.visit? = some (texts.map Prod.fst) := by
    cases value with
    | table entries | view entries =>
      cases held
      rw [Value.visit?, keys]
    | _ => cases held
  simp only [strings, get, found, bind, Except.bind, visited]
  rfl

theorem readsLike_of_entries {value : Value} {texts : List (String × String)} (found : options.lookup key = some value)
    (held : value.entries? = some (texts.map fun entry => (.text entry.1, .text entry.2))) :
    ∃ texts : List (String × String), value.entries? = some (texts.map fun entry => (.text entry.1, .text entry.2)) ∧
      options.entries key = .ok (texts.map fun entry => (.text entry.1, .text entry.2)) ∧
      options.strings key = .ok (texts.map Prod.fst) :=
  ⟨texts, held, entries_of_lookup found held, strings_of_entries found held⟩

theorem readsLike_default {default : Value} (found : options.lookup key = some default) (typed : default.IsTyped) :
    options.ReadsLike key default default := by
  cases default with
  | boolean answer => exact ⟨answer, rfl, number_boolean found⟩
  | integer number => exact ⟨number, rfl, number_integer found, integer_integer found⟩
  | text content => exact ⟨content, rfl⟩
  | tuple items =>
    obtain ⟨texts, rfl⟩ := typed
    exact ⟨texts, rfl, items_textList found, strings_textList found⟩
  | table entries | view entries =>
    obtain ⟨texts, rfl⟩ := typed
    exact readsLike_of_entries found rfl
  | _ => exact typed.elim

theorem readsLike_taken {default given : Value} (found : options.lookup key = some (default.taken given))
    (typed : default.IsTyped) (like : default.IsLike given) : options.ReadsLike key default (default.taken given) := by
  cases default with
  | boolean _ =>
    obtain ⟨answer, rfl⟩ := like
    exact ⟨answer, rfl, number_boolean found⟩
  | integer _ =>
    obtain ⟨number, rfl⟩ := like
    exact ⟨number, rfl, number_integer found, integer_integer found⟩
  | text _ =>
    obtain ⟨content, rfl⟩ := like
    exact ⟨content, rfl⟩
  | tuple items =>
    obtain ⟨texts, held⟩ := like
    have same : (Value.tuple items).taken given = Rule.textList texts := Value.frozen_of_items held
    rw [same] at found ⊢
    exact ⟨texts, rfl, items_textList found, strings_textList found⟩
  | table entries =>
    obtain ⟨texts, held⟩ := like
    have same : (Value.table entries).taken given = Rule.textTable texts := Value.frozen_of_entries held
    rw [same] at found ⊢
    exact readsLike_of_entries found rfl
  | view entries =>
    obtain ⟨texts, held⟩ := like
    have same : (Value.view entries).taken given = Rule.textTable texts := Value.frozen_of_entries held
    rw [same] at found ⊢
    exact readsLike_of_entries found rfl
  | _ => exact typed.elim

theorem keys_set (key : String) (value : Value) (options : Options) :
    (set key value options).map Prod.fst = options.map Prod.fst := by
  rw [set, List.map_map]
  apply List.map_congr_left
  intro entry _
  simp only [Function.comp_apply]
  split <;> rfl

theorem keys_override (made : override defaults options rest = .ok result) :
    result.map Prod.fst = options.map Prod.fst := by
  induction rest generalizing options with
  | nil =>
    cases made
    rfl
  | cons entry rest ih =>
    unfold override at made
    split at made
    · cases made
    · obtain ⟨value, -, later⟩ := bind_eq_ok.mp made
      rw [ih later, keys_set]

/-- An option that no value is given for stays as it was, and otherwise it takes on one of the given values. -/
theorem origin_override {default kept : Value} (made : override defaults options rest = .ok result)
    (known : defaults.lookup key = some default) (present : options.lookup key = some kept) :
    ∃ value, result.lookup key = some value ∧ (key ∉ rest.map Prod.fst → value = kept) ∧
      (key ∈ rest.map Prod.fst → ∃ given, (key, given) ∈ rest ∧ default.IsLike given ∧ value = default.taken given) := by
  induction rest generalizing options kept with
  | nil =>
    cases made
    exact ⟨kept, present, fun _ => rfl, fun mem => absurd mem List.not_mem_nil⟩
  | cons entry rest ih =>
    obtain ⟨other, value⟩ := entry
    unfold override at made
    split at made
    · cases made
    next own found =>
    obtain ⟨taken, coerced, later⟩ := bind_eq_ok.mp made
    by_cases here : key = other
    · -- A value for the same option may still follow.
      subst here
      obtain ⟨like, rfl⟩ := coerce_eq_ok_iff.mp coerced
      rw [known, Option.some.injEq] at found
      subst found
      have changed : (options.set key (default.taken value)).lookup key = some (default.taken value) := by
        rw [lookup_set, if_pos rfl, present, Option.map_some]
      obtain ⟨last, found, unchanged, named⟩ := ih later changed
      refine ⟨last, found, by simp, fun _ => ?_⟩
      by_cases again : key ∈ rest.map Prod.fst
      · obtain ⟨given, mem, fits⟩ := named again
        exact ⟨given, List.mem_cons_of_mem _ mem, fits⟩
      · exact ⟨value, List.mem_cons_self, like, unchanged again⟩
    · have same : (options.set other taken).lookup key = some kept := by
        rw [lookup_set, if_neg here, present]
      obtain ⟨last, found, unchanged, named⟩ := ih later same
      refine ⟨last, found, ?_, ?_⟩
      · intro absent
        exact unchanged fun mem => absent (List.mem_cons_of_mem _ mem)
      · intro mem
        obtain ⟨given, among, fits⟩ := named ((List.mem_cons.mp mem).resolve_left here)
        exact ⟨given, List.mem_cons_of_mem _ among, fits⟩

/-- Options are what the rule lists, each with a value of the kind of its default: the default itself if no value is
given for the option, and a given value otherwise. -/
structure Typed (defaults values : List (String × Value)) (options : Options) : Prop where
  keys : options.map Prod.fst = defaults.map Prod.fst
  each : ∀ key default, defaults.lookup key = some default → ∃ value, options.lookup key = some value ∧
    options.ReadsLike key default value ∧ (key ∉ values.map Prod.fst → value = default) ∧
    (key ∈ values.map Prod.fst → ∃ given, (key, given) ∈ values ∧ default.IsLike given ∧ value = default.taken given)

theorem typed_of_configure (typed : ∀ entry ∈ defaults, entry.2.IsTyped)
    (made : configure defaults values = .ok options) : Typed defaults values options where
  keys := keys_override made
  each := by
    intro key default known
    have own : default.IsTyped := typed _ (mem_of_lookup known)
    obtain ⟨value, found, unchanged, named⟩ := origin_override made known known
    refine ⟨value, found, ?_, unchanged, named⟩
    by_cases mem : key ∈ values.map Prod.fst
    · obtain ⟨given, -, like, rfl⟩ := named mem
      exact readsLike_taken found own like
    · cases unchanged mem
      exact readsLike_default found own

end Options

namespace Rule

open Config (Complains)

variable {rule : Rule} {values : List (String × Value)}

theorem complains_iff [Host] {α : Type} {cause : Config.Cause} :
    Complains (Except.error ⟨rule.id, cause⟩ : Except Config.Fault α) ↔ rule.id ≠ "" ∧ cause.unwritable? = none := by
  constructor
  · rintro ⟨fault, complaint, ⟨⟩, told⟩
    unfold Config.Fault.complaint Config.Complaint.make at told
    repeat' split at told
    any_goals cases told
    exact ⟨‹_›, ‹_›⟩
  · rintro ⟨named, plain⟩
    refine ⟨⟨rule.id, cause⟩, ⟨rule.id, cause.message⟩, rfl, ?_⟩
    simp only [Config.Fault.complaint, plain, Config.Complaint.make, if_neg named, if_neg cause.message_ne_empty]

theorem configure_succeeds_iff : Succeeds (Options.configure rule.defaults values) ↔
    (¬∃ entry ∈ values, rule.defaults.lookup entry.1 = none) ∧
    ¬∃ entry ∈ values, ∃ default, rule.defaults.lookup entry.1 = some default ∧ ¬default.IsLike entry.2 := by
  rw [Options.configure, Options.override_succeeds_iff]
  constructor
  · intro fits
    constructor
    · rintro ⟨entry, mem, unknown⟩
      obtain ⟨default, known, -⟩ := fits entry mem
      rw [unknown] at known
      cases known
    · rintro ⟨entry, mem, default, known, unlike⟩
      obtain ⟨other, same, like⟩ := fits entry mem
      rw [known, Option.some.injEq] at same
      subst same
      exact unlike like
  · rintro ⟨known, alike⟩ entry mem
    cases found : rule.defaults.lookup entry.1 with
    | none => exact absurd ⟨entry, mem, found⟩ known
    | some default =>
      refine ⟨default, rfl, ?_⟩
      by_contra unlike
      exact alike ⟨entry, mem, default, found, unlike⟩

/-- Values that do not fit are refused for a reason that can be told. -/
theorem refused_of_configure [Host] {cause : Config.Cause}
    (refused : Options.configure rule.defaults values = .error cause) :
    cause.unwritable? = none ∧ ((∃ entry ∈ values, rule.defaults.lookup entry.1 = none) ∨
      ∃ entry ∈ values, ∃ default, rule.defaults.lookup entry.1 = some default ∧ ¬default.IsLike entry.2) := by
  constructor
  · have plain := plain_of_override rule.defaults values rule.defaults
    rw [show Options.override rule.defaults rule.defaults values = .error cause from refused] at plain
    exact plain
  · by_contra fine
    rw [not_or] at fine
    obtain ⟨options, made⟩ := configure_succeeds_iff.mpr fine
    rw [refused] at made
    cases made

theorem activate_of_refused {cause : Config.Cause} (refused : Options.configure rule.defaults values = .error cause)
    (severity : Option Severity) (exitStatus : Option Nat) :
    rule.activate severity exitStatus values = .error ⟨rule.id, cause⟩ := by
  rw [activate, refused]
  rfl

/-- Once the values fit, the check of the rule decides. -/
theorem activate_of_configure {options : Options} (made : Options.configure rule.defaults values = .ok options)
    (severity : Option Severity) (exitStatus : Option Nat) :
    rule.activate severity exitStatus values =
      (rule.validate options).mapError (⟨rule.id, ·⟩) >>= fun _ => .ok ⟨rule, severity.getD rule.severity,
        exitStatus.getD (rule.exitStatus.getD rule.category.exitStatus), options⟩ := by
  rw [activate, made]
  rfl

theorem typed_of_mem : ∀ rule ∈ all, ∀ entry ∈ rule.defaults, entry.2.IsTyped := by decide

/-- The one check of a rule that goes beyond kinds: the threshold of a `with` is at least one. -/
theorem validate_eq_error_iff {options : Options} (mem : rule ∈ all)
    (made : Options.configure rule.defaults values = .ok options) {cause : Config.Cause} :
    rule.validate options = .error cause ↔ rule = useCaseAdoption ∧ ∃ threshold < 1,
      options.lookup "with_clause_threshold" = some (.integer threshold) ∧ cause = .thresholdTooLow threshold := by
  obtain rfl | unchecked := validate_of_mem mem
  · have known : useCaseAdoption.defaults.lookup "with_clause_threshold" = some (.integer 5) := rfl
    obtain ⟨value, found, ⟨number, rfl, -, read⟩, -⟩ :=
      (Options.typed_of_configure (typed_of_mem _ mem) made).each _ _ known
    rw [validate_useCaseAdoption read]
    by_cases low : number < 1
    · simp [low, found, eq_comm]
    · simp [low, found]
  · constructor
    · intro failed
      rw [unchecked] at failed
      cases failed
    · rintro ⟨rfl, threshold, low, found, -⟩
      have accepted := unchecked [("with_clause_threshold", .integer 0)]
      cases accepted

section Activated

variable {severity : Option Severity} {exitStatus : Option Nat}

theorem complains_activate_iff [Host] : Complains (rule.activate severity exitStatus values) ↔ rule.id ≠ "" ∧
    ((∃ entry ∈ values, rule.defaults.lookup entry.1 = none) ∨
    (∃ entry ∈ values, ∃ default, rule.defaults.lookup entry.1 = some default ∧ ¬default.IsLike entry.2) ∨
    ∃ options cause, Options.configure rule.defaults values = .ok options ∧ rule.validate options = .error cause ∧
      cause.unwritable? = none) := by
  cases made : Options.configure rule.defaults values with
  | error cause =>
    obtain ⟨plain, misfit⟩ := refused_of_configure made
    rw [activate_of_refused made, complains_iff]
    exact and_congr_right fun _ => ⟨fun _ => misfit.imp_right .inl, fun _ => plain⟩
  | ok options =>
    obtain ⟨known, alike⟩ := configure_succeeds_iff.mp ⟨options, made⟩
    rw [activate_of_configure made]
    cases checked : rule.validate options with
    | ok accepted =>
      constructor
      · rintro ⟨fault, complaint, failed, -⟩
        cases failed
      · rintro ⟨-, unknown | misfit | ⟨other, cause, same, refused, -⟩⟩
        · exact absurd unknown known
        · exact absurd misfit alike
        · cases same
          rw [checked] at refused
          cases refused
    | error cause =>
      refine complains_iff.trans (and_congr_right fun _ => ⟨?_, ?_⟩)
      · exact fun plain => .inr (.inr ⟨options, cause, rfl, checked, plain⟩)
      · rintro (unknown | misfit | ⟨other, again, same, refused, plain⟩)
        · exact absurd unknown known
        · exact absurd misfit alike
        · cases same
          cases checked.symm.trans refused
          exact plain

theorem configured_of_activate {active : ActiveRule} (done : rule.activate severity exitStatus values = .ok active) :
    Options.configure rule.defaults values = .ok active.options ∧ rule.validate active.options = .ok () := by
  obtain ⟨options, made, later⟩ := bind_eq_ok.mp done
  obtain ⟨⟨⟩, valid, built⟩ := bind_eq_ok.mp later
  rw [mapError_eq_ok] at made valid
  cases built
  exact ⟨made, valid⟩

theorem activate_succeeds_iff : Succeeds (rule.activate severity exitStatus values) ↔
    (∀ entry ∈ values, ∃ default, rule.defaults.lookup entry.1 = some default ∧ default.IsLike entry.2) ∧
    ∃ options, Options.configure rule.defaults values = .ok options ∧ rule.validate options = .ok () := by
  constructor
  · rintro ⟨active, done⟩
    obtain ⟨made, valid⟩ := configured_of_activate done
    exact ⟨Options.override_succeeds_iff.mp ⟨_, made⟩, _, made, valid⟩
  · rintro ⟨-, options, made, valid⟩
    rw [activate_of_configure made, valid]
    exact .ok _

end Activated

/-- A rule with a name is refused with a complaint exactly if a value is for no option of it, or is not of the kind of
the option's default, or the values fit and the rule's own check refuses them for a reason that can be written out. That
check is about the threshold of one rule only, and refuses what is below one. A rule that is set up has typed options. -/
theorem activate_typed [Host] (typed : ∀ entry ∈ rule.defaults, entry.2.IsTyped) (severity : Option Severity)
    (exitStatus : Option Nat) (values : List (String × Value)) :
    (Complains (rule.activate severity exitStatus values) ↔ rule.id ≠ "" ∧
      ((∃ entry ∈ values, rule.defaults.lookup entry.1 = none) ∨
      (∃ entry ∈ values, ∃ default, rule.defaults.lookup entry.1 = some default ∧ ¬default.IsLike entry.2) ∨
      ∃ options cause, Options.configure rule.defaults values = .ok options ∧ rule.validate options = .error cause ∧
        cause.unwritable? = none)) ∧
    (Succeeds (rule.activate severity exitStatus values) ↔
      (∀ entry ∈ values, ∃ default, rule.defaults.lookup entry.1 = some default ∧ default.IsLike entry.2) ∧
      ∃ options, Options.configure rule.defaults values = .ok options ∧ rule.validate options = .ok ()) ∧
    (rule ∈ all → ∀ options cause, Options.configure rule.defaults values = .ok options →
      (rule.validate options = .error cause ↔ rule = useCaseAdoption ∧ ∃ threshold < 1,
        options.lookup "with_clause_threshold" = some (.integer threshold) ∧ cause = .thresholdTooLow threshold)) ∧
    ∀ active, rule.activate severity exitStatus values = .ok active →
      active.options.Typed rule.defaults values := by
  refine ⟨complains_activate_iff, activate_succeeds_iff, fun mem options cause made => validate_eq_error_iff mem made, ?_⟩
  intro active done
  exact Options.typed_of_configure typed (configured_of_activate done).1

attribute [local instance] Host.ordinary in
theorem activate_typed_threshold :
    (∀ entry ∈ useCaseAdoption.defaults, entry.2.IsTyped) ∧
    Complains (useCaseAdoption.activate none none [("with_clause_threshold", .integer 0)]) ∧
    ∃ active, useCaseAdoption.activate none none [("with_clause_threshold", .integer 3)] = .ok active ∧
      active.options.Typed useCaseAdoption.defaults [("with_clause_threshold", .integer 3)] ∧
      active.options.integer "with_clause_threshold" = .ok 3 := by
  have listed : useCaseAdoption ∈ all := by simp [all]
  have kinds : ∀ entry ∈ useCaseAdoption.defaults, entry.2.IsTyped := typed_of_mem _ listed
  refine ⟨kinds, ?_, _, rfl, ?_, rfl⟩
  · apply (activate_typed kinds none none _).1.mpr
    exact ⟨id_ne_empty _ listed, .inr (.inr ⟨_, _, rfl, rfl, by decide⟩)⟩
  · exact (activate_typed kinds none none _).2.2.2 _ rfl

def lowThreshold : Int := -((10 ^ 5000 : Nat) : Int)

attribute [local instance] Host.ordinary in
/-- Such a threshold is of the right kind and refused by the check, but not with a complaint. -/
theorem activate_typed_digits :
    ∃ options, Options.configure useCaseAdoption.defaults [("with_clause_threshold", .integer lowThreshold)] = .ok options ∧
      useCaseAdoption.validate options = .error (.thresholdTooLow lowThreshold) ∧
      useCaseAdoption.activate none none [("with_clause_threshold", .integer lowThreshold)] =
        .error ⟨useCaseAdoption.id, .thresholdTooLow lowThreshold⟩ ∧
      ¬Complains (useCaseAdoption.activate none none [("with_clause_threshold", .integer lowThreshold)]) := by
  have low : lowThreshold < 1 := by decide +kernel
  have long : (Config.Cause.thresholdTooLow lowThreshold).unwritable? = some .tooManyDigits := by decide +kernel
  have checked : useCaseAdoption.validate [("with_clause_threshold", .integer lowThreshold)] =
      .error (.thresholdTooLow lowThreshold) := by
    rw [validate_useCaseAdoption (rfl : Options.integer _ _ = .ok lowThreshold), if_pos low]
  have made : Options.configure useCaseAdoption.defaults [("with_clause_threshold", .integer lowThreshold)] =
      .ok [("with_clause_threshold", .integer lowThreshold)] := rfl
  have refused : useCaseAdoption.activate none none [("with_clause_threshold", .integer lowThreshold)] =
      .error ⟨useCaseAdoption.id, .thresholdTooLow lowThreshold⟩ := by
    rw [activate_of_configure made, checked]
    rfl
  refine ⟨_, made, checked, refused, ?_⟩
  rw [refused, complains_iff, long]
  exact fun told => Option.some_ne_none _ told.2

end Rule

end BoundaryLint
