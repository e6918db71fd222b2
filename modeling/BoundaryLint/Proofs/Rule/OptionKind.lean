import BoundaryLint.Proofs.Source.Outcome
import BoundaryLint.Rule.Basic
import Mathlib

/-!
The kinds of options. The values of a rule are accepted exactly if each is of the kind of a default, and then
every option of the rule can be read as what its default is: a list of texts, a table of texts or a number.
-/

namespace BoundaryLint

/-- A value is of the kind of a default. A list, a tuple and the two kinds of sets are alike, and so are a table and a
view; they hold nothing but texts. -/
def Value.IsLike (default value : Value) : Prop :=
  match default with
  | .boolean _ => ∃ answer, value = .boolean answer
  | .integer _ => ∃ number, value = .integer number
  | .text _ => ∃ content, value = .text content
  | .list _ | .tuple _ | .frozenSet _ => ∃ texts : List String, value.items? = some (texts.map .text)
  | .table _ | .view _ => ∃ texts : List (String × String),
      value.entries? = some (texts.map fun entry => (.text entry.1, .text entry.2))
  | _ => True

def Value.frozen : Value → Value
  | .list items | .set items | .frozenSet items => .tuple items
  | .table entries => .view entries
  | value => value

def Value.taken (default value : Value) : Value :=
  match default with
  | .null | .float _ | .moment _ | .bytes _ | .set _ | .object _ _ _ => value
  | _ => value.frozen

theorem Value.frozen_of_items {value : Value} {items : List Value} (held : value.items? = some items) :
    value.frozen = .tuple items := by
  cases value <;> cases held <;> rfl

theorem Value.frozen_of_entries {value : Value} {entries : List (Value × Value)}
    (held : value.entries? = some entries) :
    value.frozen = .view entries := by
  cases value <;> cases held <;> rfl

namespace Options

theorem isTextRow_iff {items : List Value} : isTextRow items = true ↔ ∃ texts :
    List String, items = texts.map .text := by
  constructor
  · intro row
    induction items with
    | nil => exact ⟨[], rfl⟩
    | cons item rest ih =>
      simp only [isTextRow, List.all_cons, Bool.and_eq_true] at row
      obtain ⟨others, rfl⟩ := ih row.2
      cases item with
      | text content => exact ⟨content :: others, rfl⟩
      | _ => simp [Value.text?] at row
  · rintro ⟨texts, rfl⟩
    simp [isTextRow, Value.text?]

theorem isTextTable_iff {entries : List (Value × Value)} : isTextTable entries = true ↔
    ∃ texts : List (String × String), entries = texts.map fun entry => (.text entry.1, .text entry.2) := by
  constructor
  · intro table
    induction entries with
    | nil => exact ⟨[], rfl⟩
    | cons entry rest ih =>
      obtain ⟨key, value⟩ := entry
      simp only [isTextTable, List.all_cons, Bool.and_eq_true] at table
      obtain ⟨others, rfl⟩ := ih table.2
      cases key with
      | text name =>
        cases value with
        | text content => exact ⟨(name, content) :: others, rfl⟩
        | _ => simp [Value.text?] at table
      | _ => simp [Value.text?] at table
  · rintro ⟨texts, rfl⟩
    simp [isTextTable, Value.text?]

theorem coerce_eq_ok_iff {key : String} {default value result : Value} :
    coerce key default value = .ok result ↔ default.IsLike value ∧ result = default.taken value := by
  cases default with
  | boolean _ | integer _ | text _ =>
    cases value <;> simp [coerce, Value.IsLike, Value.taken, Value.frozen, eq_comm]
  | list _ | tuple _ | frozenSet _ =>
    cases held : value.items? with
    | none => simp [coerce, Value.IsLike, held]
    | some items =>
      by_cases row : isTextRow items = true
      · simp [coerce, Value.IsLike, Value.taken, held, row, isTextRow_iff.mp row, Value.frozen_of_items held, eq_comm]
      · have other := isTextRow_iff.not.mp row
        simp [coerce, Value.IsLike, held, row, other]
  | table _ | view _ =>
    cases held : value.entries? with
    | none => simp [coerce, Value.IsLike, held]
    | some entries =>
      by_cases table : isTextTable entries = true
      · simp [coerce, Value.IsLike, Value.taken, held, table, isTextTable_iff.mp table,
          Value.frozen_of_entries held, eq_comm]
      · have other := isTextTable_iff.not.mp table
        simp [coerce, Value.IsLike, held, table, other]
  | _ => simp [coerce, Value.IsLike, Value.taken, eq_comm]

theorem coerce_succeeds_iff {key : String} {default value : Value} :
    Succeeds (coerce key default value) ↔ default.IsLike value := by
  simp [Succeeds, coerce_eq_ok_iff]

theorem override_succeeds_iff {defaults values : List (String × Value)} {options : Options} :
    Succeeds (override defaults options values) ↔
      ∀ entry ∈ values, ∃ default, defaults.lookup entry.1 = some default ∧ default.IsLike entry.2 := by
  induction values generalizing options with
  | nil => exact ⟨fun _ _ mem => absurd mem List.not_mem_nil, fun _ => .ok options⟩
  | cons entry rest ih =>
    obtain ⟨key, value⟩ := entry
    rw [List.forall_mem_cons]
    cases known : defaults.lookup key with
    | none => simp [override, known, Succeeds]
    | some default =>
      simp only [override, known, Option.some.injEq, exists_eq_left']
      constructor
      · intro ⟨result, made⟩
        obtain ⟨taken, coerced, later⟩ := bind_eq_ok.mp made
        exact ⟨coerce_succeeds_iff.mp ⟨taken, coerced⟩, ih.mp ⟨result, later⟩⟩
      · intro ⟨like, others⟩
        exact (coerce_succeeds_iff.mpr like).bind fun taken _ => ih.mpr others

theorem lookup_set (key other : String) (value : Value) (options : Options) :
    (set key value options).lookup other =
      if other = key then (options.lookup other).map fun _ => value else options.lookup other := by
  induction options with
  | nil => simp [set]
  | cons head rest ih =>
    obtain ⟨name, kept⟩ := head
    simp only [set] at ih
    by_cases here : other = name
    · by_cases changed : name = key
      · simp [set, here, changed]
      · simp [set, here, changed]
    · by_cases changed : name = key
      · subst changed
        simp [set, List.lookup_cons, beq_false_of_ne here, ih]
      · simp [set, List.lookup_cons, beq_false_of_ne here, changed, ih]

def Keeps (defaults values : List (String × Value)) (options : Options) : Prop :=
  ∀ key default, defaults.lookup key = some default → ∃ value, options.lookup key = some value ∧
    (value = default ∨ ∃ given, (key, given) ∈ values ∧ default.IsLike given ∧ value = default.taken given)

variable {defaults values : List (String × Value)} {options : Options}

theorem keeps_defaults : Keeps defaults values defaults :=
  fun _ default known => ⟨default, known, .inl rfl⟩

theorem Keeps.set (keeps : options.Keeps defaults values) {key : String} {default given : Value}
    (known : defaults.lookup key = some default) (mem : (key, given) ∈ values) (like : default.IsLike given) :
    (options.set key (default.taken given)).Keeps defaults values := by
  intro other wanted found
  obtain ⟨kept, present, origin⟩ := keeps other wanted found
  by_cases here : other = key
  · subst here
    rw [known, Option.some.injEq] at found
    subst found
    exact ⟨_, by rw [lookup_set, if_pos rfl, present, Option.map_some], .inr ⟨given, mem, like, rfl⟩⟩
  · exact ⟨kept, by rw [lookup_set, if_neg here, present], origin⟩

theorem Keeps.override {rest : List (String × Value)} {result : Options} (keeps : options.Keeps defaults values)
    (among : rest ⊆ values) (made : override defaults options rest = .ok result) : result.Keeps defaults values := by
  induction rest generalizing options with
  | nil =>
    cases made
    exact keeps
  | cons entry rest ih =>
    obtain ⟨key, value⟩ := entry
    obtain ⟨given, others⟩ := List.cons_subset.mp among
    unfold Options.override at made
    cases known : defaults.lookup key with
    | none => simp [known] at made
    | some default =>
      simp only [known] at made
      obtain ⟨taken, coerced, later⟩ := bind_eq_ok.mp made
      obtain ⟨like, rfl⟩ := coerce_eq_ok_iff.mp coerced
      exact ih (keeps.set known given like) others later

theorem keeps_configure (made : configure defaults values = .ok options) : options.Keeps defaults values :=
  keeps_defaults.override (List.Subset.refl values) made

section Readers

variable {key : String}

theorem items_textList {texts : List String} (found : options.lookup key = some (Rule.textList texts)) :
    options.items key = .ok (texts.map .text) := by
  simp only [items, get, found, bind, Except.bind, Rule.textList]
  rfl

theorem strings_textList {texts : List String} (found : options.lookup key = some (Rule.textList texts)) :
    options.strings key = .ok texts := by
  have plain : (texts.map Value.text).map Value.plain = texts := by simp [Value.plain, Function.comp_def]
  simp only [strings, get, found, bind, Except.bind, Rule.textList, Value.visit?, plain]
  rfl

theorem entries_view {entries : List (Value × Value)} (found : options.lookup key = some (.view entries)) :
    options.entries key = .ok entries := by
  simp only [Options.entries, get, found, bind, Except.bind, Value.entries?]
  rfl

theorem number_integer {amount : Int} (found : options.lookup key = some (.integer amount)) :
    options.number key = .ok (.integer amount) := by
  simp only [number, get, found, bind, Except.bind]
  rfl

theorem integer_integer {amount : Int} (found : options.lookup key = some (.integer amount)) :
    options.integer key = .ok amount := by
  simp only [integer, number_integer found, bind, Except.bind]
  rfl

end Readers

namespace Keeps

variable (keeps : options.Keeps defaults values) {key : String}

include keeps

theorem texts {given : List String} (known : defaults.lookup key = some (Rule.textList given)) :
    ∃ texts, options.lookup key = some (Rule.textList texts) ∧
      (texts = given ∨ ∃ value, (key, value) ∈ values ∧ value.items? = some (texts.map .text)) := by
  obtain ⟨value, found, rfl | ⟨other, mem, ⟨texts, held⟩, rfl⟩⟩ := keeps key _ known
  · exact ⟨given, found, .inl rfl⟩
  · rw [show (Rule.textList given).taken other = Rule.textList texts from Value.frozen_of_items held] at found
    exact ⟨texts, found, .inr ⟨other, mem, held⟩⟩

theorem strings {given : List String} (known : defaults.lookup key = some (Rule.textList given)) :
    ∃ texts, Rule.strings options key = .ok texts ∧
      (texts = given ∨ ∃ value, (key, value) ∈ values ∧ value.items? = some (texts.map .text)) := by
  obtain ⟨texts, found, origin⟩ := keeps.texts known
  exact ⟨texts, by rw [Rule.strings, strings_textList found]; rfl, origin⟩

theorem strings_succeeds {given : List String} (known : defaults.lookup key = some (Rule.textList given)) :
    Succeeds (Rule.strings options key) := by
  obtain ⟨texts, read, -⟩ := keeps.strings known
  exact ⟨texts, read⟩

theorem listed {given : List String} (known : defaults.lookup key = some (Rule.textList given)) :
    Succeeds (Rule.listed options key) := by
  obtain ⟨texts, found, -⟩ := keeps.texts known
  rw [Rule.listed, items_textList found]
  exact .ok _

theorem integer {given : Int} (known : defaults.lookup key = some (.integer given)) :
    ∃ number, options.integer key = .ok number ∧ (number = given ∨ (key, .integer number) ∈ values) := by
  obtain ⟨value, found, rfl | ⟨other, mem, ⟨number, rfl⟩, rfl⟩⟩ := keeps key _ known
  · exact ⟨given, integer_integer found, .inl rfl⟩
  · exact ⟨number, integer_integer found, .inr mem⟩

theorem entries {given : List (String × String)} (known : defaults.lookup key = some (Rule.textTable given)) :
    Succeeds (options.entries key) := by
  obtain ⟨value, found, rfl | ⟨other, mem, ⟨texts, held⟩, rfl⟩⟩ := keeps key _ known
  · exact ⟨_, entries_view found⟩
  · rw [show (Rule.textTable given).taken other = Rule.textTable texts from Value.frozen_of_entries held] at found
    exact ⟨_, entries_view found⟩

end Keeps

end Options

end BoundaryLint
