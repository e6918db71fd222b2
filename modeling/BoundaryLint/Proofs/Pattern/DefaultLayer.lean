import BoundaryLint.Classifier
import BoundaryLint.Pattern.Parser
import BoundaryLint.Proofs.Pattern.LetterCase
import Mathlib

/-!
The layer of a file where no patterns are configured. The default patterns spell words, so that the layers are told
apart by the words that stand in the module name and the path, from the interface down to the infrastructure.
-/

namespace BoundaryLint.Classifier

open Pattern (Regex Takes ClosedIn OpenedIn spelled search)
open Text (isWordChar)

variable {layer : Layer} {tests : List (String → Bool)} {groups : List (Layer × List (String → Bool))}
  {name text path : String} {moduleName : Option String} {read : Reader}

theorem classify_cons : (Classifier.mk ((layer, tests) :: groups)).classify path moduleName =
    if tests.any (· (subject path moduleName)) then layer
    else (Classifier.mk groups).classify path moduleName := by
  rw [classify, List.find?_cons]
  split
  · rename_i found
    rw [if_pos found]
    rfl
  · rename_i missed
    rw [if_neg (by simpa using missed)]
    rfl

def Marked (text : List Char) : Layer → Prop
  | .interface => (∃ spelling, spelling.map Char.toLower = "_web".toList ∧ ClosedIn spelling text) ∨
      OpenedIn "Mix.Tasks.".toList text ∨ "/mix/tasks/".toList <:+: text
  | .domain => ClosedIn ".Domain".toList text ∨ "/domain/".toList <:+: text
  | .application => ".Application.".toList <:+: text ∨ ClosedIn ".ApplicationLayer".toList text ∨
      "/application/".toList <:+: text
  | .infrastructure => ClosedIn ".Infrastructure".toList text ∨ "/infrastructure/".toList <:+: text
  | .unknown => False

def word (text : String) : Regex := spelled false text.toList .empty

def closed (ignoreCase : Bool) (text : String) : Regex :=
  spelled ignoreCase text.toList (.seq (.anchor (.wordEdge false)) .empty)

def opened (text : String) : Regex := .seq (.anchor (.wordEdge false)) (word text)

def defaultRegexes : Layer → List Regex
  | .interface => [closed true "_web", opened "Mix.Tasks.", word "/mix/tasks/"]
  | .domain => [closed false ".Domain", word "/domain/"]
  | .application => [word ".Application.", closed false ".ApplicationLayer", word "/application/"]
  | .infrastructure => [closed false ".Infrastructure", word "/infrastructure/"]
  | .unknown => []

def defaultTests (layer : Layer) : List (String → Bool) := (defaultRegexes layer).map search

def defaultClassifier : Classifier :=
  ⟨[.interface, .domain, .application, .infrastructure].map fun layer => (layer, defaultTests layer)⟩

/-- On the default patterns the reader agrees with `Pattern.read`. -/
def ReadsDefaults (read : Reader) : Prop :=
  ∀ group ∈ defaultPatterns, ∀ pattern ∈ group.2, read pattern = Pattern.read pattern

theorem readGroup_of_parse {patterns : List String} {regexes : List Regex}
    (parsed : patterns.mapM (fun pattern => (Pattern.parse pattern).toOption) = some regexes)
    (usual : ∀ pattern ∈ patterns, read pattern = Pattern.read pattern) :
    readGroup read (layer, patterns) = .ok (layer, regexes.map search) := by
  have tests : patterns.mapM (fun pattern => (read pattern).mapError (Fault.mk layer)) = .ok (regexes.map search) := by
    induction patterns generalizing regexes with
    | nil =>
      cases parsed
      rfl
    | cons pattern rest ih =>
      rw [List.mapM_cons] at parsed ⊢
      obtain ⟨regex, first, later⟩ := Option.bind_eq_some_iff.mp parsed
      obtain ⟨others, second, same⟩ := Option.bind_eq_some_iff.mp later
      cases same
      have known : read pattern = .ok (search regex) := by
        rw [usual pattern List.mem_cons_self, Pattern.read]
        cases outcome : Pattern.parse pattern with
        | error fault =>
          rw [outcome] at first
          cases first
        | ok found =>
          rw [outcome] at first
          cases first
          rfl
      rw [known, ih second fun other mem => usual other (List.mem_cons_of_mem _ mem)]
      rfl
  simp only [readGroup, tests]
  rfl

theorem parse_default : ∀ group ∈ defaultPatterns,
    group.2.mapM (fun pattern => (Pattern.parse pattern).toOption) = some (defaultRegexes group.1) := by
  decide +kernel

theorem ofPatterns_default (usual : ReadsDefaults read) : ofPatterns read defaultPatterns = .ok defaultClassifier := by
  have each : ∀ group ∈ defaultPatterns, readGroup read group = .ok (group.1, defaultTests group.1) :=
    fun group mem => readGroup_of_parse (parse_default group mem) (usual group mem)
  have all : defaultPatterns.mapM (readGroup read) = .ok defaultClassifier.groups := by
    simp only [defaultPatterns, List.forall_mem_cons] at each
    obtain ⟨interface, domain, application, infrastructure, -⟩ := each
    simp only [defaultPatterns, List.mapM_cons, List.mapM_nil, interface, domain, application, infrastructure]
    rfl
  rw [ofPatterns, all]
  rfl

theorem search_opened (first : Char) {rest : List Char} (inWord : isWordChar first = true)
    (starts : name.toList = first :: rest) :
    search (opened name) text = true ↔ OpenedIn name.toList text.toList := by
  rw [opened, word, starts]
  exact Pattern.search_edge_spelled inWord

theorem search_closed (start : List Char) (last : Char) (inWord : isWordChar last = true)
    (ends : name.toList = start ++ [last]) :
    search (closed false name) text = true ↔ ClosedIn name.toList text.toList := by
  rw [closed, Pattern.search_spelled_edge]
  · constructor
    · rintro ⟨spelling, same, found⟩
      rw [Pattern.forall₂_takes_iff_eq.mp same]
      exact found
    · intro found
      exact ⟨_, Pattern.forall₂_takes_iff_eq.mpr rfl, found⟩
  · intro spelling same
    rw [← Pattern.forall₂_takes_iff_eq.mp same]
    exact ⟨start, last, ends, inWord⟩

theorem isWordChar_of_toLower {c : Char} (small : c.toLower = 'b') : isWordChar c = true := by
  by_cases capital : c.isUpper
  · have range := Text.isUpper_iff.mp capital
    have ascii : c.toNat < 128 := by omega
    simp [isWordChar, Text.isAlphanumeric_ascii c ascii, Char.isAlphanum, Char.isAlpha, capital]
  · rw [Char.toLower_eq_of_not_isUpper capital] at small
    subst small
    decide

theorem search_web : search (closed true "_web") text = true ↔
    ∃ spelling, spelling.map Char.toLower = "_web".toList ∧ ClosedIn spelling text.toList := by
  have spelling_iff (spelling : List Char) :
      List.Forall₂ (Takes true) "_web".toList spelling ↔ spelling.map Char.toLower = "_web".toList :=
    Pattern.forall₂_takes_ignoringCase fun _ mem => mem
  rw [closed, Pattern.search_spelled_edge]
  · simp only [spelling_iff]
  · intro spelling same
    rw [spelling_iff] at same
    obtain ⟨start, final, rfl, -, last⟩ := List.map_eq_append_iff.mp (show _ = ['_', 'w', 'e'] ++ ['b'] from same)
    obtain ⟨c, rfl, small⟩ := List.map_eq_singleton_iff.mp last
    exact ⟨start, c, rfl, isWordChar_of_toLower small⟩

/-- The patterns of a layer match exactly where one of its words stands. -/
theorem matches_iff : (defaultTests layer).any (· text) = true ↔ Marked text.toList layer := by
  cases layer with
  | interface =>
    have task : search (opened "Mix.Tasks.") text = true ↔ OpenedIn "Mix.Tasks.".toList text.toList :=
      search_opened 'M' (by decide) rfl
    simp [defaultTests, defaultRegexes, Marked, search_web, task, word, Pattern.search_spelled]
  | domain =>
    have name : search (closed false ".Domain") text = true ↔ ClosedIn ".Domain".toList text.toList :=
      search_closed ".Domai".toList 'n' (by decide) rfl
    simp [defaultTests, defaultRegexes, Marked, name, word, Pattern.search_spelled]
  | application =>
    have name : search (closed false ".ApplicationLayer") text = true ↔
        ClosedIn ".ApplicationLayer".toList text.toList :=
      search_closed ".ApplicationLaye".toList 'r' (by decide) rfl
    simp [defaultTests, defaultRegexes, Marked, name, word, Pattern.search_spelled]
  | infrastructure =>
    have name : search (closed false ".Infrastructure") text = true ↔ ClosedIn ".Infrastructure".toList text.toList :=
      search_closed ".Infrastructur".toList 'e' (by decide) rfl
    simp [defaultTests, defaultRegexes, Marked, name, word, Pattern.search_spelled]
  | unknown => simp [defaultTests, defaultRegexes, Marked]

theorem classify_marked (marked : Marked (subject path moduleName).toList layer) :
    (Classifier.mk ((layer, defaultTests layer) :: groups)).classify path moduleName = layer := by
  rw [classify_cons, if_pos (matches_iff.mpr marked)]

theorem classify_unmarked (unmarked : ¬Marked (subject path moduleName).toList layer) :
    (Classifier.mk ((layer, defaultTests layer) :: groups)).classify path moduleName =
      (Classifier.mk groups).classify path moduleName := by
  rw [classify_cons, if_neg (mt matches_iff.mp unmarked)]

theorem not_marked_iff {chars : List Char} : (∀ layer, ¬Marked chars layer) ↔ ¬Marked chars .interface ∧
    ¬Marked chars .domain ∧ ¬Marked chars .application ∧ ¬Marked chars .infrastructure := by
  constructor
  · intro unmarked
    exact ⟨unmarked .interface, unmarked .domain, unmarked .application, unmarked .infrastructure⟩
  · rintro ⟨interface, domain, application, infrastructure⟩ layer
    cases layer with
    | domain => exact domain
    | application => exact application
    | infrastructure => exact infrastructure
    | interface => exact interface
    | unknown => exact id

/-- Without configured patterns a file is placed by the words in its module name and path. -/
theorem classify_default (usual : ReadsDefaults read) : ∃ classifier, ofPatterns read defaultPatterns = .ok classifier ∧
    ∀ (path : String) (moduleName : Option String),
      let text := (moduleName.getD "" ++ " " ++ path).toList
      let layer := classifier.classify path moduleName
      (layer = .interface ↔ Marked text .interface) ∧
      (layer = .domain ↔ ¬Marked text .interface ∧ Marked text .domain) ∧
      (layer = .application ↔ ¬Marked text .interface ∧ ¬Marked text .domain ∧ Marked text .application) ∧
      (layer = .infrastructure ↔ ¬Marked text .interface ∧ ¬Marked text .domain ∧ ¬Marked text .application ∧
        Marked text .infrastructure) ∧
      (layer = .unknown ↔ ∀ layer, ¬Marked text layer) := by
  refine ⟨defaultClassifier, ofPatterns_default usual, ?_⟩
  intro path moduleName text layer
  rw [not_marked_iff]
  -- Every layer that is tried either ends the search or passes it on.
  by_cases interface : Marked text .interface
  · have taken : layer = .interface := classify_marked interface
    simp [taken, interface]
  have fromDomain : layer = _ := classify_unmarked interface
  by_cases domain : Marked text .domain
  · have taken : layer = .domain := fromDomain.trans (classify_marked domain)
    simp [taken, interface, domain]
  have fromApplication : layer = _ := fromDomain.trans (classify_unmarked domain)
  by_cases application : Marked text .application
  · have taken : layer = .application := fromApplication.trans (classify_marked application)
    simp [taken, interface, domain, application]
  have fromInfrastructure : layer = _ := fromApplication.trans (classify_unmarked application)
  by_cases infrastructure : Marked text .infrastructure
  · have taken : layer = .infrastructure := fromInfrastructure.trans (classify_marked infrastructure)
    simp [taken, interface, domain, application, infrastructure]
  · have none : layer = .unknown := fromInfrastructure.trans (classify_unmarked infrastructure)
    simp [none, interface, domain, application, infrastructure]

theorem classify_default_web : ReadsDefaults Pattern.read ∧
    ∃ classifier, ofPatterns Pattern.read defaultPatterns = .ok classifier ∧
      classifier.classify "lib/shop_WEB/domain/page.ex" none = .interface := by
  have usual : ReadsDefaults Pattern.read := fun _ _ _ _ => rfl
  obtain ⟨classifier, made, decides⟩ := classify_default usual
  refine ⟨usual, classifier, made, (decides _ _).1.mpr (.inl ⟨"_WEB".toList, by decide, ?_⟩)⟩
  have closed : Pattern.Wordless "/domain/page.ex".toList := by
    rintro c ⟨⟩
    decide
  exact ⟨" lib/shop".toList, "/domain/page.ex".toList, by decide, closed⟩

end BoundaryLint.Classifier
