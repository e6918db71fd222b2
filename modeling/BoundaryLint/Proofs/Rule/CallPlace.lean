import BoundaryLint.Proofs.Tree.Place
import BoundaryLint.Rule.Delegation.Transaction
import BoundaryLint.Rule.Leakage.Clock
import Mathlib

/-!
Calls that are judged by where they stand. A clock call is allowed as a default that a caller can replace, and nowhere
else; a broadcast is refused in what a transaction runs, and nowhere else. Equal calls at other places are judged on
their own, and every call is reported at most once.
-/

namespace BoundaryLint

namespace Call

variable {call : Call} {ref : ModuleRef} {module : String} {functions : List String}

theorem module?_eq_some_iff : call.module? = some ref ↔ ∃ line, call.target = some (.alias ref line) := by
  unfold module?
  split
  · next other line target => simp [target]
  · next other =>
    simp only [reduceCtorEq, false_iff, not_exists]
    exact fun line target => other ref line target

theorem any_module?_iff {test : ModuleRef → Bool} :
    call.module?.any test = true ↔ ∃ ref line, call.target = some (.alias ref line) ∧ test ref = true := by
  rw [Option.any_eq_true]
  simp only [module?_eq_some_iff]
  constructor
  · rintro ⟨ref, ⟨line, target⟩, holds⟩
    exact ⟨ref, line, target, holds⟩
  · rintro ⟨ref, line, target, holds⟩
    exact ⟨ref, ⟨line, target⟩, holds⟩

theorem isTo_iff : call.isTo module functions = true ↔
    ∃ ref line, call.target = some (.alias ref line) ∧ ref.name = module ∧ call.function ∈ functions := by
  simp only [isTo, isOf, Bool.and_eq_true, any_module?_iff, decide_eq_true_eq, List.contains_iff_mem]
  tauto

theorem isToRepo_iff : call.isToRepo functions = true ↔
    ∃ ref line, call.target = some (.alias ref line) ∧ ref.isRepo = true ∧ call.function ∈ functions := by
  simp only [isToRepo, Bool.and_eq_true, any_module?_iff, List.contains_iff_mem]
  tauto

theorem not_isClock_of_isSystemClock (system : call.isSystemClock = true) : call.isClock = false := by
  rw [Bool.eq_false_iff]
  intro clock
  obtain ⟨ref, line, target, listed⟩ := any_module?_iff.mp clock
  rcases Bool.or_eq_true_iff.mp system with named | erlang
  · obtain ⟨other, line', target', name, -⟩ := isTo_iff.mp named
    cases target.symm.trans target'
    simp [clockFunctions, name] at listed
  · simp [isToErlang, target] at erlang

end Call

theorem Node.eq_of_call? {node : Node} {call : Call} (found : node.call? = some call) : node = call.toNode := by
  cases node with
  | call target function args block elseBlock line =>
    cases found
    rfl
  | _ => cases found

theorem forall₂_filterMap {α β : Type} (f : α → Option β) (items : List α) :
    List.Forall₂ (fun item result => item ∈ items ∧ f item = some result)
      (items.filter fun item => (f item).isSome) (items.filterMap f) := by
  induction items with
  | nil => exact .nil
  | cons item items ih =>
    have later := ih.imp fun _ _ given => And.intro (List.mem_cons_of_mem item given.1) given.2
    cases found : f item with
    | none => simpa [found] using later
    | some result => simpa [found] using later

namespace Rule

open Occurrence (Stands Covers Precedes)

section Clock

/-- The first occurrence gives the second one as a default: behind the operator of a default parameter, or as the
last of the three arguments of `Keyword.get`. -/
inductive GivesDefault (parent : Occurrence) (given : Occurrence) : Prop
  | parameter {left right : Node} {line : Nat} (form : parent.node = .binary "\\\\" left right line)
    (operand : parent.children[1]? = some given)
  | option {keyword : ModuleRef} {aliasLine line : Nat} {first second third : Node} {block elseBlock : List Node}
    (form : parent.node =
      .call (some (.alias keyword aliasLine)) "get" [first, second, third] block elseBlock line)
    (named : keyword.name = "Keyword") (argument : parent.children[3]? = some given)

def Replaceable (body : List Node) (occurrence : Occurrence) : Prop :=
  ∃ parent, Stands body parent ∧ GivesDefault parent occurrence

/-- A call of a clock that no caller can replace. A clock of the system is never replaced. -/
def ReadsClock (body : List Node) (occurrence : Occurrence) : Prop :=
  ∃ call, occurrence.node.call? = some call ∧
    (call.isSystemClock = true ∨ call.isClock = true ∧ ¬ Replaceable body occurrence)

variable {body : List Node} {parent given occurrence : Occurrence} {place : List Nat} {call : Call}

theorem GivesDefault.mem_children (gives : GivesDefault parent given) : given ∈ parent.children := by
  cases gives with
  | parameter form operand => exact List.mem_of_getElem? operand
  | option form named argument => exact List.mem_of_getElem? argument

theorem GivesDefault.clockDefault? (gives : GivesDefault parent given) (clock : isClockNode given.node = true) :
    clockDefault? parent = some given.place := by
  obtain ⟨place, node⟩ := parent
  cases gives with
  | parameter form operand =>
    cases form
    cases operand
    simp [Rule.clockDefault?, clock]
  | @option keyword aliasLine line first second third block elseBlock form named argument =>
    cases form
    cases argument
    have toKeyword : Call.isTo ⟨some (.alias keyword aliasLine), "get", [first, second, third], block, elseBlock, line⟩
        "Keyword" ["get"] = true := Call.isTo_iff.mpr ⟨keyword, aliasLine, rfl, named, List.mem_singleton_self _⟩
    simp [Rule.clockDefault?, clock, toKeyword]

theorem exists_of_clockDefault? (found : clockDefault? parent = some place) :
    ∃ given, GivesDefault parent given ∧ isClockNode given.node = true ∧ given.place = place := by
  obtain ⟨above, node⟩ := parent
  unfold Rule.clockDefault? at found
  split at found
  · next op left right line form =>
    split at found
    · next both =>
      cases found
      cases form
      rw [Bool.and_eq_true, decide_eq_true_eq] at both
      exact ⟨⟨1 :: above, right⟩, .parameter (by rw [both.1]) rfl, both.2, rfl⟩
    · cases found
  · next target function first second third block elseBlock line form =>
    dsimp only at found
    split at found
    · next both =>
      cases found
      cases form
      rw [Bool.and_eq_true, Call.isTo_iff] at both
      obtain ⟨⟨ref, aliasLine, rfl, named, listed⟩, clock⟩ := both
      cases List.mem_singleton.mp listed
      exact ⟨⟨3 :: above, third⟩, .option rfl named rfl, clock, rfl⟩
    · cases found
  · cases found

/-- Exempt are the clock calls that can be replaced, and no other call at their places. -/
theorem mem_exempt_iff (stands : Stands body occurrence) :
    occurrence.place ∈ (Occurrence.ofBody body).filterMap clockDefault? ↔
      isClockNode occurrence.node = true ∧ Replaceable body occurrence := by
  rw [List.mem_filterMap]
  constructor
  · rintro ⟨parent, listed, found⟩
    obtain ⟨given, gives, clock, same⟩ := exists_of_clockDefault? found
    have above := Occurrence.mem_ofBody.mp listed
    cases (above.child gives.mem_children).eq_of_place stands same
    exact ⟨clock, parent, above, gives⟩
  · rintro ⟨clock, parent, above, gives⟩
    exact ⟨parent, Occurrence.mem_ofBody.mpr above, gives.clockDefault? clock⟩

theorem clockReads_eq_filterMap (body : List Node) :
    ∃ read? : Occurrence → Option Call, clockReads body = (Occurrence.ofBody body).filterMap read? ∧
      ∀ occurrence, Stands body occurrence → ∀ call, read? occurrence = some call ↔
        occurrence.node.call? = some call ∧
          (call.isSystemClock = true ∨ call.isClock = true ∧ ¬ Replaceable body occurrence) := by
  refine ⟨_, rfl, ?_⟩
  intro occurrence stands call
  cases node : occurrence.node.call? with
  | none => simp
  | some own =>
    have clock : isClockNode occurrence.node = own.isClock := by simp [isClockNode, node]
    have exempt := mem_exempt_iff stands
    rw [clock] at exempt
    have judged : ((own.isClock || own.isSystemClock) &&
        !((Occurrence.ofBody body).filterMap clockDefault?).contains occurrence.place) = true ↔
          own.isSystemClock = true ∨ own.isClock = true ∧ ¬ Replaceable body occurrence := by
      rw [Bool.and_eq_true, Bool.or_eq_true, Bool.not_eq_true', ← Bool.not_eq_true, List.contains_iff_mem, exempt]
      have apart := @Call.not_isClock_of_isSystemClock own
      by_cases system : own.isSystemClock = true
      · simp [system, apart system]
      · simp only [system]
        tauto
    dsimp only
    rw [Option.ite_none_right_eq_some, judged, and_comm]
    refine and_congr_right fun same => ?_
    cases same
    rfl

def ReportsClock (active : ActiveRule) (file : String) (read : Occurrence) (issue : Issue) : Prop :=
  ∃ call, read.node.call? = some call ∧ issue = active.issue file (clockFinding call)

/-- The rule reports every clock call of a file that no caller can replace, each once and in pre-order, and nothing
else. -/
theorem check_reports_clockReads [Host] (severity : Severity) (exitStatus : Nat) (options : Options) (unit : SourceUnit)
    (probe : Probe) :
    ∃ reads issues,
      (ActiveRule.mk noDateTimeNowInDomain severity exitStatus options).check unit probe = .ok issues ∧
      List.Forall₂ (ReportsClock ⟨noDateTimeNowInDomain, severity, exitStatus, options⟩ unit.path) reads issues ∧
      reads.Pairwise Precedes ∧
      ∀ occurrence, occurrence ∈ reads ↔
        Stands unit.tree.body occurrence ∧ ReadsClock unit.tree.body occurrence := by
  obtain ⟨read?, same, judged⟩ := clockReads_eq_filterMap unit.tree.body
  refine ⟨(Occurrence.ofBody unit.tree.body).filter fun occurrence => (read? occurrence).isSome, _, rfl, ?_, ?_, ?_⟩
  · rw [same, List.map_map, List.forall₂_map_right_iff]
    refine (forall₂_filterMap read? _).imp ?_
    rintro read call ⟨listed, found⟩
    exact ⟨call, ((judged read (Occurrence.mem_ofBody.mp listed) call).mp found).1, rfl⟩
  · exact (Occurrence.pairwise_ofBody _).filter _
  · intro occurrence
    rw [List.mem_filter, Occurrence.mem_ofBody]
    refine and_congr_right fun stands => ?_
    rw [Option.isSome_iff_exists]
    exact exists_congr (judged occurrence stands)

end Clock

section Transaction

def Runs (transaction closure : Occurrence) : Prop :=
  ∃ repo aliasLine function clauses closureLine others block elseBlock line,
    transaction.node =
      .call (some (.alias repo aliasLine)) function (.anonymous clauses closureLine :: others) block elseBlock line ∧
    repo.isRepo = true ∧ function ∈ ["transaction", "transact"] ∧ transaction.children[1]? = some closure

def InBody (clause statement : Occurrence) : Prop :=
  ∃ params body guard line number, clause.node = .clause params body guard line ∧
    clause.children[params.length + guard.toList.length + number]? = some statement

/-- The occurrence lies in the body of a clause of the closure that the transaction runs. -/
def LiesWithin (transaction occurrence : Occurrence) : Prop :=
  ∃ closure clause statement, Runs transaction closure ∧ clause ∈ closure.children ∧ InBody clause statement ∧
    statement.Covers occurrence

def IsBroadcast (node : Node) : Prop :=
  ∃ call, node.call? = some call ∧
    ((∃ ref line, call.target = some (.alias ref line) ∧ ref.name = "Phoenix.PubSub" ∧
      call.function ∈ ["broadcast", "broadcast_from"]) ∨ "broadcast_".toList <+: call.function.toList)

variable {transaction closure clause statement occurrence : Occurrence} {inside : List Occurrence}

theorem isSome_broadcast?_iff {node : Node} : (broadcast? node).isSome = true ↔ IsBroadcast node := by
  unfold broadcast? IsBroadcast
  cases node.call? with
  | none => simp
  | some call =>
    simp only [Option.some.injEq, exists_eq_left', ← Call.isTo_iff, ← List.isPrefixOf_iff_prefix, Text.startsWith]
    by_cases toPubSub : call.isTo "Phoenix.PubSub" ["broadcast", "broadcast_from"] = true
    · simp [toPubSub]
    · simp [toPubSub]

/-- What a transaction runs, if it runs a closure. -/
theorem transactionBody?_of_runs (runs : Runs transaction closure) :
    transactionBody? transaction =
      some (closure.children.flatMap fun clause => clauseBody clause.place clause.node) := by
  obtain ⟨place, node⟩ := transaction
  obtain ⟨repo, aliasLine, function, clauses, closureLine, others, block, elseBlock, line, form, isRepo, named,
    first⟩ := runs
  cases form
  cases first
  have toRepo : Call.isToRepo
      ⟨some (.alias repo aliasLine), function, .anonymous clauses closureLine :: others, block, elseBlock, line⟩
      ["transaction", "transact"] = true := Call.isToRepo_iff.mpr ⟨repo, aliasLine, rfl, isRepo, named⟩
  simp only [transactionBody?, Node.call?, toRepo, if_true]
  rfl

theorem runs_of_transactionBody? (found : transactionBody? transaction = some inside) :
    ∃ closure, Runs transaction closure := by
  obtain ⟨place, node⟩ := transaction
  unfold transactionBody? at found
  split at found
  · cases found
  · next call node =>
    split at found
    · next clauses closureLine others args =>
      split at found
      · next toRepo =>
        obtain ⟨repo, aliasLine, target, isRepo, named⟩ := Call.isToRepo_iff.mp toRepo
        have form := Node.eq_of_call? node
        rw [Call.toNode, target, args] at form
        cases form
        exact ⟨_, repo, aliasLine, _, clauses, closureLine, others, _, _, _, rfl, isRepo, named, rfl⟩
      · cases found
    · cases found

/-- The statements of a clause are numbered on behind its parameters and its guard. -/
theorem inBody_iff {place : List Nat} {params body : List Node} {guard : Option Node} {line : Nat} :
    InBody ⟨place, .clause params body guard line⟩ statement ↔
      statement ∈ Occurrence.numbered place (params.length + guard.toList.length) body := by
  rw [← List.length_append, ← Occurrence.exists_behind_iff, List.length_append]
  constructor
  · rintro ⟨params', body', guard', line', number, form, listed⟩
    cases form
    exact ⟨number, listed⟩
  · rintro ⟨number, listed⟩
    exact ⟨params, body, guard, line, number, rfl, listed⟩

theorem mem_clauseBody_iff :
    occurrence ∈ clauseBody clause.place clause.node ↔
      ∃ statement, InBody clause statement ∧ statement.Covers occurrence := by
  obtain ⟨place, node⟩ := clause
  cases node with
  | clause params body guard line =>
    simp only [inBody_iff]
    exact Occurrence.mem_walk
  | _ =>
    simp only [clauseBody, List.not_mem_nil, false_iff]
    rintro ⟨statement, ⟨params, body, guard, line, number, form, -⟩, -⟩
    cases form

/-- A transaction with a closure is searched where it runs, any other node is not searched. -/
theorem liesWithin_iff :
    LiesWithin transaction occurrence ↔ ∃ inside, transactionBody? transaction = some inside ∧ occurrence ∈ inside := by
  constructor
  · rintro ⟨closure, clause, statement, runs, listed, inBody, covers⟩
    refine ⟨_, transactionBody?_of_runs runs, List.mem_flatMap.mpr ⟨clause, listed, ?_⟩⟩
    exact mem_clauseBody_iff.mpr ⟨statement, inBody, covers⟩
  · rintro ⟨inside, found, mem⟩
    obtain ⟨closure, runs⟩ := runs_of_transactionBody? found
    rw [transactionBody?_of_runs runs] at found
    cases found
    obtain ⟨clause, listed, inClause⟩ := List.mem_flatMap.mp mem
    obtain ⟨statement, inBody, covers⟩ := mem_clauseBody_iff.mp inClause
    exact ⟨closure, clause, statement, runs, listed, inBody, covers⟩

theorem not_liesWithin (none : transactionBody? transaction = none) : ¬ LiesWithin transaction occurrence := by
  rw [liesWithin_iff, none]
  simp

theorem pairwise_clauseBody (place : List Nat) (node : Node) : (clauseBody place node).Pairwise Precedes := by
  cases node with
  | clause params body guard line => exact Occurrence.pairwise_walk Occurrence.pairwise_numbered
  | _ => exact .nil

theorem suffix_of_mem_clauseBody (mem : occurrence ∈ clauseBody clause.place clause.node) :
    clause.place <:+ occurrence.place := by
  obtain ⟨statement, ⟨params, body, guard, line, number, -, listed⟩, covers⟩ := mem_clauseBody_iff.mp mem
  have below : clause.Covers statement := .single (List.mem_of_getElem? listed)
  exact below.suffix.trans covers.suffix

theorem pairwise_transactionBody? (found : transactionBody? transaction = some inside) : inside.Pairwise Precedes := by
  obtain ⟨closure, runs⟩ := runs_of_transactionBody? found
  rw [transactionBody?_of_runs runs] at found
  cases found
  rw [List.pairwise_flatMap]
  refine ⟨fun clause _ => pairwise_clauseBody _ _, Occurrence.pairwise_numbered.imp ?_⟩
  intro clause later left first inFirst second inSecond
  exact .inr (left.below (suffix_of_mem_clauseBody inFirst) (suffix_of_mem_clauseBody inSecond))

theorem LiesWithin.covers (within : LiesWithin transaction occurrence) : transaction.Covers occurrence := by
  obtain ⟨closure, clause, statement, ⟨_, _, _, _, _, _, _, _, _, -, -, -, first⟩, listed, ⟨_, _, _, _, _, -, inBody⟩,
    covers⟩ := within
  have toClosure : transaction.Covers closure := .single (List.mem_of_getElem? first)
  have toClause : transaction.Covers clause := toClosure.tail listed
  have toStatement : transaction.Covers statement := toClause.tail (List.mem_of_getElem? inBody)
  exact toStatement.trans covers

def ReportsBroadcast (report : Occurrence × Occurrence) (finding : Finding) : Prop :=
  ∃ trigger, broadcast? report.1.node = some trigger ∧
    finding = broadcastFinding report.2.node.line trigger report.1.node.line

def freshBroadcasts (reported : List (List Nat)) (inside : List Occurrence) : List Occurrence :=
  inside.filter fun occurrence => !reported.contains occurrence.place && (broadcast? occurrence.node).isSome

theorem mem_freshBroadcasts {reported : List (List Nat)} :
    occurrence ∈ freshBroadcasts reported inside ↔
      occurrence ∈ inside ∧ occurrence.place ∉ reported ∧ IsBroadcast occurrence.node := by
  rw [freshBroadcasts, List.mem_filter, Bool.and_eq_true, isSome_broadcast?_iff, Bool.not_eq_true',
    ← Bool.not_eq_true, List.contains_iff_mem]

theorem mem_reported (found : transactionBody? transaction = some inside) {reported : List (List Nat)}
    (within : LiesWithin transaction occurrence) (broadcast : IsBroadcast occurrence.node) :
    occurrence.place ∈ reported ∨ occurrence ∈ freshBroadcasts reported inside := by
  obtain ⟨inside', found', own⟩ := liesWithin_iff.mp within
  cases found.symm.trans found'
  by_cases known : occurrence.place ∈ reported
  · exact .inl known
  · exact .inr (mem_freshBroadcasts.mpr ⟨own, known, broadcast⟩)

/-- One transaction reports what is new in it. -/
theorem newBroadcasts_spec (reported : List (List Nat)) (transaction : Occurrence) (inside : List Occurrence) :
    List.Forall₂
      (fun occurrence found => found.1 = occurrence.place ∧ ReportsBroadcast (occurrence, transaction) found.2)
      (freshBroadcasts reported inside) (newBroadcasts reported transaction.node.line inside) := by
  unfold freshBroadcasts newBroadcasts
  induction inside with
  | nil => exact .nil
  | cons occurrence inside ih =>
    by_cases known : occurrence.place ∈ reported
    · simpa [known] using ih
    · cases name : broadcast? occurrence.node with
      | none => simpa [known, name] using ih
      | some trigger =>
        have report : ReportsBroadcast (occurrence, transaction)
            (broadcastFinding transaction.node.line trigger occurrence.node.line) := ⟨trigger, name, rfl⟩
        simpa [known, name, report] using ih

/-- What a search of some occurrences reports: every broadcast of a transaction among them that was not reported
before, each place once and with the first transaction that runs it. -/
structure Collects (reported : List (List Nat)) (occurrences : List Occurrence)
    (reports : List (Occurrence × Occurrence)) : Prop where
  once : (reports.map (·.1.place)).Nodup
  fresh : ∀ report ∈ reports, report.1.place ∉ reported
  first : ∀ report ∈ reports, IsBroadcast report.1.node ∧ ∃ before after, occurrences = before ++ report.2 :: after ∧
    LiesWithin report.2 report.1 ∧
    ∀ earlier ∈ before, ∀ occurrence, LiesWithin earlier occurrence → IsBroadcast occurrence.node →
      occurrence.place ≠ report.1.place
  every : ∀ transaction ∈ occurrences, ∀ occurrence, LiesWithin transaction occurrence → IsBroadcast occurrence.node →
    occurrence.place ∈ reported ∨ ∃ report ∈ reports, report.1.place = occurrence.place

variable {reported : List (List Nat)} {occurrences : List Occurrence} {reports : List (Occurrence × Occurrence)}

theorem Collects.nil : Collects reported [] [] where
  once := .nil
  fresh := by simp
  first := by simp
  every := by simp

theorem Collects.skip (later : Collects reported occurrences reports) (none : transactionBody? transaction = none) :
    Collects reported (transaction :: occurrences) reports where
  once := later.once
  fresh := later.fresh
  first := by
    intro report mem
    obtain ⟨broadcast, before, after, split, within, earliest⟩ := later.first report mem
    refine ⟨broadcast, transaction :: before, after, by rw [split, List.cons_append], within, ?_⟩
    rw [List.forall_mem_cons]
    exact ⟨fun occurrence inside => absurd inside (not_liesWithin none), earliest⟩
  every := by
    rw [List.forall_mem_cons]
    exact ⟨fun occurrence inside => absurd inside (not_liesWithin none), later.every⟩

/-- A transaction adds what is new in it, and all of that counts as reported from then on. -/
theorem Collects.step (found : transactionBody? transaction = some inside)
    (later : Collects ((freshBroadcasts reported inside).map (·.place) ++ reported) occurrences reports) :
    Collects reported (transaction :: occurrences)
      ((freshBroadcasts reported inside).map (·, transaction) ++ reports) where
  once := by
    have places : ((freshBroadcasts reported inside).map (·.place)).Nodup :=
      Occurrence.nodup_places ((pairwise_transactionBody? found).filter _)
    rw [List.map_append, List.map_map, List.nodup_append']
    refine ⟨places, later.once, ?_⟩
    intro place mem again
    obtain ⟨report, listed, rfl⟩ := List.mem_map.mp again
    exact later.fresh report listed (List.mem_append_left _ mem)
  fresh := by
    intro report mem
    rcases List.mem_append.mp mem with here | beyond
    · obtain ⟨occurrence, listed, rfl⟩ := List.mem_map.mp here
      exact (mem_freshBroadcasts.mp listed).2.1
    · exact fun known => later.fresh report beyond (List.mem_append_right _ known)
  first := by
    intro report mem
    rcases List.mem_append.mp mem with here | beyond
    · obtain ⟨occurrence, listed, rfl⟩ := List.mem_map.mp here
      obtain ⟨own, -, broadcast⟩ := mem_freshBroadcasts.mp listed
      exact ⟨broadcast, [], occurrences, rfl, liesWithin_iff.mpr ⟨inside, found, own⟩, by simp⟩
    · obtain ⟨broadcast, before, after, split, within, earliest⟩ := later.first report beyond
      refine ⟨broadcast, transaction :: before, after, by rw [split, List.cons_append], within, ?_⟩
      rw [List.forall_mem_cons]
      refine ⟨fun occurrence own notifies same => ?_, earliest⟩
      -- What the transaction runs is reported with it, or was reported before.
      apply later.fresh report beyond
      rw [← same]
      rcases mem_reported found own notifies with known | new
      · exact List.mem_append_right _ known
      · exact List.mem_append_left _ (List.mem_map_of_mem new)
  every := by
    rw [List.forall_mem_cons]
    constructor
    · intro occurrence own notifies
      rcases mem_reported found own notifies with known | new
      · exact .inl known
      · exact .inr ⟨(occurrence, transaction), List.mem_append_left _ (List.mem_map_of_mem new), rfl⟩
    · intro other listed occurrence within notifies
      rcases later.every other listed occurrence within notifies with counted | ⟨report, beyond, same⟩
      · rcases List.mem_append.mp counted with here | known
        · obtain ⟨again, new, same⟩ := List.mem_map.mp here
          exact .inr ⟨(again, transaction), List.mem_append_left _ (List.mem_map_of_mem new), same⟩
        · exact .inl known
      · exact .inr ⟨report, List.mem_append_right _ beyond, same⟩

theorem exists_collects (reported : List (List Nat)) (occurrences : List Occurrence) :
    ∃ reports, Collects reported occurrences reports ∧
      List.Forall₂ ReportsBroadcast reports (transactionBroadcasts reported occurrences) := by
  fun_induction transactionBroadcasts reported occurrences with
  | case1 => exact ⟨[], .nil, .nil⟩
  | case2 reported transaction rest none ih =>
    obtain ⟨reports, later, findings⟩ := ih
    exact ⟨reports, later.skip none, findings⟩
  | case3 reported transaction rest inside some found ih =>
    obtain ⟨reports, later, findings⟩ := ih
    have here := newBroadcasts_spec reported transaction inside
    have places : found.map (·.1) = (freshBroadcasts reported inside).map (·.place) := by
      have same := List.forall₂_map_left_iff.mpr
        (List.forall₂_map_right_iff.mpr (here.imp fun _ _ given => given.1.symm))
      exact (List.forall₂_eq_eq_eq ▸ same).symm
    rw [places] at later
    refine ⟨_, later.step some, List.rel_append ?_ findings⟩
    rw [List.forall₂_map_left_iff, List.forall₂_map_right_iff]
    exact here.imp fun _ _ given => given.2

/-- The transaction runs the occurrence, and every other transaction that does lies within it. -/
def IsOutermost (body : List Node) (transaction occurrence : Occurrence) : Prop :=
  Stands body transaction ∧ LiesWithin transaction occurrence ∧
    ∀ other, Stands body other → LiesWithin other occurrence → other = transaction ∨ transaction.Above other

variable {body : List Node}

/-- The first transaction of a file that runs a broadcast is the outermost one. -/
theorem Collects.outermost (collects : Collects [] (Occurrence.ofBody body) reports) {report : Occurrence × Occurrence}
    (listed : report ∈ reports) : IsOutermost body report.2 report.1 := by
  obtain ⟨broadcast, before, after, split, within, earliest⟩ := collects.first report listed
  have stands : Stands body report.2 := Occurrence.mem_ofBody.mp (by simp [split])
  refine ⟨stands, within, fun other stands' within' => ?_⟩
  have order := Occurrence.pairwise_ofBody body
  have among := Occurrence.mem_ofBody.mpr stands'
  rw [split] at order among
  rcases List.mem_append.mp among with passed | later
  · exact absurd rfl (earliest other passed report.1 within' broadcast)
  · rcases List.mem_cons.mp later with same | later
    · exact .inl same
    · right
      have precedes := (List.pairwise_cons.mp (List.pairwise_append.mp order).2.1).1 other later
      exact precedes.above within.covers.suffix within'.covers.suffix

/-- The rule reports every broadcast that a transaction runs, each occurrence once, at its own line and with the line
of the outermost transaction that runs it, and nothing else. -/
theorem check_reports_broadcasts [Host] (severity : Severity) (exitStatus : Nat) (options : Options) (unit : SourceUnit)
    (probe : Probe) :
    ∃ reports findings,
      (ActiveRule.mk noBroadcastInTransaction severity exitStatus options).check unit probe =
        .ok (findings.map (ActiveRule.issue ⟨noBroadcastInTransaction, severity, exitStatus, options⟩ unit.path)) ∧
      List.Forall₂ ReportsBroadcast reports findings ∧
      (reports.map (·.1.place)).Nodup ∧
      (∀ occurrence, (∃ transaction, (occurrence, transaction) ∈ reports) ↔
        Stands unit.tree.body occurrence ∧ IsBroadcast occurrence.node ∧
          ∃ transaction, Stands unit.tree.body transaction ∧ LiesWithin transaction occurrence) ∧
      ∀ occurrence transaction, (occurrence, transaction) ∈ reports →
        IsOutermost unit.tree.body transaction occurrence := by
  obtain ⟨reports, collects, findings⟩ := exists_collects [] (Occurrence.ofBody unit.tree.body)
  refine ⟨reports, _, rfl, findings, collects.once, ?_, fun _ _ => collects.outermost⟩
  intro occurrence
  constructor
  · rintro ⟨transaction, listed⟩
    obtain ⟨stands, within, -⟩ := collects.outermost listed
    exact ⟨stands.covered within.covers, (collects.first _ listed).1, transaction, stands, within⟩
  · rintro ⟨stands, broadcast, transaction, among, within⟩
    rcases collects.every transaction (Occurrence.mem_ofBody.mpr among) occurrence within broadcast with
      known | ⟨report, listed, same⟩
    · cases known
    · obtain ⟨above, inside, -⟩ := collects.outermost listed
      cases (above.covered inside.covers).eq_of_place stands same
      exact ⟨report.2, listed⟩

end Transaction

end Rule

end BoundaryLint
