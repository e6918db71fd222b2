import BoundaryLint.Proofs.Grammar.Balance
import BoundaryLint.Proofs.Grammar.Closeness
import Mathlib

/-!
Reading two texts that differ in one list of dependencies. Two readers that go over them take the same way: up to
the list they give equal nodes, at the list they give a pair each, and behind it the tokens are the same again. So
what they read is close: of all the nodes and of the tokens that follow, at most one is off.
-/

namespace BoundaryLint

theorem Token.kind_ne_key {token : Token} {kind : Token.Kind} {text : String} (found : token.is kind text = true)
    (plain : kind ≠ .key) : token.kind ≠ .key := by
  simp only [Token.is, Bool.and_eq_true, beq_iff_eq] at found
  rwa [found.1]

namespace Grammar

open Node (Differs Close RowClose OptionClose)
open Token (Bracket)

def IsList (tokens back : List Token) (entries : List Node) (line : Nat) : Prop :=
  startsWith .punctuation "[" tokens = true ∧
    ∃ depth outerDo, expression depth 0 outerDo (tokens ++ back) = .ok (.list entries line, back)

/-- A key `deps` whose list is written in two ways. -/
structure Gap where
  key : Token
  isKey : key.is .key "deps" = true
  back : List Token
  line : Nat
  written : List Token
  entries : List Node
  isList : IsList written back entries line
  written' : List Token
  entries' : List Node
  isList' : IsList written' back entries' line

namespace Gap

def tokens (gap : Gap) : List Token := gap.key :: (gap.written ++ gap.back)

def tokens' (gap : Gap) : List Token := gap.key :: (gap.written' ++ gap.back)

def Swaps (gap : Option Gap) (entries entries' : List Node) : Prop :=
  ∃ found ∈ gap, entries = found.entries ∧ entries' = found.entries'

def Apart (gap : Option Gap) (tokens tokens' : List Token) : Prop :=
  ∃ found ∈ gap, ∃ front, tokens = front ++ found.tokens ∧ tokens' = front ++ found.tokens'

/-- The tokens ahead: equal, or with one off as far as the gap lets them be. -/
def Ahead (gap : Option Gap) (off : Nat) (tokens tokens' : List Token) : Prop :=
  off ≤ 1 ∧ Near (Apart gap) off tokens tokens'

variable {gap : Option Gap} {off : Nat} {tokens tokens' : List Token}

namespace Ahead

theorem refl (single : off ≤ 1) (tokens : List Token) : Ahead gap off tokens tokens := ⟨single, .refl _ _⟩

theorem single (ahead : Ahead gap off tokens tokens') : off ≤ 1 := ahead.1

/-- The next token is the same; behind it the tokens are ahead again, unless it is the key of the gap. -/
theorem cases (ahead : Ahead gap off tokens tokens') :
    tokens = [] ∧ tokens' = [] ∨ ∃ token rest rest', tokens = token :: rest ∧ tokens' = token :: rest' ∧
      (Ahead gap off rest rest' ∨ token.kind = .key ∧
        ∃ found ∈ gap, 0 < off ∧ token = found.key ∧ rest = found.written ++ found.back ∧
          rest' = found.written' ++ found.back) := by
  obtain ⟨single, rfl | ⟨some, found, mem, front, rfl, rfl⟩⟩ := ahead
  · cases tokens with
    | nil => exact .inl ⟨rfl, rfl⟩
    | cons token rest => exact .inr ⟨token, rest, rest, rfl, rfl, .inl (.refl single rest)⟩
  · right
    cases front with
    | nil =>
      have kind : found.key.kind = .key := by
        have key := found.isKey
        simp only [Token.is, Bool.and_eq_true, beq_iff_eq] at key
        exact key.1
      exact ⟨found.key, _, _, rfl, rfl, .inr ⟨kind, found, mem, some, rfl, rfl, rfl⟩⟩
    | cons token front =>
      exact ⟨token, _, _, rfl, rfl, .inl ⟨single, .inr ⟨some, found, mem, front, rfl, rfl⟩⟩⟩

theorem nil_inv (ahead : Ahead gap off [] tokens') : tokens' = [] := by
  rcases ahead.cases with ⟨-, none⟩ | ⟨token, rest, rest', impossible, -⟩
  · exact none
  · cases impossible

theorem cons_inv {token : Token} {rest : List Token} (ahead : Ahead gap off (token :: rest) tokens') :
    ∃ rest', tokens' = token :: rest' := by
  rcases ahead.cases with ⟨impossible, -⟩ | ⟨first, more, more', same, same', -⟩
  · cases impossible
  · cases same
    exact ⟨more', same'⟩

theorem tail {token : Token} {rest rest' : List Token} (ahead : Ahead gap off (token :: rest) (token :: rest'))
    (other : token.kind ≠ .key) : Ahead gap off rest rest' := by
  rcases ahead.cases with ⟨impossible, -⟩ | ⟨first, more, more', same, same', ahead | ⟨key, -⟩⟩
  · cases impossible
  · cases same
    cases same'
    exact ahead
  · cases same
    exact absurd key other

theorem head_eq (ahead : Ahead gap off tokens tokens') : tokens.head? = tokens'.head? := by
  rcases ahead.cases with ⟨rfl, rfl⟩ | ⟨token, rest, rest', rfl, rfl, -⟩
  · rfl
  · rfl

theorem startsWith_eq (ahead : Ahead gap off tokens tokens') (kind : Token.Kind) (text : String) :
    startsWith kind text tokens = startsWith kind text tokens' := by
  rcases ahead.cases with ⟨rfl, rfl⟩ | ⟨token, rest, rest', rfl, rfl, -⟩
  · rfl
  · rfl

theorem startsWithKind_eq (ahead : Ahead gap off tokens tokens') (kind : Token.Kind) :
    startsWithKind kind tokens = startsWithKind kind tokens' := by
  rcases ahead.cases with ⟨rfl, rfl⟩ | ⟨token, rest, rest', rfl, rfl, -⟩
  · rfl
  · rfl

theorem afterComma? (ahead : Ahead gap off tokens tokens') :
    Grammar.afterComma? tokens = none ∧ Grammar.afterComma? tokens' = none ∨
      ∃ after after', Grammar.afterComma? tokens = some after ∧ Grammar.afterComma? tokens' = some after' ∧
        tokens.length = after.length + 1 ∧ tokens'.length = after'.length + 1 ∧ Ahead gap off after after' := by
  rcases ahead.cases with ⟨rfl, rfl⟩ | ⟨token, rest, rest', rfl, rfl, -⟩
  · exact .inl ⟨rfl, rfl⟩
  · by_cases comma : token.is .punctuation "," = true
    · refine .inr ⟨rest, rest', ?_, ?_, rfl, rfl, ahead.tail (Token.kind_ne_key comma (by decide))⟩
      · simp only [Grammar.afterComma?, comma, if_true]
      · simp only [Grammar.afterComma?, comma, if_true]
    · exact .inl ⟨if_neg comma, if_neg comma⟩

end Ahead

end Gap

open Gap (Ahead)

theorem Passes.rest_le {α : Type} {left : α → List Token} {tokens : List Token} {step : Reading α} {result : α}
    (passes : Passes [] [] left tokens step) (made : step = .ok result) : (left result).length ≤ tokens.length := by
  have fewer := passes.length_le
  rwa [made] at fewer

theorem Consumes.rest_lt {α : Type} {left : α → List Token} {tokens : List Token} {step : Reading α} {result : α}
    (consumes : Consumes [] [] left tokens step) (made : step = .ok result) : (left result).length < tokens.length := by
  have fewer := consumes.length_lt
  rwa [made] at fewer

variable {α β : Type} {differ : α → α → Prop} {other : β → β → Prop}

/-- Two steps that succeed give near results before tokens that are ahead, and of both at most one is off. -/
def Tracks (gap : Option Gap) (differ : α → α → Prop) (off : Nat) (step step' : Reading (α × List Token)) : Prop :=
  ∀ value rest value' rest', step = .ok (value, rest) → step' = .ok (value', rest') →
    ∃ here later, here + later ≤ off ∧ Near differ here value value' ∧ Ahead gap later rest rest'

section Steps

variable {gap : Option Gap} {off early here later : Nat} {tokens tokens' rest rest' : List Token}

namespace Tracks

theorem ok {value value' : α} (near : Near differ here value value') (ahead : Ahead gap later rest rest')
    (most : here + later ≤ off) : Tracks gap differ off (.ok (value, rest)) (.ok (value', rest')) := by
  intro _ _ _ _ same same'
  cases same
  cases same'
  exact ⟨here, later, most, near, ahead⟩

theorem mono {more : Nat} {step step' : Reading (α × List Token)} (tracks : Tracks gap differ off step step')
    (le : off ≤ more) : Tracks gap differ more step step' := by
  intro value rest value' rest' made made'
  obtain ⟨here, later, most, near, ahead⟩ := tracks value rest value' rest' made made'
  exact ⟨here, later, by omega, near, ahead⟩

theorem error_left {fault : Fault} {step' : Reading (α × List Token)} :
    Tracks gap differ off (.error fault) step' := by
  intro _ _ _ _ impossible _
  cases impossible

theorem error_right {fault : Fault} {step : Reading (α × List Token)} :
    Tracks gap differ off step (.error fault) := by
  intro _ _ _ _ _ impossible
  cases impossible

theorem bind_made {step step' : Reading (α × List Token)} {next next' : α × List Token → Reading (β × List Token)}
    (first : Tracks gap differ early step step')
    (following : ∀ value rest value' rest' here later, step = .ok (value, rest) → step' = .ok (value', rest') →
      here + later ≤ early → Near differ here value value' → Ahead gap later rest rest' →
        Tracks gap other off (next (value, rest)) (next' (value', rest'))) :
    Tracks gap other off (step >>= next) (step' >>= next') := by
  intro value rest value' rest' made made'
  obtain ⟨⟨middle, ahead⟩, given, continued⟩ := bind_eq_ok.mp made
  obtain ⟨⟨middle', ahead'⟩, given', continued'⟩ := bind_eq_ok.mp made'
  obtain ⟨here, later, most, near, ahead⟩ := first _ _ _ _ given given'
  exact following _ _ _ _ here later given given' most near ahead _ _ _ _ continued continued'

theorem bind {step step' : Reading (α × List Token)} {next next' : α × List Token → Reading (β × List Token)}
    (first : Tracks gap differ early step step')
    (following : ∀ value rest value' rest' here later, here + later ≤ early → Near differ here value value' →
      Ahead gap later rest rest' → Tracks gap other off (next (value, rest)) (next' (value', rest'))) :
    Tracks gap other off (step >>= next) (step' >>= next') :=
  first.bind_made fun value rest value' rest' here later _ _ => following value rest value' rest' here later

theorem after_check {check check' : Reading Unit} {next next' : Unit → Reading (β × List Token)}
    (following : Tracks gap other off (next ()) (next' ())) : Tracks gap other off (check >>= next)
    (check' >>= next') := by
  intro value rest value' rest' made made'
  obtain ⟨checked, -, continued⟩ := bind_eq_ok.mp made
  obtain ⟨checked', -, continued'⟩ := bind_eq_ok.mp made'
  exact following _ _ _ _ continued continued'

theorem after_expect {kind : Token.Kind} {text : String} {next next' : List Token → Reading (β × List Token)}
    (ahead : Ahead gap later tokens tokens') (plain : kind ≠ .key)
    (following : ∀ rest rest', tokens.length = rest.length + 1 → tokens'.length = rest'.length + 1 →
      Ahead gap later rest rest' → Tracks gap other off (next rest) (next' rest')) :
    Tracks gap other off (expect kind text tokens >>= next) (expect kind text tokens' >>= next') := by
  rcases ahead.cases with ⟨rfl, rfl⟩ | ⟨token, rest, rest', rfl, rfl, -⟩
  · exact error_left
  · by_cases found : token.is kind text = true
    · simp only [expect, found, if_true]
      exact following rest rest' rfl rfl (ahead.tail (Token.kind_ne_key found plain))
    · simp only [expect, found, Bool.false_eq_true, if_false]
      exact error_left

theorem after_next {next next' : Token × List Token → Reading (β × List Token)} (ahead : Ahead gap later tokens tokens')
    (following : ∀ token rest rest', Ahead gap later (token :: rest) (token :: rest') →
      tokens = token :: rest → tokens' = token :: rest' → Tracks gap other off (next (token, rest)) (next' (token, rest'))) :
    Tracks gap other off (Grammar.next tokens >>= next) (Grammar.next tokens' >>= next') := by
  rcases ahead.cases with ⟨rfl, rfl⟩ | ⟨token, rest, rest', rfl, rfl, -⟩
  · exact error_left
  · exact following token rest rest' ahead rfl rfl

theorem of_next {token : Token} {next next' : Token × List Token → Reading (β × List Token)}
    (following : Tracks gap other off (next (token, rest)) (next' (token, rest'))) :
    Tracks gap other off (Grammar.next (token :: rest) >>= next) (Grammar.next (token :: rest') >>= next') := following

theorem ite {same same' : Prop} [Decidable same] [Decidable same'] {yes no yes' no' : Reading (α × List Token)}
    (iff : same ↔ same') (holds : same → Tracks gap differ off yes yes')
    (fails : ¬same → Tracks gap differ off no no') :
    Tracks gap differ off (if same then yes else no) (if same' then yes' else no') := by
  by_cases found : same
  · rw [if_pos found, if_pos (iff.mp found)]
    exact holds found
  · rw [if_neg found, if_neg (mt iff.mpr found)]
    exact fails found

end Tracks

theorem tracks_commaItems {item item' : List Token → Reading (α × List Token)} {stop : List Token → Bool}
    (tracks : ∀ off tokens tokens', Ahead gap off tokens tokens' → Tracks gap differ off (item tokens) (item' tokens'))
    (blind : ∀ off tokens tokens', Ahead gap off tokens tokens' → stop tokens = stop tokens')
    (within : ∀ tokens result, item tokens = .ok result → result.2.length ≤ tokens.length)
    (within' : ∀ tokens result, item' tokens = .ok result → result.2.length ≤ tokens.length)
    (ahead : Ahead gap off tokens tokens') :
    Tracks gap (OneOff differ) off (commaItems item stop tokens) (commaItems item' stop tokens') := by
  have single := ahead.single
  fun_induction commaItems item stop tokens generalizing tokens' off with
  | case1 tokens stops =>
    rw [commaItems, ← blind off tokens tokens' ahead, if_pos stops]
    exact .ok (.refl 0 _) ahead (by omega)
  | case2 tokens goes ih =>
    rw [commaItems, ← blind off tokens tokens' ahead, if_neg goes]
    refine .bind_made (tracks off tokens tokens' ahead) ?_
    intro first rest first' rest' here later made made' most near ahead
    have fewer := within tokens _ made
    have fewer' := within' tokens' _ made'
    dsimp only at fewer fewer'
    rcases ahead.afterComma? with ⟨none, none'⟩ | ⟨after, after', some, some', long, long', ahead⟩
    · simp only [none, none']
      exact .ok (near.cons (.refl 0 []) (by omega)) ahead (by omega)
    · simp only [some, some']
      rw [if_pos (by omega), if_pos (by omega)]
      refine .bind (ih after (by omega) ahead (by omega)) ?_
      intro more rest more' rest' there last least close ahead
      exact .ok (near.cons close (by omega)) ahead (by omega)

end Steps

/-- Two readers of expressions that take the same way over tokens with a gap. -/
structure Alike (gap : Option Gap) (expr expr' : ExpressionReader) : Prop where
  tracks : ∀ {off floor outerDo tokens tokens'}, Ahead gap off tokens tokens' →
    Tracks gap (Differs (Gap.Swaps gap)) off (expr floor outerDo tokens) (expr' floor outerDo tokens')
  /-- At the gap each reader reads its list. -/
  reads : ∀ found ∈ gap, ∀ outerDo result, expr 0 outerDo (found.written ++ found.back) = .ok result →
    result = (.list found.entries found.line, found.back)
  reads' : ∀ found ∈ gap, ∀ outerDo result, expr' 0 outerDo (found.written' ++ found.back) = .ok result →
    result = (.list found.entries' found.line, found.back)
  consumes : ∀ stack floor outerDo tokens, Consumes stack stack Prod.snd tokens (expr floor outerDo tokens)
  consumes' : ∀ stack floor outerDo tokens, Consumes stack stack Prod.snd tokens (expr' floor outerDo tokens)

section Bodies

variable {gap : Option Gap} {expr expr' : ExpressionReader} {off : Nat} {tokens tokens' : List Token}

theorem tracks_moreParams (alike : Alike gap expr expr') (ahead : Ahead gap off tokens tokens') :
    Tracks gap (OneOff (Differs (Gap.Swaps gap))) off (moreParams expr tokens) (moreParams expr' tokens') := by
  unfold moreParams
  rcases ahead.afterComma? with ⟨none, none'⟩ | ⟨after, after', some, some', -, -, ahead⟩
  · rw [none, none']
    exact .ok (.refl 0 _) ahead (by omega)
  · rw [some, some']
    exact tracks_commaItems (fun _ _ _ => alike.tracks) (fun _ _ _ _ => rfl)
      (fun tokens _ => (alike.consumes [] 0 false tokens).passes.rest_le)
      (fun tokens _ => (alike.consumes' [] 0 false tokens).passes.rest_le) ahead

theorem near_statement {node node' : Node} {swap : List Node → List Node → Prop} (close : Close swap off node node') :
    Near (ItemDiffers swap) off (.statement node) (.statement node') :=
  close.map fun differs => .of_differ (.statement differs)

theorem near_head {params params' : List Node} {swap : List Node → List Node → Prop} (line : Nat)
    (close : RowClose swap off params params') : Near (ItemDiffers swap) off (.head params line) (.head params' line) :=
  close.map (f := fun params => BodyItem.head params line) fun one => .of_differ (.head line one)

theorem tracks_bodyItems (alike : Alike gap expr expr') (ends : List String) (state : BodyState)
    (ahead : Ahead gap off tokens tokens') :
    Tracks gap (OneOff (ItemDiffers (Gap.Swaps gap))) off (bodyItems expr ends state tokens)
      (bodyItems expr' ends state tokens') := by
  fun_induction bodyItems expr ends state tokens generalizing tokens' off with
  | case1 =>
    rw [ahead.nil_inv, bodyItems]
    exact .ok (.refl 0 _) (.refl ahead.single _) (by omega)
  | case2 state token rest stops =>
    obtain ⟨rest', rfl⟩ := ahead.cons_inv
    rw [bodyItems, if_pos stops]
    exact .ok (.refl 0 _) ahead (by omega)
  | case3 state token rest goes semicolon ih =>
    obtain ⟨rest', rfl⟩ := ahead.cons_inv
    rw [bodyItems, if_neg goes, if_pos semicolon]
    exact ih (ahead.tail (Token.kind_ne_key semicolon (by decide)))
  | case4 state token rest goes other arrow ih =>
    obtain ⟨rest', rfl⟩ := ahead.cons_inv
    rw [bodyItems, if_neg goes, if_neg other, if_pos arrow]
    refine .after_check (.bind (ih (ahead.tail (Token.kind_ne_key arrow (by decide)))) ?_)
    intro items rest items' rest' here later most close following
    have single := ahead.single
    exact .ok ((Near.refl 0 _).cons close (by omega)) following (by omega)
  | case5 state token rest goes other plain clauses statements =>
    obtain ⟨rest', rfl⟩ := ahead.cons_inv
    have single := ahead.single
    rw [bodyItems, if_neg goes, if_neg other, if_neg plain]
    refine .bind_made (alike.tracks ahead) ?_
    intro node after node' after' here later made made' most close ahead
    have fewer := (alike.consumes [] 0 false (token :: rest)).rest_lt made
    have fewer' := (alike.consumes' [] 0 false (token :: rest')).rest_lt made'
    simp only [List.length_cons] at fewer fewer'
    refine .ite (by rw [ahead.startsWith_eq, ahead.startsWith_eq]) (fun _ => ?_) (fun _ => ?_)
    · refine .bind_made (tracks_moreParams alike ahead) ?_
      intro params tail params' tail' there last made made' least row ahead
      have long := (passes_moreParams alike.consumes after).rest_le made
      have long' := (passes_moreParams alike.consumes' after').rest_le made'
      dsimp only at long long'
      refine .after_expect ahead (by decide) ?_
      intro final final' shorter shorter' ahead
      refine .after_check ?_
      rw [if_pos (by omega), if_pos (by omega)]
      refine .bind (clauses final (by omega) ahead) ?_
      intro items rest items' rest' much final most' rows following
      exact .ok ((near_head _ (close.cons row (by omega))).cons rows (by omega)) following (by omega)
    · refine .after_check ?_
      rw [if_pos (by omega), if_pos (by omega)]
      refine .bind (statements after (by omega) ahead) ?_
      intro items rest items' rest' there last least rows following
      exact .ok ((near_statement close).cons rows (by omega)) following (by omega)

theorem tracks_body (alike : Alike gap expr expr') (ends : List String) (ahead : Ahead gap off tokens tokens') :
    Tracks gap (OneOff (Differs (Gap.Swaps gap))) off (body expr ends tokens) (body expr' ends tokens') := by
  refine .bind (tracks_bodyItems alike ends .empty ahead) ?_
  intro items rest items' rest' here later most close following
  exact .ok (assemble_close close) following most

theorem tracks_sections (alike : Alike gap expr expr') (ahead : Ahead gap off tokens tokens') :
    Tracks gap (OneOff (Differs (Gap.Swaps gap))) off (sections expr tokens) (sections expr' tokens') := by
  fun_induction sections expr tokens generalizing tokens' off with
  | case1 =>
    rw [ahead.nil_inv, sections]
    exact .ok (.refl 0 _) (.refl ahead.single _) (by omega)
  | case2 token rest opens ih =>
    obtain ⟨rest', rfl⟩ := ahead.cons_inv
    have single := ahead.single
    have plain : token.kind ≠ .key := by
      simp only [Bool.and_eq_true, beq_iff_eq] at opens
      simp [opens.1]
    rw [sections, if_pos opens]
    refine .bind_made (tracks_body alike _ (ahead.tail plain)) ?_
    intro nodes after nodes' after' here later made made' most close ahead
    have long := (passes_body alike.consumes sectionEnds rest).rest_le made
    have long' := (passes_body alike.consumes' sectionEnds rest').rest_le made'
    dsimp only at long long' ⊢
    rw [if_pos (by omega), if_pos (by omega)]
    refine .bind (ih after (by omega) ahead) ?_
    intro more rest more' rest' there last least rows following
    exact .ok (close.append rows (by omega)) following (by omega)
  | case3 token rest other =>
    obtain ⟨rest', rfl⟩ := ahead.cons_inv
    rw [sections, if_neg other]
    exact .ok (.refl 0 _) ahead (by omega)

inductive BlockDiffers (swap : List Node → List Node → Prop) : List Node × List Node → List Node × List Node → Prop
  | body {nodes nodes' : List Node} (more : List Node) (one : OneOff (Differs swap) nodes nodes') :
    BlockDiffers swap (nodes, more) (nodes', more)
  | sections (nodes : List Node) {more more' : List Node} (one : OneOff (Differs swap) more more') :
    BlockDiffers swap (nodes, more) (nodes, more')

theorem near_block {swap : List Node → List Node → Prop} {here there : Nat} {nodes nodes' more more' : List Node}
    (inner : RowClose swap here nodes nodes') (outer : RowClose swap there more more') (single : here + there ≤ 1) :
    Near (BlockDiffers swap) (here + there) (nodes, more) (nodes', more') := by
  rcases inner with rfl | ⟨some, one⟩
  · exact (outer.map (f := fun more => (nodes, more)) fun one => .of_differ (.sections nodes one)).mono (by omega)
  · cases (outer.mono (show there ≤ 0 by omega)).eq_of_zero
    exact .inr ⟨by omega, .body more one⟩

theorem near_block_inv {swap : List Node → List Node → Prop} {nodes nodes' more more' : List Node}
    (near : Near (BlockDiffers swap) off (nodes, more) (nodes', more')) :
    ∃ here there, here + there ≤ off ∧ RowClose swap here nodes nodes' ∧ RowClose swap there more more' := by
  rcases near with same | ⟨some, differs⟩
  · cases same
    exact ⟨0, 0, Nat.zero_le _, .refl _ _, .refl _ _⟩
  · cases differs with
    | body _ one => exact ⟨1, 0, some, .of_differ one, .refl _ _⟩
    | sections _ one => exact ⟨0, 1, by omega, .refl _ _, .of_differ one⟩

theorem tracks_doBlock (alike : Alike gap expr expr') (ahead : Ahead gap off tokens tokens') :
    Tracks gap (BlockDiffers (Gap.Swaps gap)) off (doBlock expr tokens) (doBlock expr' tokens') := by
  have single := ahead.single
  refine .after_expect ahead (by decide) ?_
  intro tokens tokens' _ _ ahead
  refine .bind (tracks_body alike _ ahead) ?_
  intro nodes rest nodes' rest' here later most close ahead
  refine .bind (tracks_sections alike ahead) ?_
  intro more rest more' rest' there last least rows ahead
  refine .after_expect ahead (by decide) ?_
  intro rest rest' _ _ ahead
  exact .ok (near_block close rows (by omega)) ahead (by omega)

theorem tracks_optionalDoBlock (alike : Alike gap expr expr') (outerDo : Bool) (ahead : Ahead gap off tokens tokens') :
    Tracks gap (BlockDiffers (Gap.Swaps gap)) off (optionalDoBlock expr outerDo tokens)
      (optionalDoBlock expr' outerDo tokens') := by
  refine .ite (by rw [ahead.startsWith_eq]) (fun _ => ?_) (fun _ => ?_)
  · exact tracks_doBlock alike ahead
  · exact .ok (.refl 0 _) ahead (by omega)

end Bodies

section Forms

variable {gap : Option Gap} {expr expr' : ExpressionReader} {off : Nat} {tokens tokens' : List Token}

/-- At the gap the readers give the two pairs; everywhere else the key is the same and the values are close. -/
theorem tracks_pair (alike : Alike gap expr expr') (outerDo : Bool) (ahead : Ahead gap off tokens tokens') :
    Tracks gap (Differs (Gap.Swaps gap)) off (pair expr outerDo tokens) (pair expr' outerDo tokens') := by
  have single := ahead.single
  rcases ahead.cases with ⟨rfl, rfl⟩ | ⟨token, rest, rest', rfl, rfl, ahead | ⟨-, found, mem, some, rfl, rfl, rfl⟩⟩
  · exact .error_left
  · refine .of_next (.bind (alike.tracks ahead) ?_)
    intro value rest value' rest' here later most close ahead
    exact .ok (Node.close_pair _ (.refl 0 _) close (by omega)) ahead (by omega)
  · refine .of_next ?_
    intro value rest value' rest' made made'
    obtain ⟨⟨listed, back⟩, given, same⟩ := bind_eq_ok.mp made
    obtain ⟨⟨listed', back'⟩, given', same'⟩ := bind_eq_ok.mp made'
    cases alike.reads found mem _ _ given
    cases alike.reads' found mem _ _ given'
    cases same
    cases same'
    have key : found.key.text = "deps" := by
      have named := found.isKey
      simp only [Token.is, Bool.and_eq_true, beq_iff_eq] at named
      exact named.2
    refine ⟨1, 0, some, .of_differ ⟨false, ?_⟩, .refl (by omega) _⟩
    rw [key]
    exact .here _ _ ⟨found, mem, rfl, rfl⟩

theorem tracks_argument (alike : Alike gap expr expr') (outerDo : Bool) (ahead : Ahead gap off tokens tokens') :
    Tracks gap (ArgumentDiffers (Gap.Swaps gap)) off (argument expr outerDo tokens) (argument expr' outerDo tokens') := by
  refine .ite (by rw [ahead.startsWithKind_eq]) (fun _ => ?_) (fun _ => ?_)
  · refine .bind (tracks_pair alike outerDo ahead) ?_
    intro node rest node' rest' here later most close ahead
    exact .ok (close.map fun differs => .of_differ (.keyword differs)) ahead most
  · refine .bind (alike.tracks ahead) ?_
    intro node rest node' rest' here later most close ahead
    exact .ok (close.map fun differs => .of_differ (.plain differs)) ahead most

theorem tracks_arguments (alike : Alike gap expr expr') (outerDo : Bool) {stop : List Token → Bool}
    (blind : ∀ off tokens tokens', Ahead gap off tokens tokens' → stop tokens = stop tokens')
    (ahead : Ahead gap off tokens tokens') :
    Tracks gap (OneOff (ArgumentDiffers (Gap.Swaps gap))) off (commaItems (argument expr outerDo) stop tokens)
      (commaItems (argument expr' outerDo) stop tokens') :=
  tracks_commaItems (fun _ _ _ => tracks_argument alike outerDo) blind
    (fun tokens _ => (passes_argument alike.consumes outerDo tokens).rest_le)
    (fun tokens _ => (passes_argument alike.consumes' outerDo tokens).rest_le) ahead

theorem tracks_bracketed (alike : Alike gap expr expr') (closer : String) (ahead : Ahead gap off tokens tokens') :
    Tracks gap (OneOff (ArgumentDiffers (Gap.Swaps gap))) off (bracketed expr closer tokens)
      (bracketed expr' closer tokens') := by
  refine .bind (tracks_arguments alike false (fun _ _ _ ahead => ahead.startsWith_eq _ _) ahead) ?_
  intro items rest items' rest' here later most close ahead
  refine .after_expect ahead (by decide) ?_
  intro rest rest' _ _ ahead
  exact .ok close ahead most

theorem tracks_parenArgs (alike : Alike gap expr expr') (ahead : Ahead gap off tokens tokens') :
    Tracks gap (OneOff (Differs (Gap.Swaps gap))) off (parenArgs expr tokens) (parenArgs expr' tokens') := by
  refine .after_expect ahead (by decide) ?_
  intro rest rest' _ _ ahead
  refine .bind (tracks_bracketed alike ")" ahead) ?_
  intro items rest items' rest' here later most close ahead
  exact .ok (gatherKeywords_close close) ahead most

theorem tracks_bareArgs (alike : Alike gap expr expr') (ahead : Ahead gap off tokens tokens') :
    Tracks gap (OneOff (Differs (Gap.Swaps gap))) off (bareArgs expr tokens) (bareArgs expr' tokens') := by
  refine .bind (tracks_arguments alike true (fun _ _ _ _ => rfl) ahead) ?_
  intro items rest items' rest' here later most close ahead
  exact .ok (gatherKeywords_close close) ahead most

/-- Whether arguments follow shows at the next tokens before the gap. -/
theorem startsBareArgs_eq (ahead : Ahead gap off tokens tokens') : startsBareArgs tokens = startsBareArgs tokens' := by
  rcases ahead.cases with ⟨rfl, rfl⟩ | ⟨token, rest, rest', rfl, rfl, ahead | ⟨key, -⟩⟩
  · rfl
  · have word := ahead.startsWith_eq .operator "in"
    rcases ahead.cases with ⟨rfl, rfl⟩ | ⟨following, more, more', rfl, rfl, -⟩
    · rfl
    · simp only [startsBareArgs, word]
  · simp [startsBareArgs, key, argumentKinds]

theorem tracks_callArgs (alike : Alike gap expr expr') (ahead : Ahead gap off tokens tokens') :
    Tracks gap (OptionOff (OneOff (Differs (Gap.Swaps gap)))) off (callArgs expr tokens) (callArgs expr' tokens') := by
  refine .ite ?_ (fun _ => ?_) (fun _ => ?_)
  · rcases ahead.cases with ⟨rfl, rfl⟩ | ⟨token, rest, rest', rfl, rfl, -⟩
    · exact Iff.rfl
    · exact Iff.rfl
  · refine .bind (tracks_parenArgs alike ahead) ?_
    intro args rest args' rest' here later most close ahead
    exact .ok (close.map fun one => .of_differ (.some one)) ahead most
  refine .ite (by rw [startsBareArgs_eq ahead]) (fun _ => ?_) (fun _ => ?_)
  · refine .bind (tracks_bareArgs alike ahead) ?_
    intro args rest args' rest' here later most close ahead
    exact .ok (close.map fun one => .of_differ (.some one)) ahead most
  · exact .ok (.refl 0 _) ahead (by omega)

theorem getD_close {swap : List Node → List Node → Prop} {args args' : Option (List Node)}
    (near : Near (OptionOff (OneOff (Differs swap))) off args args') : RowClose swap off (args.getD [])
    (args'.getD []) := by
  refine near.map (f := fun args => Option.getD args []) fun optional => ?_
  cases optional with
  | some one => exact .of_differ one

theorem tracks_identifier (alike : Alike gap expr expr') (outerDo : Bool) (token : Token)
    (ahead : Ahead gap off tokens tokens') :
    Tracks gap (Differs (Gap.Swaps gap)) off (identifier expr outerDo token tokens)
      (identifier expr' outerDo token tokens') := by
  have single := ahead.single
  refine .bind (tracks_callArgs alike ahead) ?_
  intro args rest args' rest' here later most near ahead
  have absent : args.isNone = args'.isNone := by
    rw [← Option.not_isSome, ← Option.not_isSome, near.isSome_eq]
  refine .ite (by rw [absent, ahead.startsWith_eq]) (fun _ => ?_) (fun _ => ?_)
  · exact .ok (.refl 0 _) ahead (by omega)
  · refine .bind (tracks_optionalDoBlock alike outerDo ahead) ?_
    rintro ⟨block, more⟩ rest ⟨block', more'⟩ rest' there last least blocks ahead
    obtain ⟨second, third, few, inner, outer⟩ := near_block_inv blocks
    have call : CallClose (Gap.Swaps gap) here second third ⟨none, token.text, args.getD [], block, more, token.line⟩
        ⟨none, token.text, args'.getD [], block', more', token.line⟩ :=
      ⟨rfl, rfl, rfl, getD_close near, inner, outer, by omega⟩
    exact .ok (lower_close call) ahead (by omega)

theorem tracks_morePairs (alike : Alike gap expr expr') (outerDo : Bool) (ahead : Ahead gap off tokens tokens') :
    Tracks gap (OneOff (Differs (Gap.Swaps gap))) off (morePairs expr outerDo tokens)
      (morePairs expr' outerDo tokens') := by
  have single := ahead.single
  fun_induction morePairs expr outerDo tokens generalizing tokens' off with
  | case1 tokens none =>
    rcases ahead.afterComma? with ⟨-, none'⟩ | ⟨after, after', some, -⟩
    · rw [morePairs, none']
      exact .ok (.refl 0 _) ahead (by omega)
    · rw [none] at some
      cases some
  | case2 tokens after found key ih =>
    rcases ahead.afterComma? with ⟨none, -⟩ | ⟨_, after', some, some', long, long', following⟩
    · rw [found] at none
      cases none
    rw [found] at some
    cases some
    have key' : startsWithKind .key after' = true := following.startsWithKind_eq .key ▸ key
    rw [morePairs, some']
    simp only [key', if_true]
    refine .bind_made (tracks_pair alike outerDo following) ?_
    intro node rest node' rest' here later made made' most close ahead
    have fewer := (consumes_pair alike.consumes outerDo key).rest_lt made
    have fewer' := (consumes_pair alike.consumes' outerDo key').rest_lt made'
    dsimp only at fewer fewer' ⊢
    rw [if_pos (by omega), if_pos (by omega)]
    refine .bind (ih rest (by omega) ahead (by omega)) ?_
    intro more rest more' rest' there last least rows ahead
    exact .ok (close.cons rows (by omega)) ahead (by omega)
  | case3 tokens after found plain =>
    rcases ahead.afterComma? with ⟨none, -⟩ | ⟨_, after', some, some', -, -, following⟩
    · rw [found] at none
      cases none
    rw [found] at some
    cases some
    rw [morePairs, some']
    simp only [← following.startsWithKind_eq, plain]
    exact .ok (.refl 0 _) ahead (by omega)

theorem tracks_keywordList (alike : Alike gap expr expr') (outerDo : Bool) (line : Nat)
    (ahead : Ahead gap off tokens tokens') :
    Tracks gap (Differs (Gap.Swaps gap)) off (keywordList expr outerDo tokens line)
      (keywordList expr' outerDo tokens' line) := by
  have single := ahead.single
  refine .bind (tracks_pair alike outerDo ahead) ?_
  intro first rest first' rest' here later most close ahead
  refine .bind (tracks_morePairs alike outerDo ahead) ?_
  intro more rest more' rest' there last least rows ahead
  have list := Node.close_of_row (f := fun items => .list items line) (fun _ => rfl) (fun _ => rfl)
    (close.cons rows (by omega))
  exact .ok list ahead (by omega)

theorem tracks_anonymous (alike : Alike gap expr expr') (line : Nat) (ahead : Ahead gap off tokens tokens') :
    Tracks gap (Differs (Gap.Swaps gap)) off (anonymous expr line tokens) (anonymous expr' line tokens') := by
  have single := ahead.single
  refine .bind (tracks_body alike _ ahead) ?_
  intro nodes rest nodes' rest' here later most close ahead
  refine .after_expect ahead (by decide) ?_
  intro rest rest' _ _ ahead
  have clauses := clauses_close close
  refine .ite (by rw [clauses.isEmpty_eq]) (fun _ => ?_) (fun _ => ?_)
  · have clause := Node.close_clause line (.refl 0 []) close (.refl 0 none) (by omega)
    have wrapped := Node.close_of_row (f := fun clauses => .anonymous clauses line) (fun _ => rfl) (fun _ => rfl)
      (clause.cons (.refl 0 []) (by omega))
    exact .ok wrapped ahead (by omega)
  · exact .ok (Node.close_of_row (f := fun clauses => .anonymous clauses line) (fun _ => rfl) (fun _ => rfl) clauses)
      ahead most

theorem tracks_group (alike : Alike gap expr expr') (token : Token) (ahead : Ahead gap off tokens tokens') :
    Tracks gap (Differs (Gap.Swaps gap)) off (group expr token tokens) (group expr' token tokens') := by
  refine .ite Iff.rfl (fun _ => ?_) (fun _ => ?_)
  · refine .bind (tracks_body alike _ ahead) ?_
    intro nodes rest nodes' rest' here later most close ahead
    refine .after_expect ahead (by decide) ?_
    intro rest rest' _ _ ahead
    exact .ok (unwrap_close close token.line) ahead most
  refine .ite Iff.rfl (fun _ => ?_) (fun _ => ?_)
  · refine .bind (tracks_bracketed alike _ ahead) ?_
    intro items rest items' rest' here later most close ahead
    exact .ok (Node.close_of_row (f := fun items => .list items token.line) (fun _ => rfl) (fun _ => rfl)
      (nodes_close close)) ahead most
  refine .ite Iff.rfl (fun _ => ?_) (fun _ => .error_left)
  refine .bind (tracks_bracketed alike _ ahead) ?_
  intro items rest items' rest' here later most close ahead
  exact .ok (Node.close_of_row (f := fun items => .tuple items token.line) (fun _ => rfl) (fun _ => rfl)
    (gatherKeywords_close close)) ahead most

theorem tracks_numeral {δ : Type} (read : Except Numeral.Fault δ) (literal : δ → Literal) (token : Token)
    (ahead : Ahead gap off tokens tokens') :
    Tracks gap (Differs (Gap.Swaps gap)) off (numeral read literal token tokens) (numeral read literal token tokens') := by
  cases read with
  | error fault => exact .error_left
  | ok value => exact .ok (.refl 0 _) ahead (by omega)

theorem tracks_primary (alike : Alike gap expr expr') (outerDo : Bool) (token : Token) {rest rest' : List Token}
    (ahead : Ahead gap off (token :: rest) (token :: rest')) :
    Tracks gap (Differs (Gap.Swaps gap)) off (primary expr outerDo token rest) (primary expr' outerDo token rest') := by
  unfold primary
  cases kind : token.kind with
  | key => exact tracks_keywordList alike outerDo token.line ahead
  | identifier => exact tracks_identifier alike outerDo token (ahead.tail (by simp [kind]))
  | «alias» =>
    cases ModuleRef.ofName? token.text with
    | none => exact .ok (.refl 0 _) (ahead.tail (by simp [kind])) (by omega)
    | some ref => exact .ok (.refl 0 _) (ahead.tail (by simp [kind])) (by omega)
  | integer => exact tracks_numeral _ _ token (ahead.tail (by simp [kind]))
  | float => exact tracks_numeral _ _ token (ahead.tail (by simp [kind]))
  | keyword =>
    refine .ite Iff.rfl (fun _ => ?_) (fun _ => .error_left)
    exact tracks_anonymous alike token.line (ahead.tail (by simp [kind]))
  | punctuation => exact tracks_group alike token (ahead.tail (by simp [kind]))
  | operator => exact .error_left
  | _ => exact .ok (.refl 0 _) (ahead.tail (by simp [kind])) (by omega)

section Postfixes

variable {aim later : Nat} {target target' : Node}

theorem near_some {swap : List Node → List Node → Prop} (close : Close swap aim target target') :
    OptionClose swap aim (some target) (some target') := close.map fun differs => .of_differ (.some differs)

theorem tracks_afterDot (alike : Alike gap expr expr') (outerDo : Bool)
    (close : Close (Gap.Swaps gap) aim target target')
    (ahead : Ahead gap later tokens tokens') (single : aim + later ≤ 1) :
    Tracks gap (Differs (Gap.Swaps gap)) (aim + later) (afterDot expr outerDo target tokens)
      (afterDot expr' outerDo target' tokens') := by
  have aimed := near_some close
  refine .after_next ahead ?_
  intro token rest rest' whole same same'
  -- A call of the target with arguments that follow the name, without a block.
  have remote : token.kind ≠ .key → Tracks gap (Differs (Gap.Swaps gap)) (aim + later)
      (callArgs expr rest >>= fun found =>
        pure (Node.call (some target) token.text (found.1.getD []) [] [] token.line, found.2))
      (callArgs expr' rest' >>= fun found =>
        pure (Node.call (some target') token.text (found.1.getD []) [] [] token.line, found.2)) := by
    intro plain
    refine .bind (tracks_callArgs alike (whole.tail plain)) ?_
    intro args rest args' rest' here last most near ahead
    have call := Node.close_call token.text token.line aimed (getD_close near) (.refl 0 []) (.refl 0 []) (by omega)
    exact .ok call ahead (by omega)
  dsimp only
  cases kind : token.kind with
  | «alias» =>
    have following := whole.tail (by simp [kind])
    have call := Node.close_call token.text token.line aimed (.refl 0 []) (.refl 0 []) (.refl 0 []) (by omega)
    rcases close with rfl | ⟨some, differs⟩
    · cases target with
      | «alias» ref line =>
        dsimp only
        by_cases valid : ModuleRef.isSegment token.text = true
        · rw [dif_pos valid, dif_pos valid]
          exact .ok (.refl 0 _) following (by omega)
        · rw [dif_neg valid]
          exact .error_left
      | _ => exact .ok call following (by omega)
    · dsimp only
      split
      · exact absurd differs (Node.not_differs_of_leaf rfl)
      · split
        · exact absurd differs (Node.not_differs_from_leaf rfl)
        · exact .ok call following (by omega)
  | identifier =>
    refine .bind (tracks_callArgs alike (whole.tail (by simp [kind]))) ?_
    intro args rest args' rest' here last most near ahead
    refine .bind (tracks_optionalDoBlock alike outerDo ahead) ?_
    rintro ⟨block, more⟩ rest ⟨block', more'⟩ rest' there final least blocks ahead
    obtain ⟨third, fourth, few, inner, outer⟩ := near_block_inv blocks
    have call := Node.close_call token.text token.line aimed (getD_close near) inner outer (by omega)
    exact .ok call ahead (by omega)
  | punctuation =>
    refine .ite Iff.rfl (fun _ => ?_) (fun _ => ?_)
    · refine .bind (tracks_parenArgs alike ahead) ?_
      intro args rest args' rest' here last most rows ahead
      have call := Node.close_call "." token.line aimed rows (.refl 0 []) (.refl 0 []) (by omega)
      exact .ok call ahead (by omega)
    refine .ite Iff.rfl (fun _ => ?_) (fun _ => .error_left)
    refine .bind (tracks_bracketed alike _ (whole.tail (by simp [kind]))) ?_
    intro items rest items' rest' here last most near ahead
    have call := Node.close_call "\x7b\x7d" token.line aimed (gatherKeywords_close near) (.refl 0 []) (.refl 0 [])
      (by omega)
    exact .ok call ahead (by omega)
  | keyword => exact .ite Iff.rfl (fun _ => .error_left) (fun _ => remote (by simp [kind]))
  | operator => exact .ite Iff.rfl (fun _ => .error_left) (fun _ => remote (by simp [kind]))
  | _ => exact .error_left

theorem tracks_postfixes (alike : Alike gap expr expr') (outerDo : Bool)
    (close : Close (Gap.Swaps gap) aim target target')
    (ahead : Ahead gap later tokens tokens') (single : aim + later ≤ 1) :
    Tracks gap (Differs (Gap.Swaps gap)) (aim + later) (postfixes expr outerDo target tokens)
      (postfixes expr' outerDo target' tokens') := by
  fun_induction postfixes expr outerDo target tokens generalizing target' tokens' aim later with
  | case1 node =>
    rw [ahead.nil_inv, postfixes]
    exact .ok close (.refl ahead.single _) (Nat.le_refl _)
  | case2 node token rest point ih =>
    obtain ⟨rest', rfl⟩ := ahead.cons_inv
    rw [postfixes, if_pos point]
    refine .bind_made (tracks_afterDot alike outerDo close (ahead.tail (Token.kind_ne_key point (by decide))) single) ?_
    intro node after node' after' here last made made' most close ahead
    have fewer := (consumes_afterDot alike.consumes outerDo _ point rest).rest_lt made
    have fewer' := (consumes_afterDot alike.consumes' outerDo _ point rest').rest_lt made'
    simp only [List.length_cons] at fewer fewer'
    dsimp only
    rw [if_pos (by omega), if_pos (by omega)]
    exact (ih node after (by omega) close ahead (by omega)).mono most
  | case3 node token rest plain bracket ih =>
    obtain ⟨rest', rfl⟩ := ahead.cons_inv
    have opens := (Bool.and_eq_true_iff.mp bracket).1
    rw [postfixes, if_neg plain, if_pos bracket]
    refine .bind_made (alike.tracks (ahead.tail (Token.kind_ne_key opens (by decide)))) ?_
    intro index after index' after' here last made made' most inner ahead
    have fewer := (alike.consumes [] 0 false rest).rest_lt made
    have fewer' := (alike.consumes' [] 0 false rest').rest_lt made'
    dsimp only at fewer fewer'
    refine .after_expect ahead (by decide) ?_
    intro final final' long long' ahead
    have call := Node.close_call "[]" token.line (near_some close) (inner.cons (.refl 0 []) (by omega)) (.refl 0 [])
      (.refl 0 []) (by omega)
    dsimp only
    rw [if_pos (by omega), if_pos (by omega)]
    exact (ih index final (by omega) call ahead (by omega)).mono (by omega)
  | case4 node token rest plain free =>
    obtain ⟨rest', rfl⟩ := ahead.cons_inv
    rw [postfixes, if_neg plain, if_neg free]
    exact .ok close ahead (Nat.le_refl _)

end Postfixes

section Structs

theorem structSegments_stop {ref : ModuleRef} {token : Token} {rest : List Token}
    (stops : token.is .operator "." = true → ∀ segment ∈ rest.head?, segment.kind ≠ .alias) :
    structSegments ref (token :: rest) = .ok (ref, token :: rest) := by
  cases rest with
  | nil => rfl
  | cons segment rest =>
    rw [structSegments, if_neg]
    intro dotted
    rw [Bool.and_eq_true, beq_iff_eq] at dotted
    exact stops dotted.1 segment rfl dotted.2

theorem tracks_structSegments (differ : ModuleRef → ModuleRef → Prop) (ref : ModuleRef)
    (ahead : Ahead gap off tokens tokens') :
    Tracks gap differ off (structSegments ref tokens) (structSegments ref tokens') := by
  fun_induction structSegments ref tokens generalizing tokens' with
  | case1 ref dot segment rest dotted valid ih =>
    have both := dotted
    rw [Bool.and_eq_true, beq_iff_eq] at both
    obtain ⟨middle, rfl⟩ := ahead.cons_inv
    have following := ahead.tail (Token.kind_ne_key both.1 (by decide))
    obtain ⟨rest', rfl⟩ := following.cons_inv
    rw [structSegments, if_pos dotted, dif_pos valid]
    exact ih (following.tail (by simp [both.2]))
  | case2 ref dot segment rest dotted invalid => exact .error_left
  | case3 ref dot segment rest plain =>
    obtain ⟨rest', rfl⟩ := ahead.cons_inv
    rw [structSegments_stop]
    · exact .ok (.refl 0 _) ahead (by omega)
    · intro point other mem named
      have same := (ahead.tail (Token.kind_ne_key point (by decide))).head_eq
      rw [mem] at same
      cases same
      exact plain (by simp [point, named])
  | case4 ref tokens short =>
    rcases ahead.cases with ⟨rfl, rfl⟩ | ⟨token, rest, rest', rfl, rfl, -⟩
    · exact .ok (.refl 0 _) ahead (by omega)
    · rw [structSegments_stop]
      · exact .ok (.refl 0 _) ahead (by omega)
      · intro point other mem
        have same := (ahead.tail (Token.kind_ne_key point (by decide))).head_eq
        rw [mem] at same
        cases rest with
        | nil => cases same
        | cons segment rest => exact absurd rfl (short token segment rest)

theorem tracks_structName (ahead : Ahead gap off tokens tokens') :
    Tracks gap (Differs (Gap.Swaps gap)) off (structName tokens) (structName tokens') := by
  refine .after_next ahead ?_
  intro token rest rest' whole _ _
  have prefixed : token.kind ≠ .key → Tracks gap (Differs (Gap.Swaps gap)) off
      (if token.is .operator "@" then next rest >>= fun found =>
          if found.1.kind = .identifier then
            pure (Node.unary "@" (.var found.1.text token.line) token.line, found.2)
          else .error (faultAt found.1 (.notAnIdentifier found.1.text))
        else .error (faultAt token (.unexpectedInStruct token.text)))
      (if token.is .operator "@" then next rest' >>= fun found =>
          if found.1.kind = .identifier then
            pure (Node.unary "@" (.var found.1.text token.line) token.line, found.2)
          else .error (faultAt found.1 (.notAnIdentifier found.1.text))
        else .error (faultAt token (.unexpectedInStruct token.text))) := by
    intro plain
    refine .ite Iff.rfl (fun _ => ?_) (fun _ => .error_left)
    refine .after_next (whole.tail plain) ?_
    intro name rest rest' following _ _
    refine .ite Iff.rfl (fun word => ?_) (fun _ => .error_left)
    exact .ok (.refl 0 _) (following.tail (by simp [show name.kind = .identifier from word])) (by omega)
  dsimp only
  cases kind : token.kind with
  | «alias» =>
    cases ModuleRef.ofName? token.text with
    | none => exact .error_left
    | some ref =>
      refine .bind (tracks_structSegments (fun _ _ => False) ref (whole.tail (by simp [kind]))) ?_
      intro ref rest ref' rest' here later most same ahead
      cases same.resolve_right fun off => off.2
      exact .ok (.refl 0 _) ahead (by omega)
  | identifier => exact .ok (.refl 0 _) (whole.tail (by simp [kind])) (by omega)
  | key =>
    have other : ¬ token.is .operator "@" = true := by simp [Token.is, kind]
    rw [if_neg other]
    exact .error_left
  | _ => exact prefixed (by simp [kind])

theorem tracks_optionalStructName (ahead : Ahead gap off tokens tokens') :
    Tracks gap (OptionOff (Differs (Gap.Swaps gap))) off (optionalStructName tokens) (optionalStructName tokens') := by
  refine .ite (by rw [ahead.startsWith_eq]) (fun _ => ?_) (fun _ => ?_)
  · exact .ok (.refl 0 _) ahead (by omega)
  · refine .bind (tracks_structName ahead) ?_
    intro name rest name' rest' here later most close ahead
    exact .ok (near_some close) ahead most

theorem tracks_mapItem (alike : Alike gap expr expr') (ahead : Ahead gap off tokens tokens') :
    Tracks gap (Differs (Gap.Swaps gap)) off (mapItem expr tokens) (mapItem expr' tokens') := by
  refine .bind (tracks_argument alike false ahead) ?_
  intro item rest item' rest' here later most near ahead
  refine .ok ?_ ahead most
  rcases near with rfl | ⟨some, differs⟩
  · exact .refl _ _
  · cases differs with
    | plain differs => exact (mapEntry_close (.of_differ differs)).mono some
    | keyword differs => exact .inr ⟨some, differs⟩

theorem tracks_mapEntries (alike : Alike gap expr expr') (ahead : Ahead gap off tokens tokens') :
    Tracks gap (OneOff (Differs (Gap.Swaps gap))) off (mapEntries expr tokens) (mapEntries expr' tokens') := by
  refine .bind (tracks_commaItems (fun _ _ _ => tracks_mapItem alike) (fun _ _ _ ahead => ahead.startsWith_eq _ _)
    (fun tokens _ => (passes_mapItem alike.consumes tokens).rest_le)
    (fun tokens _ => (passes_mapItem alike.consumes' tokens).rest_le) ahead) ?_
  intro entries rest entries' rest' here later most close ahead
  refine .after_expect ahead (by decide) ?_
  intro rest rest' _ _ ahead
  exact .ok close ahead most

inductive MapDiffers (swap : List Node → List Node → Prop) : Option Node × List Node → Option Node × List Node → Prop
  | update {node node' : Node} (entries : List Node) (differs : Differs swap node node') :
    MapDiffers swap (some node, entries) (some node', entries)
  | entries (update : Option Node) {entries entries' : List Node} (one : OneOff (Differs swap) entries entries') :
    MapDiffers swap (update, entries) (update, entries')

theorem near_mapBody {swap : List Node → List Node → Prop} {here there : Nat} {update update' : Option Node}
    {entries entries' : List Node} (old : OptionClose swap here update update') (new : RowClose swap there entries entries')
    (single : here + there ≤ 1) : Near (MapDiffers swap) (here + there) (update, entries) (update', entries') := by
  rcases old with rfl | ⟨some, optional⟩
  · exact (new.map (f := fun entries => (update, entries)) fun one => .of_differ (.entries update one)).mono (by omega)
  · cases (new.mono (show there ≤ 0 by omega)).eq_of_zero
    cases optional with
    | some differs => exact .inr ⟨by omega, .update entries differs⟩

theorem near_mapBody_inv {swap : List Node → List Node → Prop} {update update' : Option Node}
    {entries entries' : List Node} (near : Near (MapDiffers swap) off (update, entries) (update', entries')) :
    ∃ here there, here + there ≤ off ∧ OptionClose swap here update update' ∧ RowClose swap there entries entries' := by
  rcases near with same | ⟨some, differs⟩
  · cases same
    exact ⟨0, 0, Nat.zero_le _, .refl _ _, .refl _ _⟩
  · cases differs with
    | update _ differs => exact ⟨1, 0, some, .of_differ (.some differs), .refl _ _⟩
    | entries _ one => exact ⟨0, 1, by omega, .refl _ _, .of_differ one⟩

theorem tracks_mapBody (alike : Alike gap expr expr') (ahead : Ahead gap off tokens tokens') :
    Tracks gap (MapDiffers (Gap.Swaps gap)) off (mapBody expr tokens) (mapBody expr' tokens') := by
  have single := ahead.single
  refine .ite (by rw [ahead.startsWith_eq, ahead.startsWithKind_eq]) (fun _ => ?_) (fun _ => ?_)
  · refine .bind (tracks_mapEntries alike ahead) ?_
    intro entries rest entries' rest' here later most close ahead
    exact .ok (near_mapBody (.refl 0 none) close (by omega)) ahead (by omega)
  refine .bind (alike.tracks ahead) ?_
  intro first rest first' rest' here later most close ahead
  refine .ite (by rw [ahead.startsWith_eq]) (fun bar => ?_) (fun _ => ?_)
  · rcases ahead.cases with ⟨rfl, rfl⟩ | ⟨token, more, more', rfl, rfl, -⟩
    · cases bar
    · refine .bind (tracks_mapEntries alike (ahead.tail (Token.kind_ne_key bar (by decide)))) ?_
      intro entries rest entries' rest' there last least rows ahead
      exact .ok (near_mapBody (near_some close) rows (by omega)) ahead (by omega)
  have entry := mapEntry_close close
  rcases ahead.afterComma? with ⟨single, single'⟩ | ⟨after, after', some, some', -, -, following⟩
  · simp only [single, single']
    refine .after_expect ahead (by decide) ?_
    intro rest rest' _ _ ahead
    exact .ok (near_mapBody (.refl 0 none) (entry.cons (.refl 0 []) (by omega)) (by omega)) ahead (by omega)
  · simp only [some, some']
    refine .bind (tracks_mapEntries alike following) ?_
    intro entries rest entries' rest' there last least rows ahead
    exact .ok (near_mapBody (.refl 0 none) (entry.cons rows (by omega)) (by omega)) ahead (by omega)

theorem tracks_mapLiteral (alike : Alike gap expr expr') (line : Nat) (ahead : Ahead gap off tokens tokens') :
    Tracks gap (Differs (Gap.Swaps gap)) off (mapLiteral expr line tokens) (mapLiteral expr' line tokens') := by
  have single := ahead.single
  refine .bind (tracks_optionalStructName ahead) ?_
  intro struct rest struct' rest' here later most near ahead
  refine .after_expect ahead (by decide) ?_
  intro rest rest' _ _ ahead
  refine .bind (tracks_mapBody alike ahead) ?_
  rintro ⟨update, entries⟩ rest ⟨update', entries'⟩ rest' there last least body ahead
  obtain ⟨second, third, few, old, new⟩ := near_mapBody_inv body
  exact .ok (Node.close_map line new near old (by omega)) ahead (by omega)

end Structs

theorem tracks_bitstring (alike : Alike gap expr expr') (line : Nat) (ahead : Ahead gap off tokens tokens') :
    Tracks gap (Differs (Gap.Swaps gap)) off (bitstring expr line tokens) (bitstring expr' line tokens') := by
  have single := ahead.single
  refine .bind (tracks_commaItems (fun _ _ _ => alike.tracks) (fun _ _ _ ahead => ahead.startsWith_eq _ _)
    (fun tokens _ => (alike.consumes [] 0 false tokens).passes.rest_le)
    (fun tokens _ => (alike.consumes' [] 0 false tokens).passes.rest_le) ahead) ?_
  intro items rest items' rest' here later most close ahead
  refine .after_expect ahead (by decide) ?_
  intro rest rest' _ _ ahead
  have call := Node.close_call "<<>>" line (.refl 0 none) close (.refl 0 []) (.refl 0 []) (by omega)
  exact .ok call ahead (by omega)

theorem tracks_operand (alike : Alike gap expr expr') (outerDo : Bool) (ahead : Ahead gap off tokens tokens') :
    Tracks gap (Differs (Gap.Swaps gap)) off (operand expr outerDo tokens) (operand expr' outerDo tokens') := by
  have single := ahead.single
  refine .after_next ahead ?_
  intro token rest rest' whole _ _
  refine .ite Iff.rfl (fun operator => ?_) (fun _ => ?_)
  · have following := whole.tail (by simp [show token.kind = .operator from operator])
    refine .ite Iff.rfl (fun _ => ?_) (fun _ => ?_)
    · refine .bind (alike.tracks following) ?_
      intro node rest node' rest' here later most close ahead
      exact .ok (prefixed_close token.text token.line close) ahead most
    refine .ite Iff.rfl (fun _ => ?_) (fun _ => ?_)
    · refine .bind (alike.tracks following) ?_
      intro node rest node' rest' here later most close ahead
      exact .ok (Node.close_unary "&" token.line close (by omega)) ahead most
    refine .ite Iff.rfl (fun _ => ?_) (fun _ => ?_)
    · refine .after_next following ?_
      intro first rest rest' inner _ _
      refine .bind (tracks_primary alike outerDo first inner) ?_
      intro node rest node' rest' here later most close ahead
      refine .bind (tracks_postfixes alike outerDo close ahead (by omega)) ?_
      intro node rest node' rest' there last least close ahead
      exact .ok (Node.close_unary "@" token.line close (by omega)) ahead (by omega)
    refine .ite Iff.rfl (fun _ => ?_) (fun _ => ?_)
    · refine .bind (tracks_mapLiteral alike token.line following) ?_
      intro node rest node' rest' here later most close ahead
      exact (tracks_postfixes alike outerDo close ahead (by omega)).mono most
    refine .ite Iff.rfl (fun _ => ?_) (fun _ => .error_left)
    refine .bind (tracks_bitstring alike token.line following) ?_
    intro node rest node' rest' here later most close ahead
    exact (tracks_postfixes alike outerDo close ahead (by omega)).mono most
  · refine .bind (tracks_primary alike outerDo token whole) ?_
    intro node rest node' rest' here later most close ahead
    exact (tracks_postfixes alike outerDo close ahead (by omega)).mono most

theorem binaryOperator?_ahead (ahead : Ahead gap off tokens tokens') :
    binaryOperator? tokens = none ∧ binaryOperator? tokens' = none ∨
      ∃ op binding rest rest', binaryOperator? tokens = some (op, binding, rest) ∧
        binaryOperator? tokens' = some (op, binding, rest') ∧ rest.length < tokens.length ∧
        rest'.length < tokens'.length ∧ Ahead gap off rest rest' := by
  rcases ahead.cases with ⟨rfl, rfl⟩ | ⟨token, rest, rest', rfl, rfl, -⟩
  · exact .inl ⟨rfl, rfl⟩
  by_cases operator : token.kind = .operator
  · have following := ahead.tail (by simp [operator])
    simp only [binaryOperator?, operator, ne_eq, not_true_eq_false, if_false]
    split
    · exact .inl ⟨rfl, rfl⟩
    split
    · rcases following.cases with ⟨rfl, rfl⟩ | ⟨word, more, more', rfl, rfl, -⟩
      · exact .inl ⟨rfl, rfl⟩
      · dsimp only
        split
        · next found =>
          have final := following.tail (Token.kind_ne_key found (by decide))
          exact .inr ⟨_, _, more, more', rfl, rfl, by simp, by simp, final⟩
        · exact .inl ⟨rfl, rfl⟩
    · cases binding? token.text with
      | none => exact .inl ⟨rfl, rfl⟩
      | some binding => exact .inr ⟨_, _, rest, rest', rfl, rfl, by simp, by simp, following⟩
  · exact .inl ⟨if_pos operator, if_pos operator⟩

theorem tracks_operators (alike : Alike gap expr expr') (floor : Nat) (outerDo : Bool) {aim later : Nat}
    {left left' : Node}
    (close : Close (Gap.Swaps gap) aim left left') (ahead : Ahead gap later tokens tokens') (single : aim + later ≤ 1) :
    Tracks gap (Differs (Gap.Swaps gap)) (aim + later) (operators expr floor outerDo left tokens)
      (operators expr' floor outerDo left' tokens') := by
  fun_induction operators expr floor outerDo left tokens generalizing left' tokens' aim later with
  | case1 left tokens none =>
    rcases binaryOperator?_ahead ahead with ⟨-, none'⟩ | ⟨op, binding, rest, rest', some, -⟩
    · rw [operators, none']
      exact .ok close ahead (Nat.le_refl _)
    · rw [none] at some
      cases some
  | case2 left tokens op binding rest found weak =>
    rcases binaryOperator?_ahead ahead with ⟨none, -⟩ | ⟨_, _, _, rest', some, some', -, -, following⟩
    · rw [found] at none
      cases none
    rw [found] at some
    cases some
    rw [operators, some']
    simp only [if_pos weak]
    exact .ok close ahead (Nat.le_refl _)
  | case3 left tokens op binding rest found strong ih =>
    rcases binaryOperator?_ahead ahead with ⟨none, -⟩ | ⟨_, _, _, rest', some, some', long, long', following⟩
    · rw [found] at none
      cases none
    rw [found] at some
    cases some
    rw [operators, some']
    simp only [if_neg strong]
    refine .bind_made (alike.tracks following) ?_
    intro right after right' after' here last made made' most inner ahead
    have fewer := (alike.consumes [] _ outerDo rest).rest_lt made
    have fewer' := (alike.consumes' [] _ outerDo rest').rest_lt made'
    dsimp only at fewer fewer' ⊢
    have line : left.line = left'.line := by
      rcases close with rfl | ⟨-, differs⟩
      · rfl
      · exact differs.line_eq
    have binary := Node.close_binary op left.line close inner (by omega)
    rw [if_pos (by omega), if_pos (by omega), ← line]
    exact (ih right after (by omega) binary ahead (by omega)).mono (by omega)

end Forms

end Grammar

end BoundaryLint
