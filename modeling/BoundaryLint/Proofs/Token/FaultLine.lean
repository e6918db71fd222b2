import BoundaryLint.Proofs.Token.LineCount
import Mathlib

/-!
Where scanning fails. A fault of the scanner names the line where a token or a literal opens, so it lies on
a line of the text, as all tokens do.
-/

namespace BoundaryLint

def Source.Fault.Between (first last : Nat) : Source.Fault → Prop
  | .at _ line => first ≤ line ∧ line ≤ last
  | .literalsTooDeep => True

theorem Source.Fault.Between.mono {first last : Nat} {fault : Source.Fault} (between : fault.Between first last)
    {start stop : Nat} (above : start ≤ first) (below : last ≤ stop) : fault.Between start stop := by
  cases fault with
  | «at» cause line => exact ⟨Nat.le_trans above between.1, Nat.le_trans between.2 below⟩
  | literalsTooDeep => trivial

namespace Token

def Open.line : Open → Nat
  | .text _ line | .heredoc _ line | .interpolation _ line => line

theorem between_unclosed {first last : Nat} {inner : Open} (inside : first ≤ inner.line ∧ inner.line ≤ last) :
    inner.unclosed.Between first last := by
  cases inner with
  | text quote line => exact inside
  | heredoc quote line => exact inside
  | interpolation depth line => exact inside

theorem between_closeLiteral [Host] {first last : Nat} {around : List Open} {inner : Open} {line : Nat}
    {taken chars : List Char} (above : first ≤ line) (below : line + breaks chars ≤ last)
    (inside : first ≤ inner.line ∧ inner.line ≤ last)
    (outside : ∀ outer ∈ around, first ≤ outer.line ∧ outer.line ≤ last) :
    Outcome (fun _ => True) (Source.Fault.Between first last) (closeLiteral around inner line taken chars) := by
  have stops : ∀ inner : Open, first ≤ inner.line ∧ inner.line ≤ last → inner.unclosed.Between first last :=
    fun inner => between_unclosed
  have moves : ∀ line c, lineAfter line c = line + lineAfter 0 c := lineAfter_eq
  -- Whatever opens on the way opens on the current line, which the text ahead keeps below the last one.
  fun_induction closeLiteral around inner line taken chars <;>
    grind [Outcome, Source.Fault.Between, Open.line, breaks_cons]

/-- The faults that a step on a text from a line on may end in: any cause on that line, the faults of the same step on
the end of the text, and those of a literal. -/
structure Faults [Host] (bad : Nat → List Char → Source.Fault → Prop) : Prop where
  here : ∀ (cause : Source.Cause) (line : Nat) (chars : List Char), bad line chars (.at cause line)
  mono : ∀ {line : Nat} {chars rest : List Char} {fault : Source.Fault}, bad line rest fault → rest <:+ chars →
    bad line chars fault
  literal : ∀ {quote : Char} (line : Nat) (chars : List Char), quote = '"' ∨ quote = '\'' →
    Outcome (fun _ => True) (bad line (quote :: chars)) (scanQuoted quote line chars)

def Fails {α : Type} (bad : Nat → List Char → Source.Fault → Prop) (line : Nat) (chars : List Char)
    (step : Except Source.Fault α) : Prop :=
  Outcome (fun _ => True) (bad line chars) step

section Fails

variable {α β : Type} {bad : Nat → List Char → Source.Fault → Prop} {line : Nat} {chars rest : List Char}

theorem Fails.ok (value : α) : Fails bad line chars (.ok value) := trivial

theorem Fails.mono [Host] {step : Except Source.Fault α} (faults : Faults bad) (fails : Fails bad line rest step)
    (ends : rest <:+ chars) : Fails bad line chars step := Outcome.mono fails fun _ found => faults.mono found ends

theorem Fails.bind {step : Except Source.Fault α} {later : α → Except Source.Fault β}
    (first : Fails bad line chars step) (second : ∀ value, Fails bad line chars (later value)) :
    Fails bad line chars (step >>= later) := Outcome.bind first fun value _ => second value

section Steps

variable [Host] (faults : Faults bad)

include faults

theorem fails_scanQuotedToken (kind : Kind) {quote : Char} (quotes : quote = '"' ∨ quote = '\'') (line : Nat)
    (rest : List Char) : Fails bad line (quote :: rest) (scanQuotedToken kind quote line rest) :=
  .bind (faults.literal line rest quotes) fun _ => .ok _

theorem fails_scanColon (line : Nat) (chars : List Char) : Fails bad line chars (scanColon line chars) := by
  unfold scanColon
  split
  · exact faults.here _ line _
  · next c rest =>
    split
    · exact .ok _
    split
    · next quotes => exact .bind (faults.literal line rest quotes) fun _ => .ok _
    split
    · exact .ok _
    split
    · exact .ok _
    · exact faults.here _ line _

theorem fails_scanSigilBody (name : String) (line : Nat) (opener : Char) (rest : List Char) :
    Fails bad line (opener :: rest) (scanSigilBody name line opener rest) := by
  unfold scanSigilBody
  extract_lets plain
  have closes : Fails bad line (opener :: rest) plain := by
    unfold plain
    split
    · exact .ok _
    · exact faults.here _ line _
  split
  · next quotes =>
    split
    · split
      · exact faults.literal line _ quotes
      · exact closes
    · exact closes
  · exact closes

theorem fails_scanSigil (line : Nat) (chars : List Char) : Fails bad line chars (scanSigil line chars) := by
  have ends := List.dropWhile_suffix (l := chars) Text.isLetter
  unfold scanSigil
  split
  · exact faults.here _ line _
  · next opener rest same =>
    rw [same] at ends
    split
    · exact .bind ((fails_scanSigilBody faults _ line opener rest).mono faults ends) fun _ => .ok _
    · exact faults.here _ line _

theorem fails_scanOperator (line : Nat) (c : Char) (rest : List Char) :
    Fails bad line (c :: rest) (scanOperator line c rest) := by
  unfold scanOperator
  split
  · exact .ok _
  · exact faults.here _ line _

theorem fails_scanToken (line : Nat) (c : Char) (rest : List Char) :
    Fails bad line (c :: rest) (scanToken line c rest) := by
  have shorter : rest <:+ c :: rest := List.suffix_cons _ _
  unfold scanToken
  split
  · exact .ok _
  split
  · exact .ok _
  split
  · exact .ok _
  split
  · next quotes => exact fails_scanQuotedToken faults _ (.inl quotes) line rest
  split
  · next quotes => exact fails_scanQuotedToken faults _ (.inr quotes) line rest
  split
  · exact (fails_scanColon faults line rest).mono faults shorter
  split
  · exact .ok _
  split
  · exact fails_scanOperator faults line c []
  split
  · exact .ok _
  split
  · exact (fails_scanSigil faults line _).mono faults shorter
  · exact fails_scanOperator faults line c _

end Steps

/-- The scanner fails on a line of the text. -/
theorem faults_between [Host] : Faults fun line chars => Source.Fault.Between line (line + breaks chars) where
  here _ _ _ := ⟨Nat.le_refl _, Nat.le_add_right _ _⟩
  mono {_ chars rest _} between ends := by
    have fewer : breaks rest ≤ breaks chars := ends.sublist.count_le '\n'
    exact between.mono (Nat.le_refl _) (Nat.add_le_add_left fewer _)
  literal {quote} line chars _ := by
    have alone : ∀ outer ∈ ([] : List Open), line ≤ outer.line ∧ outer.line ≤ line + breaks (quote :: chars) :=
      List.forall_mem_nil _
    have here : line ≤ line ∧ line ≤ line + breaks (quote :: chars) := ⟨Nat.le_refl _, Nat.le_add_right _ _⟩
    have below : line + breaks chars ≤ line + breaks (quote :: chars) :=
      Nat.add_le_add_left ((List.suffix_cons quote chars).sublist.count_le '\n') line
    unfold scanQuoted
    split
    · next second third rest =>
      split
      · refine between_closeLiteral here.1 (Nat.le_trans ?_ below) here alone
        rw [breaks_cons, breaks_cons]
        omega
      · exact between_closeLiteral here.1 below here alone
    · exact between_closeLiteral here.1 below here alone

theorem Reaches.bound {hidden after : Nat} (reached : Reaches hidden line chars after rest) :
    after + breaks rest ≤ line + breaks chars := by
  have count := reached.count
  omega

theorem scanFrom_between [Host] (line : Nat) (chars : List Char) :
    Outcome (fun tokens => ∀ token ∈ tokens, line ≤ token.line ∧ token.line ≤ line + breaks chars)
      (Source.Fault.Between line (line + breaks chars)) (scanFrom line chars) := by
  fun_induction scanFrom line chars with
  | case1 => exact List.forall_mem_nil _
  | case2 line chars gap here c rest skipped fault failed =>
    have gapped := reaches_skipGap false Gap.none line chars
    rw [skipped] at gapped
    have token := fails_scanToken faults_between here c rest
    rw [failed] at token
    exact Source.Fault.Between.mono token gapped.grows gapped.bound
  | case3 line chars gap here c rest skipped lexeme scanned _ fault failed ih =>
    have gapped := reaches_skipGap false Gap.none line chars
    rw [skipped] at gapped
    have further := gapped.trans (reaches_scanToken scanned)
    rw [failed] at ih
    exact Source.Fault.Between.mono ih further.grows further.bound
  | case4 line chars gap here c rest skipped lexeme scanned _ tokens found ih =>
    have gapped := reaches_skipGap false Gap.none line chars
    rw [skipped] at gapped
    have further := gapped.trans (reaches_scanToken scanned)
    rw [found] at ih
    refine List.forall_mem_cons.mpr ⟨⟨gapped.grows, ?_⟩, ?_⟩
    · exact Nat.le_trans (Nat.le_add_right _ _) gapped.bound
    · intro token among
      obtain ⟨above, below⟩ := ih token among
      exact ⟨Nat.le_trans further.grows above, Nat.le_trans below further.bound⟩

end Fails

end Token

end BoundaryLint
