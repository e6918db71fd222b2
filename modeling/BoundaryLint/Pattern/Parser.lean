import BoundaryLint.Host.Basic
import BoundaryLint.Pattern.Basic
import BoundaryLint.Text.Quoted

/-!
Reading patterns. Groups that are open are kept on a stack, so a pattern is read from left to right
in one pass. What is read is the part of the language that regular expressions of every kind share: neither
lookaround nor references back to a group, and no groups that hold on to a match.
-/

namespace BoundaryLint.Pattern

inductive Cause where
  | missingParenthesis
  | unbalancedParenthesis
  | unterminatedSet
  | badRange (first last : String)
  | nothingToRepeat
  | multipleRepeat
  | minAboveMax
  | endOfPattern
  | unknownExtension (text : String)
  | missingGroupName
  | unterminatedName
  | badGroupName (name : String)
  | unterminatedComment
  | unknownFlag
  | missingFlagEnd
  | flagsNotAtStart
  | trailingBackslash
  | badEscape (text : String)
  | incompleteEscape (text : String)
  | groupReference (number : Nat)
deriving DecidableEq, Repr

def Cause.message : Cause → String
  | .missingParenthesis => "missing ), unterminated subpattern"
  | .unbalancedParenthesis => "unbalanced parenthesis"
  | .unterminatedSet => "unterminated character set"
  | .badRange first last => s!"bad character range {first}-{last}"
  | .nothingToRepeat => "nothing to repeat"
  | .multipleRepeat => "multiple repeat"
  | .minAboveMax => "min repeat greater than max repeat"
  | .endOfPattern => "unexpected end of pattern"
  | .unknownExtension text => s!"unknown extension ?{text}"
  | .missingGroupName => "missing group name"
  | .unterminatedName => "missing >, unterminated name"
  | .badGroupName name => s!"bad character in group name {Text.quoted name}"
  | .unterminatedComment => "missing ), unterminated comment"
  | .unknownFlag => "unknown flag"
  | .missingFlagEnd => "missing -, : or )"
  | .flagsNotAtStart => "global flags not at the start of the expression"
  | .trailingBackslash => "bad escape (end of pattern)"
  | .badEscape text => s!"bad escape {text}"
  | .incompleteEscape text => s!"incomplete escape {text}"
  | .groupReference number => s!"invalid group reference {number}"

structure Fault where
  pattern : String
  cause : Cause
  position : Nat
deriving DecidableEq, Repr

def Fault.message (fault : Fault) : String :=
  let text := s!"{fault.cause.message} at position {fault.position}"
  if '\n' ∈ fault.pattern.toList then
    let before := fault.pattern.toList.take fault.position
    let line := before.count '\n' + 1
    let column := (before.reverse.takeWhile (· ≠ '\n')).length + 1
    s!"{text} (line {line}, column {column})"
  else text

abbrev Located := Cause × Nat

structure Flags where
  ignoreCase : Bool
  lineBreaks : Bool
  lineAnchors : Bool
deriving DecidableEq, Repr

inductive Escape where
  | char (c : Char)
  | item (item : ClassItem)
  | anchor (anchor : Anchor)
deriving DecidableEq, Repr

def hexValue? (c : Char) : Option Nat :=
  if c.isDigit then some (c.toNat - '0'.toNat)
  else if 'a' ≤ c ∧ c ≤ 'f' then some (c.toNat - 'a'.toNat + 10)
  else if 'A' ≤ c ∧ c ≤ 'F' then some (c.toNat - 'A'.toNat + 10)
  else none

private def isOctal (c : Char) : Bool := '0' ≤ c && c ≤ '7'

private def octalValue (digits : List Char) : Nat :=
  digits.foldl (fun value c => value * 8 + (c.toNat - '0'.toNat)) 0

private def decimalNumber (digits : List Char) : Nat :=
  digits.foldl (fun value c => value * 10 + (c.toNat - '0'.toNat)) 0

private def hexNumber (digits : List Char) : Nat :=
  digits.foldl (fun value c => value * 16 + (hexValue? c).getD 0) 0

private def hexEscape (width : Nat) (mark : Char) (position : Nat) (rest : List Char) :
    Except Located (Escape × Nat) :=
  let digits := (rest.take width).takeWhile (hexValue? · |>.isSome)
  if digits.length = width then
    if hexNumber digits ≤ 0x10ffff then .ok (.char (Char.ofNat (hexNumber digits)), width + 1)
    else .error (.badEscape (String.ofList ('\\' :: mark :: digits)), position)
  else .error (.incompleteEscape (String.ofList ('\\' :: mark :: digits)), position)

def sharedEscape? (c : Char) : Option Escape :=
  if c = 'd' then some (.item (.digit false))
  else if c = 'D' then some (.item (.digit true))
  else if c = 'w' then some (.item (.word false))
  else if c = 'W' then some (.item (.word true))
  else if c = 's' then some (.item (.space false))
  else if c = 'S' then some (.item (.space true))
  else if c = 'a' then some (.char '\x07')
  else if c = 'f' then some (.char '\x0c')
  else if c = 'n' then some (.char '\n')
  else if c = 'r' then some (.char '\r')
  else if c = 't' then some (.char '\t')
  else if c = 'v' then some (.char '\x0b')
  else if c = '\\' then some (.char '\\')
  else none

def anchorEscape? (c : Char) : Option Anchor :=
  if c = 'A' then some .textStart
  else if c = 'Z' then some .textEnd
  else if c = 'b' then some (.wordEdge false)
  else if c = 'B' then some (.wordEdge true)
  else none

def escape (inClass : Bool) (position : Nat) (rest : List Char) : Except Located (Escape × Nat) :=
  match rest with
  | [] => .error (.trailingBackslash, position)
  | c :: after =>
    match sharedEscape? c with
    | some found => .ok (found, 1)
    | none =>
      match if inClass then none else anchorEscape? c with
      | some anchor => .ok (.anchor anchor, 1)
      | none =>
        if inClass && c = 'b' then .ok (.char '\x08', 1)
        else if c = 'x' then hexEscape 2 c position after
        else if c = 'u' then hexEscape 4 c position after
        else if c = 'U' then hexEscape 8 c position after
        else if c = '0' || (inClass && isOctal c) then
          let digits := c :: (after.take 2).takeWhile isOctal
          .ok (.char (Char.ofNat (octalValue digits)), digits.length)
        else if c.isDigit then
          let digits := (c :: after).takeWhile (·.isDigit)
          if inClass then .error (.badEscape (String.ofList ['\\', c]), position)
          else if 3 ≤ (digits.takeWhile isOctal).length then
            .ok (.char (Char.ofNat (octalValue (digits.take 3))), 3)
          else .error (.groupReference (decimalNumber (digits.take 2)), position + 1)
        else if c.isAlpha then .error (.badEscape (String.ofList ['\\', c]), position)
        else .ok (.char c, 1)

/-- A class entry that may start or end a range: its items, its text and its length. -/
structure ClassEntry where
  escape : Escape
  text : String
  length : Nat

private def classEntry (position : Nat) (chars : List Char) : Except Located (Option ClassEntry) :=
  match chars with
  | [] => .ok none
  | c :: rest =>
    if c = '\\' then do
      let (found, length) ← escape true position rest
      return some ⟨found, String.ofList (c :: rest.take length), length + 1⟩
    else .ok (some ⟨.char c, c.toString, 1⟩)

private def Escape.toItem : Escape → ClassItem
  | .char c => .char c
  | .item found => found
  | .anchor _ => .char '\\'

/-- The items of a class from `position` on and how many characters they take, the closing bracket
included. `start` is the position of the opening bracket. -/
def classItems (start position : Nat) (items : List ClassItem) (chars : List Char) :
    Except Located (List ClassItem × Nat) :=
  match chars with
  | [] => .error (.unterminatedSet, start)
  | c :: rest =>
    if c = ']' && !items.isEmpty then .ok (items, 1)
    else do
      let some first ← classEntry position (c :: rest) | .error (.unterminatedSet, start)
      let after := rest.drop (first.length - 1)
      if after.head? = some '-' then
        let last ← classEntry (position + first.length + 1) (after.drop 1)
        match last with
        | none => .error (.unterminatedSet, start)
        | some last =>
          if last.text = "]" then
            .ok (items ++ [first.escape.toItem, .char '-'], first.length + 2)
          else
            match first.escape, last.escape with
            | .char low, .char high =>
              if low ≤ high then
                let length := first.length + 1 + last.length
                let (items, more) ← classItems start (position + length)
                  (items ++ [.range low high]) (rest.drop (length - 1))
                return (items, length + more)
              else .error (.badRange first.text last.text, position)
            | _, _ => .error (.badRange first.text last.text, position)
      else
        let (items, more) ← classItems start (position + first.length)
          (items ++ [first.escape.toItem]) (rest.drop (first.length - 1))
        return (items, first.length + more)
termination_by chars.length

inductive Part where
  | plain (regex : Regex)
  | anchor (anchor : Anchor)
  | repeated (regex : Regex)

def Part.regex : Part → Regex
  | .plain regex | .repeated regex => regex
  | .anchor position => .anchor position

/-- A group that is open: where it started, its finished branches and the parts of
the current one (both last first), and the flags to return to. -/
structure Frame where
  start : Nat
  branches : List Regex
  parts : List Part
  flags : Flags

private def sequence (parts : List Part) : Regex :=
  parts.foldl (fun rest part => .seq part.regex rest) .empty

def Frame.regex (frame : Frame) : Regex :=
  frame.branches.foldl (fun last branch => .alt branch last) (sequence frame.parts)

def Frame.add (frame : Frame) (part : Part) : Frame := { frame with parts := part :: frame.parts }

def Frame.addBranch (frame : Frame) : Frame :=
  { frame with branches := sequence frame.parts :: frame.branches, parts := [] }

private def setFlag (flags : Flags) (c : Char) : Option Flags :=
  if c = 'i' then some { flags with ignoreCase := true }
  else if c = 's' then some { flags with lineBreaks := true }
  else if c = 'm' then some { flags with lineAnchors := true }
  else if c = 'u' || c = 'a' || c = 'x' then some flags
  else none

/-- Flags after `(?`: their effect, how many characters they take with the character that ends them,
and that character. -/
def readFlags (position : Nat) (flags : Flags) : List Char → Except Located (Flags × Nat × Char)
  | [] => .error (.missingFlagEnd, position)
  | c :: rest =>
    if c = ')' || c = ':' then .ok (flags, 1, c)
    else match setFlag flags c with
      | some flags => do
        let (flags, length, last) ← readFlags (position + 1) flags rest
        return (flags, length + 1, last)
      | none =>
        .error (if Text.isLetter c then .unknownFlag else .missingFlagEnd, position)

/-- How a group opens: the frame to push, or none for a comment or global flags, and the length of
what opens it after the parenthesis. -/
structure Opening where
  frame : Option Frame
  flags : Flags
  length : Nat

private def isGroupName (name : List Char) : Bool :=
  match name with
  | [] => false
  | c :: rest => (c = '_' || Text.isLetter c) && rest.all Text.isWordChar

private def openNamed (start : Nat) (flags : Flags) (chars : List Char) : Except Located Opening :=
  let name := chars.takeWhile (· ≠ '>')
  match chars.dropWhile (· ≠ '>') with
  | [] =>
    if name.isEmpty then .error (.missingGroupName, start + 4)
    else .error (.unterminatedName, start + 4)
  | _ :: _ =>
    if name.isEmpty then .error (.missingGroupName, start + 4)
    else if isGroupName name then
      .ok ⟨some ⟨start, [], [], flags⟩, flags, name.length + 4⟩
    else .error (.badGroupName (String.ofList name), start + 4)

/-- Reads what follows an opening parenthesis at `start`. `first` tells whether nothing stands
before it. -/
def openGroup (start : Nat) (first : Bool) (flags : Flags) (chars : List Char) :
    Except Located Opening :=
  let plain (inner : Flags) (length : Nat) : Opening :=
    ⟨some ⟨start, [], [], flags⟩, inner, length⟩
  match chars with
  | '?' :: [] => .error (.endOfPattern, start + 2)
  | '?' :: c :: rest =>
    if c = ':' then .ok (plain flags 2)
    else if c = '#' then
      match rest.dropWhile (· ≠ ')') with
      | [] => .error (.unterminatedComment, start)
      | _ :: _ => .ok ⟨none, flags, (rest.takeWhile (· ≠ ')')).length + 3⟩
    else if c = 'P' then
      match rest with
      | [] => .error (.endOfPattern, start + 3)
      | '<' :: rest => openNamed start flags rest
      | d :: _ => .error (.unknownExtension (String.ofList [c, d]), start + 1)
    else match setFlag flags c with
      | some _ => do
        let (inner, length, last) ← readFlags (start + 2) flags (c :: rest)
        if last = ':' then return plain inner (length + 1)
        else if first then return ⟨none, inner, length + 1⟩
        else .error (.flagsNotAtStart, start)
      | none => .error (.unknownExtension c.toString, start + 1)
  | _ => .ok (plain flags 0)

/-- Bounds of a repetition from its first character on, with the length of what follows that
character; none when a brace starts no bounds. -/
def readBounds (position : Nat) (c : Char) (rest : List Char) :
    Except Located (Option (Nat × Option Nat × Nat)) :=
  if c = '?' then .ok (some (0, some 1, 0))
  else if c = '*' then .ok (some (0, none, 0))
  else if c = '+' then .ok (some (1, none, 0))
  else if rest.head? = some '\x7d' then .ok none
  else
    let low := rest.takeWhile (·.isDigit)
    let after := rest.dropWhile (·.isDigit)
    let (high, closing) :=
      if after.head? = some ',' then
        ((after.drop 1).takeWhile (·.isDigit), (after.drop 1).dropWhile (·.isDigit))
      else (low, after)
    if closing.head? ≠ some '\x7d' then .ok none
    else
      let length := rest.length - closing.length + 1
      let least := decimalNumber low
      if high.isEmpty then .ok (some (least, none, length))
      else if decimalNumber high < least then .error (.minAboveMax, position + 1)
      else .ok (some (least, some (decimalNumber high), length))

def repeatLast (position : Nat) (frame : Frame) (least : Nat) (most : Option Nat) :
    Except Located Frame :=
  match frame.parts with
  | [] | .anchor _ :: _ => .error (.nothingToRepeat, position)
  | .repeated _ :: _ => .error (.multipleRepeat, position)
  | .plain regex :: parts =>
    .ok { frame with parts := .repeated (.rounds regex least most) :: parts }

def literal (flags : Flags) (c : Char) : Part := .plain (.one false [.char c] flags.ignoreCase)

private def escapePart (flags : Flags) : Escape → Part
  | .char c => literal flags c
  | .item item => .plain (.one false [item] false)
  | .anchor anchor => .anchor anchor

/-- Reads the characters from `position` on into the innermost frame, `inner`, of those open. -/
def readFrom (outer : List Frame) (inner : Frame) (flags : Flags) (position : Nat)
    (chars : List Char) : Except Located Regex :=
  match chars with
  | [] =>
    match outer with
    | [] => .ok inner.regex
    | _ :: _ => .error (.missingParenthesis, inner.start)
  | c :: rest =>
    if c = ')' then
      match outer with
      | [] => .error (.unbalancedParenthesis, position)
      | frame :: outer =>
        readFrom outer (frame.add (.plain inner.regex)) inner.flags (position + 1) rest
    else if c = '|' then readFrom outer inner.addBranch flags (position + 1) rest
    else if rest = ['\\'] && c ≠ '\\' then .error (.trailingBackslash, position + 1)
    else if c = '\\' then do
      let (found, length) ← escape false position rest
      readFrom outer (inner.add (escapePart flags found)) flags (position + 1 + length)
        (rest.drop length)
    else if c = '[' then do
      let negated := rest.head? = some '^'
      let skipped := if negated then 1 else 0
      let (items, length) ← classItems position (position + 1 + skipped) [] (rest.drop skipped)
      readFrom outer (inner.add (.plain (.one negated items flags.ignoreCase))) flags
        (position + 1 + skipped + length) (rest.drop (skipped + length))
    else if c = '(' then do
      let first := outer.isEmpty && inner.branches.isEmpty && inner.parts.isEmpty
      let opening ← openGroup position first flags rest
      match opening.frame with
      | some frame =>
        readFrom (inner :: outer) frame opening.flags (position + 1 + opening.length)
          (rest.drop opening.length)
      | none =>
        readFrom outer inner opening.flags (position + 1 + opening.length)
          (rest.drop opening.length)
    else if c = '*' || c = '+' || c = '?' || c = '\x7b' then do
      match ← readBounds position c rest with
      | none => readFrom outer (inner.add (literal flags c)) flags (position + 1) rest
      | some (least, most, length) =>
        let inner ← repeatLast position inner least most
        let extra := if (rest.drop length).head? = some '?' then 1 else 0
        readFrom outer inner flags (position + 1 + length + extra) (rest.drop (length + extra))
    else
      let part : Part :=
        if c = '.' then .plain (.any flags.lineBreaks)
        else if c = '^' then .anchor (if flags.lineAnchors then .lineStart else .textStart)
        else if c = '$' then .anchor (if flags.lineAnchors then .lineEnd else .finalEnd)
        else literal flags c
      readFrom outer (inner.add part) flags (position + 1) rest
termination_by chars.length

def parse (pattern : String) : Except Fault Regex :=
  let flags : Flags := ⟨false, false, false⟩
  match readFrom [] ⟨0, [], [], flags⟩ flags 0 pattern.toList with
  | .ok regex => .ok regex
  | .error (cause, position) => .error ⟨pattern, cause, position⟩

theorem Fault.message_ne_empty (fault : Fault) : fault.message ≠ "" := by
  have placed : fault.cause.message ++ " at position " ≠ "" := by
    intro silent
    exact absurd (String.append_eq_empty_iff.mp silent).2 (by decide)
  unfold message
  split
  · exact append_ne_empty (append_ne_empty (append_ne_empty (append_ne_empty (append_ne_empty
      (append_ne_empty placed _) _) _) _) _) _
  · exact append_ne_empty placed _

def read (source : String) : Except Reason (String → Bool) :=
  match parse source with
  | .ok regex => .ok (search regex)
  | .error fault => .error ⟨fault.message, fault.message_ne_empty⟩

end BoundaryLint.Pattern
