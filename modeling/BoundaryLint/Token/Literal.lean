import BoundaryLint.Host.Basic
import BoundaryLint.Source.Fault
import BoundaryLint.Token.Basic

/-!
Quoted literals. A string or charlist runs to its closing quote, and an interpolation in it is
passed over with all strings that it holds, so scanning keeps a stack of what is open. A heredoc
runs to the first tripled quote without a backslash before it.
-/

namespace BoundaryLint.Token

inductive Open where
  | text (quote : Char) (line : Nat)
  | heredoc (quote : Char) (line : Nat)
  | interpolation (depth : Nat) (line : Nat)
deriving DecidableEq, Repr

def Open.unclosed : Open → Source.Fault
  | .text _ line => .at .unterminatedString line
  | .heredoc _ line => .at .unterminatedHeredoc line
  | .interpolation _ line => .at .unterminatedInterpolation line

structure Body where
  chars : List Char
  rest : List Char
  line : Nat
deriving DecidableEq, Repr

def lineAfter (line : Nat) (c : Char) : Nat := if c = '\n' then line + 1 else line

/-- Scans to the end of the outermost literal. `taken` holds the characters since its opening, last
one first; `around` holds what is open around `inner`. -/
def closeLiteral [Host] (around : List Open) (inner : Open) (line : Nat) (taken : List Char) :
    List Char → Except Source.Fault Body
  | [] => .error inner.unclosed
  | c :: rest =>
    match inner with
    | .text quote _ =>
      if c = '\\' then
        match rest with
        | [] => .error inner.unclosed
        | escaped :: rest =>
          closeLiteral around inner (lineAfter line escaped) (escaped :: c :: taken) rest
      else if c = quote then
        match around with
        | [] => .ok ⟨taken.reverse, rest, line⟩
        | next :: around => closeLiteral around next line (c :: taken) rest
      else if c = '#' then
        match rest with
        | [] => .error inner.unclosed
        | following :: after =>
          if following = '\x7b' then
            if Host.literalNesting ≤ around.length then .error .literalsTooDeep
            else closeLiteral (inner :: around) (.interpolation 0 line) line
              (following :: c :: taken) after
          else closeLiteral around inner line (c :: taken) (following :: after)
      else closeLiteral around inner (lineAfter line c) (c :: taken) rest
    | .heredoc quote _ =>
      match rest with
      | second :: third :: after =>
        if c = quote ∧ second = quote ∧ third = quote ∧ taken.head? ≠ some '\\' then
          match around with
          | [] => .ok ⟨taken.reverse, after, line⟩
          | next :: around =>
            closeLiteral around next line (third :: second :: c :: taken) after
        else closeLiteral around inner (lineAfter line c) (c :: taken) (second :: third :: after)
      | rest => closeLiteral around inner (lineAfter line c) (c :: taken) rest
    | .interpolation depth opened =>
      if c = '"' ∨ c = '\'' then
        if Host.literalNesting ≤ around.length then .error .literalsTooDeep
        else match rest with
          | second :: third :: after =>
            if second = c ∧ third = c then
              closeLiteral (inner :: around) (.heredoc c line) line
                (third :: second :: c :: taken) after
            else closeLiteral (inner :: around) (.text c line) line (c :: taken)
              (second :: third :: after)
          | rest => closeLiteral (inner :: around) (.text c line) line (c :: taken) rest
      else if c = '\x7b' then
        closeLiteral around (.interpolation (depth + 1) opened) line (c :: taken) rest
      else if c = '\x7d' then
        match depth with
        | depth + 1 =>
          closeLiteral around (.interpolation depth opened) line (c :: taken) rest
        | 0 =>
          match around with
          | [] => .error inner.unclosed
          | next :: around => closeLiteral around next line (c :: taken) rest
      else closeLiteral around inner (lineAfter line c) (c :: taken) rest

def scanQuoted [Host] (quote : Char) (line : Nat) (chars : List Char) : Except Source.Fault Body :=
  match chars with
  | second :: third :: rest =>
    if second = quote ∧ third = quote then closeLiteral [] (.heredoc quote line) line [] rest
    else closeLiteral [] (.text quote line) line [] chars
  | _ => closeLiteral [] (.text quote line) line [] chars

/-- Scans a sigil body up to the closer at depth zero. A backslash hides the character after it,
which is not counted as a line break either. -/
def closeSigil (opener closer : Char) (depth line : Nat) (taken : List Char) :
    List Char → Option Body
  | [] => none
  | c :: rest =>
    if c = '\\' then
      match rest with
      | [] => none
      | escaped :: rest => closeSigil opener closer depth line (escaped :: c :: taken) rest
    else if c = closer then
      match depth with
      | 0 => some ⟨taken.reverse, rest, line⟩
      | depth + 1 => closeSigil opener closer depth (lineAfter line c) (c :: taken) rest
    else if c = opener then
      closeSigil opener closer (depth + 1) (lineAfter line c) (c :: taken) rest
    else closeSigil opener closer depth (lineAfter line c) (c :: taken) rest

end BoundaryLint.Token
