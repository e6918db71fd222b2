import BoundaryLint.Text.Printable

/-!
Quoted text, as messages show it: in single quotes, or in double quotes when the text holds a
single quote and no double one. Backslashes, the chosen quote and characters that cannot be printed
are written as escapes.
-/

namespace BoundaryLint.Text

private def hexDigit (n : Nat) : Char :=
  if n < 10 then Char.ofNat (n + '0'.toNat) else Char.ofNat (n - 10 + 'a'.toNat)

def hexDigits : (width : Nat) → Nat → List Char
  | 0, _ => []
  | width + 1, n => hexDigits width (n / 16) ++ [hexDigit (n % 16)]

/-- The quote that needs fewer escapes, single quotes first. -/
def chooseQuote (text : List Char) : Char :=
  if '\'' ∈ text ∧ '"' ∉ text then '"' else '\''

def quoteChar (quote c : Char) : List Char :=
  if c = '\\' ∨ c = quote then ['\\', c]
  else if c = '\n' then ['\\', 'n']
  else if c = '\r' then ['\\', 'r']
  else if c = '\t' then ['\\', 't']
  else if isPrintable c then [c]
  else if c.toNat ≤ 0xff then '\\' :: 'x' :: hexDigits 2 c.toNat
  else if c.toNat ≤ 0xffff then '\\' :: 'u' :: hexDigits 4 c.toNat
  else '\\' :: 'U' :: hexDigits 8 c.toNat

def quoted (text : String) : String :=
  let quote := chooseQuote text.toList
  String.ofList (quote :: text.toList.flatMap (quoteChar quote) ++ [quote])

def quoteOctet (quote : Char) (octet : UInt8) : List Char :=
  let c := Char.ofNat octet.toNat
  if c.toNat < 128 then quoteChar quote c else '\\' :: 'x' :: hexDigits 2 c.toNat

def quotedOctets (octets : List UInt8) : String :=
  let quote := chooseQuote (octets.map fun octet => Char.ofNat octet.toNat)
  String.ofList (quote :: octets.flatMap (quoteOctet quote) ++ [quote])

end BoundaryLint.Text
