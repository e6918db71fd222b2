/-!
Cutting text at a separator and taking white space off its ends.
-/

namespace BoundaryLint.Text

def splitChars (separator : Char) : List Char → List (List Char)
  | [] => [[]]
  | c :: rest =>
    match splitChars separator rest with
    | [] => [[c]]
    | first :: more => if c = separator then [] :: first :: more else (c :: first) :: more

def split (separator : Char) (text : String) : List String :=
  (splitChars separator text.toList).map String.ofList

theorem splitChars_ne_nil (separator : Char) (chars : List Char) :
    splitChars separator chars ≠ [] := by
  cases chars with
  | nil => simp [splitChars]
  | cons c rest =>
    unfold splitChars
    split
    · simp
    · split <;> simp

theorem split_ne_nil (separator : Char) (text : String) : split separator text ≠ [] := by
  simp [split, splitChars_ne_nil]

def isSpace (c : Char) : Bool :=
  let n := c.toNat
  (9 ≤ n && n ≤ 13) || (28 ≤ n && n ≤ 32) || n = 133 || n = 160 || n = 5760 ||
    (8192 ≤ n && n ≤ 8202) || n = 8232 || n = 8233 || n = 8239 || n = 8287 || n = 12288

def stripChars (p : Char → Bool) (chars : List Char) : List Char :=
  (chars.dropWhile p).reverse.dropWhile p |>.reverse

def strip (text : String) : String := String.ofList (stripChars isSpace text.toList)

def stripSlashes (text : String) : String := String.ofList (stripChars (· = '/') text.toList)

def contains (text piece : String) : Bool :=
  let rec go : List Char → Bool
    | [] => piece.toList.isEmpty
    | c :: rest => piece.toList.isPrefixOf (c :: rest) || go rest
  go text.toList

theorem contains_iff {text piece : String} :
    contains text piece = true ↔ piece.toList <:+: text.toList := by
  have found (chars : List Char) : contains.go piece chars = true ↔ piece.toList <:+: chars := by
    induction chars with
    | nil => simp [contains.go]
    | cons c rest ih =>
      rw [contains.go, Bool.or_eq_true, List.isPrefixOf_iff_prefix, ih, List.infix_cons_iff]
  exact found text.toList

def startsWith (text start : String) : Bool := start.toList.isPrefixOf text.toList

def endsWith (text ending : String) : Bool := ending.toList.isSuffixOf text.toList

theorem endsWith_iff {text ending : String} :
    endsWith text ending = true ↔ ending.toList <:+ text.toList := List.isSuffixOf_iff_suffix

def dropEnding (text ending : String) : String :=
  if endsWith text ending then
    String.ofList (text.toList.take (text.toList.length - ending.toList.length))
  else text

end BoundaryLint.Text
