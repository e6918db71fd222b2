/-!
Style tags in the cells of a console table. A console takes `[red]` as a style and not as text;
backslashes before a tag stand for half as many, and an odd one keeps the tag as text.
-/

namespace BoundaryLint.Report

/-- The inside of the style tag that opens here, and what follows the tag. -/
def styleTag? : List Char → Option (List Char × List Char)
  | '[' :: c :: rest =>
    let inside := rest.takeWhile fun c => c ≠ '[' && c ≠ ']'
    match rest.drop inside.length with
    | ']' :: after =>
      if c.isLower || c = '#' || c = '/' || c = '@' then some (c :: inside, after) else none
    | _ => none
  | _ => none

theorem styleTag?_rest_lt (chars inside after : List Char)
    (found : styleTag? chars = some (inside, after)) : after.length < chars.length := by
  unfold styleTag? at found
  split at found
  · next c rest =>
    simp only at found
    split at found
    · next tail same =>
      split at found
      · have shorter := congrArg List.length same
        simp only [List.length_drop, List.length_cons] at shorter
        simp only [Option.some.injEq, Prod.mk.injEq] at found
        simp only [← found.2, List.length_cons]
        omega
      · simp at found
    · simp at found
  · simp at found

def shownChars : List Char → List Char
  | [] => []
  | c :: rest =>
    let slashes := ((c :: rest).takeWhile (· = '\\')).length
    match found : styleTag? ((c :: rest).drop slashes) with
    | some (inside, after) =>
      have := styleTag?_rest_lt _ _ _ found
      List.replicate (slashes / 2) '\\' ++
        (if slashes % 2 = 1 then '[' :: inside ++ [']'] else []) ++ shownChars after
    | none => if c = '\\' ∧ rest.head? = some '[' then shownChars rest else c :: shownChars rest
termination_by chars => chars.length
decreasing_by
  · simp only [List.length_drop] at this
    omega
  · simp only [List.length_cons]; omega
  · simp only [List.length_cons]; omega

def shownText (text : String) : String := String.ofList (shownChars text.toList)

end BoundaryLint.Report
