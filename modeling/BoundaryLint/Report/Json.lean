import BoundaryLint.Lint.Result
import BoundaryLint.Text.Quoted

/-!
The result of a run as JSON. Only ASCII characters are written; all others are escaped by their
UTF-16 units.
-/

namespace BoundaryLint.Report

inductive Json where
  | boolean (value : Bool)
  | number (value : Nat)
  | text (value : String)
  | array (items : List Json)
  | object (members : List (String × Json))

namespace Json

def unitEscape (unit : Nat) : List Char := '\\' :: 'u' :: Text.hexDigits 4 unit

def escapeChar (c : Char) : List Char :=
  if c = '"' then ['\\', '"']
  else if c = '\\' then ['\\', '\\']
  else if c = '\n' then ['\\', 'n']
  else if c = '\r' then ['\\', 'r']
  else if c = '\t' then ['\\', 't']
  else if c = '\x0c' then ['\\', 'f']
  else if c = '\x08' then ['\\', 'b']
  else if 32 ≤ c.toNat ∧ c.toNat < 127 then [c]
  else if c.toNat < 0x10000 then unitEscape c.toNat
  else
    let offset := c.toNat - 0x10000
    unitEscape (0xD800 + offset / 0x400) ++ unitEscape (0xDC00 + offset % 0x400)

def string (text : String) : String :=
  String.ofList ('"' :: text.toList.flatMap escapeChar ++ ['"'])

/-- The line break and the indentation at a depth. Without an indentation there is none. -/
def break? (indent : Option Nat) (depth : Nat) : String :=
  match indent with
  | none => ""
  | some width => "\n" ++ String.ofList (List.replicate (width * depth) ' ')

def bracketed (indent : Option Nat) (depth : Nat) (opening closing : String)
    (items : List String) : String :=
  if items.isEmpty then opening ++ closing
  else
    let separator := if indent.isSome then "," ++ break? indent (depth + 1) else ", "
    opening ++ break? indent (depth + 1) ++ separator.intercalate items ++ break? indent depth ++
      closing

mutual

def render (indent : Option Nat) (depth : Nat) : Json → String
  | .boolean value => if value then "true" else "false"
  | .number value => toString value
  | .text value => string value
  | .array items => bracketed indent depth "[" "]" (renderItems indent (depth + 1) items)
  | .object members =>
    bracketed indent depth "\x7b" "\x7d" (renderMembers indent (depth + 1) members)

def renderItems (indent : Option Nat) (depth : Nat) : List Json → List String
  | [] => []
  | item :: rest => render indent depth item :: renderItems indent depth rest

def renderMembers (indent : Option Nat) (depth : Nat) : List (String × Json) → List String
  | [] => []
  | member :: rest => renderMember indent depth member :: renderMembers indent depth rest

def renderMember (indent : Option Nat) (depth : Nat) : String × Json → String
  | (key, value) => s!"{string key}: {render indent depth value}"

end

end Json

def issueJson (issue : Issue) : Json :=
  .object [("rule_id", .text issue.ruleId), ("severity", .text issue.severity.name),
    ("category", .text issue.category.name), ("family", .text issue.family.name),
    ("file", .text issue.file), ("line", .number issue.line), ("trigger", .text issue.trigger),
    ("message", .text issue.message), ("exit_status", .number issue.exitStatus)]

def resultJson (result : LintResult) : Json :=
  .object [("passed", .boolean result.passed), ("exit_status", .number result.exitStatus),
    ("summary", .object [("files_checked", .number result.filesChecked),
      ("issue_count", .number result.issues.length),
      ("by_rule", .object (result.byRule.map fun (id, count) => (id, .number count)))]),
    ("issues", .array (result.issues.map issueJson))]

def json (indent : Option Nat) (result : LintResult) : String :=
  (resultJson result).render indent 0 ++ "\n"

end BoundaryLint.Report
