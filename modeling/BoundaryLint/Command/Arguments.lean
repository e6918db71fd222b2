import BoundaryLint.Severity
import BoundaryLint.Source.Numeral

/-!
The arguments of the command. Options may stand anywhere; a long one may be shortened as long as
only one option is meant, its value may follow an equals sign, and short options may be joined.
After two dashes nothing is an option.
-/

namespace BoundaryLint.Command

inductive Format where
  | json
  | console
  | text
deriving DecidableEq, Repr

def Format.all : List Format := [.json, .console, .text]

def Format.name : Format → String
  | .json => "json"
  | .console => "rich"
  | .text => "text"

structure Arguments where
  path : String := "."
  config : Option String := none
  format : Format := .text
  minSeverity : Option Severity := none
  workers : Option Int := none
  verbose : Bool := false
deriving DecidableEq, Repr

inductive Flag where
  | help
  | config
  | format
  | minSeverity
  | workers
  | verbose
  | version
deriving DecidableEq, Repr

namespace Flag

def all : List Flag := [.help, .config, .format, .minSeverity, .workers, .verbose, .version]

def names : Flag → List String
  | .help => ["-h", "--help"]
  | .config => ["--config"]
  | .format => ["--format"]
  | .minSeverity => ["--min-severity"]
  | .workers => ["--workers"]
  | .verbose => ["-v", "--verbose"]
  | .version => ["--version"]

def takesValue : Flag → Bool
  | .help | .verbose | .version => false
  | .config | .format | .minSeverity | .workers => true

def named : List (String × Flag) := all.flatMap fun flag => flag.names.map fun name => (name, flag)

def title (flag : Flag) : String := "/".intercalate flag.names

end Flag

inductive UsageError where
  | unrecognized (words : List String)
  | ambiguous (word : String) (names : List String)
  | missingValue (flag : Flag)
  | unwantedValue (flag : Flag) (value : String)
  | notChoice (flag : Flag) (value : String) (choices : List String)
  | notNumber (flag : Flag) (value : String)
  | notDirectory (path : String)
deriving DecidableEq, Repr

def UsageError.message : UsageError → String
  | .unrecognized words => "unrecognized arguments: " ++ " ".intercalate words
  | .ambiguous word names => s!"ambiguous option: {word} could match " ++ ", ".intercalate names
  | .missingValue flag => s!"argument {flag.title}: expected one argument"
  | .unwantedValue flag value =>
    s!"argument {flag.title}: ignored explicit argument {Text.quoted value}"
  | .notChoice flag value choices =>
    s!"argument {flag.title}: invalid choice: {Text.quoted value} (choose from " ++
      ", ".intercalate (choices.map Text.quoted) ++ ")"
  | .notNumber flag value => s!"argument {flag.title}: invalid int value: {Text.quoted value}"
  | .notDirectory path => s!"not a directory: {path}"

inductive Stop where
  | usage (error : UsageError)
  | help
  | version
deriving DecidableEq, Repr

/-- A value written in the word of its option, after an equals sign or right after the letter. -/
structure Attached where
  text : String
  afterSign : Bool
deriving DecidableEq, Repr

inductive Role where
  | operand
  | option (name : String) (flag : Flag) (attached : Option Attached)
  | unknownOption
  | divider
deriving DecidableEq, Repr

structure Word where
  text : String
  role : Role
deriving DecidableEq, Repr

def cutAtSign (text : String) : String × Option Attached :=
  let name := text.toList.takeWhile (· ≠ '=')
  if name.length < text.toList.length then
    (String.ofList name, some ⟨String.ofList (text.toList.drop (name.length + 1)), true⟩)
  else (text, none)

def longMatches (text : String) : List (String × Flag × Option Attached) :=
  let (start, attached) := cutAtSign text
  Flag.named.filterMap fun (name, flag) =>
    if Text.startsWith name start then some (name, flag, attached) else none

/-- The options that a word with one dash may mean: its letter with a value after it, or a name that
starts with the whole word. -/
def shortMatches (text : String) : List (String × Flag × Option Attached) :=
  let letter := String.ofList (text.toList.take 2)
  Flag.named.filterMap fun (name, flag) =>
    if name = letter then some (name, flag, some ⟨String.ofList (text.toList.drop 2), false⟩)
    else if Text.startsWith name text then some (name, flag, none)
    else none

def isDigits (chars : List Char) : Bool := chars.all fun c => (Text.decimalValue? c).isSome

/-- A word that looks like a negative number; a line feed may end it. -/
def looksNegative (text : String) : Bool :=
  match text.toList with
  | '-' :: rest =>
    let body := if rest.getLast? = some '\n' then rest.dropLast else rest
    let whole := body.takeWhile (· ≠ '.')
    let fraction := body.drop (whole.length + 1)
    if whole.length < body.length then
      isDigits whole && isDigits fraction && !fraction.isEmpty
    else isDigits whole && !whole.isEmpty
  | _ => false

def roleByStart (text : String) : Except UsageError Role :=
  let found := if Text.startsWith text "--" then longMatches text else shortMatches text
  match found with
  | [(name, flag, attached)] => .ok (.option name flag attached)
  | [] =>
    .ok (if looksNegative text || Text.contains text " " then .operand else .unknownOption)
  | _ => .error (.ambiguous text (found.map (·.1)))

def roleOf (text : String) : Except UsageError Role :=
  if !Text.startsWith text "-" || text = "-" then .ok .operand
  else
    match Flag.named.lookup text with
    | some flag => .ok (.option text flag none)
    | none =>
      match cutAtSign text with
      | (name, some attached) =>
        match Flag.named.lookup name with
        | some flag => .ok (.option name flag (some attached))
        | none => roleByStart text
      | (_, none) => roleByStart text

def assignRoles : List String → Except UsageError (List Word)
  | [] => .ok []
  | text :: rest =>
    if text = "--" then .ok (⟨text, .divider⟩ :: rest.map (⟨·, .operand⟩))
    else do return ⟨text, ← roleOf text⟩ :: (← assignRoles rest)

/-- The flags that letters stand for which follow a letter in one word. A letter that stands for
nothing is left over with what follows it. -/
def joinedFlags (name : String) (flag : Flag) (afterSign : Bool) :
    List Char → Except UsageError (List Flag × Option String)
  | [] => .error (.unwantedValue flag "")
  | letter :: rest =>
    if afterSign || letter = '-' || Text.startsWith name "--" then
      .error (.unwantedValue flag (String.ofList (letter :: rest)))
    else
      let next := String.ofList ['-', letter]
      match Flag.named.lookup next with
      | none => .ok ([flag], some (String.ofList ('-' :: letter :: rest)))
      | some other =>
        match rest with
        | [] => .ok ([flag, other], none)
        | '=' :: value => .error (.unwantedValue other (String.ofList value))
        | _ => do
          let (flags, left) ← joinedFlags next other false rest
          return (flag :: flags, left)

def chosen {α : Type} (flag : Flag) (value : String) (choices : List α) (name : α → String) :
    Except Stop α :=
  match choices.find? (name · = value) with
  | some choice => .ok choice
  | none => .error (.usage (.notChoice flag value (choices.map name)))

def apply (arguments : Arguments) (flag : Flag) (value : String) : Except Stop Arguments :=
  match flag with
  | .help => .error .help
  | .version => .error .version
  | .verbose => .ok { arguments with verbose := true }
  | .config => .ok { arguments with config := some value }
  | .format => do return { arguments with format := ← chosen flag value Format.all Format.name }
  | .minSeverity => do
    return { arguments with minSeverity := ← chosen flag value Severity.all Severity.name }
  | .workers =>
    match Numeral.whole? value with
    | some count => .ok { arguments with workers := some count }
    | none => .error (.usage (.notNumber flag value))

structure Progress where
  arguments : Arguments := {}
  pathTaken : Bool := false
  extra : List String := []

namespace Progress

def leave (progress : Progress) (texts : List String) : Progress :=
  { progress with extra := progress.extra ++ texts }

def operand (progress : Progress) (text : String) : Progress :=
  if progress.pathTaken then progress.leave [text]
  else { progress with arguments.path := text, pathTaken := true }

def applyAll (progress : Progress) (flags : List Flag) : Except Stop Progress := do
  let arguments ← flags.foldlM (fun arguments flag => apply arguments flag "") progress.arguments
  return { progress with arguments }

def attached (progress : Progress) (name : String) (flag : Flag) (value : Attached) :
    Except Stop Progress := do
  if flag.takesValue then
    return { progress with arguments := ← apply progress.arguments flag value.text }
  else
    let (flags, left) ←
      (joinedFlags name flag value.afterSign value.text.toList).mapError .usage
    (progress.leave left.toList).applyAll flags

/-- The words after the last option. The divider is taken along with the path. -/
def finish (progress : Progress) (words : List Word) : Progress :=
  if progress.pathTaken then progress.leave (words.map (·.text))
  else
    match words with
    | [] => progress
    | ⟨_, .divider⟩ :: [] => progress
    | ⟨_, .divider⟩ :: word :: rest => (progress.operand word.text).leave (rest.map (·.text))
    | word :: ⟨_, .divider⟩ :: rest => (progress.operand word.text).leave (rest.map (·.text))
    | word :: rest => (progress.operand word.text).leave (rest.map (·.text))

end Progress

def Word.isOption (word : Word) : Bool :=
  match word.role with
  | .option _ _ _ | .unknownOption => true
  | .operand | .divider => false

def readWords (progress : Progress) : List Word → Except Stop Progress
  | [] => .ok (progress.finish [])
  | word :: rest =>
    if !(word :: rest).any Word.isOption then .ok (progress.finish (word :: rest))
    else
      match word.role with
      | .operand | .divider => readWords (progress.operand word.text) rest
      | .unknownOption => readWords (progress.leave [word.text]) rest
      | .option name flag (some value) => do readWords (← progress.attached name flag value) rest
      | .option _ flag none =>
        if flag.takesValue then
          match rest with
          | ⟨value, .operand⟩ :: rest => do
            let arguments ← apply progress.arguments flag value
            readWords { progress with arguments } rest
          | _ => .error (.usage (.missingValue flag))
        else do readWords (← progress.applyAll [flag]) rest

def Arguments.parse (texts : List String) : Except Stop Arguments := do
  let words ← (assignRoles texts).mapError .usage
  let progress ← readWords {} words
  if progress.extra.isEmpty then return progress.arguments
  else throw (.usage (.unrecognized progress.extra))

end BoundaryLint.Command
