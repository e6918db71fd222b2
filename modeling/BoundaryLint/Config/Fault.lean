import BoundaryLint.Classifier
import BoundaryLint.Config.Value
import BoundaryLint.Severity

/-!
Why a configuration is refused: the setting that is wrong, and what is wrong with it.
-/

namespace BoundaryLint.Config

inductive Cause where
  | notTable
  | notTableOrBoolean
  | notStrings
  | notInteger (found : Value)
  | notSeverity (found : Value)
  | unknownSeverity (unknown : Severity.Unknown)
  | unknownKey (key : String)
  | unknownLayer (name : String)
  | patternsOfFallback
  | groupOfFallback
  | duplicateGroup (layer : Layer)
  | badPattern (pattern : String) (reason : Reason)
  | unreadablePattern (reason : Reason)
  | enabledNotBoolean
  | statusNotInteger
  | statusOutOfRange (found : Int)
  | tooFewWorkers (found : Int)
  | notRuleSettings (kind : String)
  | unknownRule
  | unknownOption (key : String)
  | optionNotBoolean (key : String)
  | optionNotInteger (key : String)
  | optionNotText (key : String)
  | optionNotStrings (key : String)
  | optionNotTable (key : String)
  | optionNotTextTable (key : String)
  | thresholdTooLow (found : Int)
  /-- An item of an option cannot be written out. -/
  | unwritableItem (reason : Value.Unwritable)
  | unreadableFile (reason : String)
  | badDocument (reason : String)
deriving Repr

def Cause.message : Cause → String
  | .notTable => "must be a table"
  | .notTableOrBoolean => "must be a table or a boolean"
  | .notStrings => "must be a list of strings"
  | .notInteger found => s!"must be an integer, got {found.shown}"
  | .notSeverity found => s!"must be a severity name, got {found.shown}"
  | .unknownSeverity unknown => unknown.message
  | .unknownKey key => s!"unknown key {Text.quoted key}"
  | .unknownLayer name => s!"unknown layer {Text.quoted name}"
  | .patternsOfFallback => "the unknown layer is the fallback and takes no patterns"
  | .groupOfFallback => "UNKNOWN is the fallback, not a pattern group"
  | .duplicateGroup layer => s!"duplicate group for {layer.name}"
  | .badPattern pattern reason => s!"bad regex {Text.quoted pattern}: {reason.val}"
  | .unreadablePattern reason => reason.val
  | .enabledNotBoolean => "'enabled' must be a boolean"
  | .statusNotInteger => "'exit_status' must be an integer"
  | .statusOutOfRange found => s!"must be 0-255, got {found}"
  | .tooFewWorkers found => s!"must be >= 1, got {found}"
  | .notRuleSettings kind => s!"expected RuleConfig, got {kind}"
  | .unknownRule => "unknown rule id"
  | .unknownOption key => s!"unknown option {Text.quoted key}"
  | .optionNotBoolean key => s!"option {Text.quoted key} must be a boolean"
  | .optionNotInteger key => s!"option {Text.quoted key} must be an integer"
  | .optionNotText key => s!"option {Text.quoted key} must be a string"
  | .optionNotStrings key => s!"option {Text.quoted key} must be a list of strings"
  | .optionNotTable key => s!"option {Text.quoted key} must be a table"
  | .optionNotTextTable key => s!"option {Text.quoted key} must map strings to strings"
  | .thresholdTooLow found => s!"with_clause_threshold must be >= 1, got {found}"
  | .unwritableItem reason => reason.message
  | .unreadableFile reason => s!"cannot read: {reason}"
  | .badDocument reason => s!"invalid TOML: {reason}"

def Cause.unwritable? [Host] : Cause → Option Value.Unwritable
  | .notInteger found | .notSeverity found => found.unwritable?
  | .statusOutOfRange found | .tooFewWorkers found | .thresholdTooLow found =>
    (Value.integer found).unwritable?
  | .unwritableItem reason => some reason
  | _ => none

structure Fault where
  subject : String
  cause : Cause
deriving Repr

structure Complaint where
  subject : String
  reason : String
deriving DecidableEq, Repr

namespace Complaint

inductive Fault where
  | emptySubject
  | emptyReason
  | unwritable (reason : Value.Unwritable)
deriving DecidableEq, Repr

def Fault.message : Fault → String
  | .emptySubject => "subject must not be empty"
  | .emptyReason => "reason must not be empty"
  | .unwritable reason => reason.message

def make (subject reason : String) : Except Fault Complaint :=
  if subject = "" then .error .emptySubject
  else if reason = "" then .error .emptyReason
  else .ok ⟨subject, reason⟩

def message (complaint : Complaint) : String :=
  s!"Invalid configuration '{complaint.subject}': {complaint.reason}"

end Complaint

/-- The complaint about a fault. A rule with an empty name leaves it without a subject, and a value
that cannot be written out without a reason. -/
def Fault.complaint [Host] (fault : Fault) : Except Complaint.Fault Complaint :=
  match fault.cause.unwritable? with
  | some reason => .error (.unwritable reason)
  | none => Complaint.make fault.subject fault.cause.message

end BoundaryLint.Config
