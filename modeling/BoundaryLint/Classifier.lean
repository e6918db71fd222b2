import BoundaryLint.Host.Basic
import BoundaryLint.Layer

/-!
The layer of a file, from patterns over its module name and its path. The groups are tried in order;
the interface comes first, so that a web file with `/domain/` in its path stays in the interface.
-/

namespace BoundaryLint

abbrev PatternGroups := List (Layer × List String)

def defaultPatterns : PatternGroups :=
  [(.interface, ["(?i)_web\\b", "\\bMix\\.Tasks\\.", "/mix/tasks/"]),
    (.domain, ["\\.Domain\\b", "/domain/"]),
    (.application, ["\\.Application\\.", "\\.ApplicationLayer\\b", "/application/"]),
    (.infrastructure, ["\\.Infrastructure\\b", "/infrastructure/"])]

structure Classifier where
  groups : List (Layer × List (String → Bool))

namespace Classifier

structure Fault where
  layer : Layer
  reason : Reason
deriving DecidableEq, Repr

abbrev Reader := String → Except Reason (String → Bool)

def readGroup (read : Reader) (group : Layer × List String) :
    Except Fault (Layer × List (String → Bool)) := do
  let tests ← group.2.mapM fun pattern =>
    (read pattern).mapError fun reason => ⟨group.1, reason⟩
  return (group.1, tests)

def ofPatterns (read : Reader) (groups : PatternGroups) : Except Fault Classifier := do
  return ⟨← groups.mapM (readGroup read)⟩

def subject (path : String) (moduleName : Option String) : String :=
  moduleName.getD "" ++ " " ++ path

def classify (classifier : Classifier) (path : String) (moduleName : Option String) : Layer :=
  let text := subject path moduleName
  ((classifier.groups.find? fun group => group.2.any (· text)).map (·.1)).getD
    .unknown

end Classifier

end BoundaryLint
