import BoundaryLint.Config.File
import BoundaryLint.Lint.Run
import BoundaryLint.Project.Sources

/-!
A run over a project on a disk: the configuration is read first, then the sources, and then all of
them are checked.
-/

namespace BoundaryLint.Project

inductive Fault where
  | config (fault : Config.FileFault)
  | source (fault : SourceFault)
  | lint (fault : Lint.Fault)
  | missingRoot (root : DiskPath)

def missingRootMessage (root : DiskPath) : String :=
  s!"layerguard_root '{root.toText}' does not exist. " ++
    "Configure layerguard_root in pytest.ini or pyproject.toml."

def Fault.message : Fault → String
  | .config fault => fault.message
  | .source fault => fault.message
  | .lint fault => fault.message
  | .missingRoot root => missingRootMessage root

def lint [Host] (disk : Disk) (root : DiskPath) (config : Config) : Except Fault LintResult := do
  let engine ← (Lint.Engine.ofConfig config).mapError (.config ∘ .config)
  let paths ← (sources disk root config.included config.excluded).mapError .source
  let files ← (readSources disk root paths).mapError .source
  (Lint.run engine (disk.probe root) files).mapError .lint

def discoverAndLint [Host] (disk : Disk) (root : DiskPath) : Except Fault LintResult := do
  lint disk root (← (Config.discover disk root).mapError .config)

def suiteRoot (suite : DiskPath) (setting : String) : DiskPath :=
  suite.child (if setting = "" then "." else setting)

/-- Checks the project of a test suite. Unlike a run it tells a root that is not there apart. -/
def lintSuite [Host] (disk : Disk) (root : DiskPath) : Except Fault LintResult := do
  let config ← (Config.discover disk root).mapError .config
  if ← (disk.isDirectory root).mapError fun fault => .source (.disk fault root) then
    lint disk root config
  else throw (.missingRoot root)

end BoundaryLint.Project
