import EffectSurvey.Failure
import EffectSurvey.Source

/-! The external analyzer, run once for each package directory. -/
namespace EffectSurvey

/-- A package and the directory of its source. -/
structure Package where
  name : String
  dir : String
  deriving DecidableEq, Repr

/-- Gives everything the analyzer prints for a package. -/
abbrev Analyzer := Package → Work ScanError Bytes

/-- How the analyzer is called: its program, and the arguments after the package directory. -/
structure AnalyzerCommand where
  program : String
  args : List String
  deriving DecidableEq, Repr

namespace AnalyzerCommand

def line (a : AnalyzerCommand) (package : Package) : List String :=
  a.program :: package.dir :: a.args

/-- Checks that the program starts and knows its own version. -/
def probe (a : AnalyzerCommand) (machine : Machine) : Work Failure Unit := do
  let completion ← (machine.run a.program ["--version"]).mapError (.analyzerMissing a.program)
  if completion.status.succeeded then pure ()
  else Work.fail (.analyzerRefused a.program completion.status)

/-- Runs the analyzer on a package. What it prints decides whether the run is of use, so a bad exit
status is only logged. -/
def analyzer (a : AnalyzerCommand) (machine : Machine) : Analyzer := fun package => do
  Work.log .debug ("Scanning crate: " ++ package.name)
  Work.log .debug ("Running: " ++ Text.quotedList (a.line package))
  let completion ← (machine.run a.program (package.dir :: a.args)).mapError fun fault =>
    .analyzerFailed package.name ("cannot run " ++ a.program ++ ": " ++ fault.message)
  if completion.status.succeeded then pure ()
  else
    Work.log .warn ("Analyzer exited with " ++ completion.status.message ++ " for crate " ++
      package.name ++ ": " ++ FetchCommand.spoken completion.stderr)
  return completion.stdout

end AnalyzerCommand
end EffectSurvey
