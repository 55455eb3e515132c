import EffectSurvey.Failure
import EffectSurvey.Report.Digest

/-! The reports on their way out: to the log, or to four files that share the start of their names. -/
namespace EffectSurvey.Report

inductive Format where
  | text
  | json
  deriving DecidableEq, Repr

structure Paths where
  findings : String
  patterns : String
  packages : String
  metadata : String
  deriving DecidableEq, Repr

def Paths.of (dir start : String) : Paths where
  findings := Path.join dir (start ++ "_all.csv")
  patterns := Path.join dir (start ++ "_pattern.txt")
  packages := Path.join dir (start ++ "_summary.txt")
  metadata := Path.join dir (start ++ "_metadata.csv")

inductive Destination where
  | log (format : Format)
  | files (paths : Paths)
  deriving DecidableEq, Repr

/-- Writes a text to a temporary file and lets everyone read it. If either fails, the temporary file is
removed. -/
def fill (disk : Disk) (temporary : Location) (path content : String) : Work Failure Unit :=
  Work.onFailure (fun _ files => files.remove temporary) do
    (disk.write temporary (Text.Utf8.encode content)).mapError (.unwritten path)
    (disk.setMode temporary readableMode).mapError (.modeRefused path)

/-- Puts a text in the place of a file at once: it is written to a temporary file beside it, which then
takes its name. If it cannot, the failure holds on to it. -/
def save (disk : Disk) (path content : String) : Work Failure Unit := do
  let dir := Path.directory path
  (makeDirectories dir).mapError (.resultsDirectory dir)
  let temporary ← (Work.act (·.makeTemporary dir)).mapError (.temporaryFile dir)
  fill disk temporary path content
  (Work.change (·.rename temporary path)).mapError (.unsaved path · temporary)

def saveAll (disk : Disk) (paths : Paths) (s : Summaries) (found : List Finding) (key : SortKey) :
    Work Failure Unit := do
  Work.log .info ("Saving all results to " ++ paths.findings)
  save disk paths.findings (findings found)
  Work.log .info ("Saving pattern totals to " ++ paths.patterns)
  save disk paths.patterns (patterns s)
  Work.log .info ("Saving summary to " ++ paths.packages)
  save disk paths.packages (packages s)
  Work.log .info ("Saving metadata to " ++ paths.metadata)
  save disk paths.metadata (metadata s key)

def logAll (s : Summaries) (key : SortKey) : Format → Work Failure Unit
  | .text => do
    Work.log .info (Text.trimEnd (patterns s))
    Work.log .info (Text.trimEnd (packages s))
    Work.log .info (metadata s key)
  | .json => Work.log .info (json s key)

/-- Sends the reports off. A temporary file that a failure holds on to is still there. -/
def send (disk : Disk) (s : Summaries) (found : List Finding) (key : SortKey) :
    Destination → Work Failure Unit
  | .log format => logAll s key format
  | .files paths => saveAll disk paths s found key

/-- Sends the reports off, and leaves no temporary file. -/
def deliver (disk : Disk) (s : Summaries) (found : List Finding) (key : SortKey)
    (destination : Destination) : Work Failure Unit :=
  (send disk s found key destination).onFailure Failure.release

end EffectSurvey.Report
