import EffectSurvey.Batch
import EffectSurvey.CommandLine.Parse
import EffectSurvey.PackageList.Load
import EffectSurvey.Settings.File

/-! The whole program: from the words of the command line to an exit code, two streams of text and the
files left behind. -/
namespace EffectSurvey

structure Ending where
  exitCode : Nat
  stdout : String
  stderr : String
  files : FileTree

namespace Workflow

def programName : String := "scan-batch"

def programVersion : String := "0.1.0"

/-- Settings named on the command line must be there and in order. Those of the usual name may be
missing, and are done without if they cannot be read. -/
def loadSettings (o : Options) : Work Failure Settings := do
  match o.settingsFile with
  | some path =>
    Work.log .info ("Loading config from: " ++ path)
    Settings.load path
  | none =>
    match ← Settings.loadUsual.attempt with
    | .ok (some settings) =>
      Work.log .info ("Loaded default config from " ++ Settings.fileName)
      return settings
    | .ok none =>
      Work.log .debug "No config file found, using defaults"
      return {}
    | .error failure =>
      Work.log .warn ("Failed to load config: " ++ failure.headline)
      return {}

/-- The packages to scan, and how the log calls them. -/
def choosePackages (o : Options) : Work Failure (List String × String) := do
  match o.package, o.listFile with
  | some name, _ => return ([Text.trim name], Text.trim name)
  | none, some path =>
    let names ← loadPackageList path (!o.noHeader)
    return (names, Text.decimal names.length ++ " crates from " ++ path)
  | none, none => Work.fail .nothingNamed

/-- Logs a message if a condition holds. -/
def logIf {ε : Type} (condition : Bool) (level : Level) (message : String) : Work ε Unit :=
  if condition then Work.log level message else pure ()

def batchOptions (o : Options) (s : Settings) : BatchOptions where
  sourceDir := s.sourceDir o.testRun
  testMode := o.testRun
  concurrency := s.run.concurrency
  skipMalformed := s.run.skipMalformed
  progressIncrements := s.report.progressIncrements

/-- What a run is about to do. -/
structure Plan where
  settings : Settings
  packages : List String
  /-- How the log calls the packages. -/
  description : String

/-- All that comes before the first package: the settings, a check of the analyzer, and the packages. -/
def prepare (machine : Machine) (o : Options) : Work Failure Plan := do
  let settings := (← loadSettings o).override o
  (settings.analyzerCommand o.stdOnly).probe machine
  let (packages, description) ← choosePackages o
  return ⟨settings, packages, description⟩

/-- The batch of a plan. -/
def scan (machine : Machine) (o : Options) (plan : Plan) : Work Failure Outcome := do
  logIf (1 < plan.packages.length && o.reportStart.isNone) .warn
    "No results prefix specified; results of this run will not be saved"
  logIf o.testRun .info "=== Test run ==="
  let options := batchOptions o plan.settings
  Work.log .info ("=== Scanning " ++ plan.description ++ " in " ++ options.sourceDir ++ " ===")
  let fetcher := plan.settings.fetchCommand.fetcher machine
  let analyzer := (plan.settings.analyzerCommand o.stdOnly).analyzer machine
  let outcome ← (Batch.run fetcher analyzer options plan.packages).mapError .scan
  logIf (!outcome.skipped.isEmpty) .warn
    ("Skipped " ++ Text.decimal outcome.skipped.length ++ " of " ++
      Text.decimal plan.packages.length ++ " crates: " ++ String.intercalate ", " outcome.skipped)
  return outcome

/-- All that comes before the reports: settings, packages, and the outcome of the batch. -/
def survey (machine : Machine) (o : Options) : Work Failure (Settings × Outcome) := do
  let plan ← prepare machine o
  return (plan.settings, ← scan machine o plan)

/-- Counts that differ are only told of. -/
def tellInconsistency (s : Summaries) : Work Failure Unit :=
  match s.checkConsistency with
  | .ok () => pure ()
  | .error e => Work.log .error e.message

def destination (o : Options) (settings : Settings) : Report.Destination :=
  match o.reportStart with
  | some start => .files (.of settings.paths.resultsDir start)
  | none => .log o.format

/-- The reports of an outcome. A run ends with its failure in hand, so a temporary file that the failure
holds on to stays. -/
def report (disk : Disk) (o : Options) (settings : Settings) (outcome : Outcome) :
    Work Failure Unit := do
  tellInconsistency outcome.summaries
  Work.log .info "=== Results ==="
  logIf o.reportStart.isSome .info "=== Saving results ==="
  Report.send disk outcome.summaries outcome.findings settings.report.sortKey
    (destination o settings)

def run (machine : Machine) (o : Options) : Work Failure Unit := do
  let (settings, outcome) ← survey machine o
  report machine.disk o settings outcome

/-- A character of a log line. Those that could steer a terminal are spelled out. -/
def logChar (c : Char) : List Char :=
  let hex := Nat.toDigits 16 c.toNat
  match c with
  | '\x1b' | '\x7f' => ['\\', 'x'] ++ hex
  | '\x07' | '\x08' | '\x0c' => ['\\', 'x', '0'] ++ hex
  | _ => if 0x80 ≤ c.toNat ∧ c.toNat ≤ 0x9F then "\\u\x7b".toList ++ hex ++ ['\x7d'] else [c]

/-- The notes that a level lets through, a line each, though a message may itself span lines. -/
def logText (level : Level) (notes : List Note) : String :=
  String.join (notes.filterMap fun
    | .log l message =>
      if l.rank ≤ level.rank then
        some (l.name ++ " " ++ String.ofList (message.toList.flatMap logChar) ++ "\n")
      else none
    | _ => none)

/-- A run that begins its log with the version and the options. -/
def session (machine : Machine) (o : Options) : Work Failure Unit := do
  Work.log .debug (programName ++ " v" ++ programVersion)
  Work.log .debug ("Arguments: " ++ o.dump)
  run machine o

/-- The log of a finished run and its exit code. -/
def conclude (level : Level) (done : Done (Except Failure Unit)) : Ending :=
  match done.value with
  | .ok () => ⟨0, logText level done.notes, "", done.files⟩
  | .error failure =>
    let notes := done.notes ++ [.log .error ("Run failed: " ++ failure.message)]
    ⟨1, logText level notes, "Error: " ++ failure.message ++ "\n", done.files⟩

def runLogged (machine : Machine) (o : Options) (files : FileTree) : Ending :=
  conclude o.logLevel (session machine o files)

/-- Writes a file with the default settings, unless there is one. -/
def initSettings (files : FileTree) : Ending :=
  if files.pathExists Settings.fileName then
    ⟨1, "", Settings.fileName ++ " already exists. Remove it first or edit it manually.\n", files⟩
  else
    match files.write Settings.fileName (Text.Utf8.encode Settings.defaultText) with
    | .ok written =>
      ⟨0, "Created " ++ Settings.fileName ++ " with default settings.\n", "", written⟩
    | .error fault =>
      ⟨1, "", "Error: Failed to write " ++ Settings.fileName ++ "\n\nCaused by:\n    " ++
        fault.message ++ "\n", files⟩

def usage : String :=
  "Usage: " ++ programName ++ " [OPTIONS] <--crate <NAME>|--infile <FILE>|--init-config>\n"

/-- The answer to words that are not followed. -/
def refuse (e : CommandLine.UsageError) (files : FileTree) : Ending :=
  match e with
  | .helpAsked => ⟨0, usage, "", files⟩
  | .versionAsked => ⟨0, programName ++ " " ++ programVersion ++ "\n", "", files⟩
  | _ => ⟨2, "", usage, files⟩

def start (machine : Machine) (argv : List String) (files : FileTree) : Ending :=
  match CommandLine.parse argv with
  | .error e => refuse e files
  | .ok o =>
    match o.check files with
    | .error e => ⟨1, "", "Error: " ++ e.message ++ "\n", files⟩
    | .ok () => if o.initSettings then initSettings files else runLogged machine o files

end Workflow
end EffectSurvey
