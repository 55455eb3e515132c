import EffectSurvey.Analyzer
import EffectSurvey.Summaries

/-! A batch: each package of a list is resolved, analyzed and decoded, and the results are put together
in the order of the list. -/
namespace EffectSurvey

structure BatchOptions where
  sourceDir : String
  /-- Packages are never fetched. -/
  testMode : Bool
  /-- How many packages may be under way at once. Results are always taken in the order of the list. -/
  concurrency : Nat
  /-- A package with a bad transcript is skipped and does not end the run. -/
  skipMalformed : Bool
  /-- How many progress messages a run gives, roughly; none for zero. -/
  progressIncrements : Nat
  deriving DecidableEq, Repr

structure Outcome where
  summaries : Summaries
  findings : List Finding
  skipped : List String
  deriving DecidableEq

namespace Outcome

/-- Before the first result all packages are known, with no findings. -/
def start (packages : List String) : Outcome := ⟨Summaries.withPackages packages, [], []⟩

/-- Adds the scan of a package. -/
def absorb (o : Outcome) (scan : PackageScan) : Outcome where
  summaries := o.summaries.merge (Summaries.empty.foldScan scan)
  findings := o.findings ++ scan.findings
  skipped := o.skipped

/-- A package that was never scanned must not pass for one without findings. -/
def skip (o : Outcome) (package : String) : Outcome where
  summaries := o.summaries.unregister package
  findings := o.findings
  skipped := o.skipped ++ [package]

/-- Takes the result of one package, unless it ends the run. -/
def deliver (skipMalformed : Bool) (o : Outcome) :
    Except ScanError PackageScan → Except ScanError Outcome
  | .ok scan => .ok (o.absorb scan)
  | .error e => if e.isFatal skipMalformed then .error e else .ok (o.skip e.package)

end Outcome

namespace Batch

/-- Resolves, analyzes and decodes one package. -/
def scanPackage (fetcher : Fetcher) (analyzer : Analyzer) (options : BatchOptions) (name : String) :
    Work ScanError PackageScan := do
  let dir ← ensureSource fetcher options.sourceDir options.testMode name
  let output ← analyzer ⟨name, dir⟩
  match Transcript.read name output with
  | .ok scan =>
    scan.findings.forM fun finding => Work.log .debug ("effect found: " ++ finding.row)
    return scan
  | .error e => Work.fail (.badTranscript name e)

/-- After how many packages progress is told; never for zero. -/
def progressStep (total increments : Nat) : Nat :=
  match increments with
  | 0 => 0
  | n => total / n

/-- The message after `done` of `total` packages, if one is due. -/
def progress? (total increments done : Nat) : Option String :=
  let step := progressStep total increments
  if 0 < step ∧ done < total ∧ done % step = 0 then
    some (Text.decimal (100 * done / total) ++ "% complete")
  else none

/-- A skipped package is told of: a missing source as a warning, all else as an error. -/
def tellSkip : Except ScanError PackageScan → Work ScanError Unit
  | .ok _ => pure ()
  | .error (.sourceMissing package path) =>
    Work.log .warn (ScanError.sourceMissing package path).message
  | .error e => Work.log .error (e.message ++ "; skipping crate")

/-- Takes the packages one after the other, after `done` of `total` have been taken. -/
def takeAll (scan : String → Work ScanError PackageScan) (options : BatchOptions) (total : Nat) :
    (done : Nat) → Outcome → List String → Work ScanError Outcome
  | _, outcome, [] => pure outcome
  | done, outcome, name :: rest => do
    let result ← (scan name).attempt
    match outcome.deliver options.skipMalformed result with
    | .error e => Work.fail e
    | .ok next =>
      tellSkip result
      match progress? total options.progressIncrements (done + 1) with
      | some message => Work.log .info message
      | none => pure ()
      takeAll scan options total (done + 1) next rest

/-- Scans the packages and puts the results together, up to the first fatal error. -/
def run (fetcher : Fetcher) (analyzer : Analyzer) (options : BatchOptions) (packages : List String) :
    Work ScanError Outcome :=
  takeAll (scanPackage fetcher analyzer options) options packages.length 0 (Outcome.start packages)
    packages

end Batch
end EffectSurvey
