import EffectSurvey.Analyzer
import EffectSurvey.CommandLine.Options

/-! The settings of a run, their defaults, and what the command line overrides. -/
namespace EffectSurvey

namespace Settings

/-- Where packages and results are kept. -/
structure Paths where
  packagesDir : String := "data/packages"
  testPackagesDir : String := "data/test-packages"
  resultsDir : String := "data/results"
  deriving DecidableEq, Repr

/-- How the analyzer is called. -/
structure Analyzer where
  command : String := "./target/release/scan"
  args : List String := ["-e"]
  /-- Added to the arguments when only the standard library is looked at. -/
  stdFlag : String := "--std"
  deriving DecidableEq, Repr

/-- How packages are fetched. -/
structure Fetch where
  command : List String := ["cargo", "download", "-x"]
  outputFlag : String := "-o"
  deriving DecidableEq, Repr

structure Report where
  sortKey : SortKey := .column 0
  progressIncrements : Nat := 10
  deriving DecidableEq, Repr

structure Run where
  concurrency : Nat := 1
  skipMalformed : Bool := false
  deriving DecidableEq, Repr

end Settings

structure Settings where
  paths : Settings.Paths := {}
  analyzer : Settings.Analyzer := {}
  fetch : Settings.Fetch := {}
  report : Settings.Report := {}
  run : Settings.Run := {}
  deriving DecidableEq, Repr

namespace Settings

def fileName : String := ".scan-batch.toml"

/-- What the command line gives wins. -/
def override (s : Settings) (o : Options) : Settings :=
  { s with
    run :=
      { concurrency := o.concurrency.getD s.run.concurrency
        skipMalformed := o.skipMalformed || s.run.skipMalformed }
    report := { s.report with sortKey := o.sortKey.getD s.report.sortKey } }

/-- The directory that holds the sources of a run. -/
def sourceDir (s : Settings) (testRun : Bool) : String :=
  if testRun then s.paths.testPackagesDir else s.paths.packagesDir

def analyzerCommand (s : Settings) (stdOnly : Bool) : AnalyzerCommand where
  program := s.analyzer.command
  args := s.analyzer.args ++ if stdOnly then [s.analyzer.stdFlag] else []

def fetchCommand (s : Settings) : FetchCommand := ⟨s.fetch.command, s.fetch.outputFlag⟩

end Settings
end EffectSurvey
