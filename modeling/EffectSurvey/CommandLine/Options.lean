import EffectSurvey.Report.Delivery

/-! What the command line asks for, the checks on it, and the log level it sets. -/
namespace EffectSurvey

structure Options where
  /-- A single package to scan. -/
  package : Option String
  /-- A file that lists packages. -/
  listFile : Option String
  testRun : Bool
  /-- The start of the names of the report files. -/
  reportStart : Option String
  /-- Only the standard library is looked at. -/
  stdOnly : Bool
  verbosity : Nat
  quiet : Bool
  settingsFile : Option String
  concurrency : Option Nat
  skipMalformed : Bool
  noHeader : Bool
  sortKey : Option SortKey
  format : Report.Format
  /-- Write a file with the default settings and stop. -/
  initSettings : Bool
  deriving DecidableEq, Repr

/-- Why options that can be read cannot be followed. -/
inductive OptionError where
  | verbosity
  | emptyPackage
  | noConcurrency
  | emptyReportStart
  | loudAndQuiet
  | noListFile (path : String)
  deriving DecidableEq, Repr

namespace Options

def maxVerbosity : Nat := 4

end Options

def OptionError.message : OptionError → String
  | .verbosity =>
    "verbosity only goes up to " ++ Text.decimal Options.maxVerbosity ++ " (-vvvv)"
  | .emptyPackage => "Crate name must not be empty"
  | .noConcurrency => "Concurrency must be at least 1"
  | .emptyReportStart => "Output prefix must not be empty"
  | .loudAndQuiet => "Cannot use both --verbose and --quiet"
  | .noListFile path => "Crate list does not exist: " ++ path

namespace Options

/-- The first check that fails. To write the settings file only the verbosity matters. -/
def check (o : Options) (files : FileTree) : Except OptionError Unit := do
  if maxVerbosity < o.verbosity then throw .verbosity
  if o.initSettings then return
  if o.package.any fun name => Text.trim name = "" then throw .emptyPackage
  if o.concurrency = some 0 then throw .noConcurrency
  if o.reportStart = some "" then throw .emptyReportStart
  if o.quiet && 0 < o.verbosity then throw .loudAndQuiet
  match o.listFile with
  | some path => if files.isFile path then return else throw (.noListFile path)
  | none => return

/-- Messages up to this level are shown. -/
def logLevel (o : Options) : Level :=
  if o.quiet then .error
  else
    match o.verbosity with
    | 0 | 3 => .info
    | 1 => .error
    | 2 => .warn
    | _ => .debug

/-- An optional value of the dump. -/
def shownOption (show? : Option String) : String :=
  match show? with
  | some text => "Some(" ++ text ++ ")"
  | none => "None"

def shownBool (b : Bool) : String := if b then "true" else "false"

def shownKey : SortKey → String
  | .column index => "Column(" ++ Text.decimal index ++ ")"
  | .raw => "Raw"

/-- All options on one line, for the log. -/
def dump (o : Options) : String :=
  let fields :=
    [("krate", shownOption (o.package.map Text.quoted)),
     ("infile", shownOption (o.listFile.map Text.quoted)),
     ("test_run", shownBool o.testRun),
     ("output_prefix", shownOption (o.reportStart.map Text.quoted)),
     ("std", shownBool o.stdOnly),
     ("verbose", Text.decimal o.verbosity),
     ("quiet", shownBool o.quiet),
     ("config", shownOption (o.settingsFile.map Text.quoted)),
     ("concurrency", shownOption (o.concurrency.map Text.decimal)),
     ("skip_malformed", shownBool o.skipMalformed),
     ("no_header", shownBool o.noHeader),
     ("metadata_sort", shownOption (o.sortKey.map shownKey)),
     ("format", match o.format with
       | .text => "Text"
       | .json => "Json"),
     ("init_config", shownBool o.initSettings)]
  "Args \x7b " ++ String.intercalate ", " (fields.map fun (name, value) => name ++ ": " ++ value) ++
    " \x7d"

end Options
end EffectSurvey
