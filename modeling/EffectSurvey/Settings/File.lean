import EffectSurvey.Settings.Basic
import EffectSurvey.Toml.Document

/-! Settings in a file: how they are read from TOML, and the text of the defaults. -/
namespace EffectSurvey.Settings

open Toml (Fields Value)

def text? : Value → Option String
  | .string s => some s
  | _ => none

def texts? : Value → Option (List String)
  | .array items => items.mapM text?
  | _ => none

def count? : Value → Option Nat
  | .integer n => if 0 ≤ n then some n.toNat else none
  | _ => none

def switch? : Value → Option Bool
  | .boolean b => some b
  | _ => none

def sortKey? : Value → Option SortKey
  | .string s => (SortKey.read s).toOption
  | _ => none

/-- The fields of a section. An array gives them in order, and a date none at all. -/
def section? (names : List String) : Value → Option Fields
  | .table _ fields => some fields
  | .array items => some (names.zip items)
  | .rows tables => some (names.zip (tables.map (Value.table .explicit)))
  | .datetime => some []
  | _ => none

/-- The value of a key, or the default if the key is missing. A value of a wrong kind is refused. -/
def get {α : Type} (fields : Fields) (key : String) (read : Value → Option α) (default : α) :
    Option α :=
  match fields.lookup key with
  | none => some default
  | some value => read value

def readPaths (value : Value) : Option Paths := do
  let fields ← section? ["packages_dir", "test_packages_dir", "results_dir"] value
  let default : Paths := {}
  return {
    packagesDir := ← get fields "packages_dir" text? default.packagesDir
    testPackagesDir := ← get fields "test_packages_dir" text? default.testPackagesDir
    resultsDir := ← get fields "results_dir" text? default.resultsDir }

def readAnalyzer (value : Value) : Option Analyzer := do
  let fields ← section? ["command", "args", "std_flag"] value
  let default : Analyzer := {}
  return {
    command := ← get fields "command" text? default.command
    args := ← get fields "args" texts? default.args
    stdFlag := ← get fields "std_flag" text? default.stdFlag }

def readFetch (value : Value) : Option Fetch := do
  let fields ← section? ["command", "output_flag"] value
  let default : Fetch := {}
  return {
    command := ← get fields "command" texts? default.command
    outputFlag := ← get fields "output_flag" text? default.outputFlag }

def readReport (value : Value) : Option Report := do
  let fields ← section? ["metadata_sort", "progress_increments"] value
  let default : Report := {}
  return {
    sortKey := ← get fields "metadata_sort" sortKey? default.sortKey
    progressIncrements := ← get fields "progress_increments" count? default.progressIncrements }

def readRun (value : Value) : Option Run := do
  let fields ← section? ["concurrency", "skip_malformed"] value
  let default : Run := {}
  return {
    concurrency := ← get fields "concurrency" count? default.concurrency
    skipMalformed := ← get fields "skip_malformed" switch? default.skipMalformed }

/-- Settings from the tables of a document. Keys that are not known are passed over. -/
def ofFields (fields : Fields) : Option Settings := do
  return {
    paths := ← get fields "paths" readPaths {}
    analyzer := ← get fields "analyzer" readAnalyzer {}
    fetch := ← get fields "fetch" readFetch {}
    report := ← get fields "report" readReport {}
    run := ← get fields "run" readRun {} }

def parse (text : String) : Option Settings := (Toml.parse text).bind ofFields

/-- The settings in a file. -/
def load (path : String) : Work Failure Settings := do
  let content ← (Work.read (·.readText path)).mapError (.settingsUnread path)
  match parse content with
  | some settings => return settings
  | none => Work.fail (.settingsMalformed path)

/-- The settings in the file of the usual name, if there is one. -/
def loadUsual : Work Failure (Option Settings) := do
  if ← Work.look (·.pathExists fileName) then return some (← load fileName) else return none

/-- A text as TOML writes it. The defaults hold nothing that needs an escape. -/
def shownText (s : String) : String := "\"" ++ s ++ "\""

/-- A list on one line if it has one item, and otherwise on a line for each. -/
def shownTexts (items : List String) : String :=
  match items with
  | [] => "[]"
  | [item] => "[" ++ shownText item ++ "]"
  | _ => "[\n" ++ String.join (items.map fun item => "    " ++ shownText item ++ ",\n") ++ "]"

def shownSection (name : String) (fields : List (String × String)) : String :=
  "[" ++ name ++ "]\n" ++
    String.join (fields.map fun (key, value) => key ++ " = " ++ value ++ "\n")

/-- The settings as a TOML document. -/
def render (s : Settings) : String :=
  String.intercalate "\n"
    [shownSection "paths"
      [("packages_dir", shownText s.paths.packagesDir),
       ("test_packages_dir", shownText s.paths.testPackagesDir),
       ("results_dir", shownText s.paths.resultsDir)],
     shownSection "analyzer"
      [("command", shownText s.analyzer.command), ("args", shownTexts s.analyzer.args),
       ("std_flag", shownText s.analyzer.stdFlag)],
     shownSection "fetch"
      [("command", shownTexts s.fetch.command), ("output_flag", shownText s.fetch.outputFlag)],
     shownSection "report"
      [("metadata_sort", shownText s.report.sortKey.name),
       ("progress_increments", Text.decimal s.report.progressIncrements)],
     shownSection "run"
      [("concurrency", Text.decimal s.run.concurrency),
       ("skip_malformed", Options.shownBool s.run.skipMalformed)]]

def defaultText : String := render {}

end EffectSurvey.Settings
