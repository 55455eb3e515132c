import EffectSurvey.CommandLine.Options

/-! The words of a command line read into options. An option that takes a value has it attached, or
waits for the next word; a waiting option is settled when the next option comes or the words end. -/
namespace EffectSurvey.CommandLine

/-- The options that take a value. -/
inductive Valued where
  | package
  | listFile
  | reportStart
  | settingsFile
  | concurrency
  | sortKey
  | format
  deriving DecidableEq, Repr

/-- The options that are on or off. -/
inductive Switch where
  | testRun
  | stdOnly
  | quiet
  | skipMalformed
  | noHeader
  | initSettings
  deriving DecidableEq, Repr

inductive Argument where
  | valued (v : Valued)
  | switch (s : Switch)
  /-- May be given again and again. -/
  | verbose
  | help
  | version
  deriving DecidableEq, Repr

def long? : String → Option Argument
  | "crate" => some (.valued .package)
  | "infile" => some (.valued .listFile)
  | "test-run" => some (.switch .testRun)
  | "output-prefix" => some (.valued .reportStart)
  | "std" => some (.switch .stdOnly)
  | "verbose" => some .verbose
  | "quiet" => some (.switch .quiet)
  | "config" => some (.valued .settingsFile)
  | "concurrency" => some (.valued .concurrency)
  | "skip-malformed" => some (.switch .skipMalformed)
  | "no-header" => some (.switch .noHeader)
  | "metadata-sort" => some (.valued .sortKey)
  | "format" => some (.valued .format)
  | "init-config" => some (.switch .initSettings)
  | "help" => some .help
  | "version" => some .version
  | _ => none

def short? : Char → Option Argument
  | 'c' => some (.valued .package)
  | 'i' => some (.valued .listFile)
  | 't' => some (.switch .testRun)
  | 'o' => some (.valued .reportStart)
  | 's' => some (.switch .stdOnly)
  | 'v' => some .verbose
  | 'q' => some (.switch .quiet)
  | 'h' => some .help
  | 'V' => some .version
  | _ => none

/-- Why the words are not followed, the two requests for information among them. -/
inductive UsageError where
  | unknownArgument
  /-- A value is missing, or not among those allowed. -/
  | invalidValue
  /-- A value cannot be read. -/
  | unreadableValue
  /-- An option is given twice, or beside one it excludes. -/
  | conflict
  | unwantedValue
  | missingArgument
  | helpAsked
  | versionAsked
  deriving DecidableEq, Repr

structure Draft where
  options : Options
  /-- The arguments given so far that may not come again. -/
  given : List Argument
  /-- The option that waits, with its value once that has come. -/
  waiting : Option (Valued × Option String)

def Draft.blank : Draft where
  options := ⟨none, none, false, none, false, 0, false, none, none, false, false, none, .text, false⟩
  given := []
  waiting := none

/-- The number of times a count goes up before it stays. -/
def maxCount : Nat := 255

/-- An option with its value. A path may not be empty. -/
def setValue (o : Options) (value : String) : Valued → Except UsageError Options
  | .package => .ok { o with package := some value }
  | .listFile => if value = "" then .error .invalidValue else .ok { o with listFile := some value }
  | .reportStart => .ok { o with reportStart := some value }
  | .settingsFile =>
    if value = "" then .error .invalidValue else .ok { o with settingsFile := some value }
  | .concurrency =>
    match Text.word? value with
    | some n => .ok { o with concurrency := some n }
    | none => .error .unreadableValue
  | .sortKey =>
    match SortKey.read value with
    | .ok key => .ok { o with sortKey := some key }
    | .error _ => .error .unreadableValue
  | .format =>
    if value = "text" then .ok { o with format := .text }
    else if value = "json" then .ok { o with format := .json }
    else .error .invalidValue

def turnOn (o : Options) : Switch → Options
  | .testRun => { o with testRun := true }
  | .stdOnly => { o with stdOnly := true }
  | .quiet => { o with quiet := true }
  | .skipMalformed => { o with skipMalformed := true }
  | .noHeader => { o with noHeader := true }
  | .initSettings => { o with initSettings := true }

namespace Draft

/-- Marks an argument as given, once. -/
def mark (d : Draft) (a : Argument) : Except UsageError Draft :=
  if a ∈ d.given then .error .conflict else .ok { d with given := a :: d.given }

def assign (d : Draft) (v : Valued) (value : Option String) : Except UsageError Draft :=
  match value with
  | none => .error .invalidValue
  | some text => do
    let marked ← d.mark (.valued v)
    return { marked with options := ← setValue marked.options text v }

/-- Gives the waiting option its value. -/
def settle (d : Draft) : Except UsageError Draft :=
  match d.waiting with
  | none => .ok d
  | some (v, value) => { d with waiting := none }.assign v value

/-- Follows an argument that has no value attached. -/
def follow (d : Draft) (a : Argument) : Except UsageError Draft := do
  let d ← d.settle
  match a with
  | .valued v => return { d with waiting := some (v, none) }
  | .switch s =>
    let marked ← d.mark a
    return { marked with options := turnOn marked.options s }
  | .verbose =>
    return { d with options := { d.options with verbosity := min maxCount (d.options.verbosity + 1) } }
  | .help => .error .helpAsked
  | .version => .error .versionAsked

/-- Follows an option with its value attached. -/
def followWith (d : Draft) (v : Valued) (value : String) : Except UsageError Draft := do
  let d ← d.settle
  d.assign v (some value)

/-- A word that starts with two dashes, without them. -/
def longWord (d : Draft) (word : List Char) : Except UsageError Draft :=
  let name := String.ofList (word.takeWhile (· ≠ '='))
  match long? name, word.dropWhile (· ≠ '=') with
  | none, _ => .error .unknownArgument
  | some a, [] => d.follow a
  | some (.valued v), _ :: value => d.followWith v (String.ofList value)
  | some _, _ :: _ => .error .unwantedValue

/-- A word that starts with one dash, without it: one letter after the other, up to one that takes the
rest as its value. -/
def shortWord (d : Draft) : List Char → Except UsageError Draft
  | [] => .ok d
  | c :: rest =>
    match short? c with
    | none => .error .unknownArgument
    | some (.valued v) =>
      match rest with
      | [] => d.follow (.valued v)
      | '=' :: value => d.followWith v (String.ofList value)
      | value => d.followWith v (String.ofList value)
    | some a => do
      let d ← d.follow a
      d.shortWord rest

/-- A word that is no option: the value of the option that waits for one. -/
def plainWord (d : Draft) (word : String) : Except UsageError Draft :=
  match d.waiting with
  | some (v, none) => .ok { d with waiting := some (v, some word) }
  | _ => .error .unknownArgument

def word (d : Draft) (text : String) : Except UsageError Draft :=
  match text.toList with
  | '-' :: '-' :: rest => d.longWord rest
  | '-' :: c :: rest => d.shortWord (c :: rest)
  | _ => d.plainWord text

/-- All words. After two lone dashes no word is an option, and none is wanted. -/
def words (d : Draft) : List String → Except UsageError Draft
  | [] => d.settle
  | text :: rest =>
    if text = "--" then if rest = [] then d.settle else .error .unknownArgument
    else do
      let d ← d.word text
      d.words rest

end Draft

/-- One package or a list, but not both, is wanted, unless the settings file is to be written. -/
def requireTarget (o : Options) : Except UsageError Options :=
  match o.package, o.listFile with
  | some _, some _ => .error .conflict
  | none, none => if o.initSettings then .ok o else .error .missingArgument
  | _, _ => .ok o

def parse (argv : List String) : Except UsageError Options := do
  let draft ← Draft.blank.words argv
  requireTarget draft.options

end EffectSurvey.CommandLine
