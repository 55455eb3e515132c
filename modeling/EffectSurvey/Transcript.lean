import EffectSurvey.Finding
import EffectSurvey.Metadata
import EffectSurvey.Text.Quoted
import EffectSurvey.Text.Utf8

/-! The analyzer's transcript: the header of the findings, one row per finding, an empty line, the
header of the metadata and one row of it. The reader takes it line by line and refuses whatever else
it meets, so that another version of the analyzer cannot spoil a total unnoticed. -/
namespace EffectSurvey

/-- What the reader waits for when the transcript ends too early. -/
inductive Expected where
  | findingHeader
  | blankLine
  | metadataHeader
  | metadataRow
  deriving DecidableEq, Repr

def Expected.name : Expected → String
  | .findingHeader => "finding header"
  | .blankLine => "blank line after findings"
  | .metadataHeader => "metadata header"
  | .metadataRow => "metadata row"

/-- Why a row is no finding. -/
inductive RowFault where
  | columns (found : Nat)
  | line (text : String)
  | col (text : String)
  deriving DecidableEq, Repr

def RowFault.message : RowFault → String
  | .columns found =>
    "expected " ++ Text.decimal Finding.columnCount ++ " columns, found " ++ Text.decimal found
  | .line text => "line is not a number: " ++ Text.quoted text
  | .col text => "col is not a number: " ++ Text.quoted text

inductive TranscriptError where
  | findingHeader (found : String)
  | malformedFinding (line : Nat) (fault : RowFault)
  | metadataHeader (found : String)
  | trailing (line : Nat) (found : String)
  | ended (expected : Expected)
  deriving DecidableEq, Repr

def TranscriptError.message : TranscriptError → String
  | .findingHeader found => "unexpected finding header: " ++ Text.quoted found
  | .malformedFinding line fault =>
    "malformed finding row on line " ++ Text.decimal line ++ ": " ++ fault.message
  | .metadataHeader found => "unexpected metadata header: " ++ Text.quoted found
  | .trailing line found =>
    "unexpected trailing output on line " ++ Text.decimal line ++ ": " ++ Text.quoted found
  | .ended expected => "unexpected end of output: expected " ++ expected.name

/-- A finding from its row. The line number is read before the column number. -/
def Finding.ofRow (row : String) : Except RowFault Finding :=
  match Text.splitAtPair ',' ' ' row with
  | [package, function, callee, pattern, dir, file, lineText, colText] =>
    match Text.word? lineText, Text.word? colText with
    | some line, some col => .ok ⟨package, function, callee, pattern, dir, file, line, col⟩
    | none, _ => .error (.line lineText)
    | some _, none => .error (.col colText)
  | columns => .error (.columns columns.length)

/-- The decoded transcript of one package. -/
structure PackageScan where
  package : String
  findings : List Finding
  metadata : MetadataRow
  deriving DecidableEq, Repr

namespace Transcript

/-- Where the reader stands. -/
inductive Stage where
  | findingHeader
  | findings
  | metadataHeader
  | metadataRow
  | done
  deriving DecidableEq, Repr

structure Reader where
  package : String
  stage : Stage
  /-- The number of lines read, the refused ones among them. -/
  lineCount : Nat
  findings : List Finding
  metadata : Option MetadataRow
  deriving DecidableEq, Repr

namespace Reader

def start (package : String) : Reader := ⟨package, .findingHeader, 0, [], none⟩

def count (r : Reader) : Reader := { r with lineCount := r.lineCount + 1 }

/-- Takes one trimmed line, which has been counted already. -/
def take (r : Reader) (line : String) : Reader × Option TranscriptError :=
  match r.stage with
  | .findingHeader =>
    if line = Finding.header then ({ r with stage := .findings }, none)
    else (r, some (.findingHeader line))
  | .findings =>
    if line = "" then ({ r with stage := .metadataHeader }, none)
    else
      match Finding.ofRow line with
      | .ok finding => ({ r with findings := r.findings ++ [finding] }, none)
      | .error fault => (r, some (.malformedFinding r.lineCount fault))
  | .metadataHeader =>
    if line = MetadataRow.header then ({ r with stage := .metadataRow }, none)
    else (r, some (.metadataHeader line))
  | .metadataRow => ({ r with stage := .done, metadata := some ⟨line⟩ }, none)
  | .done => if line = "" then (r, none) else (r, some (.trailing r.lineCount line))

/-- Feeds one line, which is counted and trimmed first. -/
def feed (r : Reader) (line : String) : Reader × Option TranscriptError :=
  r.count.take (Text.trim line)

def finish (r : Reader) : Except TranscriptError PackageScan :=
  match r.stage with
  | .findingHeader => .error (.ended .findingHeader)
  | .findings => .error (.ended .blankLine)
  | .metadataHeader => .error (.ended .metadataHeader)
  | .metadataRow => .error (.ended .metadataRow)
  | .done => .ok ⟨r.package, r.findings, r.metadata.getD ⟨""⟩⟩

/-- Feeds lines up to the first one that is refused. -/
def feedAll (r : Reader) : List String → Except TranscriptError Reader
  | [] => .ok r
  | line :: rest =>
    match r.feed line with
    | (next, none) => next.feedAll rest
    | (_, some e) => .error e

end Reader

def readText (package text : String) : Except TranscriptError PackageScan :=
  match (Reader.start package).feedAll (Text.lines text) with
  | .ok reader => reader.finish
  | .error e => .error e

/-- The scan of a package from everything the analyzer printed. -/
def read (package : String) (output : Bytes) : Except TranscriptError PackageScan :=
  readText package (Text.Utf8.decodeLossy output)

end Transcript
end EffectSurvey
