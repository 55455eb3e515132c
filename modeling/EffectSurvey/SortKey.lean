import EffectSurvey.Metadata
import EffectSurvey.Text.Decimal

/-! The order of the metadata report: by the number in one column, or by the rows as text. -/
namespace EffectSurvey

inductive SortKey where
  | column (index : Nat)
  | raw
  deriving DecidableEq, Repr

namespace SortKey

/-- What is wrong with a text that names no sort key. It holds the text without the blanks around it. -/
inductive ReadError where
  | invalidColumn (text : String)
  | unknown (text : String)
  deriving DecidableEq, Repr

def ReadError.message : ReadError → String
  | .invalidColumn text => "Invalid column index in sort key: " ++ text
  | .unknown text =>
    "Unknown metadata sort key '" ++ text ++ "' (expected 'raw' or 'column:<n>')"

def columnMark : List Char := "column:".toList

/-- Equal up to the case of ASCII letters. -/
def sameIgnoringCase (a b : String) : Bool :=
  a.toList.map Char.toLower == b.toList.map Char.toLower

def read (s : String) : Except ReadError SortKey :=
  let text := Text.trim s
  if sameIgnoringCase text "raw" then .ok .raw
  else if columnMark.isPrefixOf text.toList then
    match Text.word? (Text.trim (String.ofList (text.toList.drop columnMark.length))) with
    | some index => .ok (.column index)
    | none => .error (.invalidColumn text)
  else .error (.unknown text)

def name : SortKey → String
  | .column index => "column:" ++ Text.decimal index
  | .raw => "raw"

/-- The number in the column, if the row has such a column and a number stands there. -/
def number? (index : Nat) (m : MetadataRow) : Option Int :=
  (m.field? index).bind Text.signedWord?

/-- Rows without a number in the column come before all rows with one. -/
def order : SortKey → MetadataRow → MetadataRow → Ordering
  | .column index, a, b => compare (number? index a) (number? index b)
  | .raw, a, b => compare (a.text.toList.map Char.toNat) (b.text.toList.map Char.toNat)

end SortKey
end EffectSurvey
