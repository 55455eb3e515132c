import EffectSurvey.Text.Blank
import EffectSurvey.Text.Pieces

/-! Package lists: one package a line, its name before the first comma. What follows the name is only
shown. -/
namespace EffectSurvey

/-- A line of a package list that names a package. -/
structure Listing where
  name : String
  remarks : List String
  deriving DecidableEq, Repr

namespace PackageList

/-- A field without blanks, then without quotes, then without blanks at its ends. -/
def clean (field : String) : String := Text.trim (Text.unquote (Text.trim field))

/-- A line whose first field is empty names no package. -/
def listing? (line : String) : Option Listing :=
  match (Text.splitAtChar ',' line).map clean with
  | [] => none
  | name :: remarks => if name = "" then none else some ⟨name, remarks⟩

def parse (content : String) (hasHeader : Bool) : List Listing :=
  let lines := (Text.lines content).drop (if hasHeader then 1 else 0)
  (lines.filter fun line => Text.trim line ≠ "").filterMap listing?

def names (content : String) (hasHeader : Bool) : List String :=
  (parse content hasHeader).map Listing.name

end PackageList

def Listing.message (l : Listing) : String :=
  "Input crate: " ++ l.name ++ " (" ++ String.intercalate "," l.remarks ++ ")"

end EffectSurvey
