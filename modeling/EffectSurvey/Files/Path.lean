import EffectSurvey.Text.Pieces

/-! Paths as text: joining, the parent of a path, and the names along it. -/
namespace EffectSurvey.Path

def isAbsolute (path : String) : Bool := path.toList.head? == some '/'

def endsWithSlash (path : String) : Bool := path.toList.getLast? == some '/'

/-- An absolute second part replaces the first. A slash is put between them unless the first part is
empty or ends in one. -/
def join (base rest : String) : String :=
  if isAbsolute rest then rest
  else if base = "" || endsWithSlash base then base ++ rest
  else base ++ "/" ++ rest

/-- The names along a path. -/
def names (path : String) : List String := (Text.splitAtChar '/' path).filter (· ≠ "")

/-- The names along a path. After a final slash comes an empty one, which asks for a directory. -/
def steps (path : String) : List String :=
  if endsWithSlash path then names path ++ [""] else names path

/-- Whether a segment is a step on the way. An empty one is none, and a dot is one only at the start of
a relative path. -/
def counts (absolute first : Bool) (segment : String) : Bool :=
  segment ≠ "" && (segment ≠ "." || (first && !absolute))

/-- The parts of a path from its start to a segment that counts, the longest first. The segments are
given from the last to the first. -/
def leadingParts (absolute : Bool) : List String → List String
  | [] => []
  | segment :: before =>
    let shorter := leadingParts absolute before
    if counts absolute before.isEmpty segment then
      String.intercalate "/" (segment :: before).reverse :: shorter
    else shorter

/-- A path and the parents above it, up to the root or the start of a relative path. -/
def ancestors (path : String) : List String :=
  let segments := Text.splitAtChar '/' path
  let parts :=
    if isAbsolute path then
      (leadingParts true (segments.drop 1).reverse).map ("/" ++ ·) ++ ["/"]
    else leadingParts false segments.reverse
  match parts with
  | [] => []
  | _ :: above => path :: above

/-- The path without its last name, if it has one. -/
def parent? (path : String) : Option String :=
  match ancestors path with
  | [] => none
  | [_] => if isAbsolute path then none else some ""
  | _ :: parent :: _ => some parent

/-- The directory that holds a path, which is the working directory for a single name. -/
def directory (path : String) : String :=
  match parent? path with
  | none | some "" => "."
  | some parent => parent

end EffectSurvey.Path
