/-! Text cut into pieces: at a character, at a pair of characters, and into lines. -/
namespace EffectSurvey.Text

def splitAtChar (separator : Char) (s : String) : List String :=
  (s.toList.splitOn separator).map String.ofList

/-- Puts a character in front of the first piece. -/
def prependToFirst (c : Char) : List (List Char) → List (List Char)
  | [] => [[c]]
  | piece :: pieces => (c :: piece) :: pieces

/-- The pieces between the occurrences of `a` directly followed by `b`, found from left to right. -/
def splitPair (a b : Char) : List Char → List (List Char)
  | [] => [[]]
  | [c] => [[c]]
  | c :: d :: rest =>
    if c = a ∧ d = b then [] :: splitPair a b rest
    else prependToFirst c (splitPair a b (d :: rest))

def splitAtPair (a b : Char) (s : String) : List String :=
  (splitPair a b s.toList).map String.ofList

/-- The line without one final carriage return. -/
def dropReturn (cs : List Char) : List Char :=
  if cs.getLast? = some '\r' then cs.dropLast else cs

/-- Each line feed ends a line, and so does a carriage return with a line feed after it. What follows
the last line feed is a line unless it is empty. -/
def lineChars (cs : List Char) : List (List Char) :=
  let pieces := cs.splitOn '\n'
  let ended := pieces.dropLast.map dropReturn
  match pieces.getLast? with
  | none | some [] => ended
  | some last => ended ++ [last]

def lines (s : String) : List String :=
  (lineChars s.toList).map String.ofList

end EffectSurvey.Text
