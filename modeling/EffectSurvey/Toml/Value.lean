/-! The values of a TOML document, and the rules by which keys add to its tables. -/
namespace EffectSurvey.Toml

/-- How a table came to be, which decides what may still be added to it. -/
inductive Origin where
  /-- Written out between braces. -/
  | inline
  /-- Named on the way to another table. -/
  | implicit
  /-- Named on the way to a key. -/
  | dotted
  /-- Named by a header of its own. -/
  | explicit
  deriving DecidableEq, Repr

/-- Floats and dates carry nothing, since no setting asks for one. -/
inductive Value where
  | string (text : String)
  | integer (n : Int)
  | float
  | boolean (b : Bool)
  | datetime
  | array (items : List Value)
  | table (origin : Origin) (fields : List (String × Value))
  /-- Tables of one name with a header each. The last one is still open. -/
  | rows (tables : List (List (String × Value)))

abbrev Fields := List (String × Value)

/-- Sets a key from what it holds now. -/
def alter (key : String) (f : Option Value → Option Value) : Fields → Option Fields
  | [] => (f none).map fun value => [(key, value)]
  | (name, value) :: rest =>
    if name = key then (f (some value)).map fun changed => (name, changed) :: rest
    else (alter key f rest).map fun changed => (name, value) :: changed

/-- Changes the table at the end of a path, and makes the tables on the way that are missing. By dotted
keys only tables can be entered that no header and no braces have closed. -/
def enter (dotted : Bool) (origin : Origin) (f : Origin → Fields → Option Fields) (fields : Fields) :
    List String → Option Fields
  | [] => f origin fields
  | key :: path =>
    alter key
      (fun
        | none =>
          let made := if dotted then Origin.dotted else Origin.implicit
          (enter dotted made f [] path).map (Value.table made)
        | some (.table .inline _) => none
        | some (.table inner sub) =>
          if dotted = true ∧ inner = .explicit then none
          else (enter dotted inner f sub path).map (Value.table inner)
        | some (.rows tables) =>
          match tables.getLast? with
          | none => none
          | some last =>
            (enter dotted .explicit f last path).map fun changed =>
              .rows (tables.dropLast ++ [changed])
        | some _ => none)
      fields

/-- Adds a key that is not there yet. -/
def define (key : String) (value : Value) : Fields → Option Fields :=
  alter key fun
    | none => some value
    | some _ => none

/-- The last key of a dotted path, and the keys before it. -/
def splitLast (keys : List String) : Option (List String × String) :=
  keys.getLast?.map fun last => (keys.dropLast, last)

/-- Gives a dotted key of a table a value. A table entered this way must have been made this way. -/
def assign (keys : List String) (value : Value) (origin : Origin) (fields : Fields) :
    Option Fields := do
  let (path, key) ← splitLast keys
  enter true origin
    (fun reached sub =>
      if path ≠ [] ∧ reached ≠ .dotted then none else define key value sub)
    fields path

/-- Opens the table of a header. It may have been named on the way to another, and not else. -/
def openTable (keys : List String) (root : Fields) : Option Fields := do
  let (path, key) ← splitLast keys
  enter false .explicit
    (fun _ =>
      alter key fun
        | none => some (.table .explicit [])
        | some (.table .implicit fields) => some (.table .explicit fields)
        | some _ => none)
    root path

/-- Opens one more table of a name. -/
def openRow (keys : List String) (root : Fields) : Option Fields := do
  let (path, key) ← splitLast keys
  enter false .explicit
    (fun _ =>
      alter key fun
        | none => some (.rows [[]])
        | some (.rows tables) => some (.rows (tables ++ [[]]))
        | some _ => none)
    root path

end EffectSurvey.Toml
