import EffectSurvey.Table
import EffectSurvey.Text.Utf8

/-! Directories, each with all that is below it. A location leads from a directory down to one of its
entries. -/
namespace EffectSurvey

/-- The names from the root down. -/
abbrev Location := List String

inductive Node where
  | directory (contents : List (String × Node))
  | file (content : Bytes) (mode : Nat)
  | link (target : String)

/-- The contents of a directory. -/
abbrev Folder := List (String × Node)

/-- What a name in a directory stands for, without what is below it. -/
inductive Entry where
  | directory
  | file (content : Bytes) (mode : Nat)
  | link (target : String)
  deriving DecidableEq, Repr

def Node.entry : Node → Entry
  | .directory _ => .directory
  | .file content mode => .file content mode
  | .link target => .link target

/-- An entry on its own: a directory is empty. -/
def Entry.node : Entry → Node
  | .directory => .directory []
  | .file content mode => .file content mode
  | .link target => .link target

namespace Folder

def find? (folder : Folder) (name : String) : Option Node := Table.lookup name folder

/-- The directory at a location. -/
def folder? (folder : Folder) : Location → Option Folder
  | [] => some folder
  | name :: rest =>
    match folder.find? name with
    | some (.directory contents) => folder? contents rest
    | _ => none

/-- Changes the directory at a location, if there is one. -/
def alter (f : Folder → Folder) (folder : Folder) : Location → Folder
  | [] => f folder
  | name :: rest =>
    match folder.find? name with
    | some (.directory contents) =>
      Table.updateEntries name (fun _ => .directory (alter f contents rest)) folder
    | _ => folder

/-- Gives a name an entry. -/
def insert (name : String) (entry : Entry) (folder : Folder) : Folder :=
  Table.updateEntries name (fun _ => entry.node) folder

def erase (name : String) (folder : Folder) : Folder := folder.filter (·.1 ≠ name)

end Folder

/-- A directory that a walk has come to, with the directories above it from the nearest up, each beside
the name that led down from it. -/
structure Cursor where
  here : Folder
  above : List (String × Folder)

namespace Cursor

def place (c : Cursor) : Location := (c.above.map Prod.fst).reverse

/-- The directory above. The root is above itself. -/
def up (c : Cursor) : Cursor :=
  match c.above with
  | [] => c
  | (_, folder) :: above => ⟨folder, above⟩

def enter (c : Cursor) (name : String) (contents : Folder) : Cursor :=
  ⟨contents, (name, c.here) :: c.above⟩

/-- Goes down a location as far as there are directories. -/
def descend (c : Cursor) : Location → Cursor
  | [] => c
  | name :: rest =>
    match c.here.find? name with
    | some (.directory contents) => (c.enter name contents).descend rest
    | _ => c

end Cursor
end EffectSurvey
