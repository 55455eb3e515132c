import EffectSurvey.Files.Fault
import EffectSurvey.Files.Folder
import EffectSurvey.Files.Path

/-! A tree of files with a working directory. A path is resolved name by name, through symbolic links. -/
namespace EffectSurvey

/-- Anyone may read, the owner may write. -/
def readableMode : Nat := 0o644

/-- The owner alone may read and write. -/
def privateMode : Nat := 0o600

/-- One of the three execute bits is set. -/
def isExecutable (mode : Nat) : Bool := mode &&& 0o111 != 0

structure FileTree where
  root : Folder
  home : Location

namespace FileTree

/-- The root as the start of a walk. -/
def top (t : FileTree) : Cursor := ⟨t.root, []⟩

/-- The entry at a location. The root is a directory. -/
def entry? (t : FileTree) (place : Location) : Option Entry :=
  match place.getLast? with
  | none => some .directory
  | some name => ((t.root.folder? place.dropLast).bind (·.find? name)).map Node.entry

/-- Puts an entry at a location in a directory that is there. -/
def put (t : FileTree) (place : Location) (entry : Entry) : FileTree :=
  match place.getLast? with
  | none => t
  | some name => { t with root := t.root.alter (Folder.insert name entry) place.dropLast }

def remove (t : FileTree) (place : Location) : FileTree :=
  match place.getLast? with
  | none => t
  | some name => { t with root := t.root.alter (Folder.erase name) place.dropLast }

/-- Where a path leads: to an entry, or to a free name in a directory. -/
inductive Spot where
  | found (place : Location) (entry : Entry)
  | vacant (place : Location)
  deriving DecidableEq, Repr

/-- What a path is resolved for, which decides about its last name. -/
inductive Aim where
  /-- The entry of that name, even if it is a link. -/
  | entry
  /-- What the name leads to. -/
  | target
  /-- A file to be written, which may not be there yet. -/
  | output
  deriving DecidableEq, Repr

def maxLinks : Nat := 40

def maxNameBytes : Nat := 255

def maxPathBytes : Nat := 4095

/-- Walks along names from a directory. A link is followed unless it is the last name and its entry is
asked for; `links` bounds how many are. A slash after the name of an output makes it a directory,
whatever is there. -/
def walk (t : FileTree) (aim : Aim) (links : Nat) (cursor : Cursor) :
    List String → Except Fault Spot
  | [] => .ok (.found cursor.place .directory)
  | name :: rest =>
    if name = "" ∨ name = "." then walk t aim links cursor rest
    else if name = ".." then walk t aim links cursor.up rest
    else if aim = .output ∧ rest = [""] then .error .isDirectory
    else if maxNameBytes < name.utf8ByteSize then .error .nameTooLong
    else
      match cursor.here.find? name with
      | none => if rest = [] then .ok (.vacant (cursor.place ++ [name])) else .error .notFound
      | some (.directory contents) => walk t aim links (cursor.enter name contents) rest
      | some (.file content mode) =>
        if rest = [] then .ok (.found (cursor.place ++ [name]) (.file content mode))
        else .error .notDirectory
      | some (.link target) =>
        if rest = [] ∧ aim = .entry then .ok (.found (cursor.place ++ [name]) (.link target))
        else
          match links with
          | 0 => .error .tooManyLinks
          | links + 1 =>
            if target = "" then .error .notFound
            else
              walk t aim links (if Path.isAbsolute target then t.top else cursor)
                (Path.steps target ++ rest)
termination_by names => (links, names.length)

/-- Walks along a path, whose names are given apart. -/
def resolveSteps (t : FileTree) (aim : Aim) (path : String) (steps : List String) :
    Except Fault Spot :=
  if '\x00' ∈ path.toList then .error .zeroInName
  else if path = "" then .error .notFound
  else if maxPathBytes < path.utf8ByteSize then .error .nameTooLong
  else t.walk aim maxLinks (if Path.isAbsolute path then t.top else t.top.descend t.home) steps

def resolve (t : FileTree) (aim : Aim) (path : String) : Except Fault Spot :=
  t.resolveSteps aim path (Path.steps path)

/-- The entry at the end of a path, through links. -/
def stat (t : FileTree) (path : String) : Except Fault (Location × Entry) :=
  match t.resolve .target path with
  | .ok (.found place entry) => .ok (place, entry)
  | .ok (.vacant _) => .error .notFound
  | .error fault => .error fault

def pathExists (t : FileTree) (path : String) : Bool :=
  match t.stat path with
  | .ok _ => true
  | .error _ => false

def isFile (t : FileTree) (path : String) : Bool :=
  match t.stat path with
  | .ok (_, .file _ _) => true
  | _ => false

def isDirectory (t : FileTree) (path : String) : Bool :=
  match t.stat path with
  | .ok (_, .directory) => true
  | _ => false

def read (t : FileTree) (path : String) : Except Fault Bytes :=
  match t.stat path with
  | .ok (_, .file content _) => .ok content
  | .ok (_, .directory) => .error .isDirectory
  | .ok (_, .link _) => .error .notFound
  | .error fault => .error fault

def readText (t : FileTree) (path : String) : Except Fault String :=
  match t.read path with
  | .ok content =>
    match Text.Utf8.decode? content with
    | some text => .ok text
    | none => .error .notText
  | .error fault => .error fault

/-- Makes one directory. Slashes at the end of the path do not matter. -/
def makeDirectory (t : FileTree) (path : String) : Except Fault FileTree :=
  match t.resolveSteps .entry path (Path.names path) with
  | .ok (.found _ _) => .error .alreadyExists
  | .ok (.vacant place) => .ok (t.put place .directory)
  | .error fault => .error fault

/-- Replaces the content of the file at the end of a path, through links, or makes a new file. -/
def write (t : FileTree) (path : String) (content : Bytes) : Except Fault FileTree :=
  match t.resolve .output path with
  | .ok (.found place (.file _ mode)) => .ok (t.put place (.file content mode))
  | .ok (.found _ _) => .error .isDirectory
  | .ok (.vacant place) => .ok (t.put place (.file content readableMode))
  | .error fault => .error fault

/-- Adds to the end of a file, which is made if need be. -/
def append (t : FileTree) (path : String) (content : Bytes) : Except Fault FileTree :=
  match t.read path with
  | .ok old => t.write path (old ++ content)
  | .error .notFound => t.write path content
  | .error fault => .error fault

/-- The name of a temporary file, which is free in the directory at `place`. -/
def temporaryName (t : FileTree) (place : Location) : String :=
  let candidate (n : Nat) : String := ".tmp" ++ n.repr
  let contents := (t.root.folder? place).getD []
  let free := (List.range (contents.length + 1)).find? fun n => (contents.find? (candidate n)).isNone
  candidate (free.getD 0)

/-- Makes an empty private file under a free name in a directory. -/
def makeTemporary (t : FileTree) (dir : String) : Except Fault (Location × FileTree) :=
  match t.stat dir with
  | .ok (place, .directory) =>
    let file := place ++ [t.temporaryName place]
    .ok (file, t.put file (.file [] privateMode))
  | .ok _ => .error .notDirectory
  | .error fault => .error fault

/-- Moves the file at `source` over the last name of a path, which a directory may not hold. The path
may not hold a zero character either, which is here the fault of an argument. -/
def rename (t : FileTree) (source : Location) (path : String) : Except Fault FileTree :=
  match t.entry? source, t.resolve .entry path with
  | none, _ => .error .notFound
  | some _, .ok (.found _ .directory) => .error .isDirectory
  | some entry, .ok (.found place _) | some entry, .ok (.vacant place) =>
    .ok ((t.remove source).put place entry)
  | some _, .error .zeroInName => .error .invalidArgument
  | some _, .error fault => .error fault

end FileTree
end EffectSurvey
