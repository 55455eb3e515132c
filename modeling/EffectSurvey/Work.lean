import EffectSurvey.Files.Tree

/-! Work on a tree of files. A piece of work may fail; either way it leaves the files as it last had
them, and notes of what it did, which later work can only add to. -/
namespace EffectSurvey

inductive Level where
  | error
  | warn
  | info
  | debug
  deriving DecidableEq, Repr

def Level.name : Level → String
  | .error => "ERROR"
  | .warn => "WARN"
  | .info => "INFO"
  | .debug => "DEBUG"

/-- How much a level says: each level says all that the levels before it do. -/
def Level.rank : Level → Nat
  | .error => 0
  | .warn => 1
  | .info => 2
  | .debug => 3

inductive Note where
  | log (level : Level) (message : String)
  /-- A fetcher may note what it is asked for. -/
  | fetch (package target : String)
  /-- An analyzer may note what it is asked for. -/
  | analyze (package dir : String)
  deriving DecidableEq, Repr

/-- What a piece of work leaves behind, its notes oldest first. -/
structure Done (α : Type) where
  value : α
  files : FileTree
  notes : List Note

def Work (ε α : Type) : Type := FileTree → Done (Except ε α)

namespace Work
variable {ε δ α β : Type}

def succeed (a : α) : Work ε α := fun files => ⟨.ok a, files, []⟩

def fail (e : ε) : Work ε α := fun files => ⟨.error e, files, []⟩

def andThen (first : Work ε α) (next : α → Work ε β) : Work ε β := fun files =>
  match first files with
  | ⟨.ok a, between, notes⟩ =>
    let last := next a between
    ⟨last.value, last.files, notes ++ last.notes⟩
  | ⟨.error e, between, notes⟩ => ⟨.error e, between, notes⟩

instance : Monad (Work ε) where
  pure := succeed
  bind := andThen

/-- Goes on with the failure as a value. -/
def attempt (work : Work ε α) : Work δ (Except ε α) := fun files =>
  let done := work files
  ⟨.ok done.value, done.files, done.notes⟩

def mapError (f : ε → δ) (work : Work ε α) : Work δ α := fun files =>
  let done := work files
  ⟨done.value.mapError f, done.files, done.notes⟩

def note (n : Note) : Work ε Unit := fun files => ⟨.ok (), files, [n]⟩

def log (level : Level) (message : String) : Work ε Unit := note (.log level message)

/-- Looks at the files. -/
def look (f : FileTree → α) : Work ε α := fun files => ⟨.ok (f files), files, []⟩

/-- Reads from the files, which may fail. -/
def read (f : FileTree → Except ε α) : Work ε α := fun files => ⟨f files, files, []⟩

/-- Changes the files and gives a value, or leaves them alone and fails. -/
def act (f : FileTree → Except ε (α × FileTree)) : Work ε α := fun files =>
  match f files with
  | .ok (a, changed) => ⟨.ok a, changed, []⟩
  | .error e => ⟨.error e, files, []⟩

/-- Changes the files, or leaves them alone and fails. -/
def change (f : FileTree → Except ε FileTree) : Work ε Unit := fun files =>
  match f files with
  | .ok changed => ⟨.ok (), changed, []⟩
  | .error e => ⟨.error e, files, []⟩

/-- Changes the files once more after a failure. -/
def onFailure (f : ε → FileTree → FileTree) (work : Work ε α) : Work ε α := fun files =>
  let done := work files
  match done.value with
  | .ok _ => done
  | .error e => { done with files := f e done.files }

/-- Changes the files. -/
def modify (f : FileTree → FileTree) : Work ε Unit := fun files => ⟨.ok (), f files, []⟩

end Work

/-- A directory that is there already is as good as a new one. -/
def keepDirectory (path : String) (fault : Fault) : Work Fault Unit := do
  if ← Work.look (·.isDirectory path) then pure () else Work.fail fault

/-- Makes the first of the paths a directory. The paths after it are made before it if they are
missing. -/
def makeAlong : List String → Work Fault Unit
  | [] => pure ()
  | path :: parents => do
    match ← (Work.change (·.makeDirectory path)).attempt with
    | .ok () => pure ()
    | .error .notFound =>
      makeAlong parents
      match ← (Work.change (·.makeDirectory path)).attempt with
      | .ok () => pure ()
      | .error fault => keepDirectory path fault
    | .error fault => keepDirectory path fault

/-- Makes a directory and the directories above it. -/
def makeDirectories (path : String) : Work Fault Unit := makeAlong (Path.ancestors path)

end EffectSurvey
