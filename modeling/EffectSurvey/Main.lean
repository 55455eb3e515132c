import EffectSurvey.Workflow

/-! The command line on the files of this machine. The files that the options name are read in before a
run, and new settings are written back after it. No program is started from here, so a survey ends
where it asks for the analyzer. -/
namespace EffectSurvey.Main

/-- No file that is read in counts as a program, so nothing is ever executed. -/
def idleMachine : Machine where
  searchPath := []
  execute _ _ files := ⟨.code 0, [], [], files⟩
  disk := .sound

/-- The paths that a run looks at by itself. -/
def namedPaths (argv : List String) : List String :=
  match CommandLine.parse argv with
  | .ok o => Settings.fileName :: (o.settingsFile.toList ++ o.listFile.toList)
  | .error _ => []

/-- The contents of a file, if it can be read. -/
def content? (files : FileTree) (path : String) : Option Bytes := (files.read path).toOption

/-- Makes the directories on the way to a path, as far as they can be made. -/
def withDirectories (files : FileTree) (path : String) : FileTree := (makeDirectories path files).files

/-- A tree with nothing but the way to its working directory. -/
def emptyAt (home : String) : FileTree := withDirectories ⟨[], Path.names home⟩ home

/-- Adds what is at a path. -/
def readIn (files : FileTree) (path : String) : IO FileTree := do
  let place := (← IO.currentDir) / path
  if ← place.isDir then
    return withDirectories files path
  else if ← place.pathExists then
    let placed := withDirectories files (Path.directory path)
    return (placed.write path (← IO.FS.readBinFile place).toList).toOption.getD placed
  else
    return files

def run (argv : List String) : IO UInt32 := do
  let home := emptyAt (toString (← IO.currentDir))
  let files ← (namedPaths argv).foldlM readIn home
  let ending := Workflow.start idleMachine argv files
  let settings := content? ending.files Settings.fileName
  if settings ≠ content? files Settings.fileName then
    IO.FS.writeBinFile Settings.fileName ⟨(settings.getD []).toArray⟩
  IO.print ending.stdout
  IO.eprint ending.stderr
  return UInt32.ofNat ending.exitCode

end EffectSurvey.Main

def main (argv : List String) : IO UInt32 := EffectSurvey.Main.run argv
