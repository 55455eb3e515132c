import EffectSurvey.Work

/-! The disk that reports are written on. Whether it does as it is told is not for the files to say: writing
may break off halfway, and a mode may be refused. -/
namespace EffectSurvey

structure Disk where
  /-- After how many bytes the writing of a content to a new file breaks off, and why. -/
  breaksOff? : FileTree → Location → Bytes → Option (Nat × Fault)
  /-- Why a file is not given a mode. -/
  refusesMode? : FileTree → Location → Nat → Option Fault

namespace Disk

/-- A disk that does as it is told. -/
def sound : Disk := ⟨fun _ _ _ => none, fun _ _ _ => none⟩

/-- Writes a content to a private file, or as much of it as the disk takes. -/
def write (disk : Disk) (place : Location) (content : Bytes) : Work Fault Unit := fun files =>
  match disk.breaksOff? files place content with
  | none => ⟨.ok (), files.put place (.file content privateMode), []⟩
  | some (written, fault) =>
    ⟨.error fault, files.put place (.file (content.take written) privateMode), []⟩

/-- Gives a file another mode. -/
def setMode (disk : Disk) (place : Location) (mode : Nat) : Work Fault Unit := fun files =>
  match disk.refusesMode? files place mode, files.entry? place with
  | none, some (.file content _) => ⟨.ok (), files.put place (.file content mode), []⟩
  | none, _ => ⟨.error .notFound, files, []⟩
  | some fault, _ => ⟨.error fault, files, []⟩

end Disk
end EffectSurvey
