import EffectSurvey.Machine
import EffectSurvey.ScanError

/-! The sources of packages, one directory each below a base directory. -/
namespace EffectSurvey

/-- Brings a package into a target directory, or fails with a diagnostic. -/
abbrev Fetcher := (package target : String) → Work String Unit

/-- The path at which the source of a package stands. It is fetched if it is missing, except in a test
run, which takes what is there. -/
def ensureSource (fetcher : Fetcher) (base : String) (testMode : Bool) (package : String) :
    Work ScanError String := do
  let target := Path.join base package
  if ← Work.look (·.pathExists target) then
    Work.log .debug ("Found existing crate: " ++ target)
    return target
  else if testMode then
    Work.fail (.sourceMissing package target)
  else
    Work.log .info ("Downloading crate: " ++ target)
    (fetcher package target).mapError (.fetchFailed package)
    return target

/-- How an external program fetches packages: its words, and the flag before the target directory. -/
structure FetchCommand where
  command : List String
  outputFlag : String
  deriving DecidableEq, Repr

namespace FetchCommand

/-- What a program says on its error stream, in one trimmed text. -/
def spoken (stderr : Bytes) : String := Text.trim (Text.Utf8.decodeLossy stderr)

def fetcher (f : FetchCommand) (machine : Machine) : Fetcher := fun package target =>
  match f.command with
  | [] => Work.fail "fetch command is empty"
  | program :: args => do
    let completion ← (machine.run program (args ++ [package, f.outputFlag, target])).mapError
      fun fault => "cannot run " ++ program ++ ": " ++ fault.message
    if completion.status.succeeded then pure ()
    else
      Work.fail (program ++ " exited with " ++ completion.status.message ++ ": " ++
        spoken completion.stderr)

end FetchCommand
end EffectSurvey
