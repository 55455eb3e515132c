import EffectSurvey.Machine
import EffectSurvey.ScanError

/-! Why a whole run fails. -/
namespace EffectSurvey

inductive Failure where
  | settingsUnread (path : String) (fault : Fault)
  | settingsMalformed (path : String)
  | analyzerMissing (program : String) (fault : Fault)
  | analyzerRefused (program : String) (status : ExitStatus)
  | listUnread (path : String) (fault : Fault)
  | listEmpty (path : String)
  | nothingNamed
  | scan (error : ScanError)
  | resultsDirectory (dir : String) (fault : Fault)
  | temporaryFile (dir : String) (fault : Fault)
  | unwritten (path : String) (fault : Fault)
  | modeRefused (path : String) (fault : Fault)
  /-- The failure holds on to the temporary file that could not take the name. -/
  | unsaved (path : String) (fault : Fault) (temporary : Location)
  deriving DecidableEq, Repr

namespace Failure

/-- What failed, then why, down to the first cause. -/
def chain : Failure → List String
  | .settingsUnread path fault => ["Failed to read config file: " ++ path, fault.message]
  | .settingsMalformed path => ["Failed to parse config file: " ++ path]
  | .analyzerMissing program fault => ["Missing analyzer: cannot run " ++ program, fault.message]
  | .analyzerRefused program status =>
    ["Analyzer check failed: " ++ program ++ " --version exited with " ++ status.message]
  | .listUnread path fault => ["Failed to read crate list: " ++ path, fault.message]
  | .listEmpty path => ["Crate list is empty: " ++ path]
  | .nothingNamed => ["No crate or crate list given"]
  | .scan error => error.message :: (error.cause?.map TranscriptError.message).toList
  | .resultsDirectory dir fault => ["Failed to create results directory " ++ dir, fault.message]
  | .temporaryFile dir fault => ["Failed to create temporary file in " ++ dir, fault.message]
  | .unwritten path fault => ["Failed to write " ++ path, fault.message]
  | .modeRefused path fault => ["Failed to set permissions on " ++ path, fault.message]
  | .unsaved path fault _ =>
    ["Failed to save " ++ path, "failed to persist temporary file: " ++ fault.message, fault.message]

def message (f : Failure) : String := String.intercalate ": " f.chain

/-- What failed, without the causes. -/
def headline (f : Failure) : String := f.chain.headD ""

/-- Removes the file that a failure holds on to. -/
def release : Failure → FileTree → FileTree
  | .unsaved _ _ temporary, files => files.remove temporary
  | _, files => files

end Failure
end EffectSurvey
