import EffectSurvey.Transcript

/-! Why one package could not be scanned. -/
namespace EffectSurvey

inductive ScanError where
  | sourceMissing (package path : String)
  | fetchFailed (package diagnostic : String)
  | analyzerFailed (package diagnostic : String)
  | badTranscript (package : String) (error : TranscriptError)
  deriving DecidableEq, Repr

namespace ScanError

def message : ScanError → String
  | .sourceMissing _ path => "crate not found during test run: " ++ path
  | .fetchFailed package diagnostic => "fetch failed for crate " ++ package ++ ": " ++ diagnostic
  | .analyzerFailed package diagnostic => "analyzer failed for crate " ++ package ++ ": " ++ diagnostic
  | .badTranscript package error =>
    "analyzer output for crate " ++ package ++ " is invalid: " ++ error.message

def package : ScanError → String
  | .sourceMissing package _ | .fetchFailed package _ | .analyzerFailed package _
  | .badTranscript package _ => package

def cause? : ScanError → Option TranscriptError
  | .badTranscript _ error => some error
  | _ => none

/-- Whether the error ends the whole run. -/
def isFatal (skipMalformed : Bool) : ScanError → Bool
  | .sourceMissing _ _ => false
  | .badTranscript _ _ => !skipMalformed
  | .fetchFailed _ _ | .analyzerFailed _ _ => true

end ScanError
end EffectSurvey
