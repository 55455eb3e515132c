/-! Why an operation of the system fails, with the system's own words for it. -/
namespace EffectSurvey

inductive Fault where
  | notFound
  | permissionDenied
  | alreadyExists
  | notDirectory
  | isDirectory
  | nameTooLong
  | tooManyLinks
  | invalidArgument
  | notPermitted
  | noSpace
  /-- A file name holds a zero character. -/
  | zeroInName
  /-- A program's name or argument holds a zero character. -/
  | zeroInArgument
  | notText
  deriving DecidableEq, Repr

def Fault.message : Fault → String
  | .notFound => "No such file or directory (os error 2)"
  | .permissionDenied => "Permission denied (os error 13)"
  | .alreadyExists => "File exists (os error 17)"
  | .notDirectory => "Not a directory (os error 20)"
  | .isDirectory => "Is a directory (os error 21)"
  | .nameTooLong => "File name too long (os error 36)"
  | .tooManyLinks => "Too many levels of symbolic links (os error 40)"
  | .invalidArgument => "Invalid argument (os error 22)"
  | .notPermitted => "Operation not permitted (os error 1)"
  | .noSpace => "No space left on device (os error 28)"
  | .zeroInName => "file name contained an unexpected NUL byte"
  | .zeroInArgument => "nul byte found in provided data"
  | .notText => "stream did not contain valid UTF-8"

end EffectSurvey
