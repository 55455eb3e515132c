import EffectSurvey.Disk
import EffectSurvey.Text.Decimal

/-! External programs. A machine has a disk, and says what each program file does with its arguments and
the files; here it is found, started, and heard out. -/
namespace EffectSurvey

inductive ExitStatus where
  | code (n : Nat)
  | signal (n : Nat)
  deriving DecidableEq, Repr

namespace ExitStatus

def succeeded : ExitStatus → Bool
  | .code n => n == 0
  | .signal _ => false

/-- The names of the signals from 1 on. -/
def signalNames : List String :=
  ["SIGHUP", "SIGINT", "SIGQUIT", "SIGILL", "SIGTRAP", "SIGABRT", "SIGBUS", "SIGFPE", "SIGKILL",
   "SIGUSR1", "SIGSEGV", "SIGUSR2", "SIGPIPE", "SIGALRM", "SIGTERM", "SIGSTKFLT", "SIGCHLD",
   "SIGCONT", "SIGSTOP", "SIGTSTP", "SIGTTIN", "SIGTTOU", "SIGURG", "SIGXCPU", "SIGXFSZ",
   "SIGVTALRM", "SIGPROF", "SIGWINCH", "SIGIO", "SIGPWR", "SIGSYS"]

def message : ExitStatus → String
  | .code n => "exit status: " ++ Text.decimal n
  | .signal n =>
    "signal: " ++ Text.decimal n ++
      match signalNames[n - 1]? with
      | some name => " (" ++ name ++ ")"
      | none => ""

end ExitStatus

/-- What a finished program left. -/
structure Completion where
  status : ExitStatus
  stdout : Bytes
  stderr : Bytes
  files : FileTree

structure Machine where
  /-- The directories in which a program without a slash in its name is looked for. -/
  searchPath : List String
  /-- What the program file at a location does. -/
  execute : Location → List String → FileTree → Completion
  disk : Disk

namespace Machine

/-- The program file at the end of a path. -/
def programAt (files : FileTree) (path : String) : Except Fault Location :=
  match files.stat path with
  | .ok (place, .file _ mode) => if isExecutable mode then .ok place else .error .permissionDenied
  | .ok _ => .error .permissionDenied
  | .error fault => .error fault

/-- The first program of a name in a list of directories. A refused one is only remembered. -/
def search (files : FileTree) (name : String) (remembered : Fault) :
    List String → Except Fault Location
  | [] => .error remembered
  | dir :: dirs =>
    match programAt files (Path.join dir name) with
    | .ok place => .ok place
    | .error .permissionDenied => search files name .permissionDenied dirs
    | .error _ => search files name remembered dirs

def locate (m : Machine) (files : FileTree) (program : String) : Except Fault Location :=
  if program = "" then .error .notFound
  else if '/' ∈ program.toList then programAt files program
  else search files program .notFound m.searchPath

/-- Runs a program to its end. It is not started if it cannot be found, or if its name or an argument
holds a zero character. -/
def run (m : Machine) (program : String) (args : List String) : Work Fault Completion := fun files =>
  if (program :: args).any fun text => '\x00' ∈ text.toList then ⟨.error .zeroInArgument, files, []⟩
  else
    match m.locate files program with
    | .ok place =>
      let completion := m.execute place args files
      ⟨.ok completion, completion.files, []⟩
    | .error fault => ⟨.error fault, files, []⟩

end Machine
end EffectSurvey
