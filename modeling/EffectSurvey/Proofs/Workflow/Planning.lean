import EffectSurvey.Proofs.Files.Walk
import EffectSurvey.Proofs.PackageList
import EffectSurvey.Proofs.Work
import EffectSurvey.Workflow

/-! From the words of the command line to the packages of a run. What the words must name, the check of the
options and the reading of a list each rule out a part of what a run could not work with, so that the list
of packages that reaches the batch needs no check of its own. -/
namespace EffectSurvey

namespace CommandLine
variable {argv : List String} {o : Options}

end CommandLine

/-- A program that is named by its path runs if there is a program file at the end of the path. -/
theorem Machine.run_of_stat {m : Machine} {program : String} {args : List String}
    {files : FileTree} {place : Location} {content : Bytes} {mode : Nat}
    (plain : ∀ text ∈ program :: args, '\x00' ∉ text.toList) (path : '/' ∈ program.toList)
    (found : files.stat program = .ok (place, .file content mode)) (executable : isExecutable mode) :
    m.run program args files =
      ⟨.ok (m.execute place args files), (m.execute place args files).files, []⟩ := by
  have nonempty : program ≠ "" := by
    rintro rfl
    contradiction
  have located : m.locate files program = .ok place := by
    rw [locate, if_neg nonempty, if_pos path, programAt, found]
    exact if_pos executable
  rw [run, if_neg (by simpa using plain), located]

/-- What the analyzer prints is its result, however it ends. -/
theorem AnalyzerCommand.value_analyzer {a : AnalyzerCommand} {m : Machine} {files : FileTree}
    {completion : Completion} (package : Package)
    (ran : (m.run a.program (package.dir :: a.args) files).value = .ok completion) :
    (a.analyzer m package files).value = .ok completion.stdout := by
  rw [analyzer, (Work.quiet_log _ _).value_bind, (Work.quiet_log _ _).value_bind,
    Work.value_bind_of_ok (show (Work.mapError _ (m.run _ _) files).value = .ok completion by
      rw [Work.mapError, ran]
      rfl)]
  split <;> rfl

namespace Workflow
variable {machine : Machine} {argv : List String} {o : Options} {files : FileTree}

/-- The words ask for a run of these options, and the options pass their checks. -/
structure Runs (argv : List String) (files : FileTree) (o : Options) : Prop where
  parsed : CommandLine.parse argv = .ok o
  checked : o.check files = .ok ()
  surveys : o.initSettings = false

theorem start_of_runs (runs : Runs argv files o) (machine : Machine) :
    start machine argv files = runLogged machine o files := by
  simp [start, runs.parsed, runs.checked, runs.surveys]

/-- Words that ask for no run are answered without the machine. -/
theorem start_of_not_runs (idle : ∀ o, ¬ Runs argv files o) (machine other : Machine) :
    start machine argv files = start other argv files := by
  unfold start
  split
  · rfl
  · rename_i o parsed
    split
    · rfl
    · rename_i checked
      split
      · rfl
      · rename_i surveys
        exact absurd ⟨parsed, checked, by simpa using surveys⟩ (idle o)

/-- Without a file of settings the defaults are in force. -/
theorem loadSettings_of_absent (usual : o.settingsFile = none)
    (absent : files.stat Settings.fileName = .error .notFound) :
    loadSettings o files =
      ⟨.ok {}, files, [.log .debug "No config file found, using defaults"]⟩ := by
  simp only [loadSettings, usual, Settings.loadUsual, bind, Work.andThen, Work.attempt, Work.look,
    FileTree.pathExists, absent]
  rfl

/-- A plan has the settings that were loaded, and packages that were chosen. -/
theorem prepare_eq_ok {plan : Plan} (prepared : (prepare machine o files).value = .ok plan) :
    (∃ settings, (loadSettings o files).value = .ok settings ∧
      plan.settings = settings.override o) ∧
    ∃ before, (choosePackages o before).value = .ok (plan.packages, plan.description) := by
  obtain ⟨settings, loaded, prepared⟩ := Work.exists_of_bind_eq_ok prepared
  obtain ⟨_, -, prepared⟩ := Work.exists_of_bind_eq_ok prepared
  obtain ⟨⟨packages, description⟩, chosen, prepared⟩ := Work.exists_of_bind_eq_ok prepared
  cases prepared
  exact ⟨⟨settings, loaded, rfl⟩, _, chosen⟩

section NothingNamed

theorem quiet_logIf {ε : Type} (condition : Bool) (level : Level) (message : String) :
    (logIf condition level message : Work ε Unit).Quiet := by
  unfold logIf
  split
  · exact Work.quiet_log _ _
  · exact Work.quiet_pure

theorem quiet_tellInconsistency (s : Summaries) : (tellInconsistency s).Quiet := by
  unfold tellInconsistency
  split
  · exact Work.quiet_pure
  · exact Work.quiet_log _ _

end NothingNamed

section Stages

def checkAnalyzer (machine : Machine) (o : Options) (settings : Settings) : Work Failure Unit :=
  ((settings.override o).analyzerCommand o.stdOnly).probe machine

theorem loadPackageList_keeps (path : String) (hasHeader : Bool) :
    (loadPackageList path hasHeader).Keeps := by
  refine .bind (fun _ => rfl) fun content => ?_
  refine (Work.quiet_forM (fun _ => Work.quiet_log _ _) _).keeps.bind fun _ => ?_
  split <;> exact fun _ => rfl

theorem choosePackages_keeps (o : Options) : (choosePackages o).Keeps := by
  unfold choosePackages
  split
  · exact fun _ => rfl
  · exact (loadPackageList_keeps _ _).bind fun _ _ => rfl
  · exact fun _ => rfl

/-- The plan of a run whose first stages succeed. -/
theorem prepare_of_stages {settings : Settings} {notes : List Note} {packages : List String}
    {description : String} (loaded : loadSettings o files = ⟨.ok settings, files, notes⟩)
    (checked : (checkAnalyzer machine o settings files).value = .ok ())
    (chosen : (choosePackages o (checkAnalyzer machine o settings files).files).value =
      .ok (packages, description)) :
    (prepare machine o files).value = .ok ⟨settings.override o, packages, description⟩ ∧
      (prepare machine o files).files = (checkAnalyzer machine o settings files).files := by
  have first : (loadSettings o files).value = .ok settings := by rw [loaded]
  rw [prepare, Work.value_bind_of_ok first, Work.files_bind_of_ok first, loaded]
  rw [checkAnalyzer] at checked chosen ⊢
  rw [Work.value_bind_of_ok checked, Work.files_bind_of_ok checked, Work.value_bind_of_ok chosen,
    Work.files_bind_of_ok chosen]
  exact ⟨rfl, choosePackages_keeps o _⟩

/-- The batch of a plan, apart from what is said about it. -/
def Plan.batch (machine : Machine) (o : Options) (plan : Plan) : Work ScanError Outcome :=
  Batch.run (plan.settings.fetchCommand.fetcher machine)
    ((plan.settings.analyzerCommand o.stdOnly).analyzer machine) (batchOptions o plan.settings)
    plan.packages

theorem scan_apply (machine : Machine) (o : Options) (plan : Plan) (files : FileTree) :
    (scan machine o plan files).value = (plan.batch machine o files).value.mapError .scan ∧
      (scan machine o plan files).files = (plan.batch machine o files).files := by
  rw [scan, (quiet_logIf _ _ _).value_bind, (quiet_logIf _ _ _).value_bind,
    (Work.quiet_log _ _).value_bind, (quiet_logIf _ _ _).files_bind, (quiet_logIf _ _ _).files_bind,
    (Work.quiet_log _ _).files_bind]
  have same : ((plan.batch machine o).mapError Failure.scan files).value =
      (plan.batch machine o files).value.mapError .scan := rfl
  cases batched : (plan.batch machine o files).value with
  | ok outcome =>
    rw [batched] at same
    exact ⟨(Work.value_bind_of_ok same).trans ((quiet_logIf _ _ _).value_bind _ _),
      (Work.files_bind_of_ok same).trans ((quiet_logIf _ _ _).files_bind _ _)⟩
  | error e =>
    rw [batched] at same
    exact ⟨Work.value_bind_of_error same, Work.files_bind_of_error same⟩

/-- A survey that has a plan ends as the batch of that plan does. -/
theorem survey_of_prepared {plan : Plan} (prepared : (prepare machine o files).value = .ok plan) :
    let batch := plan.batch machine o (prepare machine o files).files
    (survey machine o files).value =
        (batch.value.mapError .scan).map (fun outcome => (plan.settings, outcome)) ∧
      (survey machine o files).files = batch.files := by
  intro batch
  obtain ⟨value, left⟩ := scan_apply machine o plan (prepare machine o files).files
  rw [survey, Work.value_bind_of_ok prepared, Work.files_bind_of_ok prepared, ← value, ← left]
  cases scanned : (scan machine o plan (prepare machine o files).files).value with
  | ok outcome => exact ⟨Work.value_bind_of_ok scanned, Work.files_bind_of_ok scanned⟩
  | error e => exact ⟨Work.value_bind_of_error scanned, Work.files_bind_of_error scanned⟩

end Stages

/-- A working directory without settings of its own, in which the analyzer is where the defaults say. -/
structure Outfitted (t : FileTree) : Prop where
  housed : t.Housed
  unset : t.entryAt? (t.home ++ [Settings.fileName]) = none
  program : t.entryAt? (t.home ++ ["target", "release", "scan"]) = some (.file [] 0o755)

namespace Outfitted

theorem loadSettings_eq (outfitted : Outfitted files) (usual : o.settingsFile = none) :
    loadSettings o files =
      ⟨.ok {}, files, [.log .debug "No config file found, using defaults"]⟩ := by
  have spelled : FileTree.Spells Settings.fileName ([] ++ [Settings.fileName]) := by decide +kernel
  refine loadSettings_of_absent usual (FileTree.stat_of_absent outfitted.housed spelled ?_ ?_)
  · rw [List.append_nil]
    exact outfitted.housed
  · rw [List.append_nil]
    exact outfitted.unset

theorem run_eq (outfitted : Outfitted files) (machine : Machine) {args : List String}
    (plain : ∀ text ∈ args, '\x00' ∉ text.toList) :
    let completion := machine.execute (files.home ++ ["target", "release", "scan"]) args files
    machine.run "./target/release/scan" args files = ⟨.ok completion, completion.files, []⟩ := by
  have found := FileTree.stat_of_entryAt? outfitted.housed
    (show FileTree.Spells "./target/release/scan" _ by decide +kernel) outfitted.program nofun
  exact Machine.run_of_stat (List.forall_mem_cons.mpr ⟨by decide +kernel, plain⟩) (by decide +kernel)
    found (by decide)

theorem checkAnalyzer_eq (outfitted : Outfitted files) (machine : Machine) (o : Options) :
    let completion :=
      machine.execute (files.home ++ ["target", "release", "scan"]) ["--version"] files
    checkAnalyzer machine o {} files =
      ⟨if completion.status.succeeded then .ok ()
        else .error (.analyzerRefused "./target/release/scan" completion.status),
        completion.files, []⟩ := by
  intro completion
  have ran := outfitted.run_eq machine (show ∀ text ∈ ["--version"], '\x00' ∉ text.toList by decide +kernel)
  simp only [checkAnalyzer, AnalyzerCommand.probe, bind, Work.andThen, Work.mapError]
  rw [show (({} : Settings).override o).analyzerCommand o.stdOnly =
    ⟨"./target/release/scan", _⟩ from rfl, ran]
  dsimp only [Except.mapError, completion]
  split <;> rfl

theorem value_analyzer (outfitted : Outfitted files) (machine : Machine) {args : List String}
    {package : Package} (plain : ∀ text ∈ package.dir :: args, '\x00' ∉ text.toList) :
    ((⟨"./target/release/scan", args⟩ : AnalyzerCommand).analyzer machine package files).value =
      .ok (machine.execute (files.home ++ ["target", "release", "scan"]) (package.dir :: args)
        files).stdout := by
  refine AnalyzerCommand.value_analyzer package ?_
  rw [outfitted.run_eq machine plain]

end Outfitted

end Workflow
end EffectSurvey
