import EffectSurvey.Proofs.Batch.Calls
import EffectSurvey.Proofs.Report.Saving
import EffectSurvey.Proofs.Transcript.RoundTrip
import EffectSurvey.Proofs.Workflow.Endings
import Mathlib.Logic.Relation

/-! What a run changes. Up to its reports it changes no file itself: all that changes is done by the tools it
starts, with the words that its settings give. So a run that fails before its reports has saved nothing, and
one that succeeds has come through all stages and saved all that was asked for. -/
namespace EffectSurvey

open Relation (ReflTransGen)

namespace Work
variable {ε δ α β : Type} {step : FileTree → FileTree → Prop}

def ChangesBy (step : FileTree → FileTree → Prop) (work : Work ε α) : Prop :=
  work.Moves (ReflTransGen step)

theorem Keeps.changesBy {work : Work ε α} (keeps : work.Keeps) : work.ChangesBy step := by
  intro files
  rw [keeps files]

theorem Quiet.changesBy {quiet : Work ε Unit} (silent : quiet.Quiet) : quiet.ChangesBy step :=
  silent.keeps.changesBy

theorem ChangesBy.bind {first : Work ε α} {next : α → Work ε β} (changes : first.ChangesBy step)
    (rest : ∀ a, (next a).ChangesBy step) : (first >>= next).ChangesBy step :=
  Moves.bind .trans changes rest

theorem ChangesBy.mapError {work : Work ε α} (changes : work.ChangesBy step) (f : ε → δ) :
    (work.mapError f).ChangesBy step := changes

theorem ChangesBy.attempt {work : Work ε α} (changes : work.ChangesBy step) :
    (work.attempt : Work δ (Except ε α)).ChangesBy step := changes

end Work

/-- What one step leaves alone is not changed by a row of them. -/
theorem FileTree.entryAt?_of_steps {step : FileTree → FileTree → Prop} {a b : FileTree}
    {place : Location}
    (kept : ∀ before after, step before after → after.entryAt? place = before.entryAt? place)
    (steps : ReflTransGen step a b) : b.entryAt? place = a.entryAt? place := by
  induction steps with
  | refl => rfl
  | tail _ last ih => exact (kept _ _ last).trans ih

section Tools
variable {step : FileTree → FileTree → Prop} {machine : Machine}

theorem Machine.run_changesBy {program : String} {args : List String}
    (tool : ∀ files place, machine.locate files program = .ok place →
      step files (machine.execute place args files).files) :
    (machine.run program args).ChangesBy step := by
  intro files
  unfold Machine.run
  split
  · exact .refl
  · split
    · rename_i place found
      exact .single (tool files place found)
    · exact .refl

theorem AnalyzerCommand.probe_changesBy {a : AnalyzerCommand}
    (ran : (machine.run a.program ["--version"]).ChangesBy step) :
    (a.probe machine).ChangesBy step := by
  refine (ran.mapError _).bind fun completion => ?_
  split <;> exact fun _ => .refl

theorem AnalyzerCommand.analyzer_changesBy {a : AnalyzerCommand} {package : Package}
    (ran : (machine.run a.program (package.dir :: a.args)).ChangesBy step) :
    (a.analyzer machine package).ChangesBy step := by
  refine (Work.quiet_log _ _).changesBy.bind fun _ => (Work.quiet_log _ _).changesBy.bind fun _ => ?_
  refine (ran.mapError _).bind fun completion => ?_
  split <;> exact fun _ => .refl

theorem FetchCommand.fetcher_changesBy {f : FetchCommand} {package target : String}
    (ran : ∀ program args, f.command = program :: args →
      (machine.run program (args ++ [package, f.outputFlag, target])).ChangesBy step) :
    (f.fetcher machine package target).ChangesBy step := by
  unfold fetcher
  split
  · exact fun _ => .refl
  · rename_i program args words
    refine ((ran program args words).mapError _).bind fun completion => ?_
    split <;> exact fun _ => .refl

end Tools

namespace Batch
variable {step : FileTree → FileTree → Prop} {fetcher : Fetcher} {analyzer : Analyzer}
  {options : BatchOptions}

theorem ensureSource_changesBy {base name : String} {testMode : Bool}
    (fetched : testMode = false → (fetcher name (Path.join base name)).ChangesBy step) :
    (ensureSource fetcher base testMode name).ChangesBy step := by
  intro files
  rw [ensureSource_apply]
  dsimp only
  split
  · exact .refl
  · split
    · exact .refl
    · rename_i live
      exact fetched (by simpa using live) files

theorem scanPackage_changesBy {name : String}
    (fetched : options.testMode = false →
      (fetcher name (Path.join options.sourceDir name)).ChangesBy step)
    (analyzed : (analyzer ⟨name, Path.join options.sourceDir name⟩).ChangesBy step) :
    (scanPackage fetcher analyzer options name).ChangesBy step := by
  intro files
  refine Work.moves_bind_at .trans (ensureSource_changesBy fetched files) fun dir resolved => ?_
  obtain rfl := Source.path_of_ensureSource resolved
  refine analyzed.bind (fun output => ?_) _
  split
  · exact (Work.quiet_forM (fun _ => Work.quiet_log _ _) _).changesBy.bind fun _ _ => .refl
  · exact fun _ => .refl

theorem takeAll_changesBy {scan : String → Work ScanError PackageScan}
    (scanned : ∀ name, (scan name).ChangesBy step) (total done : Nat) (outcome : Outcome)
    (names : List String) : (takeAll scan options total done outcome names).ChangesBy step := by
  induction names generalizing done outcome with
  | nil => exact fun _ => .refl
  | cons name names ih =>
    refine (scanned name).attempt.bind fun result => ?_
    split
    · exact fun _ => .refl
    · refine (tellSkip_quiet result).changesBy.bind fun _ => ?_
      split
      · exact (Work.quiet_log _ _).changesBy.bind fun _ => ih _ _
      · exact ih _ _

end Batch

namespace Workflow
variable {machine : Machine} {argv : List String} {o : Options} {files : FileTree}

section Kept

theorem load_keeps (path : String) : (Settings.load path).Keeps := by
  refine .bind (fun _ => rfl) fun content => ?_
  split <;> exact fun _ => rfl

theorem loadUsual_keeps : Settings.loadUsual.Keeps := by
  refine .bind (fun _ => rfl) fun present => ?_
  split
  · exact (load_keeps _).bind fun _ _ => rfl
  · exact fun _ => rfl

theorem loadSettings_keeps (o : Options) : (loadSettings o).Keeps := by
  unfold loadSettings
  split
  · exact (Work.quiet_log _ _).keeps.bind fun _ => load_keeps _
  · refine .bind loadUsual_keeps fun loaded => ?_
    split <;> exact fun _ => rfl

end Kept

/-- The words with which a run starts a tool: the analyzer for its version or on the source of a package, or
the fetcher to bring that source. -/
inductive Command (o : Options) (s : Settings) : String → List String → Prop where
  | probe : Command o s s.analyzer.command ["--version"]
  | analyze (name : String) : Command o s s.analyzer.command
    (Path.join (s.sourceDir o.testRun) name :: (s.analyzerCommand o.stdOnly).args)
  | fetch {program : String} {args : List String} (name : String) (live : o.testRun = false)
    (words : s.fetch.command = program :: args) : Command o s program
      (args ++ [name, s.fetch.outputFlag, Path.join (s.sourceDir o.testRun) name])

/-- The files before and after a tool that a run may start, if the run itself starts from `files`. -/
inductive ToolRun (machine : Machine) (o : Options) (files : FileTree) : FileTree → FileTree → Prop where
  | intro {settings : Settings} {program : String} {args : List String} {place : Location}
    {before : FileTree} (loaded : (loadSettings o files).value = .ok settings)
    (command : Command o (settings.override o) program args)
    (found : machine.locate before program = .ok place) :
    ToolRun machine o files before (machine.execute place args before).files

section Changes
variable {settings : Settings}

theorem run_changesBy_of_command {program : String} {args : List String}
    (loaded : (loadSettings o files).value = .ok settings)
    (command : Command o (settings.override o) program args) :
    (machine.run program args).ChangesBy (ToolRun machine o files) :=
  Machine.run_changesBy fun _ _ found => .intro loaded command found

theorem prepare_changes (machine : Machine) (o : Options) (files : FileTree) :
    ReflTransGen (ToolRun machine o files) files (prepare machine o files).files := by
  refine Work.moves_bind_at .trans ((loadSettings_keeps o).changesBy files) fun settings loaded => ?_
  refine (AnalyzerCommand.probe_changesBy (run_changesBy_of_command loaded .probe)).bind (fun _ => ?_) _
  exact (choosePackages_keeps o).changesBy.bind fun _ _ => .refl

theorem batch_changesBy {plan : Plan} (loaded : (loadSettings o files).value = .ok settings)
    (same : plan.settings = settings.override o) :
    (plan.batch machine o).ChangesBy (ToolRun machine o files) := by
  unfold Plan.batch Batch.run
  rw [same]
  refine Batch.takeAll_changesBy (fun name => Batch.scanPackage_changesBy (fun live => ?_) ?_) _ _ _ _
  · refine FetchCommand.fetcher_changesBy fun program args words => ?_
    exact run_changesBy_of_command loaded (.fetch name live words)
  · exact AnalyzerCommand.analyzer_changesBy (run_changesBy_of_command loaded (.analyze name))

/-- Up to the reports all changes are those of tools. -/
theorem survey_changes (machine : Machine) (o : Options) (files : FileTree) :
    ReflTransGen (ToolRun machine o files) files (survey machine o files).files := by
  refine Work.moves_bind_at .trans (prepare_changes machine o files) fun plan prepared => ?_
  obtain ⟨⟨settings, loaded, same⟩, -⟩ := prepare_eq_ok prepared
  have scanned : (scan machine o plan).ChangesBy (ToolRun machine o files) := by
    refine (quiet_logIf _ _ _).changesBy.bind fun _ => (quiet_logIf _ _ _).changesBy.bind fun _ => ?_
    refine (Work.quiet_log _ _).changesBy.bind fun _ => ?_
    refine ((batch_changesBy loaded same).mapError _).bind fun outcome => ?_
    exact (quiet_logIf _ _ _).changesBy.bind fun _ _ => .refl
  exact scanned.bind (fun _ _ => .refl) _

end Changes

section Stages

/-- A stage before the reports fails: settings that are named on the command line, the check of the analyzer,
the list of packages, or the batch. Each stage finds the files that the ones before it have left. -/
inductive StageFails (machine : Machine) (o : Options) (files : FileTree) : Failure → Prop where
  | settings {path : String} {failure : Failure} (named : o.settingsFile = some path)
    (failed : (Settings.load path files).value = .error failure) :
    StageFails machine o files failure
  | probe {settings : Settings} {failure : Failure}
    (loaded : (loadSettings o files).value = .ok settings)
    (failed : (checkAnalyzer machine o settings files).value = .error failure) :
    StageFails machine o files failure
  | packages {settings : Settings} {path : String} {failure : Failure}
    (loaded : (loadSettings o files).value = .ok settings)
    (checked : (checkAnalyzer machine o settings files).value = .ok ())
    (alone : o.package = none) (listed : o.listFile = some path)
    (failed : (loadPackageList path (!o.noHeader)
      (checkAnalyzer machine o settings files).files).value = .error failure) :
    StageFails machine o files failure
  | batch {plan : Plan} {e : ScanError} (prepared : (prepare machine o files).value = .ok plan)
    (failed : (plan.batch machine o (prepare machine o files).files).value = .error e) :
    StageFails machine o files (.scan e)

theorem value_survey_of_stageFails {failure : Failure} (fails : StageFails machine o files failure) :
    (survey machine o files).value = .error failure := by
  cases fails with
  | settings named failed =>
    have unloaded : (loadSettings o files).value = .error failure := by
      simp only [loadSettings, named]
      rwa [(Work.quiet_log _ _).value_bind]
    exact Work.value_bind_of_error (Work.value_bind_of_error unloaded)
  | probe loaded failed =>
    refine Work.value_bind_of_error ?_
    rw [prepare, Work.value_bind_of_ok loaded, loadSettings_keeps o files]
    exact Work.value_bind_of_error failed
  | packages loaded checked alone listed failed =>
    refine Work.value_bind_of_error ?_
    rw [prepare, Work.value_bind_of_ok loaded, loadSettings_keeps o files]
    refine (Work.value_bind_of_ok checked).trans (Work.value_bind_of_error ?_)
    simp only [choosePackages, alone, listed]
    exact Work.value_bind_of_error failed
  | batch prepared failed =>
    rw [(survey_of_prepared prepared).1, failed]
    rfl

/-- A survey succeeds exactly if it comes through all its stages. -/
theorem survey_eq_ok {settings : Settings} {outcome : Outcome} :
    (survey machine o files).value = .ok (settings, outcome) ↔
      ∃ plan, (prepare machine o files).value = .ok plan ∧ plan.settings = settings ∧
        (plan.batch machine o (prepare machine o files).files).value = .ok outcome := by
  constructor
  · intro surveyed
    obtain ⟨plan, prepared, -⟩ := Work.exists_of_bind_eq_ok surveyed
    rw [(survey_of_prepared prepared).1] at surveyed
    cases batched : (plan.batch machine o (prepare machine o files).files).value with
    | ok ended =>
      rw [batched] at surveyed
      cases surveyed
      exact ⟨plan, prepared, rfl, batched⟩
    | error e =>
      rw [batched] at surveyed
      contradiction
  · rintro ⟨plan, prepared, rfl, batched⟩
    rw [(survey_of_prepared prepared).1, batched]
    rfl

end Stages

section Reported
variable {settings : Settings} {outcome : Outcome}

theorem report_apply (disk : Disk) (o : Options) (settings : Settings) (outcome : Outcome)
    (files : FileTree) :
    let sent := Report.send disk outcome.summaries outcome.findings settings.report.sortKey
      (destination o settings) files
    (report disk o settings outcome files).value = sent.value ∧
      (report disk o settings outcome files).files = sent.files := by
  rw [report]
  constructor
  · rw [(quiet_tellInconsistency _).value_bind, (Work.quiet_log _ _).value_bind,
      (quiet_logIf _ _ _).value_bind]
  · rw [(quiet_tellInconsistency _).files_bind, (Work.quiet_log _ _).files_bind,
      (quiet_logIf _ _ _).files_bind]

/-- Reports that are sent to files without a failure are all saved. -/
theorem report_saved {disk : Disk} {start : String} (asked : o.reportStart = some start)
    (reported : (report disk o settings outcome files).value = .ok ()) :
    let paths := Report.Paths.of settings.paths.resultsDir start
    Report.Saved (makeDirectories (Path.directory paths.findings) files).files
      (Report.sheets paths outcome.summaries outcome.findings settings.report.sortKey)
      (report disk o settings outcome files).files := by
  intro paths
  obtain ⟨value, left⟩ := report_apply disk o settings outcome files
  rw [destination, asked] at value left
  rw [value] at reported
  obtain ⟨k, -, ended, saved, -⟩ := Report.deliver_saved disk files outcome.summaries outcome.findings
    settings.report.sortKey settings.paths.resultsDir start
  rw [ended.mp reported, Report.deliver, Failure.files_onFailure_release, Failure.settled, reported,
    ← left] at saved
  exact saved

end Reported

/-- The files and the exit code of a run, apart from its log. -/
theorem runLogged_apply (machine : Machine) (o : Options) (files : FileTree) :
    (runLogged machine o files).files = (run machine o files).files ∧
    ((runLogged machine o files).exitCode = 0 ↔ (run machine o files).value = .ok ()) ∧
    ∀ failure, (run machine o files).value = .error failure →
      (runLogged machine o files).exitCode = 1 ∧
      (runLogged machine o files).stderr = "Error: " ++ failure.message ++ "\n" := by
  have value : (session machine o files).value = (run machine o files).value := by
    rw [session, (Work.quiet_log _ _).value_bind, (Work.quiet_log _ _).value_bind]
  have left : (session machine o files).files = (run machine o files).files := by
    rw [session, (Work.quiet_log _ _).files_bind, (Work.quiet_log _ _).files_bind]
  rw [← value, ← left, runLogged, conclude]
  split
  · rename_i succeeded
    simp [succeeded]
  · rename_i failure failed
    simp [failed]

/-- A run exits with code 0 if its stages succeed and it can save its reports in the root directory, where no
directory has one of their names, on a disk that does as it is told. -/
theorem exitCode_of_stages {plan : Plan} {outcome : Outcome} {start : String}
    (sound : machine.disk = .sound) (runs : Runs argv files o)
    (prepared : (prepare machine o files).value = .ok plan)
    (batched : (plan.batch machine o (prepare machine o files).files).value = .ok outcome)
    (asked : o.reportStart = some start)
    (free : ∀ suffix ∈ Report.endings, ∃ name,
      Report.AtRoot (Path.join plan.settings.paths.resultsDir start ++ suffix) name ∧
        (survey machine o files).files.entryAt? [name] ≠ some .directory) :
    (Workflow.start machine argv files).exitCode = 0 := by
  have surveyed := survey_eq_ok.mpr ⟨plan, prepared, rfl, batched⟩
  rw [start_of_runs runs, (runLogged_apply machine o files).2.1, run, Work.value_bind_of_ok surveyed,
    (report_apply _ o plan.settings outcome _).1, destination, asked, sound]
  refine (congrArg Done.value (congrFun (Report.saveAll_eq _ _ _ _ _) _)).trans ?_
  refine Report.value_saveEach_of_atRoot _ fun sheet member => ?_
  obtain ⟨suffix, among, same⟩ := Report.exists_ending_of_mem_sheets _ _ _ _ _ member
  exact same ▸ free suffix among

/-- A run that fails before its reports exits with code 1 and has saved nothing: what has changed in the files
was done by tools that its settings name, and whatever these tools leave alone is as it was. A run that exits
with code 0 has come through every stage; and if it was asked to save its reports, all four stand complete
where their paths led once the directory was made, and where they lead in the end if they lead anywhere. -/
theorem failed_survey_saves_nothing (machine : Machine) (runs : Runs argv files o) :
    let ending := Workflow.start machine argv files
    (∀ failure, StageFails machine o files failure →
      ending.exitCode = 1 ∧ ending.stderr = "Error: " ++ failure.message ++ "\n" ∧
      ReflTransGen (ToolRun machine o files) files ending.files ∧
      ∀ place, (∀ before after, ToolRun machine o files before after →
          after.entryAt? place = before.entryAt? place) →
        ending.files.entryAt? place = files.entryAt? place) ∧
    (ending.exitCode = 0 →
      (∀ failure, ¬ StageFails machine o files failure) ∧
      ∃ plan outcome, (prepare machine o files).value = .ok plan ∧
        (plan.batch machine o (prepare machine o files).files).value = .ok outcome ∧
        ∀ start, o.reportStart = some start →
          let paths := Report.Paths.of plan.settings.paths.resultsDir start
          let ready :=
            (makeDirectories (Path.directory paths.findings) (survey machine o files).files).files
          ∀ report ∈ Report.sheets paths outcome.summaries outcome.findings
              plan.settings.report.sortKey,
            ∃ place, ready.Leads report.path place ∧
              (∀ other, ending.files.Leads report.path other → other = place) ∧
              ending.files.entryAt? place = some (.file (Text.Utf8.encode report.text) 0o644)) := by
  obtain ⟨left, exits, fails⟩ := runLogged_apply machine o files
  rw [start_of_runs runs]
  refine ⟨fun failure stage => ?_, fun code => ?_⟩
  · have stopped := value_survey_of_stageFails stage
    have changes := survey_changes machine o files
    obtain ⟨code, message⟩ := fails failure (Work.value_bind_of_error stopped)
    rw [run, Work.files_bind_of_error stopped] at left
    rw [left]
    exact ⟨code, message, changes, fun place kept => FileTree.entryAt?_of_steps kept changes⟩
  · obtain ⟨⟨settings, outcome⟩, surveyed, reported⟩ := Work.exists_of_bind_eq_ok (exits.mp code)
    obtain ⟨plan, prepared, rfl, batched⟩ := survey_eq_ok.mp surveyed
    refine ⟨fun failure stage => ?_, plan, outcome, prepared, batched, fun start asked => ?_⟩
    · rw [value_survey_of_stageFails stage] at surveyed
      contradiction
    · intro paths ready report member
      have saved := report_saved asked reported
      rw [run, Work.files_bind_of_ok surveyed] at left
      rw [left]
      obtain ⟨place, leads, -, holds⟩ := saved.holds report member
      exact ⟨place, leads, fun other there => (saved.overlay.leads there).unique leads, holds⟩

/-- A machine whose programs leave a log when they are asked for their version, and otherwise print one
output. -/
def loggingMachine (check : ExitStatus) (output : Bytes) : Machine where
  searchPath := []
  execute _ args files :=
    if args = ["--version"] then
      ⟨check, [], [], ⟨("scan.log", .file [] 0o644) :: files.root, files.home⟩⟩
    else ⟨.code 0, output, [], files⟩
  disk := .sound

section Logging
variable {check : ExitStatus} {output : Bytes}

theorem entryAt?_of_loggingMachine {before after : FileTree} {name : String}
    (differs : name ≠ "scan.log")
    (tool : ToolRun (loggingMachine check output) o files before after) :
    after.entryAt? [name] = before.entryAt? [name] := by
  cases tool with
  | @intro _ _ args =>
    simp only [loggingMachine]
    split
    · rw [FileTree.entryAt?_eq, FileTree.entryAt?_eq, Folder.entryAt?_singleton,
        Folder.entryAt?_singleton, Folder.find?, Folder.find?, Table.lookup, if_neg differs.symm]
    · rfl

/-- The first stages of a run for one package. -/
theorem prepare_loggingMachine {name : String} (outfitted : Outfitted files)
    (usual : o.settingsFile = none) (asked : o.package = some name)
    (trimmed : Text.trim name = name) :
    (prepare (loggingMachine (.code 0) output) o files).value =
        .ok ⟨({} : Settings).override o, [name], name⟩ ∧
      (prepare (loggingMachine (.code 0) output) o files).files =
        ⟨("scan.log", .file [] 0o644) :: files.root, files.home⟩ := by
  have checked : checkAnalyzer (loggingMachine (.code 0) output) o {} files =
      ⟨.ok (), ⟨("scan.log", .file [] 0o644) :: files.root, files.home⟩, []⟩ :=
    outfitted.checkAnalyzer_eq _ o
  have chosen (t : FileTree) : (choosePackages o t).value = .ok ([name], name) := by
    simp only [choosePackages, asked, trimmed]
    rfl
  obtain ⟨value, left⟩ := prepare_of_stages (outfitted.loadSettings_eq usual)
    (show (checkAnalyzer (loggingMachine (.code 0) output) o {} files).value = .ok () by rw [checked])
    (chosen _)
  exact ⟨value, by rw [left, checked]⟩

/-- The batch of a run for one package about which a transcript is printed. -/
theorem value_batch_loggingMachine {name description : String} {findings : List Finding}
    {metadata : MetadataRow} (outfitted : Outfitted files) (live : o.testRun = false)
    (present : files.pathExists (Path.join "data/packages" name) = true)
    (plain : '\x00' ∉ (Path.join "data/packages" name).toList)
    (scanned : Path.join "data/packages" name ≠ "--version")
    (rows : ∀ f ∈ findings, f.Expressible) (row : Text.OneLine metadata.text) :
    (Plan.batch (loggingMachine check (Transcript.write findings metadata)) o
      ⟨({} : Settings).override o, [name], description⟩ files).value =
      .ok ((Outcome.start [name]).absorb ⟨name, findings, metadata⟩) := by
  have there : (batchOptions o (({} : Settings).override o)).sourceDir = "data/packages" := by
    simp only [batchOptions, live]
    rfl
  refine Batch.value_run_singleton ?_
  have silent : ∀ stdOnly, ∀ text ∈ (({} : Settings).analyzerCommand stdOnly).args,
      '\x00' ∉ text.toList := by
    decide +kernel
  refine (outfitted.value_scanPackage _ _ (by rwa [there]) ?_).trans ?_
  · rw [there]
    exact List.forall_mem_cons.mpr ⟨plain, silent o.stdOnly⟩
  · rw [there, loggingMachine]
    simp only [List.cons.injEq, scanned, false_and, if_false]
    rw [Transcript.read_write name rows row]
    rfl

end Logging

/-- A check of the analyzer that leaves a log and is refused, and then one that is accepted. An earlier report
survives the first run and is replaced by the second. -/
theorem earlier_report_survives_refused_check :
    let finding : Finding := ⟨"b", "f", "g", "Unsafe", "src", "lib.rs", 1, 2⟩
    let machine (check : ExitStatus) := loggingMachine check (Transcript.write [finding] ⟨"1"⟩)
    let files : FileTree := ⟨[("q_all.csv", .file (Text.Utf8.encode "old") 0o644),
      ("data", .directory [("packages", .directory [("b", .directory [])])]),
      ("target", .directory [("release", .directory [("scan", .file [] 0o755)])])], []⟩
    let argv := ["-c", "b", "-o", "/q"]
    let refused := start (machine (.code 3)) argv files
    let accepted := start (machine (.code 0)) argv files
    ∃ o, Runs argv files o ∧
      StageFails (machine (.code 3)) o files (.analyzerRefused "./target/release/scan" (.code 3)) ∧
      refused.exitCode = 1 ∧ ReflTransGen (ToolRun (machine (.code 3)) o files) files refused.files ∧
      refused.files.entryAt? ["q_all.csv"] = some (.file (Text.Utf8.encode "old") 0o644) ∧
      accepted.exitCode = 0 ∧ accepted.files.entryAt? ["q_all.csv"] =
        some (.file (Text.Utf8.encode (Report.findings [finding])) 0o644) := by
  intro finding machine files argv refused accepted
  let o : Options :=
    ⟨some "b", none, false, some "/q", false, 0, false, none, none, false, false, none, .text, false⟩
  let logged : FileTree := ⟨("scan.log", .file [] 0o644) :: files.root, []⟩
  have outfitted : Outfitted files := ⟨rfl, rfl, rfl⟩
  have runs : Runs argv files o := ⟨by decide +kernel, rfl, rfl⟩
  have fails : StageFails (machine (.code 3)) o files
      (.analyzerRefused "./target/release/scan" (.code 3)) := by
    refine .probe (by rw [outfitted.loadSettings_eq rfl]) ?_
    rw [outfitted.checkAnalyzer_eq]
    rfl
  let plan : Plan := ⟨({} : Settings).override o, ["b"], "b"⟩
  obtain ⟨prepared, left⟩ : (prepare (machine (.code 0)) o files).value = .ok plan ∧
      (prepare (machine (.code 0)) o files).files = logged :=
    prepare_loggingMachine outfitted rfl rfl (by decide +kernel)
  have present : logged.pathExists (Path.join "data/packages" "b") = true :=
    FileTree.pathExists_of_entryAt? rfl
      (show FileTree.Spells _ ["data", "packages", "b"] by decide +kernel) rfl nofun
  have batched : (plan.batch (machine (.code 0)) o (prepare (machine (.code 0)) o files).files).value =
      .ok ((Outcome.start ["b"]).absorb ⟨"b", [finding], ⟨"1"⟩⟩) := by
    rw [left]
    exact value_batch_loggingMachine ⟨rfl, rfl, rfl⟩ rfl present (by decide +kernel)
      (by decide +kernel) (by decide +kernel) ⟨by decide +kernel, by decide +kernel⟩
  have code : accepted.exitCode = 0 := by
    refine exitCode_of_stages rfl runs prepared batched rfl fun suffix among => ?_
    have named : ∀ suffix ∈ Report.endings, Report.AtRoot ("/q" ++ suffix) ("q" ++ suffix) ∧
        "q" ++ suffix ≠ "scan.log" ∧ files.entryAt? ["q" ++ suffix] ≠ some .directory := by
      decide +kernel
    obtain ⟨inside, differs, file⟩ := named suffix among
    refine ⟨_, inside, ?_⟩
    rwa [FileTree.entryAt?_of_steps (fun _ _ => entryAt?_of_loggingMachine differs)
      (survey_changes _ o files)]
  obtain ⟨exitCode, -, changes, rest⟩ := (failed_survey_saves_nothing (machine (.code 3)) runs).1 _ fails
  obtain ⟨-, plan, outcome, prepared', batched', saved⟩ :=
    (failed_survey_saves_nothing (machine (.code 0)) runs).2 code
  obtain rfl := Except.ok.inj (prepared.symm.trans prepared')
  obtain rfl := Except.ok.inj (batched.symm.trans batched')
  obtain ⟨place, leads, -, holds⟩ := saved "/q" rfl _ List.mem_cons_self
  have inside : Report.AtRoot (Report.Paths.of "data/results" "/q").findings "q_all.csv" := by
    decide +kernel
  obtain ⟨spot, resolved, here, -⟩ := inside.resolve _
  obtain rfl : place = ["q_all.csv"] := leads.unique ⟨spot, resolved, here⟩
  refine ⟨o, runs, fails, exitCode, changes, ?_, code, holds⟩
  exact rest ["q_all.csv"] fun _ _ => entryAt?_of_loggingMachine (by decide)

end Workflow
end EffectSurvey
