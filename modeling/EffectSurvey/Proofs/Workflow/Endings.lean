import EffectSurvey.Proofs.Batch.Calls
import EffectSurvey.Proofs.Workflow.Planning

/-! How the analyzer ends makes no difference. Two machines are compared that agree on everything but the
exit status and the error stream of the analyzer when it is run on a package. Run side by side, each step
ends alike on both of them, since these two things are only written to the log; so the batch and the whole
program end alike. -/
namespace EffectSurvey

/-- The machines agree on the check of the analyzer and on every fetch. When the analyzer is run on a
package they agree on whether it starts, on what it prints and on the files it leaves. -/
structure Machine.AgreeButEndings (m m' : Machine) (a : AnalyzerCommand) (f : FetchCommand) : Prop where
  probe : (a.probe m).Matches (· = ·) (a.probe m')
  fetch : ∀ package target, (f.fetcher m package target).Matches (· = ·) (f.fetcher m' package target)
  analyze : ∀ dir, (m.run a.program (dir :: a.args)).Matches (·.stdout = ·.stdout)
    (m'.run a.program (dir :: a.args))

namespace Machine
variable {m m' : Machine} {a : AnalyzerCommand} {f : FetchCommand}

theorem run_matches_of_execute {R : Completion → Completion → Prop} {args : List String}
    (search : m.searchPath = m'.searchPath)
    (ends : ∀ place files, R (m.execute place args files) (m'.execute place args files))
    (left : ∀ place files, (m.execute place args files).files = (m'.execute place args files).files)
    (program : String) : (m.run program args).Matches R (m'.run program args) := by
  intro files
  have located : m.locate files program = m'.locate files program := by
    rw [locate, locate, search]
  unfold Machine.run
  split
  · exact ⟨.error _, rfl⟩
  · rw [← located]
    split
    · exact ⟨.ok (ends _ files), left _ files⟩
    · exact ⟨.error _, rfl⟩

/-- Machines agree but for endings if their programs do, in the same places. -/
theorem agreeButEndings_of_execute (search : m.searchPath = m'.searchPath)
    (probe : ∀ place files, m.execute place ["--version"] files = m'.execute place ["--version"] files)
    (fetch : ∀ package target, let args := f.command.tail ++ [package, f.outputFlag, target]
      ∀ place files, m.execute place args files = m'.execute place args files)
    (analyze : ∀ dir place files,
      (m.execute place (dir :: a.args) files).stdout = (m'.execute place (dir :: a.args) files).stdout ∧
      (m.execute place (dir :: a.args) files).files = (m'.execute place (dir :: a.args) files).files) :
    m.AgreeButEndings m' a f where
  probe := by
    have same := run_matches_of_execute search probe (fun place files => by rw [probe]) a.program
    exact (same.mapError _).bind_eq fun _ => .refl _
  fetch package target := by
    have same := run_matches_of_execute search (fetch package target)
      (fun place files => by rw [fetch package target])
    unfold FetchCommand.fetcher
    split
    · exact .refl _
    · rename_i program args command
      rw [command] at same
      exact ((same program).mapError _).bind_eq fun _ => .refl _
  analyze dir := run_matches_of_execute search (fun place files => (analyze dir place files).1)
    (fun place files => (analyze dir place files).2) a.program

theorem AgreeButEndings.analyzer (agree : m.AgreeButEndings m' a f) (package : Package) :
    (a.analyzer m package).Matches (· = ·) (a.analyzer m' package) := by
  refine (Work.Matches.refl _).bind_eq fun _ => (Work.Matches.refl _).bind_eq fun _ => ?_
  refine ((agree.analyze package.dir).mapError _).bind fun completion completion' same => ?_
  split <;> split <;> exact fun files => ⟨.ok same, rfl⟩

end Machine

namespace Workflow
variable {m m' : Machine} {o : Options} {files : FileTree}

/-- The machines have the same disk, and agree but for endings on the analyzer and the fetcher that the
settings in force name. -/
structure AgreeInForce (m m' : Machine) (o : Options) (files : FileTree) : Prop where
  disk : m.disk = m'.disk
  tools : ∀ settings, (loadSettings o files).value = .ok settings →
    m.AgreeButEndings m' ((settings.override o).analyzerCommand o.stdOnly)
      (settings.override o).fetchCommand

theorem prepare_matches (agree : AgreeInForce m m' o files) :
    (prepare m o files).Matches (· = ·) (prepare m' o files) := by
  refine Work.matches_bind_at (Work.Matches.refl _ _) ?_
  rintro settings _ rfl loaded
  exact (agree.tools settings loaded).probe.bind_eq (fun _ => .refl _) _

theorem scan_matches {plan : Plan} (agree : m.AgreeButEndings m'
      (plan.settings.analyzerCommand o.stdOnly) plan.settings.fetchCommand) :
    (scan m o plan).Matches (· = ·) (scan m' o plan) := by
  refine (Work.Matches.refl _).bind_eq fun _ => (Work.Matches.refl _).bind_eq fun _ => ?_
  refine (Work.Matches.refl _).bind_eq fun _ => ?_
  exact ((Batch.run_matches agree.fetch agree.analyzer _ _).mapError _).bind_eq fun _ => .refl _

theorem survey_matches (agree : AgreeInForce m m' o files) :
    (survey m o files).Matches (· = ·) (survey m' o files) := by
  refine Work.matches_bind_at (prepare_matches agree) ?_
  rintro plan _ rfl prepared
  obtain ⟨⟨settings, loaded, same⟩, -⟩ := prepare_eq_ok prepared
  have scanned := agree.tools settings loaded
  rw [← same] at scanned
  exact (scan_matches scanned).bind_eq (fun _ => .refl _) _

theorem run_matches (agree : AgreeInForce m m' o files) :
    (run m o files).Matches (· = ·) (run m' o files) := by
  refine Work.matches_bind_at (survey_matches agree) ?_
  rintro surveyed _ rfl -
  rw [agree.disk]
  exact Work.Matches.refl _ _

theorem session_matches (agree : AgreeInForce m m' o files) :
    (session m o files).Matches (· = ·) (session m' o files) := by
  refine Work.matches_bind_at (Work.Matches.refl _ _) ?_
  rintro _ _ - -
  refine Work.matches_bind_at (Work.Matches.refl _ _) ?_
  rintro _ _ - -
  exact run_matches agree

/-- Work that ends alike is concluded alike, the log apart. -/
theorem conclude_of_matches {done done' : Done (Except Failure Unit)}
    (alike : done.Matches (· = ·) done') (level : Level) :
    (conclude level done).exitCode = (conclude level done').exitCode ∧
      (conclude level done).stderr = (conclude level done').stderr ∧
      (conclude level done).files = (conclude level done').files := by
  have files := alike.files
  unfold conclude
  rw [← alike.value.eq]
  split
  · exact ⟨rfl, rfl, files⟩
  · exact ⟨rfl, rfl, files⟩

/-- What comes of a package whose source is there, where the analyzer is as the defaults say. -/
theorem Outfitted.value_scanPackage (outfitted : Outfitted files) (machine : Machine)
    (fetcher : Fetcher) {options : BatchOptions} {args : List String} {name : String}
    (present : files.pathExists (Path.join options.sourceDir name) = true)
    (plain : ∀ text ∈ Path.join options.sourceDir name :: args, '\x00' ∉ text.toList) :
    (Batch.scanPackage fetcher ((⟨"./target/release/scan", args⟩ : AnalyzerCommand).analyzer machine)
      options name files).value =
      (Transcript.read name (machine.execute (files.home ++ ["target", "release", "scan"])
        (Path.join options.sourceDir name :: args) files).stdout).mapError (.badTranscript name) := by
  obtain ⟨resolved, same⟩ := ensureSource_of_present fetcher options.testMode present
  refine Batch.value_scanPackage_of_output resolved ?_
  rw [same]
  exact outfitted.value_analyzer machine plain

/-- On two machines that differ only in how the analyzer ends when it is run on a package, a batch ends with
the same value, and the program with the same exit code, the same error text and the same files. -/
theorem endings_ignored (m m' : Machine) :
    (∀ a f, m.AgreeButEndings m' a f → ∀ options packages files,
      (Batch.run (f.fetcher m) (a.analyzer m) options packages files).value =
        (Batch.run (f.fetcher m') (a.analyzer m') options packages files).value) ∧
    ∀ argv files, (∀ o, Runs argv files o → AgreeInForce m m' o files) →
      (start m argv files).exitCode = (start m' argv files).exitCode ∧
      (start m argv files).stderr = (start m' argv files).stderr ∧
      (start m argv files).files = (start m' argv files).files := by
  refine ⟨fun a f agree options packages files => ?_, fun argv files agree => ?_⟩
  · exact (Batch.run_matches agree.fetch agree.analyzer options packages files).value.eq
  · by_cases runs : ∃ o, Runs argv files o
    · obtain ⟨o, runs⟩ := runs
      rw [start_of_runs runs, start_of_runs runs]
      exact conclude_of_matches (session_matches (agree o runs)) o.logLevel
    · rw [start_of_not_runs (not_exists.mp runs) m m']
      exact ⟨rfl, rfl, rfl⟩

/-- An analyzer that is killed before it prints anything, against one that prints nothing and succeeds. The
package is skipped either way. -/
theorem endings_ignored_after_signal :
    let machine (status : ExitStatus) (stderr : Bytes) : Machine := ⟨[], fun _ args files =>
      if args.tail = ["-e"] then ⟨status, [], stderr, files⟩ else ⟨.code 0, [], [], files⟩, .sound⟩
    let m := machine (.code 0) []
    let m' := machine (.signal 9) (Text.Utf8.encode "Killed")
    let a : AnalyzerCommand := ⟨"./target/release/scan", ["-e"]⟩
    let f : FetchCommand := ⟨["cargo", "download", "-x"], "-o"⟩
    let options : BatchOptions := ⟨"data/packages", false, 1, true, 10⟩
    let files : FileTree := ⟨[("data", .directory [("packages", .directory [("b", .directory [])])]),
      ("target", .directory [("release", .directory [("scan", .file [] 0o755)])])], []⟩
    m.AgreeButEndings m' a f ∧
    (∃ outcome, (Batch.run (f.fetcher m) (a.analyzer m) options ["b"] files).value = .ok outcome ∧
      (Batch.run (f.fetcher m') (a.analyzer m') options ["b"] files).value = .ok outcome ∧
      outcome.skipped = ["b"]) ∧
    (∀ o, Runs ["-c", "b"] files o → AgreeInForce m m' o files) ∧
    (start m ["-c", "b"] files).exitCode = (start m' ["-c", "b"] files).exitCode ∧
    (start m ["-c", "b"] files).files = (start m' ["-c", "b"] files).files := by
  intro machine m m' a f options files
  have agree : m.AgreeButEndings m' a f := by
    refine Machine.agreeButEndings_of_execute rfl (fun _ _ => rfl) (fun _ _ _ _ => rfl) ?_
    exact fun _ _ _ => ⟨rfl, rfl⟩
  have outfitted : Outfitted files := ⟨rfl, rfl, rfl⟩
  have scanned : (Batch.scanPackage (f.fetcher m) (a.analyzer m) options "b" files).value =
      .error (.badTranscript "b" (.ended .findingHeader)) := by
    have present : files.pathExists (Path.join options.sourceDir "b") = true :=
      FileTree.pathExists_of_entryAt? rfl
        (show FileTree.Spells _ ["data", "packages", "b"] by decide +kernel) rfl nofun
    refine (outfitted.value_scanPackage m _ present (by decide +kernel)).trans ?_
    exact congrArg (Except.mapError _) (Transcript.read_nil "b")
  obtain ⟨outcome, ended, skipped⟩ : ∃ outcome,
      (Batch.run (f.fetcher m) (a.analyzer m) options ["b"] files).value = .ok outcome ∧
        outcome.skipped = ["b"] := by
    rw [Batch.value_run, Batch.results, scanned]
    exact ⟨_, rfl, rfl⟩
  have inForce : ∀ o, Runs ["-c", "b"] files o → AgreeInForce m m' o files := by
    refine fun o runs => ⟨rfl, fun settings loaded => ?_⟩
    have parsed : CommandLine.parse ["-c", "b"] = .ok ⟨some "b", none, false, none, false, 0, false,
      none, none, false, false, none, .text, false⟩ := by decide +kernel
    obtain rfl := Except.ok.inj (parsed.symm.trans runs.parsed)
    rw [outfitted.loadSettings_eq rfl] at loaded
    obtain rfl : {} = settings := Except.ok.inj loaded
    exact agree
  obtain ⟨batch, program⟩ := endings_ignored m m'
  obtain ⟨exitCode, -, left⟩ := program ["-c", "b"] files inForce
  have same := batch a f agree options ["b"] files
  exact ⟨agree, ⟨outcome, ended, same.symm.trans ended, skipped⟩, inForce, exitCode, left⟩

end Workflow
end EffectSurvey
