import EffectSurvey.Batch
import EffectSurvey.Proofs.Transcript.Grammar
import EffectSurvey.Proofs.Work

/-! A run as a fold over the results of its packages. What a run gives depends on its files, its fetcher
and its analyzer only through the result of each occurrence in the list. -/
namespace EffectSurvey

abbrev ScanResult := Except ScanError PackageScan

def ScanResult.IsOf (result : ScanResult) (name : String) : Prop :=
  match result with
  | .ok scan => scan.package = name
  | .error e => e.package = name

/-- The error with which a result ends the run, if it does. -/
def ScanResult.fatal? (skipMalformed : Bool) : ScanResult → Option ScanError
  | .ok _ => none
  | .error e => if e.isFatal skipMalformed then some e else none

def ScanResult.findings : ScanResult → List Finding
  | .ok scan => scan.findings
  | .error _ => []

def ScanResult.skipped : ScanResult → List String
  | .ok _ => []
  | .error e => [e.package]

/-- The analyzer fails with errors about the package it was asked for. -/
def Analyzer.NamesPackage (analyzer : Analyzer) : Prop :=
  ∀ package, (analyzer package).FailsWith fun e => e.package = package.name

/-- The analyzer that a command line stands for does so on every machine. -/
theorem AnalyzerCommand.analyzer_namesPackage (a : AnalyzerCommand) (machine : Machine) :
    (a.analyzer machine).NamesPackage := by
  intro package
  refine (Work.quiet_log _ _).failsWith_bind ((Work.quiet_log _ _).failsWith_bind ?_)
  refine Work.FailsWith.bind (Work.failsWith_mapError ?_ _) fun completion => ?_
  · exact fun _ => rfl
  · split
    · exact Work.failsWith_pure _
    · exact (Work.quiet_log _ _).failsWith_bind (Work.failsWith_pure _)

namespace Outcome

def deliverAll (skipMalformed : Bool) (o : Outcome) (results : List ScanResult) :
    Except ScanError Outcome :=
  results.foldlM (deliver skipMalformed) o

theorem deliverAll_cons (skipMalformed : Bool) (o : Outcome) (result : ScanResult)
    (results : List ScanResult) : o.deliverAll skipMalformed (result :: results) =
      o.deliver skipMalformed result >>= fun next => next.deliverAll skipMalformed results :=
  List.foldlM_cons

def take (o : Outcome) : ScanResult → Outcome
  | .ok scan => o.absorb scan
  | .error e => o.skip e.package

def orFail (o : Outcome) : Option ScanError → Except ScanError Outcome
  | some e => .error e
  | none => .ok o

theorem deliver_eq (skipMalformed : Bool) (o : Outcome) (result : ScanResult) :
    o.deliver skipMalformed result = (o.take result).orFail (result.fatal? skipMalformed) := by
  cases result with
  | ok scan => rfl
  | error e =>
    by_cases fatal : e.isFatal skipMalformed = true <;>
      simp [deliver, ScanResult.fatal?, take, orFail, fatal]

/-- The first fatal error ends the run. Without one every result is taken. -/
theorem deliverAll_eq (skipMalformed : Bool) (o : Outcome) (results : List ScanResult) :
    o.deliverAll skipMalformed results =
      (results.foldl take o).orFail (results.findSome? (ScanResult.fatal? skipMalformed)) := by
  induction results generalizing o with
  | nil => rfl
  | cons result results ih =>
    rw [deliverAll_cons, deliver_eq, List.findSome?_cons]
    cases ScanResult.fatal? skipMalformed result with
    | some e => rfl
    | none => exact ih (o.take result)

theorem eq_foldl_of_deliverAll {skipMalformed : Bool} {o outcome : Outcome}
    {results : List ScanResult} (ended : o.deliverAll skipMalformed results = .ok outcome) :
    outcome = results.foldl take o := by
  rw [deliverAll_eq] at ended
  cases fatal : results.findSome? (ScanResult.fatal? skipMalformed) with
  | some e =>
    rw [fatal] at ended
    contradiction
  | none =>
    rw [fatal] at ended
    exact (Except.ok.inj ended).symm

theorem findings_foldl_take (o : Outcome) (results : List ScanResult) :
    (results.foldl take o).findings = o.findings ++ results.flatMap ScanResult.findings := by
  induction results generalizing o with
  | nil => exact (List.append_nil _).symm
  | cons result results ih =>
    rw [List.foldl_cons, ih, List.flatMap_cons, ← List.append_assoc]
    congr 1
    cases result with
    | ok scan => rfl
    | error e => exact (List.append_nil _).symm

theorem skipped_foldl_take (o : Outcome) (results : List ScanResult) :
    (results.foldl take o).skipped = o.skipped ++ results.flatMap ScanResult.skipped := by
  induction results generalizing o with
  | nil => exact (List.append_nil _).symm
  | cons result results ih =>
    rw [List.foldl_cons, ih, List.flatMap_cons, ← List.append_assoc]
    congr 1
    cases result with
    | ok scan => exact (List.append_nil _).symm
    | error e => rfl

end Outcome

namespace Batch
variable {fetcher : Fetcher} {analyzer : Analyzer} {options : BatchOptions}

/-- The result of each package of a list, scanned one after the other from the files on. -/
def results (scan : String → Work ScanError PackageScan) : List String → FileTree → List ScanResult
  | [], _ => []
  | name :: names, files => (scan name files).value :: results scan names (scan name files).files

theorem length_results (scan : String → Work ScanError PackageScan) (names : List String)
    (files : FileTree) : (results scan names files).length = names.length := by
  induction names generalizing files with
  | nil => rfl
  | cons name names ih => rw [results, List.length_cons, ih, List.length_cons]

theorem ensureSource_namesPackage (base : String) (testMode : Bool) (package : String) :
    (ensureSource fetcher base testMode package).FailsWith fun e => e.package = package := by
  refine Work.FailsWith.bind (fun _ _ => nofun) fun found => ?_
  split
  · exact (Work.quiet_log _ _).failsWith_bind (Work.failsWith_pure _)
  · split
    · rintro files e ⟨⟩
      rfl
    · refine (Work.quiet_log _ _).failsWith_bind ?_
      refine Work.FailsWith.bind (Work.failsWith_mapError ?_ _) fun _ => Work.failsWith_pure _
      exact fun _ => rfl

theorem scanPackage_isOf (named : analyzer.NamesPackage) (name : String) :
    (scanPackage fetcher analyzer options name).Returns fun result => ScanResult.IsOf result name := by
  refine Work.Returns.bind (ensureSource_namesPackage _ _ _) fun dir => ?_
  refine Work.Returns.bind (named _) fun output => ?_
  split
  · rename_i scan read
    refine (Work.quiet_forM (fun _ => Work.quiet_log _ _) _).returns_bind fun _ => ?_
    exact (Transcript.readText_eq_ok.mp read).1
  · exact fun _ => rfl

/-- What comes of a package whose source is there and about which the analyzer prints something. -/
theorem value_scanPackage_of_output {name dir : String} {output : Bytes} {files : FileTree}
    (resolved : (ensureSource fetcher options.sourceDir options.testMode name files).value = .ok dir)
    (analyzed : (analyzer ⟨name, dir⟩
      (ensureSource fetcher options.sourceDir options.testMode name files).files).value = .ok output) :
    (scanPackage fetcher analyzer options name files).value =
      (Transcript.read name output).mapError (.badTranscript name) := by
  rw [scanPackage, Work.value_bind_of_ok resolved, Work.value_bind_of_ok analyzed]
  cases Transcript.read name output with
  | ok scan => exact (Work.quiet_forM (fun _ => Work.quiet_log _ _) _).value_bind _ _
  | error e => rfl

theorem results_isOf (named : analyzer.NamesPackage) (packages : List String) (files : FileTree) :
    List.Forall₂ (fun name result => ScanResult.IsOf result name) packages
      (results (scanPackage fetcher analyzer options) packages files) := by
  induction packages generalizing files with
  | nil => exact .nil
  | cons name names ih => exact .cons (scanPackage_isOf named name files) (ih _)

theorem tellSkip_quiet (result : ScanResult) : (tellSkip result).Quiet := by
  unfold tellSkip
  split
  · exact Work.quiet_pure
  · exact Work.quiet_log _ _
  · exact Work.quiet_log _ _

theorem value_takeAll (scan : String → Work ScanError PackageScan) (total done : Nat) (o : Outcome)
    (names : List String) (files : FileTree) :
    (takeAll scan options total done o names files).value =
      o.deliverAll options.skipMalformed (results scan names files) := by
  induction names generalizing done o files with
  | nil => rfl
  | cons name names ih =>
    rw [takeAll, results, Outcome.deliverAll_cons]
    rw [Work.value_bind_of_ok (show ((scan name).attempt files).value = _ from rfl)]
    simp only [Work.attempt]
    cases o.deliver options.skipMalformed (scan name files).value with
    | error e => rfl
    | ok next =>
      rw [(tellSkip_quiet _).value_bind]
      cases progress? total options.progressIncrements (done + 1) with
      | none => exact ih (done + 1) next _
      | some message =>
        rw [(Work.quiet_log _ _).value_bind]
        exact ih (done + 1) next _

theorem value_run (packages : List String) (files : FileTree) :
    (run fetcher analyzer options packages files).value =
      (Outcome.start packages).deliverAll options.skipMalformed
        (results (scanPackage fetcher analyzer options) packages files) :=
  value_takeAll _ _ _ _ _ _

theorem value_run_singleton {name : String} {scan : PackageScan} {files : FileTree}
    (scanned : (scanPackage fetcher analyzer options name files).value = .ok scan) :
    (run fetcher analyzer options [name] files).value = .ok ((Outcome.start [name]).absorb scan) := by
  rw [value_run, results, results, scanned]
  rfl

/-- Scanning gives the same result for a name whenever it is scanned, from files in some world that no
scan leaves. -/
structure Steady (scan : String → Work ScanError PackageScan) (result : String → ScanResult)
    (world : FileTree → Prop) : Prop where
  value : ∀ name files, world files → (scan name files).value = result name
  stays : ∀ name files, world files → world (scan name files).files

theorem Steady.results_eq {scan : String → Work ScanError PackageScan}
    {result : String → ScanResult} {world : FileTree → Prop} (steady : Steady scan result world)
    (names : List String) {files : FileTree} (inside : world files) :
    results scan names files = names.map result := by
  induction names generalizing files with
  | nil => rfl
  | cons name names ih =>
    rw [results, List.map_cons, steady.value name files inside, ih (steady.stays name files inside)]

theorem Steady.value_run_of_harmless
    {result : String → ScanResult} {world : FileTree → Prop}
    (steady : Steady (scanPackage fetcher analyzer options) result world) {files : FileTree}
    (inside : world files) {names : List String}
    (harmless : ∀ name ∈ names, (result name).fatal? options.skipMalformed = none) :
    (run fetcher analyzer options names files).value =
      .ok ((names.map result).foldl Outcome.take (Outcome.start names)) := by
  have none : (names.map result).findSome? (ScanResult.fatal? options.skipMalformed) = none := by
    rw [List.findSome?_eq_none_iff, List.forall_mem_map]
    exact harmless
  rw [value_run, steady.results_eq names inside, Outcome.deliverAll_eq, none]
  rfl

theorem Steady.isOf {result : String → ScanResult} {world : FileTree → Prop}
    (steady : Steady (scanPackage fetcher analyzer options) result world)
    (named : analyzer.NamesPackage) {files : FileTree} (inside : world files) (name : String) :
    (result name).IsOf name := by
  rw [← steady.value name files inside]
  exact scanPackage_isOf named name files

end Batch

/-- Gives the same reply for a package whenever it is asked: an output, or a diagnostic. -/
def Analyzer.replying (reply : String → Except String Bytes) : Analyzer := fun package =>
  match reply package.name with
  | .ok output => Work.succeed output
  | .error diagnostic => Work.fail (.analyzerFailed package.name diagnostic)

theorem Analyzer.replying_namesPackage (reply : String → Except String Bytes) :
    (Analyzer.replying reply).NamesPackage := by
  intro package files e failed
  unfold Analyzer.replying at failed
  cases given : reply package.name with
  | ok output =>
    rw [given] at failed
    contradiction
  | error diagnostic =>
    rw [given] at failed
    cases failed
    rfl

def ScanResult.ofReply (reply : String → Except String Bytes) (name : String) : ScanResult :=
  match reply name with
  | .ok output => (Transcript.read name output).mapError (.badTranscript name)
  | .error diagnostic => .error (.analyzerFailed name diagnostic)

theorem Batch.steady_replying {fetcher : Fetcher} {options : BatchOptions}
    (reply : String → Except String Bytes) (live : options.testMode = false)
    (fetches : ∀ package target, (fetcher package target).Returns (· = .ok ())) :
    Steady (scanPackage fetcher (Analyzer.replying reply) options) (ScanResult.ofReply reply)
      fun _ => True := by
  suffices fixed : ∀ name, (scanPackage fetcher (Analyzer.replying reply) options name).Returns
      (· = ScanResult.ofReply reply name) from ⟨fun name files _ => fixed name files, by simp⟩
  intro name
  have source : (ensureSource fetcher options.sourceDir options.testMode name).Returns
      (· = .ok (Path.join options.sourceDir name)) := by
    rw [live]
    refine Work.Returns.bind (fun _ _ => nofun) fun found => ?_
    split
    · exact (Work.quiet_log _ _).returns_bind fun _ => rfl
    · refine (Work.quiet_log _ _).returns_bind ?_
      refine Work.Returns.bind_ok (a := ()) (fun files => ?_) fun _ => rfl
      rw [Work.mapError, fetches name _ files]
      rfl
  refine source.bind_ok ?_
  simp only [Analyzer.replying, ScanResult.ofReply]
  cases reply name with
  | error diagnostic => exact fun _ => rfl
  | ok output =>
    refine Work.Returns.bind_ok (a := output) (fun _ => rfl) ?_
    dsimp only
    cases Transcript.read name output with
    | error e => exact fun _ => rfl
    | ok scan =>
      exact (Work.quiet_forM (fun _ => Work.quiet_log _ _) _).returns_bind fun _ => rfl

/-- When bad transcripts are skipped and sources can be fetched, outputs never end a run. -/
theorem Batch.exists_run_replying {fetcher : Fetcher} {options : BatchOptions}
    {reply : String → Except String Bytes} (live : options.testMode = false)
    (lenient : options.skipMalformed = true)
    (fetches : ∀ package target, (fetcher package target).Returns (· = .ok ()))
    {names : List String} (printed : ∀ name ∈ names, ∃ output, reply name = .ok output)
    (files : FileTree) :
    ∃ outcome, (run fetcher (Analyzer.replying reply) options names files).value = .ok outcome := by
  refine ⟨_, (steady_replying reply live fetches).value_run_of_harmless trivial ?_⟩
  intro name member
  obtain ⟨output, given⟩ := printed name member
  simp only [ScanResult.ofReply, given, lenient]
  cases Transcript.read name output <;> rfl

end EffectSurvey
