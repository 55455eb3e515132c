import EffectSurvey.Proofs.Batch.Results
import EffectSurvey.Proofs.Source

/-! What a run asks of the fetcher and the analyzer. The run visits its packages one after the other, each
with the files that the visits before it have left, and ends with the first fatal error; the calls are those
of the visits up to there, and each visit's calls are decided by the files it finds. -/
namespace EffectSurvey

def Done.calls {α : Type} (done : Done α) : List Note := done.notes.filter Note.isCall

namespace Work
variable {ε δ α β : Type} {first : Work ε α} {next : α → Work ε β} {files : FileTree}

theorem calls_bind_of_ok {a : α} (succeeded : (first files).value = .ok a) :
    ((first >>= next) files).calls =
      (first files).calls ++ (next a (first files).files).calls := by
  rw [Done.calls, notes_bind_of_ok succeeded, List.filter_append]
  rfl

theorem calls_bind_of_error {e : ε} (failed : (first files).value = .error e) :
    ((first >>= next) files).calls = (first files).calls := by
  rw [Done.calls, notes_bind_of_error failed, Done.calls]

def CallFree (work : Work ε α) : Prop := ∀ files, (work files).calls = []

theorem callFree_iff {work : Work ε α} : work.CallFree ↔ work.Notes (·.isCall = false) := by
  simp [CallFree, Notes, Done.calls]

theorem callFree_pure (a : α) : (pure a : Work ε α).CallFree := fun _ => rfl

theorem callFree_fail (e : ε) : (fail e : Work ε α).CallFree := fun _ => rfl

theorem callFree_log (level : Level) (message : String) :
    (log level message : Work ε Unit).CallFree := fun _ => rfl

theorem CallFree.bind (free : first.CallFree) (rest : ∀ a, (next a).CallFree) :
    (first >>= next).CallFree :=
  callFree_iff.mpr ((callFree_iff.mp free).bind fun a => callFree_iff.mp (rest a))

theorem calls_bind_of_callFree (rest : ∀ a, (next a).CallFree) (files : FileTree) :
    ((first >>= next) files).calls = (first files).calls := by
  cases value : (first files).value with
  | ok a => rw [calls_bind_of_ok value, rest a, List.append_nil]
  | error e => exact calls_bind_of_error value

theorem callFree_forM {tell : α → Work ε Unit} (free : ∀ a, (tell a).CallFree) (items : List α) :
    (items.forM tell).CallFree :=
  callFree_iff.mpr (notes_forM (fun a => callFree_iff.mp (free a)) items)

/-- Telling something first changes nothing about the calls. -/
theorem Quiet.calls_bind {quiet : Work ε Unit} (silent : quiet.Quiet) (free : quiet.CallFree)
    (next : Unit → Work ε β) (files : FileTree) :
    ((quiet >>= next) files).calls = (next () files).calls := by
  obtain ⟨succeeded, same⟩ := silent files
  rw [calls_bind_of_ok succeeded, free, same, List.nil_append]

end Work

theorem Work.calls_recorded {ε α : Type} {call : Note} (asks : call.isCall = true) (work : Work ε α)
    (files : FileTree) : (work.recorded call files).calls = [call] := by
  simp [Work.recorded, Done.calls, asks]

def Analyzer.recorded (analyzer : Analyzer) : Analyzer := fun package =>
  (analyzer package).recorded (.analyze package.name package.dir)

theorem Analyzer.recorded_matches (analyzer : Analyzer) (package : Package) :
    (analyzer.recorded package).Matches (· = ·) (analyzer package) :=
  Work.recorded_matches _ _

theorem Machine.notes_run {P : Note → Prop} (machine : Machine) (program : String)
    (args : List String) : (machine.run program args).Notes P := by
  intro files
  unfold Machine.run
  split
  · exact List.forall_mem_nil _
  · split <;> exact List.forall_mem_nil _

/-- The fetcher that a command line stands for notes nothing at all. -/
theorem FetchCommand.notes_fetcher {P : Note → Prop} (f : FetchCommand) (machine : Machine)
    (package target : String) : (f.fetcher machine package target).Notes P := by
  unfold FetchCommand.fetcher
  split
  · exact Work.notes_fail _
  · refine (Work.Notes.mapError (machine.notes_run _ _) _).bind fun completion => ?_
    split
    · exact Work.notes_pure _
    · exact Work.notes_fail _

/-- The fetcher is called for a missing source, except in a test run. -/
theorem calls_ensureSource (fetcher : Fetcher) (base : String) (testMode : Bool)
    (package : String) (files : FileTree) :
    (ensureSource fetcher base testMode package files).calls =
      if testMode = false ∧ files.pathExists (Path.join base package) = false then
        (fetcher package (Path.join base package) files).calls
      else [] := by
  rw [ensureSource_apply]
  dsimp only
  split
  · rename_i found
    rw [if_neg (by simp [found])]
    rfl
  · rename_i missing
    split
    · rename_i test
      rw [if_neg (by simp [test])]
      rfl
    · rename_i live
      rw [if_pos ⟨by simpa using live, by simpa using missing⟩]
      rfl

namespace Batch

section Matches
variable {fetcher fetcher' : Fetcher} {analyzer analyzer' : Analyzer}

theorem scanPackage_matches
    (fetch : ∀ package target, (fetcher package target).Matches (· = ·) (fetcher' package target))
    (analyze : ∀ package, (analyzer package).Matches (· = ·) (analyzer' package))
    (options : BatchOptions) (name : String) :
    (scanPackage fetcher analyzer options name).Matches (· = ·)
      (scanPackage fetcher' analyzer' options name) := by
  refine (ensureSource_matches fetch _ _ _).bind_eq fun dir => ?_
  exact (analyze _).bind_eq fun output => .refl _

theorem takeAll_matches {scan scan' : String → Work ScanError PackageScan}
    (alike : ∀ name, (scan name).Matches (· = ·) (scan' name)) (options : BatchOptions)
    (total done : Nat) (outcome : Outcome) (names : List String) :
    (takeAll scan options total done outcome names).Matches (· = ·)
      (takeAll scan' options total done outcome names) := by
  induction names generalizing done outcome with
  | nil => exact .refl _
  | cons name names ih =>
    refine (alike name).attempt.bind_eq fun result => ?_
    split
    · exact .refl _
    · refine (Work.Matches.refl _).bind_eq fun _ => ?_
      split
      · exact (Work.Matches.refl _).bind_eq fun _ => ih _ _
      · exact ih _ _

theorem run_matches
    (fetch : ∀ package target, (fetcher package target).Matches (· = ·) (fetcher' package target))
    (analyze : ∀ package, (analyzer package).Matches (· = ·) (analyzer' package))
    (options : BatchOptions) (packages : List String) :
    (run fetcher analyzer options packages).Matches (· = ·)
      (run fetcher' analyzer' options packages) :=
  takeAll_matches (scanPackage_matches fetch analyze options) _ _ _ _ _

end Matches

variable {fetcher : Fetcher} {analyzer : Analyzer} {options : BatchOptions}

/-- One package of a run, with the files as they are when the run comes to it. -/
structure Visit where
  name : String
  files : FileTree

/-- The visits of a run that nothing ends. -/
def visits (scan : String → Work ScanError PackageScan) : List String → FileTree → List Visit
  | [], _ => []
  | name :: names, files => ⟨name, files⟩ :: visits scan names (scan name files).files

namespace Visit

def result (scan : String → Work ScanError PackageScan) (visit : Visit) : ScanResult :=
  (scan visit.name visit.files).value

/-- The calls that are noted when the fetcher is called for a missing source, except in a test run, and then
the analyzer for a source that is there in the end. -/
def noted (fetcher : Fetcher) (analyzer : Analyzer) (options : BatchOptions) (visit : Visit) : List Note :=
  let target := Path.join options.sourceDir visit.name
  let source := ensureSource fetcher options.sourceDir options.testMode visit.name visit.files
  (if options.testMode = false ∧ visit.files.pathExists target = false then
    (fetcher visit.name target visit.files).calls else []) ++
  if source.value.isOk then (analyzer ⟨visit.name, target⟩ source.files).calls else []

def calls (fetcher : Fetcher) (options : BatchOptions) (visit : Visit) : List Note :=
  let target := Path.join options.sourceDir visit.name
  (if options.testMode = false ∧ visit.files.pathExists target = false then
    [.fetch visit.name target] else []) ++
  if (ensureSource fetcher options.sourceDir options.testMode visit.name visit.files).value.isOk then
    [.analyze visit.name target] else []

theorem noted_recorded (fetcher : Fetcher) (analyzer : Analyzer) (options : BatchOptions)
    (visit : Visit) :
    visit.noted fetcher.recorded analyzer.recorded options = visit.calls fetcher options := by
  have fetches (package target : String) (files : FileTree) :
      (fetcher.recorded package target files).calls = [.fetch package target] :=
    Work.calls_recorded rfl _ _
  have analyzes (package : Package) (files : FileTree) :
      (analyzer.recorded package files).calls = [.analyze package.name package.dir] :=
    Work.calls_recorded rfl _ _
  have same := (ensureSource_matches fetcher.recorded_matches options.sourceDir options.testMode
    visit.name visit.files).value.eq
  simp only [noted, calls, fetches, analyzes, same]

end Visit

/-- The visits up to the first one whose result ends the run. -/
def reached (skipMalformed : Bool) (scan : String → Work ScanError PackageScan)
    (packages : List String) (files : FileTree) : List Visit :=
  let all := visits scan packages files
  all.take (all.findIdx (fun visit => ((visit.result scan).fatal? skipMalformed).isSome) + 1)

section Visits
variable (scan : String → Work ScanError PackageScan)

theorem name_visits (packages : List String) (files : FileTree) :
    (visits scan packages files).map Visit.name = packages := by
  induction packages generalizing files with
  | nil => rfl
  | cons name names ih => rw [visits, List.map_cons, ih]

theorem result_visits (packages : List String) (files : FileTree) :
    (visits scan packages files).map (Visit.result scan) = results scan packages files := by
  induction packages generalizing files with
  | nil => rfl
  | cons name names ih =>
    rw [visits, List.map_cons, ih]
    rfl

theorem reached_cons (skipMalformed : Bool) (name : String) (names : List String)
    (files : FileTree) :
    reached skipMalformed scan (name :: names) files =
      ⟨name, files⟩ :: match ScanResult.fatal? skipMalformed (scan name files).value with
        | some _ => []
        | none => reached skipMalformed scan names (scan name files).files := by
  simp only [reached, visits, List.findIdx_cons, Visit.result]
  cases ScanResult.fatal? skipMalformed (scan name files).value with
  | some e => simp
  | none => simp

theorem visits_congr {scan scan' : String → Work ScanError PackageScan}
    (alike : ∀ name, (scan name).Matches (· = ·) (scan' name)) (packages : List String)
    (files : FileTree) : visits scan packages files = visits scan' packages files := by
  induction packages generalizing files with
  | nil => rfl
  | cons name names ih => rw [visits, visits, (alike name files).files, ih]

theorem reached_congr {scan scan' : String → Work ScanError PackageScan}
    (alike : ∀ name, (scan name).Matches (· = ·) (scan' name)) (skipMalformed : Bool)
    (packages : List String) (files : FileTree) :
    reached skipMalformed scan packages files = reached skipMalformed scan' packages files := by
  have same : Visit.result scan = Visit.result scan' := by
    funext visit
    exact (alike visit.name visit.files).value.eq
  rw [reached, reached, visits_congr alike, same]

end Visits

theorem tellSkip_callFree (result : ScanResult) : (tellSkip result).CallFree := by
  unfold tellSkip
  split
  · exact Work.callFree_pure _
  · exact Work.callFree_log _ _
  · exact Work.callFree_log _ _

theorem calls_scanPackage (fetcher : Fetcher) (analyzer : Analyzer) (options : BatchOptions)
    (visit : Visit) :
    (scanPackage fetcher analyzer options visit.name visit.files).calls =
      visit.noted fetcher analyzer options := by
  rw [scanPackage, Visit.noted,
    ← calls_ensureSource fetcher options.sourceDir options.testMode visit.name visit.files]
  cases found : (ensureSource fetcher options.sourceDir options.testMode visit.name visit.files).value with
  | error e =>
    rw [Work.calls_bind_of_error found]
    simp [Except.isOk, Except.toBool]
  | ok dir =>
    rw [Work.calls_bind_of_ok found]
    rw [Work.calls_bind_of_callFree fun output => ?_, Source.path_of_ensureSource found]
    · rfl
    · split
      · exact (Work.callFree_forM (fun _ => Work.callFree_log _ _) _).bind
          fun _ => Work.callFree_pure _
      · exact Work.callFree_fail _

theorem calls_takeAll (scan : String → Work ScanError PackageScan) (total done : Nat) (o : Outcome)
    (names : List String) (files : FileTree) :
    (takeAll scan options total done o names files).calls =
      (reached options.skipMalformed scan names files).flatMap
        fun visit => (scan visit.name visit.files).calls := by
  induction names generalizing done o files with
  | nil => rfl
  | cons name names ih =>
    rw [takeAll, reached_cons, List.flatMap_cons]
    rw [Work.calls_bind_of_ok (show ((scan name).attempt files).value = _ from rfl)]
    simp only [Work.attempt]
    rw [Outcome.deliver_eq]
    cases ScanResult.fatal? options.skipMalformed (scan name files).value with
    | some e => rfl
    | none =>
      simp only [Outcome.orFail]
      rw [(tellSkip_quiet _).calls_bind (tellSkip_callFree _)]
      cases progress? total options.progressIncrements (done + 1) with
      | none => exact congrArg (_ ++ ·) (ih _ _ _)
      | some message =>
        rw [(Work.quiet_log _ _).calls_bind (Work.callFree_log _ _)]
        exact congrArg (_ ++ ·) (ih _ _ _)

/-- A run fails exactly with the first fatal error among the results of its visits, which follow the list,
and otherwise gives an outcome. The fetcher and the analyzer are called on the visits up to that error, in
their order, and not after it, so that the run notes the calls that these two note. If they record what they
are asked for, and else do the same, this is one call of the fetcher for each missing source and one of the
analyzer for each source that is there. -/
theorem run_stops_at_first_fatal_error (fetcher : Fetcher) (analyzer : Analyzer)
    (options : BatchOptions) (packages : List String) (files : FileTree) :
    let scan := scanPackage fetcher analyzer options
    let all := visits scan packages files
    let done := run fetcher analyzer options packages files
    let recorded := run fetcher.recorded analyzer.recorded options packages files
    all.map Visit.name = packages ∧
    (∀ e, done.value = .error e ↔ ∃ before visit after, all = before ++ visit :: after ∧
      (visit.result scan).fatal? options.skipMalformed = some e ∧
      ∀ earlier ∈ before, (earlier.result scan).fatal? options.skipMalformed = none) ∧
    ((∃ outcome, done.value = .ok outcome) ↔
      ∀ visit ∈ all, (visit.result scan).fatal? options.skipMalformed = none) ∧
    done.calls = (reached options.skipMalformed scan packages files).flatMap
      (Visit.noted fetcher analyzer options) ∧
    recorded.value = done.value ∧ recorded.files = done.files ∧
    recorded.calls = (reached options.skipMalformed scan packages files).flatMap
      (Visit.calls fetcher options) := by
  intro scan all done recorded
  have value : done.value =
      ((all.map (Visit.result scan)).foldl Outcome.take (Outcome.start packages)).orFail
        (all.findSome? fun visit => (visit.result scan).fatal? options.skipMalformed) := by
    rw [value_run, Outcome.deliverAll_eq, ← result_visits, List.findSome?_map]
    rfl
  have same := run_matches fetcher.recorded_matches analyzer.recorded_matches options packages files
  have noted (fetcher : Fetcher) (analyzer : Analyzer) :
      (run fetcher analyzer options packages files).calls =
        (reached options.skipMalformed (scanPackage fetcher analyzer options) packages files).flatMap
          (Visit.noted fetcher analyzer options) := by
    refine (calls_takeAll _ _ _ _ _ _).trans ?_
    rw [funext (calls_scanPackage fetcher analyzer options)]
  refine ⟨name_visits scan packages files, ?_, ?_, noted fetcher analyzer, ?_, ?_, ?_⟩
  · intro e
    rw [← List.findSome?_eq_some_iff, value]
    cases all.findSome? _ with
    | none => simp [Outcome.orFail]
    | some first => simp [Outcome.orFail]
  · rw [← List.findSome?_eq_none_iff, value]
    cases all.findSome? _ with
    | none => simp [Outcome.orFail]
    | some first => simp [Outcome.orFail]
  · exact same.value.eq
  · exact same.files
  · refine (noted fetcher.recorded analyzer.recorded).trans ?_
    rw [reached_congr (scanPackage_matches fetcher.recorded_matches analyzer.recorded_matches options),
      funext (Visit.noted_recorded fetcher analyzer options)]

/-- A source that an earlier visit fetched is there the second time, and nothing is asked for after a
fetch that fails. -/
theorem run_stops_at_failed_fetch :
    let options : BatchOptions := ⟨"src", false, 1, true, 10⟩
    let fetcher : Fetcher := fun package _ =>
      if package = "c" then Work.fail "no such crate"
      else Work.modify (·.put ["src", package] .directory)
    let analyzer := Analyzer.replying fun _ => .ok []
    let files : FileTree := ⟨[("src", .directory [("b", .directory [])])], []⟩
    let done := run fetcher.recorded analyzer.recorded options ["a", "b", "a", "c", "a"] files
    done.value = .error (.fetchFailed "c" "no such crate") ∧
    done.calls = [.fetch "a" "src/a", .analyze "a" "src/a", .analyze "b" "src/b",
      .analyze "a" "src/a", .fetch "c" "src/c"] := by
  intro options fetcher analyzer files done
  let later : FileTree := ⟨[("src", .directory [("b", .directory []), ("a", .directory [])])], []⟩
  have exist : files.pathExists "src/a" = false ∧ later.pathExists "src/a" = true ∧
      later.pathExists "src/b" = true ∧ later.pathExists "src/c" = false := by
    have spelled : ∀ name ∈ ["a", "b", "c"], FileTree.Spells ("src/" ++ name) (["src"] ++ [name]) := by
      decide +kernel
    refine ⟨?_, ?_, ?_, ?_⟩
    · exact FileTree.pathExists_of_absent rfl (spelled "a" (by simp)) rfl rfl
    · exact FileTree.pathExists_of_entryAt? rfl (spelled "a" (by simp)) rfl nofun
    · exact FileTree.pathExists_of_entryAt? rfl (spelled "b" (by simp)) rfl nofun
    · exact FileTree.pathExists_of_absent rfl (spelled "c" (by simp)) rfl rfl
  have joins : Path.join "src" "a" = "src/a" ∧ Path.join "src" "b" = "src/b" ∧
      Path.join "src" "c" = "src/c" := by decide +kernel
  have step (name dir : String) (before after : FileTree) (notes : List Note)
      (source : ensureSource fetcher "src" false name before = ⟨.ok dir, after, notes⟩) :
      (scanPackage fetcher analyzer options name before).value =
        .error (.badTranscript name (.ended .findingHeader)) ∧
      (scanPackage fetcher analyzer options name before).files = after := by
    simp [scanPackage, bind, Work.andThen, options, source, analyzer, Analyzer.replying,
      Work.succeed, Transcript.read_nil, Work.fail]
  have fetched := step "a" "src/a" files later
    [.log .info "Downloading crate: src/a"] <| by
      simp [ensureSource_apply, joins, exist, fetcher, Work.modify, Except.map, Except.mapError]
      rfl
  have found := step "b" "src/b" later later
    [.log .debug "Found existing crate: src/b"] <| by
      simp [ensureSource_apply, joins, exist]
  have again := step "a" "src/a" later later
    [.log .debug "Found existing crate: src/a"] <| by
      simp [ensureSource_apply, joins, exist]
  have failed : (scanPackage fetcher analyzer options "c" later).value =
      .error (.fetchFailed "c" "no such crate") ∧
      (scanPackage fetcher analyzer options "c" later).files = later := by
    simp [scanPackage, bind, Work.andThen, options, ensureSource_apply, joins, exist, fetcher,
      Work.fail, Except.map, Except.mapError]
  let early : List Visit := [⟨"a", files⟩, ⟨"b", later⟩, ⟨"a", later⟩]
  have all : visits (scanPackage fetcher analyzer options) ["a", "b", "a", "c", "a"] files =
      early ++ ⟨"c", later⟩ :: [⟨"a", later⟩] := by
    simp [visits, early, fetched, found, again, failed]
  obtain ⟨-, fails, -, -, value, -, calls⟩ :=
    run_stops_at_first_fatal_error fetcher analyzer options ["a", "b", "a", "c", "a"] files
  constructor
  · refine value.trans ((fails _).mpr ⟨_, _, _, all, ?_, ?_⟩)
    · rw [Visit.result, failed.1]
      rfl
    · simp only [early, List.forall_mem_cons, Visit.result, fetched, found, again]
      exact ⟨rfl, rfl, rfl, List.forall_mem_nil _⟩
  · refine calls.trans ?_
    have stop : reached options.skipMalformed (scanPackage fetcher analyzer options)
        ["a", "b", "a", "c", "a"] files = early ++ [⟨"c", later⟩] := by
      simp only [reached_cons, fetched, found, again, failed]
      rfl
    rw [stop]
    simp [early, Visit.calls, options, joins, exist, ensureSource_apply, fetcher, Work.modify,
      Work.fail, Except.map, Except.mapError]
    rfl

end Batch
end EffectSurvey
