import EffectSurvey.Proofs.Files.Operations
import EffectSurvey.Source

/-! The sources of packages over a row of requests. A request is decided by whether there is something at the path
of its package. So once a source has been resolved it is never fetched again, as long as fetchers leave in place
what they find and what they bring. -/
namespace EffectSurvey

/-- What comes of a package's source, by what is found at its path. -/
theorem ensureSource_apply (fetcher : Fetcher) (base : String) (testMode : Bool) (package : String)
    (files : FileTree) :
    ensureSource fetcher base testMode package files =
      let target := Path.join base package
      if files.pathExists target then
        ⟨.ok target, files, [.log .debug ("Found existing crate: " ++ target)]⟩
      else if testMode then ⟨.error (.sourceMissing package target), files, []⟩
      else
        let fetched := fetcher package target files
        ⟨(fetched.value.mapError (.fetchFailed package)).map fun _ => target, fetched.files,
          .log .info ("Downloading crate: " ++ target) :: fetched.notes⟩ := by
  simp only [ensureSource, bind, Work.andThen, Work.look]
  split
  · rfl
  · split
    · rfl
    · simp only [Work.andThen, Work.log, Work.note, Work.mapError]
      cases (fetcher package (Path.join base package) files).value with
      | ok _ => simp [Except.mapError, Except.map, pure, Work.succeed]
      | error diagnostic => simp [Except.mapError, Except.map]

theorem ensureSource_of_present {base package : String} {files : FileTree} (fetcher : Fetcher)
    (testMode : Bool) (present : files.pathExists (Path.join base package) = true) :
    (ensureSource fetcher base testMode package files).value = .ok (Path.join base package) ∧
      (ensureSource fetcher base testMode package files).files = files := by
  rw [ensureSource_apply, if_pos present]
  exact ⟨rfl, rfl⟩

theorem ensureSource_matches {fetcher fetcher' : Fetcher}
    (fetch : ∀ package target, (fetcher package target).Matches (· = ·) (fetcher' package target))
    (base : String) (testMode : Bool) (name : String) :
    (ensureSource fetcher base testMode name).Matches (· = ·)
      (ensureSource fetcher' base testMode name) := by
  refine (Work.Matches.refl _).bind_eq fun present => ?_
  split
  · exact .refl _
  · split
    · exact .refl _
    · refine (Work.Matches.refl _).bind_eq fun _ => ?_
      exact ((fetch _ _).mapError _).bind_eq fun _ => .refl _

/-- From files of some world that it never leaves, the fetcher leaves its target in place whenever it succeeds,
and all paths that were there before whether it succeeds or not. -/
structure Fetcher.Faithful (world : FileTree → Prop) (fetcher : Fetcher) : Prop where
  stays : ∀ package target files, world files → world (fetcher package target files).files
  brings : ∀ package target files, world files → (fetcher package target files).value = .ok () →
    (fetcher package target files).files.pathExists target = true
  keeps : ∀ package target files path, world files → files.pathExists path = true →
    (fetcher package target files).files.pathExists path = true

def Note.isFetch : Note → Bool
  | .fetch _ _ => true
  | .log _ _ | .analyze _ _ => false

def Note.isCall : Note → Bool
  | .log _ _ => false
  | .fetch _ _ | .analyze _ _ => true

/-- The same work, which notes one call: the one that it answers. -/
def Work.recorded {ε α : Type} (call : Note) (work : Work ε α) : Work ε α := fun files =>
  let done := work files
  { done with notes := call :: done.notes.filter fun note => !note.isCall }

theorem Work.recorded_matches {ε α : Type} (call : Note) (work : Work ε α) :
    (work.recorded call).Matches (· = ·) work :=
  fun _ => ⟨.refl _, rfl⟩

def Fetcher.recorded (fetcher : Fetcher) : Fetcher := fun package target =>
  (fetcher package target).recorded (.fetch package target)

theorem Fetcher.recorded_matches (fetcher : Fetcher) (package target : String) :
    (fetcher.recorded package target).Matches (· = ·) (fetcher package target) :=
  Work.recorded_matches _ _

def Fetcher.making : Fetcher := fun _ target =>
  (Work.change (·.makeDirectory target)).mapError Fault.message

theorem Fetcher.making_apply (package target : String) (files : FileTree) :
    (∃ fault : Fault, making package target files = ⟨.error fault.message, files, []⟩) ∨
      ∃ made, files.makeDirectory target = .ok made ∧
        making package target files = ⟨.ok (), made, []⟩ := by
  unfold making Work.mapError Work.change
  cases change : files.makeDirectory target with
  | ok made => exact .inr ⟨made, rfl, by simp [change, Except.mapError]⟩
  | error fault => exact .inl ⟨fault, by simp [change, Except.mapError]⟩

/-- It is faithful wherever there is a working directory. -/
theorem Fetcher.making_faithful : Fetcher.making.Faithful FileTree.Housed := by
  have grown {target : String} {files made : FileTree} (change : files.makeDirectory target = .ok made) :
      FileTree.Grown (Path.names target) files made :=
    FileTree.grown_of_makeDirectory change fun _ member => member
  constructor
  · intro package target files housed
    obtain ⟨fault, failed⟩ | ⟨made, change, succeeded⟩ := making_apply package target files
    · rw [failed]
      exact housed
    · rw [succeeded]
      exact (grown change).housed housed
  · intro package target files housed value
    obtain ⟨fault, failed⟩ | ⟨made, change, succeeded⟩ := making_apply package target files
    · rw [failed] at value
      contradiction
    · rw [succeeded]
      exact FileTree.pathExists_of_makeDirectory housed change
  · intro package target files path housed there
    obtain ⟨fault, failed⟩ | ⟨made, change, succeeded⟩ := making_apply package target files
    · rw [failed]
      exact there
    · rw [succeeded]
      exact (grown change).pathExists housed there

namespace Source

structure Request where
  package : String
  testMode : Bool
  /-- The fetcher as it is at the time. It may do better when it is asked again. -/
  fetcher : Fetcher

/-- A request, with the files that it was made with and what came of it. -/
structure Answer where
  request : Request
  before : FileTree
  done : Done (Except ScanError String)

def Answer.fetched (answer : Answer) : Bool := answer.done.notes.any Note.isFetch

def Answer.brought (answer : Answer) : Bool := answer.fetched && answer.done.value.isOk

def Request.answer (base : String) (request : Request) (files : FileTree) : Answer :=
  ⟨request, files,
    ensureSource request.fetcher.recorded base request.testMode request.package files⟩

/-- The answers to requests that are made one after the other, each with the files that the one before it has
left. -/
def answers (base : String) : List Request → FileTree → List Answer
  | [], _ => []
  | request :: requests, files =>
    request.answer base files :: answers base requests (request.answer base files).done.files

inductive Ends (base : String) (request : Request) (files : FileTree) :
    Done (Except ScanError String) → Prop where
  | found {message : String} (present : files.pathExists (Path.join base request.package) = true) :
    Ends base request files ⟨.ok (Path.join base request.package), files, [.log .debug message]⟩
  | missing (absent : files.pathExists (Path.join base request.package) = false)
    (test : request.testMode = true) :
    Ends base request files
      ⟨.error (.sourceMissing request.package (Path.join base request.package)), files, []⟩
  | refused {message diagnostic : String} {after : FileTree} {notes : List Note}
    (absent : files.pathExists (Path.join base request.package) = false)
    (live : request.testMode = false)
    (asked : request.fetcher request.package (Path.join base request.package) files =
      ⟨.error diagnostic, after, notes⟩) :
    Ends base request files ⟨.error (.fetchFailed request.package diagnostic), after,
      .log .info message :: .fetch request.package (Path.join base request.package) ::
        notes.filter fun note => !note.isCall⟩
  | brought {message : String} {after : FileTree} {notes : List Note}
    (absent : files.pathExists (Path.join base request.package) = false)
    (live : request.testMode = false)
    (asked : request.fetcher request.package (Path.join base request.package) files =
      ⟨.ok (), after, notes⟩) :
    Ends base request files ⟨.ok (Path.join base request.package), after,
      .log .info message :: .fetch request.package (Path.join base request.package) ::
        notes.filter fun note => !note.isCall⟩

theorem ends (base : String) (request : Request) (files : FileTree) :
    Ends base request files (request.answer base files).done := by
  simp only [Request.answer, ensureSource_apply, Fetcher.recorded, Work.recorded]
  split
  · exact .found ‹_›
  · rename_i absent
    have absent : files.pathExists (Path.join base request.package) = false := by simpa using absent
    split
    · exact .missing absent ‹_›
    · rename_i live
      have live : request.testMode = false := by simpa using live
      cases asked : request.fetcher request.package (Path.join base request.package) files with
      | mk value after notes =>
        cases value with
        | ok _ => exact .brought absent live asked
        | error diagnostic => exact .refused absent live asked

theorem path_of_ensureSource {fetcher : Fetcher} {base package dir : String} {testMode : Bool}
    {files : FileTree}
    (succeeded : (ensureSource fetcher base testMode package files).value = .ok dir) :
    dir = Path.join base package := by
  have ended := ends base ⟨package, testMode, fetcher⟩ files
  have same := (ensureSource_matches fetcher.recorded_matches base testMode package files).value.eq
  rw [← same] at succeeded
  unfold Request.answer at ended
  generalize ensureSource fetcher.recorded base testMode package files = done at ended succeeded
  cases ended with
  | found | brought => exact (Except.ok.inj succeeded).symm
  | missing | refused => contradiction

/-- What an answer says, by what its request found at the path of the package. -/
structure Answer.Explained (base : String) (answer : Answer) : Prop where
  /-- All that changes the files is the fetcher. -/
  idle : answer.fetched = false → answer.done.files = answer.before
  /-- A test run asks nothing of its fetcher, which might as well be any other. -/
  test : answer.request.testMode = true → answer.fetched = false ∧
    ∀ other : Fetcher, ensureSource other base true answer.request.package answer.before = answer.done
  asks : answer.fetched = true ↔ answer.request.testMode = false ∧
    answer.before.pathExists (Path.join base answer.request.package) = false
  resolves : ∀ path, answer.done.value = .ok path ↔ path = Path.join base answer.request.package ∧
    (answer.before.pathExists path = true ∨ answer.request.testMode = false ∧
      (answer.request.fetcher answer.request.package path answer.before).value = .ok ())
  misses : ∀ package path, answer.done.value = .error (.sourceMissing package path) ↔
    (package = answer.request.package ∧ path = Path.join base answer.request.package) ∧
      answer.request.testMode = true ∧ answer.before.pathExists path = false
  fails : ∀ package diagnostic, answer.done.value = .error (.fetchFailed package diagnostic) ↔
    package = answer.request.package ∧ answer.request.testMode = false ∧
      answer.before.pathExists (Path.join base package) = false ∧
      (answer.request.fetcher package (Path.join base package) answer.before).value = .error diagnostic

section Answers
variable {base : String} {request : Request} {requests : List Request} {files : FileTree}
  {world : FileTree → Prop}

/-- In a test run the fetcher makes no difference. -/
theorem ensureSource_test (fetcher other : Fetcher) (base package : String) (files : FileTree) :
    ensureSource other base true package files = ensureSource fetcher base true package files := by
  simp only [ensureSource_apply, if_true]

theorem explained (base : String) (request : Request) (files : FileTree) :
    (request.answer base files).Explained base := by
  have ended := ends base request files
  unfold Request.answer at ended ⊢
  have unasked (test : request.testMode = true) (other : Fetcher) :
      ensureSource other base true request.package files =
        ensureSource request.fetcher.recorded base request.testMode request.package files := by
    rw [test]
    exact ensureSource_test _ _ _ _ _
  generalize ensureSource request.fetcher.recorded base request.testMode request.package files = done
    at ended unasked ⊢
  cases ended with
  | found present =>
    constructor
    · exact fun _ => rfl
    · exact fun test => ⟨rfl, unasked test⟩
    · simp [Answer.fetched, Note.isFetch, present]
    · intro path
      constructor
      · rintro ⟨⟩
        exact ⟨rfl, .inl present⟩
      · rintro ⟨rfl, -⟩
        rfl
    · simp +contextual [present]
    · simp +contextual [present]
  | missing absent test =>
    constructor
    · exact fun _ => rfl
    · exact fun _ => ⟨rfl, unasked test⟩
    · simp [Answer.fetched, test]
    · simp +contextual [absent, test]
    · intro package path
      constructor
      · rintro ⟨⟩
        exact ⟨⟨rfl, rfl⟩, test, absent⟩
      · rintro ⟨⟨rfl, rfl⟩, -⟩
        rfl
    · simp [test]
  | refused absent live asked =>
    constructor
    · simp [Answer.fetched, Note.isFetch]
    · simp [live]
    · simp [Answer.fetched, Note.isFetch, absent, live]
    · simp +contextual [absent, asked]
    · simp [live]
    · intro package diagnostic
      constructor
      · rintro ⟨⟩
        exact ⟨rfl, live, absent, by rw [asked]⟩
      · rintro ⟨rfl, -, -, failed⟩
        rw [asked] at failed
        cases failed
        rfl
  | brought absent live asked =>
    constructor
    · simp [Answer.fetched, Note.isFetch]
    · simp [live]
    · simp [Answer.fetched, Note.isFetch, absent, live]
    · intro path
      constructor
      · rintro ⟨⟩
        exact ⟨rfl, .inr ⟨live, by rw [asked]⟩⟩
      · rintro ⟨rfl, -⟩
        rfl
    · simp [live]
    · simp +contextual [asked]

/-- One request leaves the files in the world, with all the paths that were there and the one it resolves. -/
theorem keeps_of_faithful (base : String) (inside : world files) (faithful : request.fetcher.Faithful world) :
    world (request.answer base files).done.files ∧
      (∀ path, files.pathExists path = true →
        (request.answer base files).done.files.pathExists path = true) ∧
      ∀ path, (request.answer base files).done.value = .ok path →
        (request.answer base files).done.files.pathExists path = true := by
  have ended := ends base request files
  generalize (request.answer base files).done = done at ended ⊢
  have stays := faithful.stays request.package (Path.join base request.package) files inside
  have keeps := fun path => faithful.keeps request.package (Path.join base request.package) files path inside
  have brings := faithful.brings request.package (Path.join base request.package) files inside
  cases ended with
  | found present =>
    refine ⟨inside, fun _ there => there, ?_⟩
    rintro path ⟨⟩
    exact present
  | missing => exact ⟨inside, fun _ there => there, nofun⟩
  | refused absent live asked =>
    rw [asked] at stays keeps
    exact ⟨stays, keeps, nofun⟩
  | brought absent live asked =>
    rw [asked] at stays keeps brings
    refine ⟨stays, keeps, ?_⟩
    rintro path ⟨⟩
    exact brings rfl

theorem request_answers (base : String) (requests : List Request) (files : FileTree) :
    (answers base requests files).map Answer.request = requests := by
  induction requests generalizing files with
  | nil => rfl
  | cons request requests ih =>
    rw [answers, List.map_cons, ih]
    rfl

/-- Every answer is that to one of the requests, with some files of the world, and the answers after it are those to
the requests after that one. -/
theorem answers_split {earlier later : List Answer} {answer : Answer} (inside : world files)
    (faithful : ∀ request ∈ requests, request.fetcher.Faithful world)
    (split : answers base requests files = earlier ++ answer :: later) :
    world answer.before ∧ answer = answer.request.answer base answer.before ∧
      answer.request.fetcher.Faithful world ∧
      ∃ rest, (∀ request ∈ rest, request.fetcher.Faithful world) ∧
        later = answers base rest answer.done.files := by
  induction earlier generalizing requests files with
  | nil =>
    cases requests with
    | nil => contradiction
    | cons request requests =>
      obtain ⟨first, rest⟩ := List.forall_mem_cons.mp faithful
      obtain ⟨rfl, rfl⟩ := List.cons.inj split
      exact ⟨inside, rfl, first, requests, rest, rfl⟩
  | cons other earlier ih =>
    cases requests with
    | nil => contradiction
    | cons request requests =>
      obtain ⟨first, rest⟩ := List.forall_mem_cons.mp faithful
      exact ih (keeps_of_faithful base inside first).1 rest (List.cons.inj split).2

/-- A path that is there stays there. -/
theorem pathExists_answers (base : String) {path : String} (inside : world files)
    (faithful : ∀ request ∈ requests, request.fetcher.Faithful world)
    (there : files.pathExists path = true) :
    ∀ answer ∈ answers base requests files, answer = answer.request.answer base answer.before ∧
      answer.before.pathExists path = true ∧ answer.done.files.pathExists path = true := by
  induction requests generalizing files with
  | nil => exact List.forall_mem_nil _
  | cons request requests ih =>
    obtain ⟨first, rest⟩ := List.forall_mem_cons.mp faithful
    obtain ⟨stays, keeps, -⟩ := keeps_of_faithful base inside first
    rw [answers, List.forall_mem_cons]
    exact ⟨⟨rfl, there, keeps path there⟩, ih stays rest (keeps path there)⟩

/-- What is there is resolved as it is. -/
theorem resolved_of_present {answer : Answer} (explained : answer.Explained base)
    (present : answer.before.pathExists (Path.join base answer.request.package) = true) :
    answer.done.value = .ok (Path.join base answer.request.package) ∧ answer.fetched = false := by
  refine ⟨(explained.resolves _).mpr ⟨rfl, .inl present⟩, ?_⟩
  rw [← Bool.not_eq_true, explained.asks]
  simp [present]

theorem countP_brought_of_present {package : String} (inside : world files)
    (faithful : ∀ request ∈ requests, request.fetcher.Faithful world)
    (there : files.pathExists (Path.join base package) = true) :
    (answers base requests files).countP
      (fun answer => answer.request.package = package ∧ answer.brought = true) = 0 := by
  rw [List.countP_eq_zero]
  intro answer member counted
  obtain ⟨own, present, -⟩ := pathExists_answers base inside faithful there answer member
  obtain ⟨rfl, brought⟩ := of_decide_eq_true counted
  have unasked := (resolved_of_present (own ▸ explained base answer.request answer.before) present).2
  simp [Answer.brought, unasked] at brought

theorem countP_brought_le_one (package : String) (inside : world files)
    (faithful : ∀ request ∈ requests, request.fetcher.Faithful world) :
    (answers base requests files).countP
      (fun answer => answer.request.package = package ∧ answer.brought = true) ≤ 1 := by
  induction requests generalizing files with
  | nil => exact Nat.zero_le _
  | cons request requests ih =>
    obtain ⟨first, rest⟩ := List.forall_mem_cons.mp faithful
    obtain ⟨stays, -, resolved⟩ := keeps_of_faithful base inside first
    rw [answers, List.countP_cons]
    split
    · rename_i counted
      obtain ⟨rfl, brought⟩ := of_decide_eq_true counted
      cases value : (request.answer base files).done.value with
      | error e => simp [Answer.brought, value, Except.isOk, Except.toBool] at brought
      | ok path =>
        obtain ⟨rfl, -⟩ := ((explained base request files).resolves path).mp value
        have none := countP_brought_of_present stays rest (resolved _ value)
        omega
    · exact ih stays rest

end Answers

/-- Over any row of requests, whose fetchers leave in place what they find and what they bring, each answer is
explained by what its request found. A path that has been resolved is that of the package and is there from then
on; later requests for the package give it again without a fetch; and no package is fetched with success more
than once. -/
theorem sources_fetched_once (base : String) {requests : List Request} {files : FileTree}
    {world : FileTree → Prop} (inside : world files)
    (faithful : ∀ request ∈ requests, request.fetcher.Faithful world) :
    let all := answers base requests files
    all.map Answer.request = requests ∧
    (∀ answer ∈ all, answer.Explained base) ∧
    (∀ earlier answer later path, all = earlier ++ answer :: later → answer.done.value = .ok path →
      path = Path.join base answer.request.package ∧
      (∀ now ∈ answer :: later, now.done.files.pathExists path = true) ∧
      ∀ again ∈ later, again.request.package = answer.request.package →
        again.done.value = .ok path ∧ again.fetched = false) ∧
    ∀ package, all.countP
      (fun answer => answer.request.package = package ∧ answer.brought = true) ≤ 1 := by
  intro all
  refine ⟨request_answers base requests files, ?_, ?_, fun package => ?_⟩
  · intro answer member
    obtain ⟨earlier, later, split⟩ := List.append_of_mem member
    obtain ⟨-, own, -, -⟩ := answers_split inside faithful split
    rw [own]
    exact explained base answer.request answer.before
  · intro earlier answer later path split value
    obtain ⟨within, own, serves, rest, restServe, rfl⟩ := answers_split inside faithful split
    have reason : answer.Explained base := own ▸ explained base answer.request answer.before
    obtain ⟨rfl, -⟩ := (reason.resolves path).mp value
    obtain ⟨stays, -, resolved⟩ := keeps_of_faithful base within serves
    rw [← own] at stays resolved
    have onward := pathExists_answers base stays restServe (resolved _ value)
    refine ⟨rfl, List.forall_mem_cons.mpr ⟨resolved _ value, fun now member => (onward now member).2.2⟩,
      fun again member same => ?_⟩
    obtain ⟨ownAgain, present, -⟩ := onward again member
    rw [← same] at present ⊢
    exact resolved_of_present (ownAgain ▸ explained base again.request again.before) present
  · exact countP_brought_le_one package inside faithful

/-- A package that is missing, then refused, then fetched is there for a test run, and is not asked for again. -/
theorem source_fetched_after_refusal :
    let offline : Fetcher := fun _ _ => Work.fail "offline"
    let requests : List Request := [⟨"a", true, .making⟩, ⟨"a", false, offline⟩, ⟨"a", false, .making⟩,
      ⟨"a", true, offline⟩]
    let files : FileTree := ⟨[("src", .directory [])], []⟩
    let all := answers "src" requests files
    all.map (·.done.value) = [.error (.sourceMissing "a" "src/a"),
      .error (.fetchFailed "a" "offline"), .ok "src/a", .ok "src/a"] ∧
    all.map Answer.fetched = [false, true, true, false] := by
  intro offline requests files all
  have join : Path.join "src" "a" = "src/a" := by decide +kernel
  have steps : Path.steps "src/a" = ["src", "a"] ∧ Path.names "src/a" = ["src", "a"] := by
    decide +kernel
  have vacant (aim : FileTree.Aim) :
      files.resolveSteps aim "src/a" ["src", "a"] = .ok (.vacant ["src", "a"]) := by
    refine FileTree.resolveSteps_eq_ok.mpr ⟨by decide +kernel, ?_⟩
    rw [FileTree.origin_of_home rfl]
    refine .enter ?_ rfl (.vacant ?_ rfl rfl)
    · cases aim <;> decide +kernel
    · cases aim <;> decide +kernel
  have absent : files.pathExists "src/a" = false := by
    simp [FileTree.pathExists, FileTree.stat, FileTree.resolve, steps, vacant]
  have made : files.makeDirectory "src/a" = .ok (files.put ["src", "a"] .directory) := by
    simp [FileTree.makeDirectory, steps, vacant]
  let later := files.put ["src", "a"] .directory
  let first : Answer := ⟨⟨"a", true, .making⟩, files, ⟨.error (.sourceMissing "a" "src/a"), files, []⟩⟩
  let second : Answer := ⟨⟨"a", false, offline⟩, files, ⟨.error (.fetchFailed "a" "offline"), files,
    [.log .info "Downloading crate: src/a", .fetch "a" "src/a"]⟩⟩
  let third : Answer := ⟨⟨"a", false, .making⟩, files, ⟨.ok "src/a", later,
    [.log .info "Downloading crate: src/a", .fetch "a" "src/a"]⟩⟩
  let last : Answer := Request.answer "src" ⟨"a", true, offline⟩ later
  have missed : Request.answer "src" ⟨"a", true, .making⟩ files = first := by
    simp [Request.answer, ensureSource_apply, join, absent, first]
  have refused : Request.answer "src" ⟨"a", false, offline⟩ files = second := by
    simp [Request.answer, ensureSource_apply, join, absent, second, Fetcher.recorded, Work.recorded,
      offline, Work.fail, Except.map, Except.mapError]
  have brought : Request.answer "src" ⟨"a", false, .making⟩ files = third := by
    simp [Request.answer, ensureSource_apply, join, absent, third, Fetcher.recorded, Work.recorded,
      Fetcher.making, Work.mapError, Work.change, made, Except.map, Except.mapError, later]
  have split : all = [first, second] ++ third :: [last] := by
    simp only [all, requests, answers, missed, first, refused, second, brought]
    rfl
  have faithful : ∀ request ∈ requests, request.fetcher.Faithful FileTree.Housed := by
    have refuses : offline.Faithful FileTree.Housed := by
      refine ⟨fun _ _ _ housed => housed, ?_, fun _ _ _ _ _ there => there⟩
      intro package target files _ succeeded
      contradiction
    simp [requests, Fetcher.making_faithful, refuses]
  have housed : files.Housed := rfl
  obtain ⟨-, -, onward, -⟩ := sources_fetched_once "src" housed faithful
  obtain ⟨-, -, again⟩ := onward [first, second] third [last] "src/a" split rfl
  obtain ⟨value, unasked⟩ := again last List.mem_cons_self rfl
  rw [split]
  constructor
  · simp [value, first, second, third]
  · have asked : first.fetched = false ∧ second.fetched = true ∧ third.fetched = true := ⟨rfl, rfl, rfl⟩
    simp [unasked, asked]

end Source
end EffectSurvey
