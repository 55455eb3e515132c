import EffectSurvey.Proofs.Batch.Results

/-! Scans that are under way at once. They are started in the order of the list while the window has room,
they complete in any order, and a completed result waits until all earlier ones have been delivered. The main
statement is that no schedule changes what a run returns. -/
namespace EffectSurvey.Batch

abbrev Placed := ScanResult × Nat

inductive Driver where
  | taking (outcome : Outcome)
  | returned (value : Except ScanError Outcome)

/-- The driver after a result has been delivered to it: an error ends its work. -/
def Driver.after : Except ScanError Outcome → Driver
  | .ok outcome => .taking outcome
  | .error e => .returned (.error e)

def Driver.ended : Driver → Nat
  | .taking _ => 0
  | .returned _ => 1

structure Pipeline where
  /-- How many scans have been started. -/
  started : Nat
  /-- How many results have been delivered. -/
  delivered : Nat
  /-- The places of the scans that run, in no particular order. -/
  running : List Nat
  /-- The results that have not been delivered, in no particular order. -/
  waiting : List Placed
  driver : Driver

def Pipeline.initial (packages : List String) : Pipeline :=
  ⟨0, 0, [], [], .taking (Outcome.start packages)⟩

inductive Event where
  | start (place : Nat)
  | complete (placed : Placed)
  | deliver (placed : Placed)
  | finish

/-- One step of a run. A scan may complete with any result. Nothing happens after the driver has returned:
what is still under way is dropped. -/
inductive Step (options : BatchOptions) (packages : List String) :
    Pipeline → Event → Pipeline → Prop where
  | start {started delivered : Nat} {running : List Nat} {waiting : List Placed} {outcome : Outcome} :
      started < packages.length →
      running.length + waiting.length < max options.concurrency 1 →
      Step options packages ⟨started, delivered, running, waiting, .taking outcome⟩ (.start started)
        ⟨started + 1, delivered, started :: running, waiting, .taking outcome⟩
  | complete {started delivered : Nat} {waiting : List Placed} {outcome : Outcome}
      (before after : List Nat) (placed : Placed) :
      Step options packages
        ⟨started, delivered, before ++ placed.2 :: after, waiting, .taking outcome⟩ (.complete placed)
        ⟨started, delivered, before ++ after, placed :: waiting, .taking outcome⟩
  | deliver {started delivered : Nat} {running : List Nat} {outcome : Outcome}
      (before after : List Placed) (result : ScanResult) :
      Step options packages
        ⟨started, delivered, running, before ++ (result, delivered) :: after, .taking outcome⟩
        (.deliver (result, delivered))
        ⟨started, delivered + 1, running, before ++ after,
          .after (outcome.deliver options.skipMalformed result)⟩
  | finish {delivered : Nat} {outcome : Outcome} :
      Step options packages ⟨packages.length, delivered, [], [], .taking outcome⟩ .finish
        ⟨packages.length, delivered, [], [], .returned (.ok outcome)⟩

/-- The pipeline comes about from the initial one by these events. -/
inductive Schedule (options : BatchOptions) (packages : List String) :
    List Event → Pipeline → Prop where
  | initial : Schedule options packages [] (Pipeline.initial packages)
  | step {events : List Event} {p next : Pipeline} {event : Event} :
      Schedule options packages events p → Step options packages p event next →
      Schedule options packages (events ++ [event]) next

def Event.completion? : Event → Option Placed
  | .complete placed => some placed
  | _ => none

def Event.delivery? : Event → Option Placed
  | .deliver placed => some placed
  | _ => none

def completions (events : List Event) : List Placed := events.filterMap Event.completion?

def deliveries (events : List Event) : List Placed := events.filterMap Event.delivery?

theorem completions_concat (events : List Event) (event : Event) :
    completions (events ++ [event]) = completions events ++ event.completion?.toList := by
  rw [completions, List.filterMap_append]
  cases event <;> rfl

theorem deliveries_concat (events : List Event) (event : Event) :
    deliveries (events ++ [event]) = deliveries events ++ event.delivery?.toList := by
  rw [deliveries, List.filterMap_append]
  cases event <;> rfl

def Pipeline.places (p : Pipeline) : List Nat :=
  List.range p.delivered ++ p.running ++ p.waiting.map Prod.snd

section Accounts
variable {options : BatchOptions} {packages : List String} {events : List Event}
  {p next : Pipeline} {event : Event}

/-- No step loses a place or has one twice. -/
theorem Step.places_perm (step : Step options packages p event next)
    (once : p.places.Perm (List.range p.started)) : next.places.Perm (List.range next.started) := by
  rw [List.perm_iff_count] at once ⊢
  intro place
  have same := once place
  cases step with
  | start more room =>
    simp only [Pipeline.places, List.count_append, List.range_succ, List.count_cons,
      List.count_nil] at same ⊢
    omega
  | complete before after placed =>
    simp only [Pipeline.places, List.count_append, List.map_cons, List.count_cons] at same ⊢
    omega
  | deliver before after result =>
    simp only [Pipeline.places, List.count_append, List.map_append, List.map_cons, List.range_succ,
      List.count_cons, List.count_nil] at same ⊢
    omega
  | finish => exact same

/-- A result that has completed is delivered later or keeps waiting. -/
theorem Step.completions_perm (step : Step options packages p event next)
    (kept : (completions events).Perm (deliveries events ++ p.waiting)) :
    (completions (events ++ [event])).Perm (deliveries (events ++ [event]) ++ next.waiting) := by
  rw [completions_concat, deliveries_concat]
  cases step with
  | start more room => simpa [Event.completion?, Event.delivery?] using kept
  | @complete started delivered waiting outcome before after placed =>
    simp only [Event.completion?, Event.delivery?, Option.toList, List.append_nil]
    calc (completions events ++ [placed]).Perm (placed :: completions events) :=
        List.perm_append_singleton _ _
      List.Perm _ (placed :: (deliveries events ++ waiting)) := kept.cons placed
      List.Perm _ (deliveries events ++ placed :: waiting) := List.perm_middle.symm
  | deliver before after result =>
    simp only [Event.completion?, Event.delivery?, Option.toList, List.append_nil]
    refine kept.trans ?_
    rw [List.append_assoc, List.singleton_append]
    exact List.perm_middle.append_left _
  | finish => simpa [Event.completion?, Event.delivery?] using kept

/-- A scan takes three events, and returning one. -/
theorem Step.length_le (step : Step options packages p event next)
    (brief : events.length + p.running.length ≤ 2 * p.started + p.delivered + p.driver.ended) :
    (events ++ [event]).length + next.running.length ≤
      2 * next.started + next.delivered + next.driver.ended := by
  rw [List.length_append, List.length_singleton]
  cases step with
  | start more room =>
    simp only [List.length_cons] at brief ⊢
    omega
  | complete before after placed =>
    simp only [List.length_append, List.length_cons] at brief ⊢
    omega
  | deliver before after result =>
    simp only [Driver.ended] at brief ⊢
    omega
  | finish =>
    simp only [Driver.ended, List.length_nil] at brief ⊢
    omega

theorem Step.window (step : Step options packages p event next)
    (inside : p.started ≤ packages.length)
    (narrow : p.running.length + p.waiting.length ≤ max options.concurrency 1) :
    next.started ≤ packages.length ∧
      next.running.length + next.waiting.length ≤ max options.concurrency 1 := by
  cases step with
  | start more room => exact ⟨more, by simp only [List.length_cons]; omega⟩
  | complete before after placed =>
    simp only [List.length_append, List.length_cons] at narrow ⊢
    exact ⟨inside, by omega⟩
  | deliver before after result =>
    simp only [List.length_append, List.length_cons] at narrow ⊢
    exact ⟨inside, by omega⟩
  | finish => exact ⟨inside, narrow⟩

end Accounts

/-- The place of the first result that ends the run, or the end of the list. -/
def lastPlace (skipMalformed : Bool) (results : List ScanResult) : Nat :=
  results.findIdx fun result => (ScanResult.fatal? skipMalformed result).isSome

section LastPlace
variable {skipMalformed : Bool} {results : List ScanResult} {place : Nat} {result : ScanResult}

theorem lt_lastPlace (upTo : place ≤ lastPlace skipMalformed results)
    (there : results[place]? = some result)
    (harmless : ScanResult.fatal? skipMalformed result = none) :
    place < lastPlace skipMalformed results := by
  obtain ⟨inside, rfl⟩ := List.getElem?_eq_some_iff.mp there
  refine List.lt_findIdx_of_not inside fun earlier before => ?_
  rcases Nat.lt_or_eq_of_le before with sooner | rfl
  · simp [List.not_of_lt_findIdx (Nat.lt_of_lt_of_le sooner upTo)]
  · simp [harmless]

theorem eq_lastPlace {e : ScanError} (upTo : place ≤ lastPlace skipMalformed results)
    (there : results[place]? = some result)
    (fatal : ScanResult.fatal? skipMalformed result = some e) :
    place = lastPlace skipMalformed results := by
  obtain ⟨inside, rfl⟩ := List.getElem?_eq_some_iff.mp there
  refine ((List.findIdx_eq inside).mpr ⟨by simp [fatal], fun earlier sooner => ?_⟩).symm
  exact List.not_of_lt_findIdx (Nat.lt_of_lt_of_le sooner upTo)

end LastPlace

/-- A driver with the first results delivered is on its way to the value that all of them come to. -/
def Driver.Follows (skipMalformed : Bool) (first : Outcome) (results : List ScanResult)
    (delivered : Nat) : Driver → Prop
  | .taking outcome => delivered ≤ lastPlace skipMalformed results ∧
      outcome.deliverAll skipMalformed (results.drop delivered) =
        first.deliverAll skipMalformed results
  | .returned value => value = first.deliverAll skipMalformed results ∧
      results.zipIdx.take delivered = results.zipIdx.take (lastPlace skipMalformed results + 1)

theorem Driver.Follows.deliver {skipMalformed : Bool} {first outcome : Outcome}
    {results : List ScanResult} {delivered : Nat} {result : ScanResult}
    (follows : (Driver.taking outcome).Follows skipMalformed first results delivered)
    (there : results[delivered]? = some result) :
    (Driver.after (outcome.deliver skipMalformed result)).Follows skipMalformed first results
      (delivered + 1) := by
  obtain ⟨upTo, value⟩ := follows
  have rest : results.drop delivered = result :: results.drop (delivered + 1) := by
    rw [List.drop_eq_getElem?_toList_append, there]
    rfl
  rw [rest, Outcome.deliverAll_cons, Outcome.deliver_eq] at value
  rw [Outcome.deliver_eq]
  cases fatal : ScanResult.fatal? skipMalformed result with
  | none =>
    rw [fatal] at value
    exact ⟨lt_lastPlace upTo there fatal, value⟩
  | some e =>
    rw [fatal] at value
    exact ⟨value, by rw [eq_lastPlace upTo there fatal]⟩

theorem Driver.Follows.finish {skipMalformed : Bool} {first outcome : Outcome}
    {results : List ScanResult}
    (follows : (Driver.taking outcome).Follows skipMalformed first results results.length) :
    (Driver.returned (.ok outcome)).Follows skipMalformed first results results.length := by
  obtain ⟨upTo, value⟩ := follows
  rw [List.drop_length] at value
  refine ⟨value, ?_⟩
  rw [List.take_of_length_le (by simp), List.take_of_length_le (by simp; omega)]

structure Pipeline.Accounted (options : BatchOptions) (packages : List String)
    (events : List Event) (p : Pipeline) : Prop where
  inside : p.started ≤ packages.length
  narrow : p.running.length + p.waiting.length ≤ max options.concurrency 1
  once : p.places.Perm (List.range p.started)
  kept : (completions events).Perm (deliveries events ++ p.waiting)
  brief : events.length + p.running.length ≤ 2 * p.started + p.delivered + p.driver.ended

theorem Schedule.accounted {options : BatchOptions} {packages : List String} {events : List Event}
    {p : Pipeline} (scheduled : Schedule options packages events p) :
    p.Accounted options packages events := by
  induction scheduled with
  | initial => exact ⟨Nat.zero_le _, Nat.zero_le _, .nil, .nil, Nat.zero_le _⟩
  | step _ step ih =>
    obtain ⟨inside, narrow⟩ := step.window ih.inside ih.narrow
    exact ⟨inside, narrow, step.places_perm ih.once, step.completions_perm ih.kept,
      step.length_le ih.brief⟩

theorem Pipeline.Accounted.started_eq {options : BatchOptions} {packages : List String}
    {events : List Event} {p : Pipeline} (accounted : p.Accounted options packages events) :
    p.delivered + p.running.length + p.waiting.length = p.started := by
  simpa [Pipeline.places, Nat.add_assoc] using accounted.once.length_eq

/-- What holds of a pipeline whose scans have these results, up to the last place. -/
structure Pipeline.Sound (options : BatchOptions) (packages : List String)
    (results : List ScanResult) (events : List Event) (p : Pipeline) : Prop where
  held : ∀ placed ∈ p.waiting,
    placed.2 ≤ lastPlace options.skipMalformed results → placed ∈ results.zipIdx
  inOrder : deliveries events = results.zipIdx.take p.delivered
  follows : p.driver.Follows options.skipMalformed (Outcome.start packages) results p.delivered

section Soundness
variable {options : BatchOptions} {packages : List String} {results : List ScanResult}
  {events : List Event} {p next : Pipeline} {event : Event}

theorem Step.sound (step : Step options packages p event next)
    (complete : results.length = packages.length)
    (accounted : p.Accounted options packages events)
    (fixed : ∀ placed, event = .complete placed →
      placed.2 ≤ lastPlace options.skipMalformed results → placed ∈ results.zipIdx)
    (sound : p.Sound options packages results events) :
    next.Sound options packages results (events ++ [event]) := by
  have delivered := deliveries_concat events event
  rw [sound.inOrder] at delivered
  cases step with
  | start more room => exact ⟨sound.held, delivered.trans (List.append_nil _), sound.follows⟩
  | complete before after placed =>
    refine ⟨?_, delivered.trans (List.append_nil _), sound.follows⟩
    exact List.forall_mem_cons.mpr ⟨fixed placed rfl, sound.held⟩
  | @deliver started place running outcome before after result =>
    have there : results[place]? = some result :=
      List.mem_zipIdx_iff_getElem?.mp (sound.held (result, place) (by simp) sound.follows.1)
    refine ⟨fun placed member => sound.held placed ?_, ?_, sound.follows.deliver there⟩
    · rcases List.mem_append.mp member with early | late
      · exact List.mem_append_left _ early
      · exact List.mem_append_right _ (List.mem_cons_of_mem _ late)
    · rw [delivered, List.take_add_one, List.getElem?_zipIdx, there]
      simp [Event.delivery?]
  | @finish place outcome =>
    refine ⟨nofun, delivered.trans (List.append_nil _), ?_⟩
    have follows := sound.follows
    have all : place = results.length := complete ▸ accounted.started_eq
    subst all
    exact follows.finish

theorem Schedule.sound (scheduled : Schedule options packages events p)
    (complete : results.length = packages.length)
    (fixed : ∀ placed, .complete placed ∈ events →
      placed.2 ≤ lastPlace options.skipMalformed results → placed ∈ results.zipIdx) :
    p.Sound options packages results events := by
  induction scheduled with
  | initial => exact ⟨nofun, rfl, Nat.zero_le _, rfl⟩
  | step earlier step ih =>
    refine step.sound complete earlier.accounted (fun placed same => fixed placed ?_)
      (ih fun placed member => fixed placed ?_)
    · exact List.mem_append_right _ (List.mem_singleton.mpr same.symm)
    · exact List.mem_append_left _ member

/-- A driver that has not returned is never stuck: while a scan runs it may complete, and if none runs
then the next result is there, or there is room for a scan, or all is done. -/
theorem Pipeline.Accounted.progress (accounted : p.Accounted options packages events)
    (complete : results.length = packages.length) {outcome : Outcome}
    (taking : p.driver = .taking outcome) :
    ∃ event next, Step options packages p event next ∧
      ∀ placed, event = .complete placed → placed ∈ results.zipIdx := by
  have total := accounted.started_eq
  have inside := accounted.inside
  have once := accounted.once
  obtain ⟨started, delivered, running, waiting, driver⟩ := p
  subst taking
  cases running with
  | cons place running =>
    have member : place ∈ List.range started := once.mem_iff.mp (by simp [places])
    obtain ⟨result, there⟩ : ∃ result, results[place]? = some result :=
      ⟨_, List.getElem?_eq_getElem (by simp at member inside; omega)⟩
    refine ⟨_, _, .complete [] running (result, place), ?_⟩
    rintro placed ⟨⟩
    exact List.mem_zipIdx_iff_getElem?.mpr there
  | nil =>
    by_cases rest : delivered < started
    · have next : delivered ∈ waiting.map Prod.snd := by
        simpa [places] using once.mem_iff.mpr (List.mem_range.mpr rest)
      obtain ⟨⟨result, _⟩, waits, rfl⟩ := List.mem_map.mp next
      obtain ⟨before, after, rfl⟩ := List.append_of_mem waits
      exact ⟨_, _, .deliver before after result, nofun⟩
    · simp only [List.length_nil] at total
      have none : waiting = [] := List.eq_nil_of_length_eq_zero (by omega)
      subst none
      by_cases more : started < packages.length
      · exact ⟨_, _, .start more (by simp), nofun⟩
      · obtain rfl : started = packages.length := by simp at inside; omega
        exact ⟨_, _, .finish, nofun⟩

end Soundness

/-- Whatever the schedule and the width of its window, a driver that returns gives the value of the run
that scans one package after the other, provided that the scans which that run comes to have the results they
have there. The results are delivered in the order of the list, each once, up to the first that ends the run,
and a schedule can always go on until the driver returns, which it does after boundedly many events. -/
theorem run_independent_of_schedule (fetcher : Fetcher) (analyzer : Analyzer)
    (options : BatchOptions) (packages : List String) (files : FileTree) {events : List Event}
    {p : Pipeline} (scheduled : Schedule options packages events p)
    (fixed : ∀ placed, .complete placed ∈ events →
      placed.2 ≤ lastPlace options.skipMalformed
        (results (scanPackage fetcher analyzer options) packages files) →
      placed ∈ (results (scanPackage fetcher analyzer options) packages files).zipIdx) :
    let sequential := results (scanPackage fetcher analyzer options) packages files
    (∀ value, p.driver = .returned value →
      value = (run fetcher analyzer options packages files).value ∧
      deliveries events =
        sequential.zipIdx.take (lastPlace options.skipMalformed sequential + 1)) ∧
    deliveries events = sequential.zipIdx.take p.delivered ∧
    (completions events).Perm (deliveries events ++ p.waiting) ∧
    p.running.length + p.waiting.length ≤ max options.concurrency 1 ∧
    events.length ≤ 3 * packages.length + 1 ∧
    ((∃ value, p.driver = .returned value) ∨ ∃ event next, Step options packages p event next ∧
      ∀ placed, event = .complete placed → placed ∈ sequential.zipIdx) := by
  intro sequential
  have complete : sequential.length = packages.length := length_results _ _ _
  have accounted := scheduled.accounted
  have sound := scheduled.sound complete fixed
  refine ⟨?_, sound.inOrder, accounted.kept, accounted.narrow, ?_, ?_⟩
  · intro value returned
    have follows := sound.follows
    rw [returned] at follows
    rw [value_run, sound.inOrder]
    exact follows
  · have ended : p.driver.ended ≤ 1 := by cases p.driver <;> simp [Driver.ended]
    have := accounted.started_eq
    have := accounted.inside
    have := accounted.brief
    omega
  · cases driver : p.driver with
    | returned value => exact .inl ⟨value, rfl⟩
    | taking outcome => exact .inr (accounted.progress complete driver)

/-- The second scan completes before the first and ends the run when its turn comes, with the third still
under way. -/
theorem overtaking_scan_returns_run_value :
    let fetcher : Fetcher := fun _ _ => pure ()
    let analyzer := Analyzer.replying fun name => if name = "b" then .error "crashed" else .ok []
    let options : BatchOptions := ⟨"src", false, 2, true, 10⟩
    let a : ScanResult := .error (.badTranscript "a" (.ended .findingHeader))
    let b : ScanResult := .error (.analyzerFailed "b" "crashed")
    let events : List Event := [.start 0, .start 1, .complete (b, 1), .complete (a, 0),
      .deliver (a, 0), .start 2, .deliver (b, 1)]
    let p : Pipeline := ⟨3, 2, [2], [], .returned (.error (.analyzerFailed "b" "crashed"))⟩
    Schedule options ["a", "b", "c"] events p ∧
    (∀ placed, .complete placed ∈ events →
      placed ∈ (results (scanPackage fetcher analyzer options) ["a", "b", "c"] ⟨[], []⟩).zipIdx) ∧
    .error (.analyzerFailed "b" "crashed") =
      (run fetcher analyzer options ["a", "b", "c"] ⟨[], []⟩).value := by
  intro fetcher analyzer options a b events p
  have scheduled : Schedule options ["a", "b", "c"] events p := by
    have begun : Schedule options ["a", "b", "c"] [] _ := .initial
    have started := begun.step (.start (by decide) (by decide))
    have both := started.step (.start (by decide) (by decide))
    have early := both.step (.complete [] [0] (b, 1))
    have late := early.step (.complete [] [] (a, 0))
    have first := late.step (.deliver [] [(b, 1)] a)
    have third := first.step (.start (by decide) (by decide))
    exact third.step (.deliver [] [] b)
  have fixed : ∀ placed, .complete placed ∈ events →
      placed ∈ (results (scanPackage fetcher analyzer options) ["a", "b", "c"] ⟨[], []⟩).zipIdx := by
    rw [(steady_replying _ rfl fun _ _ _ => rfl).results_eq _ trivial]
    simp [events, ScanResult.ofReply, Transcript.read_nil, Except.mapError, a, b]
  refine ⟨scheduled, fixed, ?_⟩
  have independent := run_independent_of_schedule fetcher analyzer options ["a", "b", "c"] ⟨[], []⟩
    scheduled fun placed member _ => fixed placed member
  exact (independent.1 _ rfl).1

end EffectSurvey.Batch
