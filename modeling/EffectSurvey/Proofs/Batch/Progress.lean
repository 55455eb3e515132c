import EffectSurvey.Proofs.Batch.Calls

/-! The progress that a run tells. The step between two messages is a quotient that is rounded down, so there may be
nearly twice as many messages as were asked for. The notes of a run are its packages in blocks of that step, each but
the last with a message behind it. -/
namespace EffectSurvey

/-- The note has the form of a progress message, whatever its level: digits, and then the words for a share. -/
def Note.isProgress : Note → Bool
  | .log _ message => message.toList.dropWhile Char.isDigit == "% complete".toList
  | .fetch _ _ | .analyze _ _ => false

theorem Note.isProgress_decimal (level : Level) (n : Nat) :
    (Note.log level (Text.decimal n ++ "% complete")).isProgress = true := by
  have digits : ∀ c ∈ (Text.decimal n).toList, c.isDigit = true := (Text.digits_decimal n).decimal
  simp only [isProgress, String.toList_append, List.dropWhile_append_of_pos digits]
  decide

/-- A message that begins with neither a digit nor the sign of a share is none. All others of a run begin with a
letter. -/
theorem Note.isProgress_of_first {level : Level} {message : String} {c : Char}
    (first : message.toList.head? = some c) (plain : (c.isDigit || c == '%') = false) :
    (Note.log level message).isProgress = false := by
  obtain ⟨rest, split⟩ := List.head?_eq_some_iff.mp first
  obtain ⟨noDigit, noSign⟩ := Bool.or_eq_false_iff.mp plain
  simp only [isProgress, split, List.dropWhile_cons, noDigit]
  simpa using fun same : c = '%' => absurd same (by simpa using noSign)

theorem ScanError.exists_first (e : ScanError) :
    ∃ c, e.message.toList.head? = some c ∧ (c.isDigit || c == '%') = false := by
  unfold message
  split
  · exact ⟨'c', by simp, rfl⟩
  · exact ⟨'f', by simp, rfl⟩
  · exact ⟨'a', by simp, rfl⟩
  · exact ⟨'a', by simp, rfl⟩

def Work.ProgressFree {ε α : Type} (work : Work ε α) : Prop := work.Notes (·.isProgress = false)

theorem Work.progressFree_log {ε : Type} {level : Level} {message : String} {c : Char}
    (first : message.toList.head? = some c) (plain : (c.isDigit || c == '%') = false) :
    (log level message : Work ε Unit).ProgressFree :=
  notes_note (Note.isProgress_of_first first plain)

def Fetcher.ProgressFree (fetcher : Fetcher) : Prop :=
  ∀ package target, (fetcher package target).ProgressFree

def Analyzer.ProgressFree (analyzer : Analyzer) : Prop := ∀ package, (analyzer package).ProgressFree

/-- A fetcher that a command line stands for tells nothing of the kind on any machine, nor does such an analyzer. -/
theorem FetchCommand.fetcher_progressFree (f : FetchCommand) (machine : Machine) :
    (f.fetcher machine).ProgressFree :=
  f.notes_fetcher machine

theorem AnalyzerCommand.analyzer_progressFree (a : AnalyzerCommand) (machine : Machine) :
    (a.analyzer machine).ProgressFree := by
  intro package
  refine Work.Notes.bind (Work.progressFree_log (c := 'S') (by simp) rfl) fun _ => ?_
  refine Work.Notes.bind (Work.progressFree_log (c := 'R') (by simp) rfl) fun _ => ?_
  refine (Work.Notes.mapError (machine.notes_run _ _) _).bind fun completion => ?_
  split
  · exact Work.notes_pure _
  · exact Work.Notes.bind (Work.progressFree_log (c := 'A') (by simp) rfl) fun _ => Work.notes_pure _

theorem ensureSource_progressFree {fetcher : Fetcher} (free : fetcher.ProgressFree) (base : String)
    (testMode : Bool) (package : String) :
    (ensureSource fetcher base testMode package).ProgressFree := by
  intro files
  have found : (Note.log .debug ("Found existing crate: " ++ Path.join base package)).isProgress =
      false := Note.isProgress_of_first (c := 'F') (by simp) rfl
  have fetching : (Note.log .info ("Downloading crate: " ++ Path.join base package)).isProgress =
      false := Note.isProgress_of_first (c := 'D') (by simp) rfl
  rw [ensureSource_apply]
  dsimp only
  split
  · exact List.forall_mem_singleton.mpr found
  · split
    · exact List.forall_mem_nil _
    · exact List.forall_mem_cons.mpr ⟨fetching, free _ _ files⟩

namespace Batch
variable {fetcher : Fetcher} {analyzer : Analyzer} {options : BatchOptions} {total step n : Nat}

section Words

/-- The quotient of two words. There is none by zero. -/
def quotient? (a b : Nat) : Option Nat := if b = 0 then none else some (a / b)

def remainder? (a b : Nat) : Option Nat := if b = 0 then none else some (a % b)

def product? (a b : Nat) : Option Nat := if a * b < Text.wordBound then some (a * b) else none

def stepOnWords? (total increments : Nat) : Option Nat :=
  if increments = 0 then some 0 else quotient? total increments

/-- The message after `done` of `total` packages, worked out on words and in the order of the conditions. There is no
result if an operation that is reached has none. -/
def progressOnWords? (total increments done : Nat) : Option (Option String) := do
  let step ← stepOnWords? total increments
  if 0 < step ∧ done < total then
    if (← remainder? done step) = 0 then
      let percent ← quotient? (← product? 100 done) total
      return some (Text.decimal percent ++ "% complete")
    else return none
  else return none

theorem stepOnWords?_eq (total increments : Nat) :
    stepOnWords? total increments = some (progressStep total increments) := by
  unfold stepOnWords? progressStep quotient?
  by_cases unasked : increments = 0
  · simp [unasked]
  · simp [unasked]

/-- No operation on words fails as long as a hundred times the total is a word. -/
theorem progressOnWords?_eq (small : 100 * total < 2 ^ 64) (increments done : Nat) :
    progressOnWords? total increments done = some (progress? total increments done) := by
  simp only [progressOnWords?, progress?, stepOnWords?_eq, Option.bind_eq_bind, Option.bind_some]
  by_cases due : 0 < progressStep total increments ∧ done < total
  · have divisors : progressStep total increments ≠ 0 ∧ total ≠ 0 := by omega
    have word : 100 * done < Text.wordBound := by
      change 100 * done < 2 ^ 64
      omega
    by_cases rest : done % progressStep total increments = 0
    · simp [due, divisors, word, rest, remainder?, product?, quotient?]
    · simp [due, divisors, rest, remainder?]
  · have silent : ¬ (0 < progressStep total increments ∧ done < total ∧
        done % progressStep total increments = 0) := fun all => due ⟨all.1, all.2.1⟩
    simp only [if_neg due, if_neg silent]
    rfl

end Words

section Counting

/-- With a step that is rounded down there are at least as many messages as were asked for, less the last one. -/
theorem le_messages (asked : 0 < n) (enough : n ≤ total) : n - 1 ≤ (total - 1) / (total / n) := by
  have positive : 0 < total / n := Nat.div_pos enough asked
  obtain ⟨m, rfl⟩ : ∃ m, n = m + 1 := ⟨n - 1, by omega⟩
  have rounded : total / (m + 1) * (m + 1) ≤ total := Nat.div_mul_le_self total (m + 1)
  rw [Nat.le_div_iff_mul_le positive, Nat.add_sub_cancel]
  generalize total / (m + 1) = step at rounded positive ⊢
  rw [Nat.mul_add_one, Nat.mul_comm] at rounded
  omega

theorem messages_le (asked : 0 < n) (enough : n ≤ total) :
    (total - 1) / (total / n) ≤ 2 * n - 2 := by
  have positive : 0 < total / n := Nat.div_pos enough asked
  obtain ⟨m, rfl⟩ : ∃ m, n = m + 1 := ⟨n - 1, by omega⟩
  have rounded : total < (m + 1) * (total / (m + 1) + 1) := Nat.lt_mul_div_succ total asked
  apply Nat.le_of_lt_succ
  rw [Nat.div_lt_iff_lt_mul positive]
  generalize total / (m + 1) = step at rounded positive ⊢
  have all : m ≤ m * step := Nat.le_mul_of_pos_right m positive
  have twice : (2 * (m + 1) - 2).succ * step = 2 * (m * step) + step := by
    rw [show (2 * (m + 1) - 2).succ = 2 * m + 1 by omega]
    ring
  have once : (m + 1) * (step + 1) = m * step + step + m + 1 := by ring
  omega

theorem mul_lt_total {k : Nat} (within : k < (total - 1) / step) : (k + 1) * step < total := by
  have most : (k + 1) * step ≤ (total - 1) / step * step := Nat.mul_le_mul_right step within
  have least : (total - 1) / step * step ≤ total - 1 := Nat.div_mul_le_self (total - 1) step
  have several : 0 < total - 1 := by
    by_contra single
    rw [Nat.eq_zero_of_not_pos single, Nat.zero_div] at within
    contradiction
  omega

theorem percent_le {done : Nat} (before : done < total) : 100 * done / total ≤ 99 := by
  apply Nat.le_of_lt_succ
  rw [Nat.div_lt_iff_lt_mul (by omega)]
  omega

end Counting

def progressNote (total done : Nat) : Note :=
  .log .info (Text.decimal (100 * done / total) ++ "% complete")

/-- The notes about progress after `done` of `total` packages: one or none. -/
def due (total increments done : Nat) : List Note :=
  (progress? total increments done).toList.map (.log .info)

theorem due_eq (total increments done : Nat) :
    due total increments done =
      if 0 < progressStep total increments ∧ done < total ∧
          done % progressStep total increments = 0 then [progressNote total done] else [] := by
  simp only [due, progress?, apply_ite Option.toList, apply_ite (List.map _)]
  rfl

/-- What a visit itself notes: all of its scan, and that its package is skipped. -/
def Visit.notes (scan : String → Work ScanError PackageScan) (visit : Visit) : List Note :=
  (scan visit.name visit.files).notes ++ (tellSkip (visit.result scan) visit.files).notes

/-- The notes of visits after `done` others, with the progress told in between. -/
def told (scan : String → Work ScanError PackageScan) (total increments done : Nat)
    (all : List Visit) : List Note :=
  (all.zipIdx (done + 1)).flatMap fun visited =>
    visited.1.notes scan ++ due total increments visited.2

section Told
variable (scan : String → Work ScanError PackageScan) {increments done : Nat}

theorem told_cons (visit : Visit) (rest : List Visit) :
    told scan total increments done (visit :: rest) =
      visit.notes scan ++ due total increments (done + 1) ++
        told scan total increments (done + 1) rest := rfl

theorem told_append (first second : List Visit) :
    told scan total increments done (first ++ second) =
      told scan total increments done first ++
        told scan total increments (done + first.length) second := by
  rw [told, List.zipIdx_append, List.flatMap_append, Nat.add_right_comm]
  rfl

theorem notes_tellSkip (result : ScanResult) (files files' : FileTree) :
    (tellSkip result files).notes = (tellSkip result files').notes := by
  unfold tellSkip
  split <;> rfl

/-- A run that nothing ends notes what its visits note, and each time a message is due, that message. -/
theorem notes_takeAll {o outcome : Outcome} {names : List String} {files : FileTree}
    (ended : (takeAll scan options total done o names files).value = .ok outcome) :
    (takeAll scan options total done o names files).notes =
      told scan total options.progressIncrements done (visits scan names files) := by
  induction names generalizing done o files with
  | nil => rfl
  | cons name names ih =>
    have given : ((scan name).attempt files : Done (Except ScanError _)).value =
        .ok (scan name files).value := rfl
    rw [takeAll] at ended ⊢
    rw [Work.value_bind_of_ok given, Outcome.deliver_eq] at ended
    rw [Work.notes_bind_of_ok given, Outcome.deliver_eq, visits, told_cons]
    cases fatal : ScanResult.fatal? options.skipMalformed (scan name files).value with
    | some e =>
      rw [fatal] at ended
      contradiction
    | none =>
      simp only [fatal, Outcome.orFail] at ended ⊢
      rw [(tellSkip_quiet _).value_bind] at ended
      rw [(tellSkip_quiet _).notes_bind, ← List.append_assoc, List.append_assoc (Visit.notes _ _)]
      refine congrArg₂ (· ++ ·) (congrArg (_ ++ ·) (notes_tellSkip _ _ _)) ?_
      unfold due
      cases message : progress? total options.progressIncrements (done + 1) with
      | none =>
        rw [message] at ended
        exact ih ended
      | some text =>
        rw [message] at ended
        rw [(Work.quiet_log _ _).value_bind] at ended
        rw [(Work.quiet_log _ _).notes_bind]
        exact congrArg (_ :: ·) (ih ended)

/-- Nothing is told of progress in a stretch that ends before the next message is due. -/
theorem told_of_silent {all : List Visit}
    (silent : ∀ i < all.length, due total increments (done + i + 1) = []) :
    told scan total increments done all = all.flatMap (Visit.notes scan) := by
  induction all generalizing done with
  | nil => rfl
  | cons visit rest ih =>
    have later : ∀ i < rest.length, due total increments (done + 1 + i + 1) = [] := by
      intro i within
      rw [Nat.add_right_comm done 1 i]
      exact silent (i + 1) (Nat.succ_lt_succ within)
    have now : due total increments (done + 1) = [] := silent 0 (Nat.succ_pos _)
    rw [told_cons, now, List.append_nil, ih later, List.flatMap_cons]

/-- A message is due only after a multiple of the step, and not after the last package. -/
theorem due_eq_nil {i k : Nat} (within : i + 1 < progressStep total increments) :
    due total increments (k * progressStep total increments + i + 1) = [] := by
  rw [due_eq, if_neg]
  rintro ⟨-, -, multiple⟩
  rw [Nat.add_assoc, Nat.mul_add_mod', Nat.mod_eq_of_lt within] at multiple
  contradiction

theorem due_of_multiple {k : Nat} (before : (k + 1) * progressStep total increments < total)
    (positive : 0 < progressStep total increments) :
    due total increments ((k + 1) * progressStep total increments) =
      [progressNote total ((k + 1) * progressStep total increments)] := by
  rw [due_eq, if_pos ⟨positive, before, Nat.mul_mod_left _ _⟩]

/-- As many visits as the step are told of in one block, with a message behind it. -/
theorem told_block {all : List Visit} {k : Nat} (positive : 0 < progressStep total increments)
    (full : all.length = progressStep total increments)
    (before : (k + 1) * progressStep total increments < total) :
    told scan total increments (k * progressStep total increments) all =
      all.flatMap (Visit.notes scan) ++
        [progressNote total ((k + 1) * progressStep total increments)] := by
  obtain rfl | ⟨front, last, rfl⟩ := List.eq_nil_or_concat' all
  · rw [← full] at positive
    contradiction
  · rw [List.length_append, List.length_singleton] at full
    have silent : told scan total increments (k * progressStep total increments) front =
        front.flatMap (Visit.notes scan) :=
      told_of_silent scan fun i within => due_eq_nil (by omega)
    have reached : k * progressStep total increments + front.length + 1 =
        (k + 1) * progressStep total increments := by
      rw [Nat.add_assoc, full, Nat.add_one_mul]
    rw [told_append, silent, told_cons, reached, due_of_multiple before positive,
      List.flatMap_append, List.flatMap_singleton]
    simp [told]

/-- The first blocks, by induction on how many they are. -/
theorem told_take {all : List Visit} {count : Nat} (positive : 0 < progressStep total increments)
    (length : all.length = total)
    (before : ∀ k < count, (k + 1) * progressStep total increments < total) :
    told scan total increments 0 (all.take (count * progressStep total increments)) =
      (List.range count).flatMap fun k =>
        ((all.drop (k * progressStep total increments)).take
          (progressStep total increments)).flatMap (Visit.notes scan) ++
        [progressNote total ((k + 1) * progressStep total increments)] := by
  induction count with
  | zero => simp [told]
  | succ k ih =>
    have next := before k (Nat.lt_succ_self k)
    have split := Nat.add_one_mul k (progressStep total increments)
    have full : ((all.drop (k * progressStep total increments)).take
        (progressStep total increments)).length = progressStep total increments := by
      rw [List.length_take, List.length_drop]
      omega
    have start : 0 + (all.take (k * progressStep total increments)).length =
        k * progressStep total increments := by
      rw [List.length_take]
      omega
    rw [split, List.take_add, told_append, start, ih fun k' within => before k' (by omega),
      told_block scan positive full next, List.range_succ, List.flatMap_append,
      List.flatMap_singleton, split]

/-- The whole of a run in blocks. The last visits may be as many as the step, but all is done after them. -/
theorem told_eq_blocks {all : List Visit} (positive : 0 < progressStep total increments)
    (length : all.length = total) :
    told scan total increments 0 all =
      ((List.range ((total - 1) / progressStep total increments)).flatMap fun k =>
        ((all.drop (k * progressStep total increments)).take
          (progressStep total increments)).flatMap (Visit.notes scan) ++
        [progressNote total ((k + 1) * progressStep total increments)]) ++
      (all.drop ((total - 1) / progressStep total increments *
        progressStep total increments)).flatMap (Visit.notes scan) := by
  set step := progressStep total increments with step_eq
  set count := (total - 1) / step with count_eq
  have rest : total - 1 < (count + 1) * step := by
    rw [Nat.mul_comm]
    exact Nat.lt_mul_div_succ (total - 1) positive
  have fits : count * step ≤ total - 1 := Nat.div_mul_le_self _ _
  have start : 0 + (all.take (count * step)).length = count * step := by
    rw [List.length_take]
    omega
  have silent : told scan total increments (count * step) (all.drop (count * step)) =
      (all.drop (count * step)).flatMap (Visit.notes scan) := by
    apply told_of_silent
    intro i within
    rw [List.length_drop, length] at within
    rw [Nat.add_one_mul] at rest
    by_cases inside : i + 1 < step
    · exact due_eq_nil inside
    · rw [due_eq, if_neg (by omega)]
  conv_lhs => rw [← List.take_append_drop (count * step) all]
  rw [told_append, start, silent, told_take scan positive length fun k within => mul_lt_total within]

end Told

theorem scanPackage_progressFree (fetcherFree : fetcher.ProgressFree)
    (analyzerFree : analyzer.ProgressFree) (name : String) :
    (scanPackage fetcher analyzer options name).ProgressFree := by
  refine Work.Notes.bind (ensureSource_progressFree fetcherFree _ _ _) fun dir => ?_
  refine Work.Notes.bind (analyzerFree _) fun output => ?_
  split
  · refine Work.Notes.bind (Work.notes_forM (fun finding => ?_) _) fun _ => Work.notes_pure _
    exact Work.progressFree_log (c := 'e') (by simp) rfl
  · exact Work.notes_fail _

theorem tellSkip_progressFree (result : ScanResult) : (tellSkip result).ProgressFree := by
  unfold tellSkip
  split
  · exact Work.notes_pure _
  · rename_i package path
    obtain ⟨c, first, plain⟩ := (ScanError.sourceMissing package path).exists_first
    exact Work.progressFree_log first plain
  · rename_i e _
    obtain ⟨c, first, plain⟩ := e.exists_first
    refine Work.progressFree_log ?_ plain
    rw [String.toList_append, List.head?_append, first]
    rfl

theorem filter_notes_visits (options : BatchOptions) (fetcherFree : fetcher.ProgressFree)
    (analyzerFree : analyzer.ProgressFree) (all : List Visit) :
    (all.flatMap (Visit.notes (scanPackage fetcher analyzer options))).filter Note.isProgress = [] := by
  simp only [List.filter_eq_nil_iff, List.mem_flatMap, Bool.not_eq_true]
  rintro note ⟨visit, -, member⟩
  obtain scanned | skipped := List.mem_append.mp member
  · exact scanPackage_progressFree fetcherFree analyzerFree _ _ note scanned
  · exact tellSkip_progressFree _ _ note skipped

theorem progressStep_eq (total increments : Nat) :
    progressStep total increments = total / increments := by
  cases increments with
  | zero => exact (Nat.div_zero total).symm
  | succ n => rfl

theorem progressStep_eq_zero {increments : Nat} (rare : increments = 0 ∨ total < increments) :
    progressStep total increments = 0 := by
  obtain rfl | few := rare
  · rfl
  · rw [progressStep_eq, Nat.div_eq_of_lt few]

theorem length_visits (scan : String → Work ScanError PackageScan) (packages : List String)
    (files : FileTree) : (visits scan packages files).length = packages.length := by
  rw [← List.length_map Visit.name, name_visits]

/-- A run that gives an outcome, and whose total times a hundred is a word, works out its messages without an overflow
or a division by zero. It tells no progress if none is asked for or if there are fewer packages than messages.
Otherwise its notes are those of its visits with a message after each block of the step, except the last block. So
there are at least as many messages as asked for less one, and at most twice as many less two; their shares never
fall, and stay below a hundred. A fetcher and an analyzer that tell none of their own add no other. -/
theorem run_tells_progress {fetcher : Fetcher} {analyzer : Analyzer} {options : BatchOptions}
    {packages : List String} {files : FileTree} {outcome : Outcome}
    (ended : (run fetcher analyzer options packages files).value = .ok outcome)
    (small : 100 * packages.length < 2 ^ 64) :
    let scan := scanPackage fetcher analyzer options
    let all := visits scan packages files
    let notes := (run fetcher analyzer options packages files).notes
    let total := packages.length
    let asked := options.progressIncrements
    let step := progressStep total asked
    let count := (total - 1) / step
    let percent := fun k => 100 * ((k + 1) * step) / total
    all.map Visit.name = packages ∧
    (∀ done, progressOnWords? total asked done = some (progress? total asked done)) ∧
    (asked = 0 ∨ total < asked →
      notes = all.flatMap (Visit.notes scan) ∧
      (fetcher.ProgressFree → analyzer.ProgressFree → notes.filter Note.isProgress = [])) ∧
    (0 < asked → asked ≤ total →
      step = total / asked ∧ 0 < step ∧ asked - 1 ≤ count ∧ count ≤ 2 * asked - 2 ∧
      notes = ((List.range count).flatMap fun k =>
          ((all.drop (k * step)).take step).flatMap (Visit.notes scan) ++
            [.log .info (Text.decimal (percent k) ++ "% complete")]) ++
        (all.drop (count * step)).flatMap (Visit.notes scan) ∧
      (∀ k < count, (k + 1) * step < total ∧ percent k ≤ 99) ∧ Monotone percent ∧
      (fetcher.ProgressFree → analyzer.ProgressFree →
        notes.filter Note.isProgress =
          (List.range count).map fun k => .log .info (Text.decimal (percent k) ++ "% complete"))) := by
  intro scan all notes total asked step count percent
  have length : all.length = total := length_visits scan packages files
  have toldAll : notes = told scan total asked 0 all := notes_takeAll scan ended
  refine ⟨name_visits scan packages files, progressOnWords?_eq small asked, ?_, ?_⟩
  · intro rare
    have silent : notes = all.flatMap (Visit.notes scan) := by
      rw [toldAll]
      apply told_of_silent
      intro i _
      rw [due_eq, progressStep_eq_zero rare, if_neg fun due => Nat.lt_irrefl 0 due.1]
    refine ⟨silent, fun fetcherFree analyzerFree => ?_⟩
    rw [silent]
    exact filter_notes_visits options fetcherFree analyzerFree all
  · intro positive enough
    have divided : step = total / asked := progressStep_eq total asked
    have stepping : 0 < step := divided ▸ Nat.div_pos enough positive
    have least : asked - 1 ≤ (total - 1) / step := divided ▸ le_messages positive enough
    have most : (total - 1) / step ≤ 2 * asked - 2 := divided ▸ messages_le positive enough
    have blocks := toldAll.trans (told_eq_blocks scan stepping length)
    refine ⟨divided, stepping, least, most, blocks, ?_, ?_, ?_⟩
    · intro k within
      exact ⟨mul_lt_total within, percent_le (mul_lt_total within)⟩
    · intro j k le
      exact Nat.div_le_div_right (Nat.mul_le_mul_left 100 (Nat.mul_le_mul_right step (by omega)))
    · intro fetcherFree analyzerFree
      have others := filter_notes_visits options fetcherFree analyzerFree
      rw [blocks, List.filter_append, others, List.append_nil, List.filter_flatMap, List.map_eq_flatMap]
      congr 1
      funext k
      rw [List.filter_append, others, List.nil_append]
      exact List.filter_cons_of_pos (Note.isProgress_decimal _ _)

/-- Three messages asked for over five packages give four: the step is rounded down to one, and only the end is left
out. -/
theorem run_tells_progress_of_five :
    let options : BatchOptions := ⟨"src", false, 1, true, 3⟩
    let done := run (fun _ _ => pure ()) (Analyzer.replying fun _ => .ok []) options
      ["a", "b", "c", "d", "e"] ⟨[], []⟩
    (∃ outcome, done.value = .ok outcome) ∧
    done.notes.filter Note.isProgress = [.log .info "20% complete", .log .info "40% complete",
      .log .info "60% complete", .log .info "80% complete"] := by
  intro options done
  obtain ⟨outcome, ended⟩ : ∃ outcome, done.value = .ok outcome :=
    exists_run_replying rfl rfl (fun _ _ _ => rfl) (fun _ _ => ⟨_, rfl⟩) _
  obtain ⟨-, -, -, often⟩ := run_tells_progress ended (by decide)
  obtain ⟨-, -, -, -, -, -, -, filtered⟩ := often (by decide) (by decide)
  refine ⟨⟨outcome, ended⟩, (filtered (fun _ _ => Work.notes_pure _) fun _ => Work.notes_pure _).trans ?_⟩
  decide +kernel

end Batch
end EffectSurvey
