import EffectSurvey.Proofs.Transcript.Refusals

/-! What the stage of a reader says of its other parts, after any lines and with refused ones among them.
The metadata row is there once the reader is done and not before, stages are passed in their order, and the
findings are those of the rows that were taken while the reader waited for findings. -/
namespace EffectSurvey.Transcript

def Stage.position : Stage → Nat
  | .findingHeader => 0
  | .findings => 1
  | .metadataHeader => 2
  | .metadataRow => 3
  | .done => 4

namespace Reader
variable {r next : Reader} {package text : String}

/-- The reader waits for findings, and accepts the line without its being blank. -/
def TakesRow (r : Reader) (line : String) : Prop :=
  r.stage = .findings ∧ Text.trim line ≠ "" ∧ (r.feed line).2 = none

instance (r : Reader) (line : String) : Decidable (r.TakesRow line) :=
  inferInstanceAs (Decidable (_ ∧ _ ∧ _))

/-- Those of the lines that the reader takes for rows on its way, going on after errors. -/
def takenRows (r : Reader) : List String → List String
  | [] => []
  | line :: lines =>
    if r.TakesRow line then line :: (r.feed line).1.takenRows lines
    else (r.feed line).1.takenRows lines

/-- The parts of a package's reader agree with its stage. -/
structure Coherent (package : String) (r : Reader) : Prop where
  package_eq : r.package = package
  metadata_iff : r.metadata.isSome ↔ r.stage = .done
  findings_eq : r.stage = .findingHeader → r.findings = []

theorem coherent_start (package : String) : (start package).Coherent package :=
  ⟨rfl, by simp [start], fun _ => rfl⟩

theorem Coherent.count (coherent : r.Coherent package) : r.count.Coherent package :=
  ⟨coherent.package_eq, coherent.metadata_iff, coherent.findings_eq⟩

theorem Coherent.accepts (coherent : r.Coherent package) (accepts : r.Accepts text next) :
    next.Coherent package := by
  obtain ⟨package_eq, metadata_iff, findings_eq⟩ := coherent
  cases accepts with
  | findingHeader stage | separator stage | metadataHeader stage =>
    exact ⟨package_eq, by simpa [stage] using metadata_iff, by simp⟩
  | row stage =>
    refine ⟨package_eq, metadata_iff, ?_⟩
    intro first
    rw [stage] at first
    contradiction
  | metadataRow => exact ⟨package_eq, by simp, by simp⟩
  | trailing => exact ⟨package_eq, metadata_iff, findings_eq⟩

theorem Coherent.feed (coherent : r.Coherent package) (line : String) :
    (r.feed line).1.Coherent package := by
  refine feed_rec r line coherent.count ?_
  intro next accepts
  exact coherent.count.accepts accepts

theorem Coherent.feedOn (coherent : r.Coherent package) (lines : List String) :
    (r.feedOn lines).Coherent package :=
  List.foldlRecOn lines _ coherent fun _ before line _ => before.feed line

/-- A coherent reader gives the metadata row that it has read, and gives none when it has read none. -/
theorem Coherent.finish_eq_ok (coherent : r.Coherent package) {scan : PackageScan} :
    r.finish = .ok scan ↔
      scan.package = package ∧ scan.findings = r.findings ∧ r.metadata = some scan.metadata := by
  obtain ⟨package_eq, metadata_iff, -⟩ := coherent
  constructor
  · intro finished
    have stage : r.stage = .done := by
      cases stage : r.stage with
      | done => rfl
      | findingHeader | findings | metadataHeader | metadataRow => simp [finish, stage] at finished
    obtain ⟨metadata, present⟩ := Option.isSome_iff_exists.mp (metadata_iff.mpr stage)
    rw [finish, stage, present] at finished
    cases finished
    exact ⟨package_eq, rfl, present⟩
  · rintro ⟨named, found, present⟩
    have stage : r.stage = .done := metadata_iff.mp (by simp [present])
    rw [finish, stage, present, package_eq, ← named, ← found]
    rfl

theorem Accepts.position (accepts : r.Accepts text next) :
    r.stage.position ≤ next.stage.position ∧ next.stage.position ≤ r.stage.position + 1 := by
  cases accepts with
  | row | trailing => exact ⟨Nat.le_refl _, Nat.le_succ _⟩
  | findingHeader stage | separator stage | metadataHeader stage | metadataRow stage =>
    simp [stage, Stage.position]

theorem position_feed (r : Reader) (line : String) :
    r.stage.position ≤ (r.feed line).1.stage.position ∧
      (r.feed line).1.stage.position ≤ r.stage.position + 1 := by
  refine feed_rec r line ⟨Nat.le_refl _, Nat.le_succ _⟩ ?_
  intro next accepts
  exact accepts.position

/-- No stage is left for an earlier one, and a line leads to the next stage at most. -/
theorem position_feedOn (r : Reader) (lines : List String) :
    r.stage.position ≤ (r.feedOn lines).stage.position ∧
      (r.feedOn lines).stage.position ≤ r.stage.position + lines.length := by
  induction lines generalizing r with
  | nil => exact ⟨Nat.le_refl _, Nat.le_refl _⟩
  | cons line lines ih =>
    have first := r.position_feed line
    have rest := ih (r.feed line).1
    rw [feedOn_cons, List.length_cons]
    omega

/-- An accepted line adds its finding where the reader waits for findings, unless it is the empty line that
ends them. -/
theorem Accepts.findings_cases (accepts : r.Accepts text next) :
    (r.stage = .findings ∧ text ≠ "" ∧
      ∃ finding : Finding, finding.SpelledBy text ∧ next.findings = r.findings ++ [finding]) ∨
    (¬ (r.stage = .findings ∧ text ≠ "") ∧ next.findings = r.findings) := by
  cases accepts with
  | row stage visible spelling => exact Or.inl ⟨stage, visible, _, spelling, rfl⟩
  | separator stage => exact Or.inr ⟨fun row => row.2 rfl, rfl⟩
  | findingHeader stage | metadataHeader stage | metadataRow stage | trailing stage =>
    exact Or.inr ⟨fun row => by simp [stage] at row, rfl⟩

/-- All that feeding a line can do to the findings. -/
theorem findings_feed_cases (r : Reader) (line : String) :
    (r.TakesRow line ∧ ∃ finding : Finding, finding.SpelledBy (Text.trim line) ∧
      (r.feed line).1.findings = r.findings ++ [finding]) ∨
    (¬ r.TakesRow line ∧ (r.feed line).1.findings = r.findings) := by
  unfold TakesRow
  obtain ⟨next, fed, accepts⟩ | ⟨e, fed, -⟩ := r.feed_cases line
  · rw [fed]
    obtain ⟨stage, visible, grown⟩ | ⟨other, same⟩ := accepts.findings_cases
    · exact Or.inl ⟨⟨stage, visible, rfl⟩, grown⟩
    · exact Or.inr ⟨fun row => other ⟨row.1, row.2.1⟩, same⟩
  · rw [fed]
    exact Or.inr ⟨fun row => Option.some_ne_none e row.2.2, rfl⟩

theorem findings_feed_of_takesRow {line : String} (row : r.TakesRow line) :
    ∃ finding : Finding, finding.SpelledBy (Text.trim line) ∧
      (r.feed line).1.findings = r.findings ++ [finding] := by
  obtain ⟨-, grown⟩ | ⟨other, -⟩ := r.findings_feed_cases line
  · exact grown
  · exact absurd row other

theorem findings_feed_of_not_takesRow {line : String} (other : ¬ r.TakesRow line) :
    (r.feed line).1.findings = r.findings := by
  obtain ⟨row, -⟩ | ⟨-, same⟩ := r.findings_feed_cases line
  · exact absurd row other
  · exact same

/-- The findings grow by those that the taken rows spell, one for each row and in the order of the rows. -/
theorem findings_feedOn (r : Reader) (lines : List String) :
    ∃ found, Rows ((r.takenRows lines).map Text.trim) found ∧
      (r.feedOn lines).findings = r.findings ++ found := by
  induction lines generalizing r with
  | nil => exact ⟨[], .nil, by simp [feedOn]⟩
  | cons line lines ih =>
    obtain ⟨found, rows, later⟩ := ih (r.feed line).1
    rw [feedOn_cons, takenRows, later]
    by_cases row : r.TakesRow line
    · obtain ⟨finding, spelling, grown⟩ := findings_feed_of_takesRow row
      rw [if_pos row, List.map_cons, grown]
      exact ⟨finding :: found, .cons ⟨row.2.1, spelling⟩ rows, by simp⟩
    · rw [if_neg row, findings_feed_of_not_takesRow row]
      exact ⟨found, rows, rfl⟩

end Reader

open Reader in
/-- After any lines, the reader has a metadata row exactly when it is done, so that it finishes with the
row it has read and never with another; it has no findings while it waits for their header, and has counted
every line. Further lines lead through the stages in their order and by one stage a line at most. They
leave the findings there are in place and add one for each row that is taken, and for no other line. -/
theorem stage_governs_reader (package : String) (lines : List String) :
    let last := (start package).feedOn lines
    (last.metadata.isSome ↔ last.stage = .done) ∧
    (∀ scan, last.finish = .ok scan ↔
      scan.package = package ∧ scan.findings = last.findings ∧
        last.metadata = some scan.metadata) ∧
    (last.stage = .findingHeader → last.findings = []) ∧
    last.lineCount = lines.length ∧
    (∀ more, last.stage.position ≤ (last.feedOn more).stage.position ∧
      (last.feedOn more).stage.position ≤ last.stage.position + more.length) ∧
    (∀ line, last.TakesRow line → ∃ finding : Finding, finding.SpelledBy (Text.trim line) ∧
      (last.feed line).1.findings = last.findings ++ [finding]) ∧
    (∀ line, ¬ last.TakesRow line → (last.feed line).1.findings = last.findings) ∧
    ∀ more, ∃ found, Rows ((last.takenRows more).map Text.trim) found ∧
      (last.feedOn more).findings = last.findings ++ found := by
  intro last
  have coherent : last.Coherent package := (coherent_start package).feedOn lines
  have counted : last.lineCount = 0 + lines.length := (start package).lineCount_feedOn lines
  refine ⟨coherent.metadata_iff, fun scan => coherent.finish_eq_ok, coherent.findings_eq, ?_, ?_⟩
  · rw [counted, Nat.zero_add]
  · exact ⟨last.position_feedOn, fun line => findings_feed_of_takesRow,
      fun line => findings_feed_of_not_takesRow, last.findings_feedOn⟩

open Reader in
/-- Lines of which every stage that can refuses one: before the header of the findings, among the rows,
before the header of the metadata and after its row. -/
theorem stage_governs_noisy_reader :
    let row := "p, f, g, h, d, l, 10, 4"
    let broken := "p, f, g, h, d, l, 10"
    let opening := ["warning", Finding.header, broken]
    let middle := [row, "", row]
    let lines := opening ++ middle ++ [MetadataRow.header, "5, 1", row, ""]
    let waiting := (start "p").feedOn ["warning"]
    let findings : List Finding := [⟨"p", "f", "g", "h", "d", "l", 10, 4⟩]
    let reading : Reader := ⟨"p", .findings, 3, [], none⟩
    let last : Reader := ⟨"p", .done, 10, findings, some ⟨"5, 1"⟩⟩
    (waiting.stage = .findingHeader ∧ waiting.findings = []) ∧
    ((start "p").feedOn opening = reading ∧ reading.lineCount = opening.length) ∧
    (reading.TakesRow row ∧ ∃ finding : Finding, finding.SpelledBy (Text.trim row) ∧
      (reading.feed row).1.findings = reading.findings ++ [finding]) ∧
    (¬ reading.TakesRow broken ∧ (reading.feed broken).1.findings = reading.findings) ∧
    (reading.takenRows middle = [row] ∧
      ∃ found, Rows ((reading.takenRows middle).map Text.trim) found ∧
        (reading.feedOn middle).findings = reading.findings ++ found) ∧
    ((start "p").feedOn lines = last ∧ last.lineCount = lines.length) ∧
    last.finish = .ok ⟨"p", findings, ⟨"5, 1"⟩⟩ := by
  intro row broken opening middle lines waiting findings reading last
  have early : waiting.stage = .findingHeader := by decide +kernel
  have opened : (start "p").feedOn opening = reading := by decide +kernel
  have closed : (start "p").feedOn lines = last := by
    have between : reading.feedOn middle = ⟨"p", .metadataHeader, 6, findings, none⟩ := by
      decide +kernel
    rw [feedOn_append, feedOn_append, opened, between, feedOn_cons,
      feed_of_accepts MetadataRow.oneLine_header.trimmed (.metadataHeader rfl)]
    decide +kernel
  have taken : reading.TakesRow row := by decide +kernel
  have refused : ¬ reading.TakesRow broken := by decide +kernel
  have rows : reading.takenRows middle = [row] := by decide +kernel
  have midway := stage_governs_reader "p" opening
  have late := stage_governs_reader "p" lines
  rw [opened] at midway
  rw [closed] at late
  obtain ⟨-, -, none, -⟩ := stage_governs_reader "p" ["warning"]
  obtain ⟨-, -, -, counted, -, adds, keeps, grows⟩ := midway
  obtain ⟨-, finishes, -, all, -⟩ := late
  exact ⟨⟨early, none early⟩, ⟨opened, counted⟩, ⟨taken, adds row taken⟩,
    ⟨refused, keeps broken refused⟩, ⟨rows, grows middle⟩, ⟨closed, all⟩,
    (finishes _).mpr ⟨rfl, rfl, rfl⟩⟩

end EffectSurvey.Transcript
