import EffectSurvey.Proofs.Batch.Accounting
import EffectSurvey.Proofs.Batch.Provenance
import EffectSurvey.Proofs.Report.Reading

/-! The four reports of a run agree. They are written from four pieces of its outcome, each with an account
of its own, but a reader of the texts finds the same findings and the same packages in all of them. -/
namespace EffectSurvey

namespace Report

def patternColumn? (row : String) : Option String := (Text.splitAtPair ',' ' ' row)[3]?

/-- What the rows of a findings report, the entries of a pattern report and a package report have to do
with each other: each finding is counted once by its pattern and once by its package, each pattern as often
as it stands in its column, and the packages with findings are those that have an entry. -/
structure Agree (rows : List String) (counts : List (String × Nat)) (packages : PackageReading) :
    Prop where
  patternSum : countSum counts = rows.length
  packageSum : countSum packages.counts = rows.length
  distinct : (counts.map Prod.fst).Nodup
  patterns : ∀ pattern,
    (Table.lookup pattern counts).getD 0 = rows.countP fun row => patternColumn? row = some pattern
  affected : packages.affected = packages.counts.length

theorem patternColumn?_row {f : Finding} (expressible : f.Expressible) :
    patternColumn? f.row = some f.pattern := by
  rw [patternColumn?, (Text.splitAtPair_eq_iff (by decide) _ _).mpr
    (Finding.columns_row expressible.separable)]
  rfl

theorem countP_patternColumn? {found : List Finding} (expressible : ∀ f ∈ found, f.Expressible)
    (pattern : String) :
    (found.map Finding.row).countP (fun row => patternColumn? row = some pattern) =
      patternCount found pattern := by
  rw [List.countP_map, patternCount]
  apply List.countP_congr
  intro f member
  simp [patternColumn?_row (expressible f member)]

theorem agree_of_records {s : Summaries} {found : List Finding} (records : s.Records found)
    (expressible : ∀ f ∈ found, f.Expressible) :
    Agree (found.map Finding.row) s.patterns.ranked
      ⟨affected s, (affected s).length, (unaffected s).length⟩ where
  patternSum := by
    rw [Counts.countSum_ranked, List.length_map]
    exact records.balanced.patternTotal
  packageSum := by
    rw [countSum_affected, List.length_map]
    exact records.balanced.packageTotal
  distinct := s.patterns.nodup_keys_ranked
  patterns pattern := by
    rw [Counts.lookup_ranked, records.tally pattern, Counts.getD_positive?,
      countP_patternColumn? expressible]
  affected := rfl

end Report

/-- The packages with a count are those with a metadata row, so there are as many of them. -/
theorem Outcome.Accounts.size_eq {o : Outcome} {packages : List String} {results : List ScanResult}
    (accounts : o.Accounts packages results) :
    o.summaries.packages.size = o.summaries.metadata.size := by
  have same : o.summaries.packages.keys.Perm o.summaries.metadata.keys := by
    refine (List.perm_ext_iff_of_nodup o.summaries.packages.distinct
      o.summaries.metadata.distinct).mpr fun name => ?_
    exact (accounts.packages_iff name).trans (accounts.metadata_iff name).symm
  simpa [Table.keys, Table.size] using same.length_eq

namespace Batch
variable {fetcher : Fetcher} {analyzer : Analyzer} {options : BatchOptions} {packages : List String}
  {files : FileTree} {outcome : Outcome}

/-- The texts of the four reports of a run can be read back and agree. If no analyzer's error is about
another package than the one it was asked for, the package report moreover counts as many packages as the
metadata report has rows, however these are sorted. -/
theorem run_reports_agree (single : ∀ name ∈ packages, '\n' ∉ name.toList)
    (ended : (run fetcher analyzer options packages files).value = .ok outcome) :
    ∃ counts reading,
      Report.readPatterns? (Report.patterns outcome.summaries) = some counts ∧
      Report.readPackages? (Report.packages outcome.summaries) = some reading ∧
      Report.Agree (Report.rows (Report.findings outcome.findings)) counts reading ∧
      (analyzer.NamesPackage → ∀ key, reading.affected + reading.unaffected =
        (Report.rows (Report.metadata outcome.summaries key)).length) := by
  have stems := stemsFrom_of_run ended
  have expressible := expressible_of_run ended
  have patternKeys := single_pattern_of_run ended
  have packageKeys : ∀ name ∈ outcome.summaries.packages.keys, '\n' ∉ name.toList :=
    fun name member => single name (stems.packages name member)
  have metadataKeys : ∀ name ∈ outcome.summaries.metadata.keys, '\n' ∉ name.toList := by
    intro name member
    obtain ⟨entry, inside, rfl⟩ := List.mem_map.mp member
    exact single entry.1 (metadata_of_run ended inside).1
  refine ⟨_, _, Report.readPatterns?_patterns patternKeys, Report.readPackages?_packages packageKeys,
    ?_, ?_⟩
  · rw [Report.rows_findings expressible]
    exact Report.agree_of_records stems.records expressible
  · intro named key
    rw [Report.rows_metadata metadataKeys (fun entry member => (metadata_of_run ended member).2),
      List.length_map, (Report.rankedMetadata_perm _ key).length_eq, Report.length_affected_add]
    rw [value_run] at ended
    exact (Outcome.accounts_of_deliverAll (results_isOf named packages files) ended).size_eq

/-- A pattern and a package that look like lines of counts themselves, a package that is listed twice, and
one that prints nothing and is skipped. -/
theorem reports_agree_on_misleading_names :
    let f : Finding := ⟨"p", "f", "g", "x: 3", "src", "lib.rs", 1, 2⟩
    let g : Finding := ⟨"p", "f", "g", "Unsafe", "src", "lib.rs", 3, 4⟩
    let fetcher : Fetcher := fun _ _ => Work.succeed ()
    let reply : String → Except String Bytes := fun name =>
      .ok (if name = "mute" then [] else Transcript.write [f, g] ⟨"7, 1"⟩)
    let analyzer := Analyzer.replying reply
    ∃ outcome counts reading,
      (run fetcher analyzer ⟨"src", false, 1, true, 10⟩ ["a", "mute", "b: 2\r", "a"] ⟨[], []⟩).value =
        .ok outcome ∧
      outcome.findings = [f, g, f, g, f, g] ∧ outcome.skipped = ["mute"] ∧
      Report.readPatterns? (Report.patterns outcome.summaries) = some counts ∧
      Report.readPackages? (Report.packages outcome.summaries) = some reading ∧
      Report.Agree (Report.rows (Report.findings outcome.findings)) counts reading ∧
      ∀ key, reading.affected + reading.unaffected =
        (Report.rows (Report.metadata outcome.summaries key)).length := by
  intro f g fetcher reply analyzer
  have replies (name : String) : ScanResult.ofReply reply name =
      if name = "mute" then .error (.badTranscript name (.ended .findingHeader))
      else .ok ⟨name, [f, g], ⟨"7, 1"⟩⟩ :=
    ScanResult.ofReply_of_muted (by decide +kernel) ⟨by decide +kernel, by decide⟩ "mute" name
  obtain ⟨outcome, ended, findings, skipped⟩ : ∃ outcome,
      (run fetcher analyzer ⟨"src", false, 1, true, 10⟩ ["a", "mute", "b: 2\r", "a"] ⟨[], []⟩).value =
        .ok outcome ∧
      outcome.findings = [f, g, f, g, f, g] ∧ outcome.skipped = ["mute"] := by
    rw [value_run, (steady_replying reply rfl fun _ _ _ => rfl).results_eq _ trivial]
    simp only [List.map_cons, List.map_nil, replies]
    exact ⟨_, rfl, rfl, rfl⟩
  obtain ⟨counts, reading, patterns, packages, agree, metadata⟩ :=
    run_reports_agree (by decide) ended
  exact ⟨outcome, counts, reading, ended, findings, skipped, patterns, packages, agree,
    metadata (Analyzer.replying_namesPackage reply)⟩

end Batch
end EffectSurvey
