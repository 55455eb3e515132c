import EffectSurvey.Proofs.Summaries.History
import EffectSurvey.Proofs.Transcript.RoundTrip

/-! Where the contents of an outcome come from: its packages from the list, its metadata rows and its
findings from the transcripts that were read. What a transcript guarantees of its lines therefore holds of
everything that a run hands to its reports. -/
namespace EffectSurvey

namespace Outcome

/-- The outcome has been put together from some names and results: the summaries are those of its findings,
its packages are among the names, and each metadata row is that of a scan of its package. -/
structure StemsFrom (o : Outcome) (names : List String) (results : List ScanResult) : Prop where
  records : o.summaries.Records o.findings
  packages : ∀ name ∈ o.summaries.packages.keys, name ∈ names
  metadata : ∀ name row, o.summaries.metadata.get? name = some row →
    ∃ scan, .ok scan ∈ results ∧ scan.package = name ∧ scan.metadata = row

namespace StemsFrom
variable {o : Outcome} {names : List String} {results : List ScanResult}

theorem start (names : List String) (results : List ScanResult) :
    (Outcome.start names).StemsFrom names results := by
  refine ⟨Summaries.Records.withPackages names, ?_, ?_⟩
  · intro name member
    rwa [Outcome.start, Summaries.keys_withPackages, List.mem_eraseDups] at member
  · intro name row found
    simp [Outcome.start, Summaries.withPackages_eq] at found

theorem absorb (stems : o.StemsFrom names results) {scan : PackageScan}
    (taken : .ok scan ∈ results) (listed : scan.package ∈ names) :
    (o.absorb scan).StemsFrom names results := by
  refine ⟨?_, ?_, ?_⟩
  · exact stems.records.merge (Summaries.Records.empty.fold _ _ _)
  · intro name member
    rw [Outcome.absorb, Summaries.packages_merge, Table.mem_keys_join, Summaries.foldScan,
      Summaries.packages_fold, Table.keys_gather] at member
    rcases member with before | new
    · exact stems.packages name before
    · have same : name = scan.package := by simpa using new
      exact same ▸ listed
  · intro name row found
    rw [Outcome.absorb, Summaries.metadata_merge, Table.get?_join, Summaries.foldScan,
      Summaries.metadata_fold, Table.gather_cons, Table.gather_nil, Table.get?_put] at found
    by_cases same : name = scan.package
    · rw [if_pos same, merge_latest_some, merge_latest_some] at found
      exact ⟨scan, taken, same.symm, Option.some.inj found⟩
    · exact stems.metadata name row (by simpa [same] using found)

theorem skip (stems : o.StemsFrom names results) (name : String) :
    (o.skip name).StemsFrom names results := by
  refine ⟨stems.records.unregister name, ?_, ?_⟩
  · exact fun other member => stems.packages other (Summaries.mem_of_mem_unregister member)
  · simpa [Outcome.skip] using stems.metadata

theorem take (stems : o.StemsFrom names results) {result : ScanResult} (taken : result ∈ results)
    (listed : ∀ scan, result = .ok scan → scan.package ∈ names) :
    (o.take result).StemsFrom names results := by
  cases result with
  | ok scan => exact stems.absorb taken (listed scan rfl)
  | error e => exact stems.skip e.package

theorem foldl_take (listed : ∀ scan, .ok scan ∈ results → scan.package ∈ names)
    {more : List ScanResult} (inside : ∀ result ∈ more, result ∈ results)
    (stems : o.StemsFrom names results) : (more.foldl Outcome.take o).StemsFrom names results :=
  List.foldlRecOn (motive := (StemsFrom · names results)) more _ stems
    fun _ before _ member => before.take (inside _ member) fun scan same =>
      listed scan (same ▸ inside _ member)

end StemsFrom
end Outcome

namespace Batch
variable {fetcher : Fetcher} {analyzer : Analyzer} {options : BatchOptions} {packages : List String}
  {files : FileTree} {outcome : Outcome} {scan : PackageScan}

theorem package_mem_of_mem_results
    (member : .ok scan ∈ results (scanPackage fetcher analyzer options) packages files) :
    scan.package ∈ packages := by
  induction packages generalizing files with
  | nil => contradiction
  | cons name names ih =>
    rcases List.mem_cons.mp member with first | later
    · obtain ⟨output, accepted⟩ := scanPackage_reads name files scan first.symm
      have same : scan.package = name := (Transcript.readText_eq_ok.mp accepted).1
      exact same ▸ List.mem_cons_self
    · exact List.mem_cons_of_mem _ (ih later)

theorem stemsFrom_of_run
    (ended : (run fetcher analyzer options packages files).value = .ok outcome) :
    outcome.StemsFrom packages (results (scanPackage fetcher analyzer options) packages files) := by
  rw [value_run] at ended
  rw [Outcome.eq_foldl_of_deliverAll ended]
  exact .foldl_take (fun _ => package_mem_of_mem_results) (fun _ => id) (.start packages _)

/-- Packages that have a metadata row are in the list, and the row is a line of a transcript. -/
theorem metadata_of_run
    (ended : (run fetcher analyzer options packages files).value = .ok outcome)
    {entry : String × MetadataRow} (member : entry ∈ outcome.summaries.metadata.entries) :
    entry.1 ∈ packages ∧ Text.OneLine entry.2.text := by
  obtain ⟨name, row⟩ := entry
  obtain ⟨scan, taken, rfl, rfl⟩ :=
    (stemsFrom_of_run ended).metadata name row (Table.get?_eq_some.mpr member)
  obtain ⟨_, output, accepted⟩ := exists_read_of_mem_results taken
  exact ⟨package_mem_of_mem_results taken, (Transcript.expressible_of_read accepted).2⟩

/-- Patterns are counted because a finding shows them, so they are columns of a row. -/
theorem single_pattern_of_run
    (ended : (run fetcher analyzer options packages files).value = .ok outcome) :
    ∀ pattern ∈ outcome.summaries.patterns.keys, '\n' ∉ pattern.toList := by
  intro pattern member
  obtain ⟨count, found⟩ := Table.mem_keys_iff.mp member
  rw [(stemsFrom_of_run ended).records.tally pattern, Counts.positive?] at found
  split at found
  · contradiction
  · rename_i shown
    obtain ⟨f, inside, same⟩ := List.countP_pos_iff.mp (Nat.pos_of_ne_zero shown)
    have column := (expressible_of_run ended f inside).single f.pattern (by simp [Finding.texts])
    rwa [← show f.pattern = pattern by simpa using same]

end Batch
end EffectSurvey
