import EffectSurvey.Proofs.Batch.Provenance
import EffectSurvey.Proofs.PackageList
import EffectSurvey.Proofs.Report.Reading

/-! The reports lose nothing that they show. No name and no row is escaped in them, so this rests on where
these can end: a count is all that follows the last colon of a line, and a metadata row all that follows the
first comma with a space. What a package list names and what a transcript holds can be told apart in this
way. -/
namespace EffectSurvey

namespace Report

/-- No pattern and no package has a name that goes on in another line. -/
structure Legible (s : Summaries) : Prop where
  patterns : ∀ name ∈ s.patterns.keys, '\n' ∉ name.toList
  packages : ∀ name ∈ s.packages.keys, '\n' ∉ name.toList

structure LegibleRow (entry : String × MetadataRow) : Prop where
  name : Text.Unbroken ',' ' ' entry.1.toList
  row : '\n' ∉ entry.2.text.toList

theorem metadataLine_append_inj {entry other : String × MetadataRow} {rest more : String}
    (legible : LegibleRow entry) (legible' : LegibleRow other)
    (same : metadataLine entry ++ rest = metadataLine other ++ more) : entry = other ∧ rest = more := by
  have text (entry : String × MetadataRow) (rest : String) : (metadataLine entry ++ rest).toList =
      entry.1.toList ++ ',' :: ' ' :: (entry.2.text.toList ++ '\n' :: rest.toList) := by
    simp [metadataLine, line]
  have chars := congrArg String.toList same
  rw [text, text] at chars
  obtain ⟨names, chars⟩ := Text.append_pair_inj (by decide) legible.name legible'.name chars
  obtain ⟨rows, rests⟩ := Text.append_separator_inj legible.row legible'.row chars
  refine ⟨Prod.ext (String.toList_injective names) ?_, String.toList_injective rests⟩
  exact congrArg MetadataRow.mk (String.toList_injective rows)

theorem join_metadataLine_inj {entries others : List (String × MetadataRow)}
    (legible : ∀ entry ∈ entries, LegibleRow entry) (legible' : ∀ entry ∈ others, LegibleRow entry)
    (same : String.join (entries.map metadataLine) = String.join (others.map metadataLine)) :
    entries = others := by
  have visible (entry : String × MetadataRow) (rest : String) : metadataLine entry ++ rest ≠ "" := by
    simp [metadataLine, line]
  induction entries generalizing others with
  | nil =>
    cases others with
    | nil => rfl
    | cons other others => exact absurd same.symm (by simpa [String.join_cons] using visible _ _)
  | cons entry entries ih =>
    cases others with
    | nil => exact absurd same (by simpa [String.join_cons] using visible _ _)
    | cons other others =>
      rw [List.forall_mem_cons] at legible legible'
      rw [List.map_cons, List.map_cons, String.join_cons, String.join_cons] at same
      obtain ⟨rfl, rests⟩ := metadataLine_append_inj legible.1 legible'.1 same
      rw [ih legible.2 legible'.2 rests]

theorem rankedMetadata_of_text {s t : Summaries} {key key' : SortKey}
    (legible : ∀ entry ∈ s.metadata.entries, LegibleRow entry)
    (legible' : ∀ entry ∈ t.metadata.entries, LegibleRow entry)
    (same : metadata s key = metadata t key') : rankedMetadata s key = rankedMetadata t key' := by
  refine join_metadataLine_inj ?_ ?_ (by simpa [metadata] using same)
  · exact fun entry member => legible entry ((rankedMetadata_perm s key).mem_iff.mp member)
  · exact fun entry member => legible' entry ((rankedMetadata_perm t key').mem_iff.mp member)

end Report

namespace Batch
variable {fetcher : Fetcher} {analyzer : Analyzer} {options : BatchOptions} {content : String}
  {hasHeader : Bool} {files : FileTree} {outcome : Outcome}

theorem legible_of_run (ended : (run fetcher analyzer options (PackageList.names content hasHeader)
    files).value = .ok outcome) : Report.Legible outcome.summaries where
  patterns := single_pattern_of_run ended
  packages name member :=
    (PackageList.nameable_of_mem_names ((stemsFrom_of_run ended).packages name member)).single

theorem legibleRow_of_run (ended : (run fetcher analyzer options
    (PackageList.names content hasHeader) files).value = .ok outcome) :
    ∀ entry ∈ outcome.summaries.metadata.entries, Report.LegibleRow entry := by
  intro entry member
  obtain ⟨listed, row⟩ := metadata_of_run ended member
  exact ⟨Text.unbroken_of_not_mem (PackageList.nameable_of_mem_names listed).unseparated, row.single⟩

end Batch

namespace Report

/-- Where names and rows are legible, the text of a report determines the list that it shows, and the text
of the package report also how many packages it only counts. All names and rows are legible in the outcome
of a run over the names of a package list. -/
theorem reports_lossless :
    (∀ s t : Summaries, Legible s → Legible t →
      (patterns s = patterns t → s.patterns.ranked = t.patterns.ranked) ∧
      (packages s = packages t →
        affected s = affected t ∧ (unaffected s).length = (unaffected t).length) ∧
      ((∀ entry ∈ s.metadata.entries, LegibleRow entry) →
        (∀ entry ∈ t.metadata.entries, LegibleRow entry) →
        ∀ key key', metadata s key = metadata t key' →
          rankedMetadata s key = rankedMetadata t key')) ∧
    ∀ fetcher analyzer options content hasHeader files outcome,
      (Batch.run fetcher analyzer options (PackageList.names content hasHeader) files).value =
        .ok outcome →
      Legible outcome.summaries ∧ ∀ entry ∈ outcome.summaries.metadata.entries, LegibleRow entry := by
  refine ⟨fun s t first second => ⟨fun same => ?_, fun same => ?_, fun rows rows' key key' same => ?_⟩,
    ?_⟩
  · have read := congrArg readPatterns? same
    rw [readPatterns?_patterns first.patterns, readPatterns?_patterns second.patterns] at read
    exact Option.some.inj read
  · have read := congrArg readPackages? same
    rw [readPackages?_packages first.packages, readPackages?_packages second.packages] at read
    obtain ⟨counts, -, unaffected⟩ := PackageReading.mk.inj (Option.some.inj read)
    exact ⟨counts, unaffected⟩
  · exact rankedMetadata_of_text rows rows' same
  · intro fetcher analyzer options content hasHeader files outcome ended
    exact ⟨Batch.legible_of_run ended, Batch.legibleRow_of_run ended⟩

/-- Names like a line of counts, like the title of the totals and like nothing at all. The tables differ
where the reports do not, in the order of their keys and in a package that is only counted. -/
theorem reports_lossless_on_misleading_names :
    let s : Summaries := ⟨⟨[("x: 3", 1), ("", 1), ("y", 2)], by decide⟩,
      ⟨[(totalsTitle, 1), ("a", 3), ("b: 2", 0)], by decide⟩,
      ⟨[("a,", ⟨"7, 1"⟩), ("b\n", ⟨"9"⟩)], by decide⟩⟩
    let t : Summaries := ⟨⟨[("y", 2), ("x: 3", 1), ("", 1)], by decide⟩,
      ⟨[("c", 0), ("a", 3), (totalsTitle, 1)], by decide⟩,
      ⟨[("b\n", ⟨"9"⟩), ("a,", ⟨"7, 1"⟩)], by decide⟩⟩
    let fetcher : Fetcher := fun _ _ => Work.succeed ()
    let analyzer := Analyzer.replying fun _ => .ok (Transcript.write [] ⟨"7, 1"⟩)
    let names := PackageList.names "name, version\n\" b: 2 \",1\n,2\na\n" true
    (Legible s ∧ Legible t ∧ patterns s = patterns t ∧ s.patterns.ranked = t.patterns.ranked) ∧
    (packages s = packages t ∧ affected s = affected t ∧
      (unaffected s).length = (unaffected t).length) ∧
    (metadata s .raw = metadata t .raw ∧
      rankedMetadata s .raw = rankedMetadata t .raw) ∧
    names = ["b: 2", "a"] ∧
    ∃ outcome, (Batch.run fetcher analyzer ⟨"src", false, 1, true, 10⟩ names ⟨[], []⟩).value =
        .ok outcome ∧
      outcome.summaries.metadata.keys = names ∧ Legible outcome.summaries ∧
      ∀ entry ∈ outcome.summaries.metadata.entries, LegibleRow entry := by
  intro s t fetcher analyzer names
  have first : Legible s := ⟨by decide, by decide⟩
  have second : Legible t := ⟨by decide, by decide⟩
  have legible : LegibleRow ("a,", ⟨"7, 1"⟩) ∧ LegibleRow ("b\n", ⟨"9"⟩) :=
    ⟨⟨by decide, by decide⟩, ⟨by decide, by decide⟩⟩
  obtain ⟨determined, runs⟩ := reports_lossless
  obtain ⟨counted, numbered, ranked⟩ := determined s t first second
  have samePatterns : patterns s = patterns t := by
    have order : s.patterns.ranked = t.patterns.ranked := by
      simp [s, t, Counts.ranked, List.mergeSort]
    rw [patterns, patterns, order]
  have samePackages : packages s = packages t := by
    have order : s.packages.ranked = [("a", 3), (totalsTitle, 1), ("b: 2", 0)] := by
      simp [s, Counts.ranked, List.mergeSort]
    have order' : t.packages.ranked = [("a", 3), (totalsTitle, 1), ("c", 0)] := by
      simp [t, Counts.ranked, List.mergeSort]
    rw [packages, packages, affected, affected, unaffected, unaffected, order, order']
    rfl
  have sameMetadata : metadata s .raw = metadata t .raw := by
    have above : (SortKey.raw.order ⟨"9"⟩ ⟨"7, 1"⟩).isLE = false := by decide +kernel
    have below : (SortKey.raw.order ⟨"7, 1"⟩ ⟨"9"⟩).isLE = true := by decide +kernel
    have order : rankedMetadata s .raw = rankedMetadata t .raw := by
      simp [s, t, rankedMetadata, List.mergeSort, above, below]
    rw [metadata, metadata, order]
  have listed : names = ["b: 2", "a"] := by decide +kernel
  have scanned : ∀ name, ScanResult.ofReply (fun _ => .ok (Transcript.write [] ⟨"7, 1"⟩)) name =
      .ok ⟨name, [], ⟨"7, 1"⟩⟩ :=
    fun name => ScanResult.ofReply_of_write (List.forall_mem_nil _) ⟨by decide +kernel, by decide⟩ rfl
  obtain ⟨outcome, ended, keys⟩ : ∃ outcome,
      (Batch.run fetcher analyzer ⟨"src", false, 1, true, 10⟩ names ⟨[], []⟩).value = .ok outcome ∧
      outcome.summaries.metadata.keys = names := by
    rw [Batch.value_run, (Batch.steady_replying _ rfl fun _ _ _ => rfl).results_eq _ trivial, listed]
    simp only [List.map_cons, List.map_nil, scanned]
    exact ⟨_, rfl, by decide +kernel⟩
  obtain ⟨names, rows⟩ := runs fetcher analyzer _ _ true _ outcome ended
  refine ⟨⟨first, second, samePatterns, counted samePatterns⟩, ⟨samePackages, numbered samePackages⟩,
    ⟨sameMetadata, ranked ?_ ?_ _ _ sameMetadata⟩, listed, outcome, ended, keys, names, rows⟩
  · simp only [s, List.forall_mem_cons]
    exact ⟨legible.1, legible.2, List.forall_mem_nil _⟩
  · simp only [t, List.forall_mem_cons]
    exact ⟨legible.2, legible.1, List.forall_mem_nil _⟩

end Report
end EffectSurvey
