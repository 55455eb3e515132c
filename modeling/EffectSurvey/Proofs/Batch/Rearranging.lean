import EffectSurvey.Proofs.Batch.Provenance
import EffectSurvey.Proofs.Report.Reading

/-! Runs over the same packages in another order. What an outcome holds of one package changes with one
result at a time, and results can change places: an error never makes a package unknown that is scanned
before or after it. What is left of the order of the list is the order of entries that tie in a report. -/
namespace EffectSurvey

namespace Outcome

structure SameUpToOrder (a b : Outcome) : Prop where
  patterns : ∀ pattern, a.summaries.patterns.get? pattern = b.summaries.patterns.get? pattern
  packages : ∀ name, a.summaries.packages.get? name = b.summaries.packages.get? name
  metadata : ∀ name, a.summaries.metadata.get? name = b.summaries.metadata.get? name
  findings : a.findings.Perm b.findings
  skipped : a.skipped.Perm b.skipped

/-- What an outcome holds of one package. -/
structure Standing where
  count : Option Nat
  row : Option MetadataRow

def standing (o : Outcome) (name : String) : Standing :=
  ⟨o.summaries.packages.get? name, o.summaries.metadata.get? name⟩

/-- What a result makes of what is held of a package. Only the results of that package matter. -/
def Standing.take (name : String) (standing : Standing) : ScanResult → Standing
  | .ok scan =>
    if scan.package = name then
      ⟨some (standing.count.getD 0 + scan.findings.length), some scan.metadata⟩
    else standing
  | .error e =>
    if e.package = name ∧ standing.row = none ∧ standing.count = some 0 then
      ⟨none, standing.row⟩
    else standing

theorem standing_absorb (o : Outcome) (scan : PackageScan) (name : String) :
    (o.absorb scan).standing name = (o.standing name).take name (.ok scan) := by
  have packages : (o.absorb scan).summaries.packages.get? name =
      (o.summaries.packages.get? name).merge (· + ·)
        (if name = scan.package then some scan.findings.length else none) := by
    rw [absorb, Summaries.packages_merge, Table.get?_join, Summaries.foldScan,
      Summaries.packages_fold, Table.gather_cons, Table.gather_nil, Table.get?_put]
    simp
  have metadata : (o.absorb scan).summaries.metadata.get? name =
      (o.summaries.metadata.get? name).merge latest
        (if name = scan.package then some scan.metadata else none) := by
    rw [absorb, Summaries.metadata_merge, Table.get?_join, Summaries.foldScan,
      Summaries.metadata_fold, Table.gather_cons, Table.gather_nil, Table.get?_put]
    simp
  rw [standing, standing, Standing.take, packages, metadata]
  by_cases same : scan.package = name
  · subst same
    cases o.summaries.packages.get? scan.package <;> simp
  · simp [same, Ne.symm same]

theorem standing_skip (o : Outcome) (e : ScanError) (name : String) :
    (o.skip e.package).standing name = (o.standing name).take name (.error e) := by
  have packages : (o.summaries.unregister e.package).packages.get? name =
      if e.package = name ∧ o.summaries.metadata.get? name = none ∧
        o.summaries.packages.get? name = some 0 then none else o.summaries.packages.get? name := by
    simp only [Summaries.unregister_eq, ← Table.get?_eq_none]
    by_cases same : e.package = name
    · subst same
      by_cases unscanned : o.summaries.metadata.get? e.package = none ∧
          o.summaries.packages.get? e.package = some 0
      · rw [if_pos unscanned, if_pos ⟨rfl, unscanned⟩, Table.get?_erase, if_pos rfl]
      · rw [if_neg unscanned, if_neg fun both => unscanned both.2]
    · have other : ¬ (e.package = name ∧ o.summaries.metadata.get? name = none ∧
          o.summaries.packages.get? name = some 0) := fun all => same all.1
      rw [if_neg other]
      split
      · rw [Table.get?_erase, if_neg (Ne.symm same)]
      · rfl
  simp only [standing, skip, Summaries.metadata_unregister, packages]
  rw [Standing.take]
  split <;> rfl

theorem standing_take (o : Outcome) (result : ScanResult) (name : String) :
    (o.take result).standing name = (o.standing name).take name result := by
  cases result with
  | ok scan => exact o.standing_absorb scan name
  | error e => exact o.standing_skip e name

theorem standing_foldl_take (o : Outcome) (results : List ScanResult) (name : String) :
    (results.foldl take o).standing name = results.foldl (Standing.take name) (o.standing name) := by
  induction results generalizing o with
  | nil => rfl
  | cons result results ih => rw [List.foldl_cons, ih, standing_take, List.foldl_cons]

namespace Standing
variable {name : String} {standing : Standing} {first second : ScanResult}

theorem take_of_not_isOf {result : ScanResult} (other : ¬ result.IsOf name) :
    standing.take name result = standing := by
  cases result with
  | ok scan => exact if_neg other
  | error e => exact if_neg fun both => other both.1

/-- A scan makes up for an error before it and is not undone by an error after it. -/
theorem take_ok_comm_error {scan : PackageScan} {e : ScanError} (scanned : scan.package = name) :
    (standing.take name (.ok scan)).take name (.error e) =
      (standing.take name (.error e)).take name (.ok scan) := by
  have kept : (standing.take name (.ok scan)).take name (.error e) =
      standing.take name (.ok scan) := by
    simp [take, scanned]
  rw [kept]
  simp only [take, scanned, if_true]
  split
  · rename_i unscanned
    rw [unscanned.2.2]
    rfl
  · rfl

/-- Two results can be taken in either order, unless they are different scans of one package. -/
theorem take_comm (agree : ∀ scan other, first = .ok scan → second = .ok other →
      scan.package = other.package → scan = other) :
    (standing.take name first).take name second =
      (standing.take name second).take name first := by
  by_cases left : first.IsOf name
  · by_cases right : second.IsOf name
    · cases first with
      | ok scan =>
        cases second with
        | ok other => rw [agree scan other rfl rfl (Eq.trans left (Eq.symm right))]
        | error e => exact take_ok_comm_error left
      | error e =>
        cases second with
        | ok other => exact (take_ok_comm_error right).symm
        | error other =>
          have same : ∀ standing : Standing,
              standing.take name (.error e) = standing.take name (.error other) := by
            intro standing
            rw [take, take, show e.package = name from left, show other.package = name from right]
          rw [same, same]
    · rw [take_of_not_isOf right, take_of_not_isOf right]
  · rw [take_of_not_isOf left, take_of_not_isOf left]

end Standing

theorem standing_start (packages : List String) (name : String) :
    (start packages).standing name = ⟨if name ∈ packages then some 0 else none, none⟩ := by
  rw [standing, start, Summaries.get?_withPackages, Summaries.withPackages_eq]
  rfl

theorem standing_perm {names rearranged : List String} {results permuted : List ScanResult}
    (sameNames : names.Perm rearranged) (sameResults : results.Perm permuted)
    (agree : ∀ scan other, .ok scan ∈ results → .ok other ∈ results →
      scan.package = other.package → scan = other) (name : String) :
    (results.foldl take (start names)).standing name =
      (permuted.foldl take (start rearranged)).standing name := by
  rw [standing_foldl_take, standing_foldl_take, standing_start, standing_start]
  simp only [sameNames.mem_iff]
  apply sameResults.foldl_eq'
  intro first inside second inside' standing
  refine Standing.take_comm fun scan other same same' => agree scan other ?_ ?_
  · exact same ▸ inside
  · exact same' ▸ inside'

end Outcome

namespace Report

/-- Both summaries give the same reports, but for the order of entries that tie. -/
structure SameUpToTies (s t : Summaries) : Prop where
  patterns : Alike countLine (fun x y => x.2 = y.2) (patterns s) (patterns t) s.patterns.ranked
    t.patterns.ranked
  packages : Alike countLine (fun x y => x.2 = y.2) (packages s) (packages t) (affected s)
    (affected t)
  totals : (Text.lines (Report.packages s)).reverse.take 2 =
    (Text.lines (Report.packages t)).reverse.take 2
  metadata : ∀ key, Alike metadataLine (fun x y => key.order x.2 y.2 = .eq) (metadata s key)
    (metadata t key) (rankedMetadata s key) (rankedMetadata t key)

end Report

theorem Outcome.SameUpToOrder.reports {a b : Outcome} (same : a.SameUpToOrder b) :
    Report.SameUpToTies a.summaries b.summaries := by
  refine ⟨Report.patterns_alike same.patterns, Report.packages_alike same.packages, ?_,
    Report.metadata_alike same.metadata⟩
  rw [Report.last_lines_packages, Report.last_lines_packages,
    (Report.affected_upToTies same.packages).perm.length_eq, Report.length_unaffected same.packages]

namespace Batch
variable {fetcher : Fetcher} {analyzer : Analyzer} {options : BatchOptions}
  {result : String → ScanResult} {world : FileTree → Prop}

/-- A package has one scan, and every occurrence of its name gives that one. -/
theorem Steady.agree (steady : Steady (scanPackage fetcher analyzer options) result world)
    {files : FileTree} (inside : world files) {names : List String} {scan other : PackageScan}
    (first : .ok scan ∈ names.map result) (second : .ok other ∈ names.map result)
    (same : scan.package = other.package) : scan = other := by
  have named : ∀ {scan : PackageScan} {name : String}, result name = .ok scan →
      scan.package = name := by
    intro scan name found
    obtain ⟨output, accepted⟩ :=
      scanPackage_reads name files scan ((steady.value name files inside).trans found)
    exact (Transcript.readText_eq_ok.mp accepted).1
  obtain ⟨name, _, found⟩ := List.mem_map.mp first
  obtain ⟨name', _, found'⟩ := List.mem_map.mp second
  have sameName : name = name' := (named found).symm.trans (same.trans (named found'))
  subst sameName
  exact Except.ok.inj (found.symm.trans found')

/-- When the result of a package is a function of its name and none is fatal, a run over the same packages
in another order ends with the same contents, and its reports differ at most in the order of entries that
tie. -/
theorem run_independent_of_order
    (steady : Steady (scanPackage fetcher analyzer options) result world)
    {names rearranged : List String} (perm : names.Perm rearranged)
    (harmless : ∀ name ∈ names, (result name).fatal? options.skipMalformed = none)
    (files files' : FileTree) (inside : world files) (inside' : world files') :
    ∃ a b, (run fetcher analyzer options names files).value = .ok a ∧
      (run fetcher analyzer options rearranged files').value = .ok b ∧
      a.SameUpToOrder b ∧ Report.SameUpToTies a.summaries b.summaries := by
  have first := steady.value_run_of_harmless inside harmless
  have second := steady.value_run_of_harmless inside' fun name member =>
    harmless name (perm.mem_iff.mpr member)
  have findings : ((names.map result).foldl Outcome.take (Outcome.start names)).findings.Perm
      ((rearranged.map result).foldl Outcome.take (Outcome.start rearranged)).findings := by
    rw [Outcome.findings_foldl_take, Outcome.findings_foldl_take]
    exact (perm.map result).flatMap_right _
  have standing := Outcome.standing_perm perm (perm.map result) fun _ _ => steady.agree inside
  have same : Outcome.SameUpToOrder _ _ :=
    { patterns := fun pattern => by
        rw [(stemsFrom_of_run first).records.tally pattern,
          (stemsFrom_of_run second).records.tally pattern, patternCount, patternCount,
          findings.countP_eq]
      packages := fun name => congrArg Outcome.Standing.count (standing name)
      metadata := fun name => congrArg Outcome.Standing.row (standing name)
      findings := findings
      skipped := by
        rw [Outcome.skipped_foldl_take, Outcome.skipped_foldl_take]
        exact (perm.map result).flatMap_right _ }
  exact ⟨_, _, first, second, same, same.reports⟩

/-- Two packages tie, one is scanned twice and one is skipped. The tables come out in different orders. -/
theorem run_rearranged_with_ties :
    let f : Finding := ⟨"p", "f", "g", "Unsafe", "src", "lib.rs", 1, 2⟩
    let options : BatchOptions := ⟨"src", false, 1, true, 10⟩
    let fetcher : Fetcher := fun _ _ => Work.succeed ()
    let reply : String → Except String Bytes := fun name =>
      .ok (if name = "mute" then [] else Transcript.write [f] ⟨"7, 1"⟩)
    let analyzer := Analyzer.replying reply
    let names := ["b", "mute", "a", "c", "b"]
    let rearranged := ["c", "b", "a", "b", "mute"]
    names.Perm rearranged ∧
    (∀ name ∈ names, (ScanResult.ofReply reply name).fatal? options.skipMalformed = none) ∧
    ∃ a b, (run fetcher analyzer options names ⟨[], []⟩).value = .ok a ∧
      (run fetcher analyzer options rearranged ⟨[], []⟩).value = .ok b ∧
      a.summaries.packages.keys = ["b", "a", "c"] ∧ b.summaries.packages.keys = ["c", "b", "a"] ∧
      a.SameUpToOrder b ∧ Report.SameUpToTies a.summaries b.summaries := by
  intro f options fetcher reply analyzer names rearranged
  have replies (name : String) : ScanResult.ofReply reply name =
      if name = "mute" then .error (.badTranscript name (.ended .findingHeader))
      else .ok ⟨name, [f], ⟨"7, 1"⟩⟩ :=
    ScanResult.ofReply_of_muted (by decide +kernel) ⟨by decide +kernel, by decide⟩ "mute" name
  have perm : names.Perm rearranged := by decide
  have harmless : ∀ name ∈ names,
      (ScanResult.ofReply reply name).fatal? options.skipMalformed = none := by
    intro name _
    rw [replies]
    split <;> rfl
  have steady : Steady (scanPackage fetcher analyzer options) (ScanResult.ofReply reply)
      fun _ => True := steady_replying reply rfl fun _ _ _ => rfl
  obtain ⟨a, b, first, second, same, reports⟩ :=
    run_independent_of_order steady perm harmless ⟨[], []⟩ ⟨[], []⟩ trivial trivial
  refine ⟨perm, harmless, a, b, first, second, ?_, ?_, same, reports⟩
  · rw [steady.value_run_of_harmless trivial harmless] at first
    simp only [names, List.map_cons, List.map_nil, replies] at first
    rw [← Except.ok.inj first]
    decide +kernel
  · rw [steady.value_run_of_harmless trivial fun name member =>
      harmless name (perm.mem_iff.mpr member)] at second
    simp only [rearranged, List.map_cons, List.map_nil, replies] at second
    rw [← Except.ok.inj second]
    decide +kernel

end Batch
end EffectSurvey
