import EffectSurvey.Proofs.Batch.Results
import EffectSurvey.Proofs.Summaries.Balance

/-! Every package of a run is accounted for. All packages are registered before the first result, so while
results come in a package without a metadata row may still stand in the counts; it does so only as long as
an occurrence of it is to come. -/
namespace EffectSurvey

/-- Some occurrence of the name in the list was scanned. -/
def Scanned (packages : List String) (results : List ScanResult) (name : String) : Prop :=
  ∃ scan, (name, .ok scan) ∈ packages.zip results

/-- How an outcome accounts for the packages of a list and their results: both counts are the number of
findings, the packages with a count and those with a metadata row are exactly the scanned ones, and every
occurrence was either scanned or skipped. -/
structure Outcome.Accounts (o : Outcome) (packages : List String) (results : List ScanResult) :
    Prop where
  consistent : o.summaries.checkConsistency = .ok ()
  patternTotal : o.summaries.patternTotal = o.findings.length
  packageTotal : o.summaries.packageTotal = o.findings.length
  packages_iff : ∀ name, name ∈ o.summaries.packages.keys ↔ Scanned packages results name
  metadata_iff : ∀ name, name ∈ o.summaries.metadata.keys ↔ Scanned packages results name
  occurrences : results.countP Except.isOk + o.skipped.length = packages.length

namespace Outcome

/-- An outcome after some occurrences were taken, with the names of those that are to come. -/
structure Midway (o : Outcome) (taken : List (String × ScanResult)) (pending : List String) :
    Prop where
  balanced : o.summaries.Balanced o.findings.length
  scanned : ∀ name, name ∈ o.summaries.metadata.keys ↔ ∃ scan, (name, .ok scan) ∈ taken
  waiting : ∀ name ∈ o.summaries.packages.keys,
    name ∈ o.summaries.metadata.keys ∨ name ∈ pending
  counted : taken.countP (·.2.isOk) + o.skipped.length = taken.length

namespace Midway
variable {o : Outcome} {taken : List (String × ScanResult)} {pending : List String} {name : String}

theorem start (packages : List String) : Midway (Outcome.start packages) [] packages := by
  refine ⟨Summaries.Balanced.withPackages packages, ?_, ?_, rfl⟩
  · simp [Outcome.start, Summaries.withPackages_eq]
  · intro name member
    rw [Outcome.start, Summaries.keys_withPackages, List.mem_eraseDups] at member
    exact Or.inr member

theorem absorb (midway : Midway o taken (name :: pending)) {scan : PackageScan}
    (same : scan.package = name) : Midway (o.absorb scan) (taken ++ [(name, .ok scan)]) pending := by
  have row : ∀ other, other ∈ (Summaries.empty.foldScan scan).metadata.keys ↔ other = name := by
    simp [Summaries.foldScan, Summaries.metadata_fold, Table.keys_gather, same]
  have count : ∀ other, other ∈ (Summaries.empty.foldScan scan).packages.keys ↔ other = name := by
    simp [Summaries.foldScan, Summaries.packages_fold, Table.keys_gather, same]
  refine ⟨?_, ?_, ?_, ?_⟩
  · rw [Outcome.absorb, List.length_append]
    exact midway.balanced.merge (Summaries.Balanced.fold_empty _ _ _)
  · intro other
    simp only [Outcome.absorb, Summaries.metadata_merge, Table.mem_keys_join, row, midway.scanned]
    simp [eq_comm, exists_or]
  · intro other member
    simp only [Outcome.absorb, Summaries.metadata_merge, Summaries.packages_merge,
      Table.mem_keys_join, row, count] at member ⊢
    rcases member with before | new
    · rcases midway.waiting other before with scanned | next
      · exact Or.inl (Or.inl scanned)
      · exact (List.mem_cons.mp next).imp Or.inr id
    · exact Or.inl (Or.inr new)
  · rw [List.countP_append, List.length_append, ← midway.counted]
    exact Nat.add_right_comm _ 1 _

theorem skip (midway : Midway o taken (name :: pending)) {e : ScanError} :
    Midway (o.skip name) (taken ++ [(name, .error e)]) pending := by
  refine ⟨midway.balanced.unregister name, ?_, ?_, ?_⟩
  · intro other
    simp [Outcome.skip, midway.scanned]
  · intro other member
    simp only [Outcome.skip, Summaries.metadata_unregister] at member ⊢
    rcases midway.waiting other (Summaries.mem_of_mem_unregister member) with scanned | next
    · exact Or.inl scanned
    · rcases List.mem_cons.mp next with rfl | later
      · exact Or.inl (midway.balanced.scanned_of_mem_unregister member)
      · exact Or.inr later
  · rw [List.countP_append, List.length_append, ← midway.counted, Outcome.skip, List.length_append]
    exact (Nat.add_assoc _ _ 1).symm

theorem take (midway : Midway o taken (name :: pending)) {result : ScanResult}
    (about : result.IsOf name) : Midway (o.take result) (taken ++ [(name, result)]) pending := by
  cases result with
  | ok scan => exact midway.absorb about
  | error e =>
    have same : e.package = name := about
    rw [Outcome.take, same]
    exact midway.skip

/-- Taking the results of all pending names leaves none pending. -/
theorem foldl_take {results : List ScanResult} (midway : Midway o taken pending)
    (about : List.Forall₂ (fun name result => ScanResult.IsOf result name) pending results) :
    Midway (results.foldl Outcome.take o) (taken ++ pending.zip results) [] := by
  induction about generalizing o taken with
  | nil => simpa using midway
  | cons first _ ih => simpa using ih (midway.take first)

end Midway

theorem accounts_of_deliverAll {skipMalformed : Bool} {packages : List String}
    {results : List ScanResult} {outcome : Outcome}
    (about : List.Forall₂ (fun name result => ScanResult.IsOf result name) packages results)
    (ended : (start packages).deliverAll skipMalformed results = .ok outcome) :
    outcome.Accounts packages results := by
  have last : Midway outcome (packages.zip results) [] := by
    have midway := (Midway.start packages).foldl_take about
    rwa [List.nil_append, ← eq_foldl_of_deliverAll ended] at midway
  have lengths := about.length_eq
  refine ⟨last.balanced.consistent, last.balanced.patternTotal, last.balanced.packageTotal, ?_,
    last.scanned, ?_⟩
  · intro name
    refine Iff.trans ?_ (last.scanned name)
    exact ⟨fun member => (last.waiting name member).resolve_right nofun, last.balanced.known name⟩
  · have counted := last.counted
    have oks : (packages.zip results).countP (·.2.isOk) = results.countP Except.isOk := by
      calc (packages.zip results).countP (·.2.isOk)
          = ((packages.zip results).map Prod.snd).countP Except.isOk := by
            rw [List.countP_map]
            rfl
        _ = results.countP Except.isOk := by rw [List.map_snd_zip (by omega)]
    rw [oks, List.length_zip] at counted
    omega

end Outcome

namespace Batch

/-- Whatever results the occurrences of a list give, an outcome accounts for all of them. A run takes the
results of its own scans, which may differ between two occurrences of a name. -/
theorem run_accounts_for_packages (options : BatchOptions) (packages : List String) :
    (∀ results outcome,
      List.Forall₂ (fun name result => ScanResult.IsOf result name) packages results →
      (Outcome.start packages).deliverAll options.skipMalformed results = .ok outcome →
      outcome.Accounts packages results) ∧
    ∀ fetcher analyzer files outcome, analyzer.NamesPackage →
      (run fetcher analyzer options packages files).value = .ok outcome →
      outcome.Accounts packages
        (results (scanPackage fetcher analyzer options) packages files) := by
  constructor
  · intro results outcome about ended
    exact Outcome.accounts_of_deliverAll about ended
  · intro fetcher analyzer files outcome named ended
    rw [value_run] at ended
    exact Outcome.accounts_of_deliverAll (results_isOf named packages files) ended

/-- One name is skipped, scanned and skipped again in the first list of results. In the run its
output is cut off after the header, and that of the other name is complete. -/
theorem run_accounts_for_repeated_package :
    let packages := ["a", "b", "a", "a"]
    let results : List ScanResult :=
      [.error (.sourceMissing "a" "src/a"),
        .ok ⟨"b", [⟨"b", "f", "g", "Unsafe", "src", "lib.rs", 1, 2⟩], ⟨"1"⟩⟩,
        .ok ⟨"a", [], ⟨"0"⟩⟩, .error (.badTranscript "a" (.ended .blankLine))]
    let options : BatchOptions := ⟨"src", false, 1, true, 10⟩
    let fetcher : Fetcher := fun _ _ => Work.succeed ()
    let reply : String → Except String Bytes := fun name => .ok (Text.Utf8.encode
      (if name = "b" then Finding.header ++ "\n\n" ++ MetadataRow.header ++ "\n1\n"
        else Finding.header))
    let analyzer := Analyzer.replying reply
    let files : FileTree := ⟨[], []⟩
    (∃ outcome, (Outcome.start packages).deliverAll true results = .ok outcome ∧
      outcome.Accounts packages results) ∧
    ∃ outcome, (run fetcher analyzer options packages files).value = .ok outcome ∧
      outcome.Accounts packages
        (Batch.results (scanPackage fetcher analyzer options) packages files) := by
  intro packages results options fetcher reply analyzer files
  constructor
  · refine ⟨_, rfl, (run_accounts_for_packages options packages).1 results _ ?_ rfl⟩
    exact .cons rfl (.cons rfl (.cons rfl (.cons rfl .nil)))
  · obtain ⟨outcome, ended⟩ : ∃ outcome, (run fetcher analyzer options packages files).value =
        .ok outcome :=
      exists_run_replying rfl rfl (fun _ _ _ => rfl) (fun _ _ => ⟨_, rfl⟩) files
    exact ⟨outcome, ended, (run_accounts_for_packages options packages).2 fetcher analyzer files
      outcome (Analyzer.replying_namesPackage _) ended⟩

end Batch
end EffectSurvey
