import EffectSurvey.Proofs.Batch.Results
import EffectSurvey.Proofs.Summaries.Registration

/-! Runs in which every occurrence of a name gives the same result. Registering all packages first and
dropping the skipped ones on the way comes to the same, order of keys included, as folding only the
packages that can be scanned. A run over two lists is therefore the two runs put together. -/
namespace EffectSurvey

def ScanResult.isSkipped (skipMalformed : Bool) : ScanResult → Bool
  | .ok _ => false
  | .error e => !e.isFatal skipMalformed

theorem ScanResult.fatal?_of_isSkipped {skipMalformed : Bool} {result : ScanResult}
    (skipped : result.isSkipped skipMalformed = true) : result.fatal? skipMalformed = none := by
  cases result with
  | ok scan => rfl
  | error e =>
    have harmless : e.isFatal skipMalformed = false := by
      simpa [ScanResult.isSkipped] using skipped
    simp [ScanResult.fatal?, harmless]

theorem ScanResult.toOption_of_isSkipped {skipMalformed : Bool} {result : ScanResult}
    (skipped : result.isSkipped skipMalformed = true) : result.toOption = none := by
  cases result with
  | ok scan => simp [ScanResult.isSkipped] at skipped
  | error e => rfl

def scansOf (result : String → ScanResult) (names : List String) : List PackageScan :=
  names.filterMap fun name => (result name).toOption

def failuresOf (result : String → ScanResult) (names : List String) : List String :=
  names.filter fun name => !(result name).isOk

section Lists
variable {result : String → ScanResult} {name : String}

theorem scansOf_cons_ok {scan : PackageScan} (found : result name = .ok scan)
    (names : List String) : scansOf result (name :: names) = scan :: scansOf result names := by
  simp [scansOf, found, Except.toOption]

theorem scansOf_cons_error {e : ScanError} (found : result name = .error e) (names : List String) :
    scansOf result (name :: names) = scansOf result names := by
  simp [scansOf, found, Except.toOption]

theorem failuresOf_cons_ok {scan : PackageScan} (found : result name = .ok scan)
    (names : List String) : failuresOf result (name :: names) = failuresOf result names := by
  simp [failuresOf, found, Except.isOk, Except.toBool]

theorem failuresOf_cons_error {e : ScanError} (found : result name = .error e)
    (names : List String) :
    failuresOf result (name :: names) = name :: failuresOf result names := by
  simp [failuresOf, found, Except.isOk, Except.toBool]

theorem scansOf_append (first second : List String) :
    scansOf result (first ++ second) = scansOf result first ++ scansOf result second :=
  List.filterMap_append

theorem failuresOf_append (first second : List String) :
    failuresOf result (first ++ second) = failuresOf result first ++ failuresOf result second :=
  List.filter_append ..

theorem scansOf_filter_not_isSkipped (skipMalformed : Bool) (names : List String) :
    scansOf result (names.filter fun name => !(result name).isSkipped skipMalformed) =
      scansOf result names := by
  rw [scansOf, List.filterMap_filter]
  apply List.filterMap_congr
  intro name _
  split
  · rfl
  · rename_i skipped
    exact (ScanResult.toOption_of_isSkipped (by simpa using skipped)).symm

theorem findSome?_filter_not_isSkipped (skipMalformed : Bool) (names : List String) :
    ((names.filter fun name => !(result name).isSkipped skipMalformed).map result).findSome?
        (ScanResult.fatal? skipMalformed) =
      (names.map result).findSome? (ScanResult.fatal? skipMalformed) := by
  induction names with
  | nil => rfl
  | cons name names ih =>
    cases skipped : (result name).isSkipped skipMalformed with
    | false => simp only [skipped, List.filter_cons, Bool.not_false, if_true, List.map_cons,
        List.findSome?_cons, ih]
    | true =>
      have harmless := ScanResult.fatal?_of_isSkipped skipped
      simp only [skipped, List.filter_cons, Bool.not_true, Bool.false_eq_true, if_false,
        List.map_cons, List.findSome?_cons, harmless, ih]

theorem package_scansOf (about : ∀ name, (result name).IsOf name) (names : List String) :
    (scansOf result names).map PackageScan.package =
      names.filter fun name => (result name).isOk := by
  induction names with
  | nil => rfl
  | cons name names ih =>
    have same := about name
    cases found : result name with
    | ok scan =>
      rw [found] at same
      have package : scan.package = name := same
      simp [scansOf_cons_ok found, found, package, ih, Except.isOk, Except.toBool]
    | error e => simp [scansOf_cons_error found, found, ih, Except.isOk, Except.toBool]

/-- Without the failures of a list, the names of its scans are left. -/
theorem filter_not_mem_failuresOf (about : ∀ name, (result name).IsOf name) (names : List String) :
    names.filter (· ∉ failuresOf result names) = (scansOf result names).map PackageScan.package := by
  rw [package_scansOf about]
  apply List.filter_congr
  intro name member
  simp [failuresOf, member]

end Lists

namespace Outcome

/-- The outcome after some scans were taken and some packages were skipped, when the registered packages
are those that were not skipped. -/
def settled (registered : List String) (taken : List PackageScan) (skipped : List String) :
    Outcome where
  summaries := (Summaries.withPackages registered).merge (Summaries.empty.foldAll taken)
  findings := taken.flatMap PackageScan.findings
  skipped := skipped

theorem start_eq_settled (packages : List String) : start packages = settled packages [] [] := by
  rw [settled, Summaries.foldAll_nil, Summaries.merge_empty]
  rfl

theorem absorb_settled (registered skipped : List String) (taken : List PackageScan)
    (scan : PackageScan) :
    (settled registered taken skipped).absorb scan = settled registered (taken ++ [scan]) skipped := by
  have grown : Summaries.empty.foldAll (taken ++ [scan]) =
      (Summaries.empty.foldAll taken).merge (Summaries.empty.foldScan scan) := by
    rw [Summaries.foldAll_append]
    exact Summaries.foldScan_eq_merge _ _
  simp only [settled, absorb, grown, Summaries.merge_assoc, List.flatMap_append,
    List.flatMap_singleton]

theorem skip_settled {registered skipped : List String} {taken : List PackageScan} {name : String}
    (unscanned : name ∉ taken.map PackageScan.package) :
    (settled registered taken skipped).skip name =
      settled (registered.filter (· ≠ name)) taken (skipped ++ [name]) := by
  simp only [settled, skip, Summaries.unregister_withPackages_merge unscanned]

variable {result : String → ScanResult}

/-- Taking all results of a list adds its scans and drops its failures from the registered packages. -/
theorem foldl_take_settled (about : ∀ name, (result name).IsOf name)
    {registered skipped : List String} {taken : List PackageScan}
    (scanned : ∀ scan ∈ taken, (result scan.package).isOk = true) (names : List String) :
    (names.map result).foldl take (settled registered taken skipped) =
      settled (registered.filter (· ∉ failuresOf result names)) (taken ++ scansOf result names)
        (skipped ++ failuresOf result names) := by
  induction names generalizing registered taken skipped with
  | nil => simp [failuresOf, scansOf]
  | cons name names ih =>
    have same := about name
    rw [List.map_cons, List.foldl_cons]
    cases found : result name with
    | ok scan =>
      rw [found] at same
      have package : scan.package = name := same
      rw [take, absorb_settled, ih, scansOf_cons_ok found, failuresOf_cons_ok found,
        List.append_assoc, List.singleton_append]
      intro other member
      rcases List.mem_append.mp member with before | last
      · exact scanned other before
      · rw [List.mem_singleton.mp last, package, found]
        rfl
    | error e =>
      rw [found] at same
      have package : e.package = name := same
      have unscanned : name ∉ taken.map PackageScan.package := by
        intro member
        obtain ⟨scan, member, here⟩ := List.mem_map.mp member
        have impossible := scanned scan member
        rw [here, found] at impossible
        contradiction
      rw [take, package, skip_settled unscanned, ih scanned, scansOf_cons_error found,
        failuresOf_cons_error found, List.filter_filter, List.append_assoc, List.singleton_append]
      simp [not_or, Bool.and_comm]

/-- What a list comes to: its scans folded in order, their findings, and its failures. -/
def ofList (result : String → ScanResult) (names : List String) : Outcome where
  summaries := Summaries.empty.foldAll (scansOf result names)
  findings := (scansOf result names).flatMap PackageScan.findings
  skipped := failuresOf result names

theorem deliverAll_start (about : ∀ name, (result name).IsOf name) (skipMalformed : Bool)
    (names : List String) :
    (start names).deliverAll skipMalformed (names.map result) =
      (ofList result names).orFail
        ((names.map result).findSome? (ScanResult.fatal? skipMalformed)) := by
  have all : (names.map result).foldl take (start names) = ofList result names := by
    rw [start_eq_settled, foldl_take_settled about (by simp), filter_not_mem_failuresOf about]
    simp only [settled, List.nil_append, Summaries.withPackages_merge_foldAll]
    rfl
  rw [deliverAll_eq, all]

theorem ofList_of_isSkipped {skipMalformed : Bool} {name : String}
    (skipped : (result name).isSkipped skipMalformed = true) :
    ofList result [name] = ⟨.empty, [], [name]⟩ := by
  cases found : result name with
  | ok scan => simp [found, ScanResult.isSkipped] at skipped
  | error e =>
    rw [ofList, scansOf_cons_error found, failuresOf_cons_error found]
    rfl

def join (a b : Outcome) : Outcome where
  summaries := a.summaries.merge b.summaries
  findings := a.findings ++ b.findings
  skipped := a.skipped ++ b.skipped

theorem ofList_append (first second : List String) :
    ofList result (first ++ second) = (ofList result first).join (ofList result second) := by
  simp only [ofList, join, scansOf_append, failuresOf_append, List.flatMap_append,
    Summaries.foldAll_append, ← Summaries.foldAll_eq_merge]

end Outcome

namespace Batch
variable {fetcher : Fetcher} {analyzer : Analyzer} {options : BatchOptions}
  {result : String → ScanResult} {world : FileTree → Prop}

theorem Steady.value_run (steady : Steady (scanPackage fetcher analyzer options) result world)
    (named : analyzer.NamesPackage) (names : List String) {files : FileTree} (inside : world files) :
    (run fetcher analyzer options names files).value =
      (Outcome.ofList result names).orFail
        ((names.map result).findSome? (ScanResult.fatal? options.skipMalformed)) := by
  rw [Batch.value_run, steady.results_eq names inside]
  exact Outcome.deliverAll_start (steady.isOf named inside) _ _

/-- When the result of a package is a function of its name, a run over two lists fails as the run over the
first list does, or else as that over the second, and otherwise gives the two outcomes put together. A
skipped package by itself gives nothing, and a run without the packages that it would skip has the same
summaries and findings, or the same error. -/
theorem run_splits (named : analyzer.NamesPackage)
    (steady : Steady (scanPackage fetcher analyzer options) result world) :
    (∀ first second files files₁ files₂, world files → world files₁ → world files₂ →
      (run fetcher analyzer options (first ++ second) files).value = do
        let a ← (run fetcher analyzer options first files₁).value
        let b ← (run fetcher analyzer options second files₂).value
        return a.join b) ∧
    (∀ name files, world files → (result name).isSkipped options.skipMalformed = true →
      (run fetcher analyzer options [name] files).value = .ok ⟨.empty, [], [name]⟩) ∧
    ∀ names files files', world files → world files' →
      (run fetcher analyzer options
          (names.filter fun name => !(result name).isSkipped options.skipMalformed) files).value.map
        (fun outcome => (outcome.summaries, outcome.findings)) =
      (run fetcher analyzer options names files').value.map
        fun outcome => (outcome.summaries, outcome.findings) := by
  refine ⟨?_, ?_, ?_⟩
  · intro first second files files₁ files₂ inside inside₁ inside₂
    rw [steady.value_run named _ inside, steady.value_run named _ inside₁,
      steady.value_run named _ inside₂, List.map_append, List.findSome?_append,
      Outcome.ofList_append]
    cases (first.map result).findSome? (ScanResult.fatal? options.skipMalformed) with
    | some e => rfl
    | none =>
      cases (second.map result).findSome? (ScanResult.fatal? options.skipMalformed) with
      | some e => rfl
      | none => rfl
  · intro name files inside skipped
    rw [steady.value_run named _ inside, List.map_singleton, List.findSome?_singleton,
      ScanResult.fatal?_of_isSkipped skipped, Outcome.ofList_of_isSkipped skipped]
    rfl
  · intro names files files' inside inside'
    rw [steady.value_run named _ inside, steady.value_run named _ inside',
      findSome?_filter_not_isSkipped]
    cases (names.map result).findSome? (ScanResult.fatal? options.skipMalformed) with
    | some e => rfl
    | none => simp only [Outcome.orFail, Except.map, Outcome.ofList, scansOf_filter_not_isSkipped]

/-- Both lists have a package that prints nothing, which is skipped, and one that is scanned. The analysis
of the last package fails and ends the run. -/
theorem run_splits_with_shared_packages :
    let options : BatchOptions := ⟨"src", false, 1, true, 10⟩
    let fetcher : Fetcher := fun _ _ => Work.succeed ()
    let reply : String → Except String Bytes := fun name =>
      if name = "mute" then .ok []
      else if name = "broken" then .error "exit 1"
      else .ok (Text.Utf8.encode (Finding.header ++ "\n\n" ++ MetadataRow.header ++ "\n1\n"))
    let analyzer := Analyzer.replying reply
    let result := ScanResult.ofReply reply
    let files : FileTree := ⟨[], []⟩
    let first := ["a", "mute", "b", "a"]
    let second := ["mute", "a", "c"]
    (∃ a b, (run fetcher analyzer options first files).value = .ok a ∧
      (run fetcher analyzer options second files).value = .ok b ∧
      (run fetcher analyzer options (first ++ second) files).value = .ok (a.join b)) ∧
    ((result "mute").isSkipped options.skipMalformed = true ∧
      (run fetcher analyzer options ["mute"] files).value = .ok ⟨.empty, [], ["mute"]⟩) ∧
    (run fetcher analyzer options
        ((second ++ ["broken"]).filter
          fun name => !(result name).isSkipped options.skipMalformed) files).value.map
      (fun outcome => (outcome.summaries, outcome.findings)) =
    (run fetcher analyzer options (second ++ ["broken"]) files).value.map
      fun outcome => (outcome.summaries, outcome.findings) := by
  intro options fetcher reply analyzer result files first second
  have steady : Steady (scanPackage fetcher analyzer options) result fun _ => True :=
    steady_replying reply rfl fun _ _ _ => rfl
  have splits := run_splits (Analyzer.replying_namesPackage reply) steady
  refine ⟨?_, ?_, splits.2.2 _ files files trivial trivial⟩
  · obtain ⟨a, firstEnds⟩ : ∃ a, (run fetcher analyzer options first files).value = .ok a :=
      exists_run_replying rfl rfl (fun _ _ _ => rfl) (by simp [first, reply]) files
    obtain ⟨b, secondEnds⟩ : ∃ b, (run fetcher analyzer options second files).value = .ok b :=
      exists_run_replying rfl rfl (fun _ _ _ => rfl) (by simp [second, reply]) files
    refine ⟨a, b, firstEnds, secondEnds, ?_⟩
    rw [splits.1 first second files files files trivial trivial trivial, firstEnds, secondEnds]
    rfl
  · have skipped : (result "mute").isSkipped options.skipMalformed = true := by decide +kernel
    exact ⟨skipped, splits.2.1 "mute" files trivial skipped⟩

end Batch
end EffectSurvey
