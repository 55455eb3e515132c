import EffectSurvey.Proofs.Summaries.History
import Mathlib.Algebra.GroupWithZero.Nat

/-! The tables that folding leaves, each against a list that says what it should hold: the patterns as a
histogram of the findings, the packages as one of the scans, and for each package the row of its last scan.
Every list stands in the order of first appearance. -/
namespace EffectSurvey

namespace Table
variable {κ α : Type} [DecidableEq κ] {op : α → α → α}

def valuesOf (k : κ) (pairs : List (κ × α)) : List α := (pairs.filter (·.1 = k)).map Prod.snd

theorem valuesOf_cons_self (k : κ) (v : α) (pairs : List (κ × α)) :
    valuesOf k ((k, v) :: pairs) = v :: valuesOf k pairs := by
  simp [valuesOf]

theorem valuesOf_cons_of_ne {k key : κ} (differs : key ≠ k) (v : α) (pairs : List (κ × α)) :
    valuesOf k ((key, v) :: pairs) = valuesOf k pairs := by
  simp [valuesOf, differs]

theorem valuesOf_map {β : Type} (k : κ) (key : β → κ) (value : β → α) (items : List β) :
    valuesOf k (items.map fun item => (key item, value item)) =
      (items.filter (key · = k)).map value := by
  simp [valuesOf, List.filter_map, Function.comp_def]

theorem gather_append (t : Table κ α) (first second : List (κ × α)) :
    t.gather op (first ++ second) = (t.gather op first).gather op second :=
  List.foldl_append

/-- The entries of a table are its keys in order, each with what is found under it. -/
theorem entries_eq_views (t : Table κ α) :
    t.entries.map (fun entry => (entry.1, some entry.2)) = t.keys.map fun k => (k, t.get? k) := by
  rw [keys, List.map_map]
  apply List.map_congr_left
  rintro ⟨k, v⟩ member
  exact congrArg (Prod.mk k) (get?_eq_some.mpr member).symm

end Table

namespace Counts

theorem entries_eq_keys (counts : Counts) :
    counts.entries = counts.keys.map fun key => (key, (counts.get? key).getD 0) := by
  have counted := congrArg (List.map fun entry => (entry.1, entry.2.getD 0)) counts.entries_eq_views
  simpa [List.map_map, Function.comp_def] using counted

/-- A count grows by all that is added under its key. -/
theorem getD_gather (counts : Counts) (pairs : List (String × Nat)) (key : String) :
    ((counts.gather (· + ·) pairs).get? key).getD 0 =
      (counts.get? key).getD 0 + (Table.valuesOf key pairs).sum := by
  induction pairs generalizing counts with
  | nil => rfl
  | cons pair pairs ih =>
    obtain ⟨other, n⟩ := pair
    rw [Table.gather_cons, ih, Table.get?_put]
    by_cases same : other = key
    · subst same
      rw [Table.valuesOf_cons_self, List.sum_cons, if_pos rfl]
      cases counts.get? other with
      | none => simp
      | some old => simp [Nat.add_assoc]
    · rw [Table.valuesOf_cons_of_ne same, if_neg (Ne.symm same), Option.merge_none_right]

end Counts

/-- Of the values that are put under a key the last one stays, and the old one only if there are none. -/
theorem Table.get?_gather_latest {κ α : Type} [DecidableEq κ] (t : Table κ α) (pairs : List (κ × α))
    (k : κ) : (t.gather latest pairs).get? k = (valuesOf k pairs).getLast?.or (t.get? k) := by
  induction pairs generalizing t with
  | nil => rfl
  | cons pair pairs ih =>
    obtain ⟨key, v⟩ := pair
    rw [gather_cons, ih, get?_put]
    by_cases same : key = k
    · subst same
      rw [valuesOf_cons_self, if_pos rfl, merge_latest_some, List.getLast?_cons]
      cases (valuesOf key pairs).getLast? <;> rfl
    · rw [valuesOf_cons_of_ne same, if_neg (Ne.symm same), Option.merge_none_right]

namespace Summaries
variable (registered : List String) (scans : List PackageScan)

theorem patterns_foldAll (s : Summaries) (scans : List PackageScan) :
    (s.foldAll scans).patterns =
      s.patterns.gather (· + ·) (patternPairs (scans.flatMap PackageScan.findings)) := by
  induction scans generalizing s with
  | nil => rfl
  | cons scan scans ih =>
    refine (ih (s.foldScan scan)).trans ?_
    rw [foldScan, patterns_fold, ← Table.gather_append, patternPairs, patternPairs, patternPairs,
      ← List.map_append, List.flatMap_cons]

theorem entries_patterns_foldAll :
    let kinds := (scans.flatMap PackageScan.findings).map Finding.pattern
    ((withPackages registered).foldAll scans).patterns.entries =
      kinds.eraseDups.map fun kind => (kind, kinds.count kind) := by
  intro kinds
  have gathered : ((withPackages registered).foldAll scans).patterns =
      Table.empty.gather (· + ·) (patternPairs (scans.flatMap PackageScan.findings)) := by
    rw [patterns_foldAll, withPackages_eq]
  have keys : ((withPackages registered).foldAll scans).patterns.keys = kinds.eraseDups := by
    rw [gathered, Table.keys_gather, patternPairs, List.map_map]
    rfl
  rw [Counts.entries_eq_keys, keys]
  apply List.map_congr_left
  intro kind _
  rw [gathered, Counts.Tally.gather _ kind, Counts.getD_positive?, patternCount, List.count,
    List.countP_map]
  rfl

theorem entries_packages_foldAll :
    let scanned := scans.map PackageScan.package
    ((withPackages registered).foldAll scans).packages.entries =
      (registered.eraseDups ++ (scanned.filter (· ∉ registered)).eraseDups).map fun name =>
        (name, ((scans.filter (·.package = name)).map (·.findings.length)).sum) := by
  intro scanned
  have keys : ((withPackages registered).foldAll scans).packages.keys =
      registered.eraseDups ++ (scanned.filter (· ∉ registered)).eraseDups := by
    rw [packages_foldAll, Table.keys_gather, keys_withPackages, eraseDups_eraseDups_append,
      eraseDups_append_filter, List.map_map]
    rfl
  rw [Counts.entries_eq_keys, keys]
  apply List.map_congr_left
  intro name _
  have start : ((withPackages registered).packages.get? name).getD 0 = 0 := by
    rw [get?_withPackages]
    split <;> rfl
  rw [packages_foldAll, Counts.getD_gather, start, Nat.zero_add, Table.valuesOf_map]

theorem entries_metadata_foldAll :
    ((withPackages registered).foldAll scans).metadata.entries.map
        (fun entry => (entry.1, some entry.2)) =
      (scans.map PackageScan.package).eraseDups.map fun name =>
        (name, (scans.filter (·.package = name)).getLast?.map PackageScan.metadata) := by
  have gathered : ((withPackages registered).foldAll scans).metadata =
      Table.empty.gather latest (scans.map fun scan => (scan.package, scan.metadata)) := by
    rw [metadata_foldAll, withPackages_eq]
  have keys : ((withPackages registered).foldAll scans).metadata.keys =
      (scans.map PackageScan.package).eraseDups := by
    rw [gathered, Table.keys_gather, List.map_map]
    rfl
  rw [Table.entries_eq_views, keys]
  apply List.map_congr_left
  intro name _
  rw [gathered, Table.get?_gather_latest, Table.get?_empty, Option.or_none, Table.valuesOf_map,
    List.getLast?_map]

/-- Scans folded one after the other into summaries with registered packages. The patterns are those of all
findings, in the order in which they first appear, each with the number of its occurrences. The packages are
the registered ones and then the other scanned ones, each with the number of findings in its scans, whatever
packages the findings themselves name. The metadata rows are those of the scanned packages, each from the last
scan of its package but in the place of the first. -/
theorem fold_histograms :
    let summaries := (withPackages registered).foldAll scans
    let kinds := (scans.flatMap PackageScan.findings).map Finding.pattern
    let scanned := scans.map PackageScan.package
    summaries.patterns.entries = kinds.eraseDups.map (fun kind => (kind, kinds.count kind)) ∧
    summaries.packages.entries =
      (registered.eraseDups ++ (scanned.filter (· ∉ registered)).eraseDups).map (fun name =>
        (name, ((scans.filter (·.package = name)).map (·.findings.length)).sum)) ∧
    summaries.metadata.entries.map (fun entry => (entry.1, some entry.2)) =
      scanned.eraseDups.map fun name =>
        (name, (scans.filter (·.package = name)).getLast?.map PackageScan.metadata) :=
  ⟨entries_patterns_foldAll registered scans, entries_packages_foldAll registered scans,
    entries_metadata_foldAll registered scans⟩

/-- A package with findings that name another one, scanned twice around one that was not registered. -/
example :
    let f : Finding := ⟨"b", "f", "g", "Unsafe", "src", "lib.rs", 1, 2⟩
    let scans : List PackageScan := [⟨"a", [f], ⟨"1"⟩⟩, ⟨"c", [], ⟨"2"⟩⟩, ⟨"a", [f], ⟨"3"⟩⟩]
    let summaries := (withPackages ["b", "a"]).foldAll scans
    summaries.patterns.entries = [("Unsafe", 2)] ∧
      summaries.packages.entries = [("b", 0), ("a", 2), ("c", 0)] ∧
      summaries.metadata.entries = [("a", ⟨"3"⟩), ("c", ⟨"2"⟩)] := by
  decide

end Summaries
end EffectSurvey
