import EffectSurvey.Proofs.Table
import EffectSurvey.Summaries

/-! Merging summaries is associative and has the empty summaries as its identity, and folding a scan is
merging its own summaries. Equal summaries have equal tables, so all of this holds of the order of the keys
too, by which the reports break ties. -/
namespace EffectSurvey

def latest {α : Type} (_earlier later : α) : α := later

instance {α : Type} : Std.Associative (latest : α → α → α) := ⟨fun _ _ _ => rfl⟩

@[simp] theorem merge_latest_some {α : Type} (old : Option α) (new : α) :
    old.merge latest (some new) = some new := by
  cases old <;> rfl

theorem Counts.add_eq_put (counts : Counts) (key : String) (n : Nat) :
    counts.add key n = counts.put (· + ·) key n := by
  unfold Counts.add Table.put
  congr 1
  funext old
  cases old <;> simp

theorem Table.insert_eq_put {κ α : Type} [DecidableEq κ] (t : Table κ α) (key : κ) (value : α) :
    t.insert key value = t.put latest key value := by
  unfold Table.insert Table.put
  congr 1
  funext old
  cases old <;> rfl

attribute [ext] Summaries

namespace Summaries

@[simp] theorem patterns_empty : empty.patterns = .empty := rfl

@[simp] theorem packages_empty : empty.packages = .empty := rfl

@[simp] theorem metadata_empty : empty.metadata = .empty := rfl

def patternPairs (findings : List Finding) : List (String × Nat) :=
  findings.map fun finding => (finding.pattern, 1)

theorem patterns_fold (s : Summaries) (package : String) (findings : List Finding)
    (row : MetadataRow) : (s.fold package findings row).patterns =
      s.patterns.gather (· + ·) (patternPairs findings) := by
  simp only [fold, Table.gather, patternPairs, List.foldl_map, Counts.add_eq_put]

theorem packages_fold (s : Summaries) (package : String) (findings : List Finding)
    (row : MetadataRow) : (s.fold package findings row).packages =
      s.packages.gather (· + ·) [(package, findings.length)] :=
  Counts.add_eq_put _ _ _

theorem metadata_fold (s : Summaries) (package : String) (findings : List Finding)
    (row : MetadataRow) : (s.fold package findings row).metadata =
      s.metadata.gather latest [(package, row)] :=
  Table.insert_eq_put _ _ _

theorem mergeCounts_eq_join (a b : Counts) : mergeCounts a b = a.join (· + ·) b := by
  simp only [mergeCounts, Table.join, Table.gather, Counts.add_eq_put]

@[simp] theorem patterns_merge (a b : Summaries) :
    (a.merge b).patterns = a.patterns.join (· + ·) b.patterns :=
  mergeCounts_eq_join _ _

@[simp] theorem packages_merge (a b : Summaries) :
    (a.merge b).packages = a.packages.join (· + ·) b.packages :=
  mergeCounts_eq_join _ _

@[simp] theorem metadata_merge (a b : Summaries) :
    (a.merge b).metadata = a.metadata.join latest b.metadata := by
  simp only [merge, Table.join, Table.gather, Table.insert_eq_put]

theorem merge_assoc (a b c : Summaries) : (a.merge b).merge c = a.merge (b.merge c) := by
  ext1
  · simp only [patterns_merge, Table.join_assoc]
  · simp only [packages_merge, Table.join_assoc]
  · simp only [metadata_merge, Table.join_assoc]

@[simp] theorem merge_empty (a : Summaries) : a.merge empty = a := rfl

@[simp] theorem empty_merge (a : Summaries) : empty.merge a = a := by
  ext1
  · exact (patterns_merge _ _).trans (Table.empty_join _)
  · exact (packages_merge _ _).trans (Table.empty_join _)
  · exact (metadata_merge _ _).trans (Table.empty_join _)

/-- A scan may be folded apart and merged afterwards. -/
theorem fold_eq_merge (s : Summaries) (package : String) (findings : List Finding)
    (row : MetadataRow) :
    s.fold package findings row = s.merge (empty.fold package findings row) := by
  ext1
  · rw [patterns_merge, patterns_fold, patterns_fold]
    exact Table.gather_eq_join _ _
  · rw [packages_merge, packages_fold, packages_fold]
    exact Table.gather_eq_join _ _
  · rw [metadata_merge, metadata_fold, metadata_fold]
    exact Table.gather_eq_join _ _

theorem foldScan_eq_merge (s : Summaries) (scan : PackageScan) :
    s.foldScan scan = s.merge (empty.foldScan scan) :=
  fold_eq_merge _ _ _ _

def foldAll (s : Summaries) (scans : List PackageScan) : Summaries := scans.foldl foldScan s

@[simp] theorem foldAll_nil (s : Summaries) : s.foldAll [] = s := rfl

theorem foldAll_append (s : Summaries) (first second : List PackageScan) :
    s.foldAll (first ++ second) = (s.foldAll first).foldAll second :=
  List.foldl_append

theorem foldAll_eq_merge (s : Summaries) (scans : List PackageScan) :
    s.foldAll scans = s.merge (empty.foldAll scans) := by
  induction scans generalizing s with
  | nil => rfl
  | cons scan scans ih =>
    calc s.foldAll (scan :: scans)
        = (s.foldScan scan).merge (empty.foldAll scans) := ih _
      _ = (s.merge (empty.foldScan scan)).merge (empty.foldAll scans) := by
          rw [foldScan_eq_merge]
      _ = s.merge ((empty.foldScan scan).merge (empty.foldAll scans)) := merge_assoc _ _ _
      _ = s.merge (empty.foldAll (scan :: scans)) := congrArg s.merge (ih _).symm

/-- Merging is a monoid on summaries and folding scans is its homomorphism from lists: wherever a list of
scans is cut, folding the two parts apart and merging gives the tables of one fold over all of it. -/
theorem merge_fold_homomorphism :
    (∀ a b c : Summaries, (a.merge b).merge c = a.merge (b.merge c)) ∧
    (∀ a : Summaries, empty.merge a = a ∧ a.merge empty = a) ∧
    (∀ (s : Summaries) (package : String) (findings : List Finding) (row : MetadataRow),
      s.fold package findings row = s.merge (empty.fold package findings row)) ∧
    ∀ (s : Summaries) (scans : List PackageScan) (cut : Nat),
      s.foldAll scans = (s.foldAll (scans.take cut)).merge (empty.foldAll (scans.drop cut)) := by
  refine ⟨merge_assoc, fun a => ⟨empty_merge a, merge_empty a⟩, fold_eq_merge, ?_⟩
  intro s scans cut
  rw [← foldAll_eq_merge, ← foldAll_append, List.take_append_drop]

end Summaries
end EffectSurvey
