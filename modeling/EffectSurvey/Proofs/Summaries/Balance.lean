import EffectSurvey.Proofs.Summaries.Registration

/-! Summaries that count every finding twice, by its pattern and by its package. Counts are added in
pairs, and the one operation that removes a package removes a count of zero. -/
namespace EffectSurvey

def countSum (pairs : List (String × Nat)) : Nat := (pairs.map Prod.snd).foldr (· + ·) 0

theorem countSum_cons (pair : String × Nat) (pairs : List (String × Nat)) :
    countSum (pair :: pairs) = pair.2 + countSum pairs := rfl

theorem countSum_updateEntries (key : String) (n : Nat) (entries : List (String × Nat)) :
    countSum (Table.updateEntries key (fun old => old.getD 0 + n) entries) =
      countSum entries + n := by
  induction entries with
  | nil => simp [Table.updateEntries, countSum]
  | cons entry rest ih =>
    obtain ⟨other, count⟩ := entry
    by_cases same : other = key
    · simp only [Table.updateEntries, same, if_true, countSum_cons, Option.getD_some]
      omega
    · simp only [Table.updateEntries, same, if_false, countSum_cons, ih]
      omega

theorem countSum_without_zero {key : String} {entries : List (String × Nat)}
    (zero : ∀ count, (key, count) ∈ entries → count = 0) :
    countSum (entries.filter (·.1 ≠ key)) = countSum entries := by
  induction entries with
  | nil => rfl
  | cons entry rest ih =>
    obtain ⟨other, count⟩ := entry
    have tail := ih fun count member => zero count (List.mem_cons_of_mem _ member)
    by_cases same : other = key
    · subst same
      have nothing := zero count List.mem_cons_self
      simpa [countSum_cons, nothing] using tail
    · simpa [countSum_cons, same] using tail

namespace Counts

theorem total_add (counts : Counts) (key : String) (n : Nat) :
    (counts.add key n).total = counts.total + n :=
  countSum_updateEntries key n counts.entries

theorem total_gather (counts : Counts) (pairs : List (String × Nat)) :
    Counts.total (counts.gather (· + ·) pairs) = counts.total + countSum pairs := by
  induction pairs generalizing counts with
  | nil => rfl
  | cons pair pairs ih =>
    rw [Table.gather_cons, ih, ← Counts.add_eq_put, total_add, countSum_cons]
    omega

theorem total_join (a b : Counts) : Counts.total (a.join (· + ·) b) = a.total + b.total :=
  total_gather a b.entries

theorem total_erase {counts : Counts} {key : String} (zero : counts.get? key = some 0) :
    Counts.total (counts.erase key) = counts.total := by
  apply countSum_without_zero
  intro count member
  have found := Table.get?_eq_some.mpr member
  rw [zero] at found
  exact (Option.some.inj found).symm

end Counts

namespace Summaries

theorem patternTotal_merge (a b : Summaries) :
    (a.merge b).patternTotal = a.patternTotal + b.patternTotal :=
  (congrArg Counts.total (patterns_merge a b)).trans (Counts.total_join _ _)

theorem packageTotal_merge (a b : Summaries) :
    (a.merge b).packageTotal = a.packageTotal + b.packageTotal :=
  (congrArg Counts.total (packages_merge a b)).trans (Counts.total_join _ _)

theorem patternTotal_fold (s : Summaries) (package : String) (findings : List Finding)
    (row : MetadataRow) :
    (s.fold package findings row).patternTotal = s.patternTotal + findings.length := by
  have ones : countSum (patternPairs findings) = findings.length := by
    induction findings with
    | nil => rfl
    | cons finding findings ih =>
      rw [List.length_cons, ← ih, Nat.add_comm]
      rfl
  rw [patternTotal, patterns_fold, Counts.total_gather, ones]
  rfl

theorem packageTotal_fold (s : Summaries) (package : String) (findings : List Finding)
    (row : MetadataRow) :
    (s.fold package findings row).packageTotal = s.packageTotal + findings.length :=
  Counts.total_add _ _ _

/-- The summaries count `n` findings by pattern and by package, each package with findings has a metadata
row, and each package with a metadata row is counted. -/
structure Balanced (s : Summaries) (n : Nat) : Prop where
  patternTotal : s.patternTotal = n
  packageTotal : s.packageTotal = n
  scanned : ∀ package count, s.packages.get? package = some count → 0 < count →
    package ∈ s.metadata.keys
  known : ∀ package ∈ s.metadata.keys, package ∈ s.packages.keys

namespace Balanced
variable {s a b : Summaries} {m n : Nat}

theorem consistent (balanced : s.Balanced n) : s.checkConsistency = .ok () := by
  rw [checkConsistency, balanced.patternTotal, balanced.packageTotal, if_pos rfl]

theorem empty : Summaries.empty.Balanced 0 := ⟨rfl, rfl, nofun, nofun⟩

theorem merge (left : a.Balanced m) (right : b.Balanced n) : (a.merge b).Balanced (m + n) := by
  refine ⟨?_, ?_, ?_, ?_⟩
  · rw [patternTotal_merge, left.patternTotal, right.patternTotal]
  · rw [packageTotal_merge, left.packageTotal, right.packageTotal]
  · intro package count found positive
    rw [packages_merge, Table.get?_join] at found
    rw [metadata_merge, Table.mem_keys_join]
    rcases Option.merge_eq_some_iff.mp found with ⟨here, _⟩ | ⟨_, there⟩ | ⟨x, y, here, there, sum⟩
    · exact Or.inl (left.scanned package count here positive)
    · exact Or.inr (right.scanned package count there positive)
    · rcases Nat.eq_zero_or_pos x with none | some
      · exact Or.inr (right.scanned package y there (by omega))
      · exact Or.inl (left.scanned package x here some)
  · intro package member
    rw [metadata_merge, Table.mem_keys_join] at member
    rw [packages_merge, Table.mem_keys_join]
    exact member.imp (left.known package) (right.known package)

theorem register (balanced : s.Balanced n) (package : String) : (s.register package).Balanced n := by
  have packages : (s.register package).packages = s.packages.put (· + ·) package 0 :=
    Counts.add_eq_put _ _ _
  refine ⟨balanced.patternTotal, ?_, ?_, ?_⟩
  · exact (Counts.total_add _ _ _).trans balanced.packageTotal
  · intro other count found positive
    rw [packages, Table.get?_put] at found
    apply balanced.scanned other count _ positive
    split at found
    · cases old : s.packages.get? other with
      | none => simp_all
      | some before => simpa [old] using found
    · simpa using found
  · intro other member
    rw [packages, Table.keys_put, List.mem_eraseDups, List.mem_append]
    exact Or.inl (balanced.known other member)

theorem withPackages (packages : List String) : (Summaries.withPackages packages).Balanced 0 :=
  List.foldlRecOn (motive := (Balanced · 0)) packages _ Balanced.empty
    fun _ balanced package _ => balanced.register package

theorem unregister (balanced : s.Balanced n) (package : String) :
    (s.unregister package).Balanced n := by
  rw [unregister_eq]
  split
  · rename_i unscanned
    obtain ⟨absent, zero⟩ := unscanned
    refine ⟨balanced.patternTotal, ?_, ?_, ?_⟩
    · exact (Counts.total_erase zero).trans balanced.packageTotal
    · intro other count found positive
      rw [Table.get?_erase] at found
      split at found
      · contradiction
      · exact balanced.scanned other count found positive
    · intro other member
      have differs : other ≠ package := fun same => absent (same ▸ member)
      rw [Table.keys_erase, List.mem_filter]
      exact ⟨balanced.known other member, by simpa using differs⟩
  · exact balanced

/-- What is left of a package that was dropped has a metadata row. -/
theorem scanned_of_mem_unregister (balanced : s.Balanced n) {package : String}
    (member : package ∈ (s.unregister package).packages.keys) : package ∈ s.metadata.keys := by
  by_contra unscanned
  rw [unregister_eq] at member
  split at member
  · simp [Table.keys_erase] at member
  · rename_i kept
    obtain ⟨count, found⟩ := Table.mem_keys_iff.mp member
    rcases Nat.eq_zero_or_pos count with zero | positive
    · exact kept ⟨unscanned, zero ▸ found⟩
    · exact unscanned (balanced.scanned package count found positive)

theorem fold_empty (package : String) (findings : List Finding) (row : MetadataRow) :
    (Summaries.empty.fold package findings row).Balanced findings.length := by
  refine ⟨?_, ?_, ?_, ?_⟩
  · rw [patternTotal_fold, Balanced.empty.patternTotal, Nat.zero_add]
  · rw [packageTotal_fold, Balanced.empty.packageTotal, Nat.zero_add]
  · intro other count found _
    have member := Table.mem_keys_of_get? found
    simpa [packages_fold, metadata_fold, Table.keys_gather] using member
  · intro other member
    simpa [packages_fold, metadata_fold, Table.keys_gather] using member

theorem fold (balanced : s.Balanced n) (package : String) (findings : List Finding)
    (row : MetadataRow) : (s.fold package findings row).Balanced (n + findings.length) := by
  rw [fold_eq_merge]
  exact balanced.merge (fold_empty package findings row)

end Balanced
end Summaries
end EffectSurvey
