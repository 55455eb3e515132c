import EffectSurvey.Proofs.Summaries.Balance
import EffectSurvey.Report.Texts
import Mathlib.Algebra.BigOperators.Group.List.Basic
import Mathlib.Data.List.Forall2

/-! The order of the reports. A ranked list has the entries of its table and its keys never rise, so two
tables with the same values are ranked alike up to the order of entries that tie. -/
namespace EffectSurvey

/-- The same entries in both lists, in orders that differ at most between entries that tie. -/
structure UpToTies {α : Type} (tie : α → α → Prop) (a b : List α) : Prop where
  perm : a.Perm b
  ties : List.Forall₂ tie a b

section Ties
variable {α β : Type} {a b : List α} {key : α → β}

theorem forall₂_of_map_eq (same : a.map key = b.map key) :
    List.Forall₂ (fun x y => key x = key y) a b := by
  rw [← List.forall₂_eq_eq_eq, List.forall₂_map_left_iff, List.forall₂_map_right_iff] at same
  exact same

/-- Lists in order of a key, with the same entries, have the same sequence of keys. -/
theorem upToTies_of_sorted (le : β → β → Prop) (antisymm : ∀ x y, le x y → le y x → x = y)
    (perm : a.Perm b) (first : a.Pairwise fun x y => le (key x) (key y))
    (second : b.Pairwise fun x y => le (key x) (key y)) :
    UpToTies (fun x y => key x = key y) a b := by
  have firstKeys : (a.map key).Pairwise le := List.pairwise_map.mpr first
  have secondKeys : (b.map key).Pairwise le := List.pairwise_map.mpr second
  have keys : a.map key = b.map key :=
    (perm.map key).eq_of_pairwise (fun x y _ _ => antisymm x y) firstKeys secondKeys
  exact ⟨perm, forall₂_of_map_eq keys⟩

/-- The same for keys that a comparison ranks from the highest down. -/
theorem upToTies_of_compare [Ord β] [Std.OrientedOrd β] [Std.LawfulEqOrd β] (key : α → β)
    (perm : a.Perm b) (first : a.Pairwise fun x y => (compare (key y) (key x)).isLE = true)
    (second : b.Pairwise fun x y => (compare (key y) (key x)).isLE = true) :
    UpToTies (fun x y => compare (key x) (key y) = .eq) a b := by
  have antisymm : ∀ x y : β, (compare y x).isLE = true → (compare x y).isLE = true → x = y := by
    intro x y above below
    exact Std.LawfulEqCmp.eq_of_compare (Std.OrientedCmp.isLE_antisymm below above)
  have ranked := upToTies_of_sorted (fun x y => (compare y x).isLE = true) antisymm perm first second
  exact ⟨perm, ranked.ties.imp fun _ _ same => Std.LawfulEqCmp.compare_eq_iff_eq.mpr same⟩

end Ties

namespace Counts

theorem ranked_perm (counts : Counts) : counts.ranked.Perm counts.entries :=
  List.mergeSort_perm _ _

theorem mem_ranked {counts : Counts} {entry : String × Nat} :
    entry ∈ counts.ranked ↔ entry ∈ counts.entries :=
  counts.ranked_perm.mem_iff

theorem ranked_sorted (counts : Counts) : counts.ranked.Pairwise fun a b => b.2 ≤ a.2 := by
  have sorted : counts.ranked.Pairwise fun a b => decide (b.2 ≤ a.2) = true := by
    apply List.pairwise_mergeSort
    · intro a b c
      simp only [decide_eq_true_eq]
      omega
    · intro a b
      simp only [Bool.or_eq_true, decide_eq_true_eq]
      omega
  exact sorted.imp of_decide_eq_true

theorem nodup_keys_ranked (counts : Counts) : (counts.ranked.map Prod.fst).Nodup :=
  (counts.ranked_perm.map Prod.fst).nodup_iff.mpr counts.distinct

/-- A ranked list holds the counts of its table. -/
theorem lookup_ranked (counts : Counts) (key : String) :
    Table.lookup key counts.ranked = counts.get? key := by
  ext count
  rw [Table.lookup_eq_some counts.nodup_keys_ranked, mem_ranked, Table.get?_eq_some]

theorem countSum_ranked (counts : Counts) : countSum counts.ranked = counts.total :=
  (counts.ranked_perm.map Prod.snd).sum_eq

theorem ranked_perm_of_get? {a b : Counts} (values : ∀ key, a.get? key = b.get? key) :
    a.ranked.Perm b.ranked :=
  (a.ranked_perm.trans (Table.entries_perm_of_get? values)).trans b.ranked_perm.symm

theorem ranked_upToTies {a b : Counts} (values : ∀ key, a.get? key = b.get? key) :
    UpToTies (fun x y => x.2 = y.2) a.ranked b.ranked :=
  upToTies_of_sorted (fun m n => n ≤ m) (fun _ _ => by omega) (ranked_perm_of_get? values)
    a.ranked_sorted b.ranked_sorted

end Counts

namespace SortKey

instance (key : SortKey) : Std.TransCmp key.order where
  eq_swap := by
    cases key with
    | column index => exact Std.OrientedOrd.eq_swap
    | raw => exact Std.OrientedOrd.eq_swap
  isLE_trans := by
    cases key with
    | column index => exact Std.TransOrd.isLE_trans
    | raw => exact Std.TransOrd.isLE_trans

theorem isLE_order_total (key : SortKey) (a b : MetadataRow) :
    (key.order a b).isLE = true ∨ (key.order b a).isLE = true := by
  rw [← Std.OrientedCmp.isGE_iff_isLE (a := a)]
  cases key.order a b <;> simp

end SortKey

namespace Report
variable {s t : Summaries}

theorem affected_upToTies (values : ∀ key, s.packages.get? key = t.packages.get? key) :
    UpToTies (fun x y => x.2 = y.2) (affected s) (affected t) :=
  upToTies_of_sorted (fun m n => n ≤ m) (fun _ _ => by omega)
    ((Counts.ranked_perm_of_get? values).filter _) (s.packages.ranked_sorted.filter _)
    (t.packages.ranked_sorted.filter _)

/-- The packages that are left out have nothing to count. -/
theorem countSum_affected (s : Summaries) : countSum (affected s) = s.packageTotal := by
  have positive : ∀ entries : List (String × Nat),
      countSum (entries.filter fun entry => 0 < entry.2) = countSum entries := by
    intro entries
    induction entries with
    | nil => rfl
    | cons entry entries ih =>
      rcases Nat.eq_zero_or_pos entry.2 with zero | some
      · rw [List.filter_cons_of_neg (by simp [zero]), ih, countSum_cons, zero, Nat.zero_add]
      · rw [List.filter_cons_of_pos (by simpa using some), countSum_cons, ih, countSum_cons]
  exact (positive _).trans s.packages.countSum_ranked

theorem length_affected_add (s : Summaries) :
    (affected s).length + (unaffected s).length = s.packages.size := by
  have rest : unaffected s = s.packages.ranked.filter fun entry => !decide (0 < entry.2) := by
    apply List.filter_congr
    intro entry _
    rw [← decide_not, decide_eq_decide]
    omega
  rw [rest, affected, ← List.length_eq_length_filter_add, s.packages.ranked_perm.length_eq]
  rfl

theorem rankedMetadata_perm (s : Summaries) (key : SortKey) :
    (rankedMetadata s key).Perm s.metadata.entries :=
  List.mergeSort_perm _ _

theorem rankedMetadata_sorted (s : Summaries) (key : SortKey) :
    (rankedMetadata s key).Pairwise fun a b => (key.order b.2 a.2).isLE = true := by
  apply List.pairwise_mergeSort
  · intro a b c first second
    exact Std.TransCmp.isLE_trans second first
  · intro a b
    rw [Bool.or_eq_true]
    exact key.isLE_order_total b.2 a.2

theorem rankedMetadata_upToTies (values : ∀ name, s.metadata.get? name = t.metadata.get? name)
    (key : SortKey) : UpToTies (fun x y => key.order x.2 y.2 = .eq) (rankedMetadata s key)
      (rankedMetadata t key) := by
  have perm : (rankedMetadata s key).Perm (rankedMetadata t key) :=
    ((rankedMetadata_perm s key).trans (Table.entries_perm_of_get? values)).trans
      (rankedMetadata_perm t key).symm
  have first := rankedMetadata_sorted s key
  have second := rankedMetadata_sorted t key
  cases key with
  | column index =>
    simp only [SortKey.order] at first second ⊢
    exact upToTies_of_compare _ perm first second
  | raw =>
    simp only [SortKey.order] at first second ⊢
    exact upToTies_of_compare _ perm first second

/-- Two texts that write out entries, one after the other, in the same surroundings: only entries that tie
may have changed places. -/
structure Alike {α : Type} (write : α → String) (tie : α → α → Prop) (first second : String)
    (a b : List α) : Prop where
  layout : ∃ head tail, first = head ++ String.join (a.map write) ++ tail ∧
    second = head ++ String.join (b.map write) ++ tail
  order : UpToTies tie a b

theorem patterns_alike (values : ∀ key, s.patterns.get? key = t.patterns.get? key) :
    Alike countLine (fun x y => x.2 = y.2) (patterns s) (patterns t) s.patterns.ranked
      t.patterns.ranked := by
  refine ⟨⟨line "===== Patterns =====" ++ line "Total instances of each effect pattern:", "", ?_, ?_⟩,
    Counts.ranked_upToTies values⟩
  · rw [String.append_empty, patterns]
  · rw [String.append_empty, patterns]

theorem length_unaffected (values : ∀ key, s.packages.get? key = t.packages.get? key) :
    (unaffected s).length = (unaffected t).length :=
  ((Counts.ranked_perm_of_get? values).filter _).length_eq

/-- The totals are the same, so they are a part of the surroundings. -/
theorem packages_alike (values : ∀ key, s.packages.get? key = t.packages.get? key) :
    Alike countLine (fun x y => x.2 = y.2) (packages s) (packages t) (affected s) (affected t) := by
  have order := affected_upToTies values
  refine ⟨⟨line "===== Crate Summary =====" ++ line "Number of effects by crate:",
    line "===== Crate Totals =====" ++
      line (Text.decimal (affected s).length ++ " crates with 1 or more effects") ++
      line (Text.decimal (unaffected s).length ++ " crates with 0 effects"), ?_, ?_⟩, order⟩
  · simp only [packages, String.append_assoc]
  · rw [order.perm.length_eq, length_unaffected values]
    simp only [packages, String.append_assoc]

theorem metadata_alike (values : ∀ name, s.metadata.get? name = t.metadata.get? name)
    (key : SortKey) : Alike metadataLine (fun x y => key.order x.2 y.2 = .eq) (metadata s key)
      (metadata t key) (rankedMetadata s key) (rankedMetadata t key) := by
  refine ⟨⟨line ("crate, " ++ MetadataRow.header), "", ?_, ?_⟩, rankedMetadata_upToTies values key⟩
  · rw [String.append_empty, metadata]
  · rw [String.append_empty, metadata]

end Report
end EffectSurvey
