import EffectSurvey.Proofs.Report.Ranking
import EffectSurvey.Proofs.Text.Decimal
import EffectSurvey.Proofs.Text.Pieces

/-! The reports are sorted from the highest key down, with ties in the order of their table. A comparison that
is a total preorder leaves one list for that, so to be this list says all there is to say about the order of a
report. What a row is compared by is told from its text alone. -/
namespace EffectSurvey

section Stability
variable {α β : Type} {cmp : β → β → Ordering} {key : α → β} {entries ranked a b : List α}

/-- The entries from the highest key down. Those with equal keys stand in the order they had. -/
structure StablyRanked (cmp : β → β → Ordering) (key : α → β) (entries ranked : List α) : Prop where
  perm : ranked.Perm entries
  descending : ranked.Pairwise fun x y => (cmp (key y) (key x)).isLE = true
  ties : ∀ x, ranked.filter (fun y => cmp (key x) (key y) = .eq) =
    entries.filter fun y => cmp (key x) (key y) = .eq

variable [Std.TransCmp cmp]

/-- The head of a ranked list is as high as all that is in it. -/
theorem isLE_head {x y : α} {rest : List α}
    (descending : (x :: rest).Pairwise fun x y => (cmp (key y) (key x)).isLE = true)
    (member : y ∈ x :: rest) : (cmp (key y) (key x)).isLE = true := by
  rcases List.mem_cons.mp member with rfl | later
  · exact Std.ReflCmp.isLE_rfl
  · exact (List.pairwise_cons.mp descending).1 y later

theorem mem_iff_of_ties (ties : ∀ x, a.filter (fun y => cmp (key x) (key y) = .eq) =
    b.filter fun y => cmp (key x) (key y) = .eq) (x : α) : x ∈ a ↔ x ∈ b := by
  have same := congrArg (x ∈ ·) (ties x)
  simpa [Std.ReflCmp.compare_self] using same

/-- Ranked lists are the same if they have the same entries of each key in the same order. -/
theorem eq_of_ties (first : a.Pairwise fun x y => (cmp (key y) (key x)).isLE = true)
    (second : b.Pairwise fun x y => (cmp (key y) (key x)).isLE = true)
    (ties : ∀ x, a.filter (fun y => cmp (key x) (key y) = .eq) =
      b.filter fun y => cmp (key x) (key y) = .eq) : a = b := by
  induction a generalizing b with
  | nil =>
    refine (List.eq_nil_iff_forall_not_mem.mpr fun x member => ?_).symm
    exact absurd ((mem_iff_of_ties ties x).mpr member) List.not_mem_nil
  | cons x a ih =>
    cases b with
    | nil => exact absurd ((mem_iff_of_ties ties x).mp List.mem_cons_self) List.not_mem_nil
    | cons y b =>
      have below := isLE_head second ((mem_iff_of_ties ties x).mp List.mem_cons_self)
      have above := isLE_head first ((mem_iff_of_ties ties y).mpr List.mem_cons_self)
      have tie : cmp (key x) (key y) = .eq := Std.OrientedCmp.isLE_antisymm below above
      have heads := ties x
      rw [List.filter_cons_of_pos (by simp [Std.ReflCmp.compare_self]),
        List.filter_cons_of_pos (by simp [tie])] at heads
      obtain rfl : x = y := (List.cons.inj heads).1
      have tails : ∀ z, a.filter (fun y => cmp (key z) (key y) = .eq) =
          b.filter fun y => cmp (key z) (key y) = .eq := by
        intro z
        have both := ties z
        by_cases among : cmp (key z) (key x) = .eq
        · rw [List.filter_cons_of_pos (by simpa using among),
            List.filter_cons_of_pos (by simpa using among)] at both
          exact (List.cons.inj both).2
        · rwa [List.filter_cons_of_neg (by simpa using among),
            List.filter_cons_of_neg (by simpa using among)] at both
      rw [ih (List.pairwise_cons.mp first).2 (List.pairwise_cons.mp second).2 tails]

theorem StablyRanked.unique (first : StablyRanked cmp key entries a)
    (second : StablyRanked cmp key entries b) : a = b :=
  eq_of_ties first.descending second.descending fun x => (first.ties x).trans (second.ties x).symm

theorem stablyRanked_mergeSort (cmp : β → β → Ordering) [Std.TransCmp cmp] (key : α → β)
    (entries : List α) : StablyRanked cmp key entries
      (entries.mergeSort fun x y => (cmp (key y) (key x)).isLE) := by
  have trans : ∀ x y z : α, (cmp (key y) (key x)).isLE = true → (cmp (key z) (key y)).isLE = true →
      (cmp (key z) (key x)).isLE = true := fun _ _ _ first second =>
    Std.TransCmp.isLE_trans second first
  have total : ∀ x y : α, ((cmp (key y) (key x)).isLE || (cmp (key x) (key y)).isLE) = true := by
    intro x y
    rw [Bool.or_eq_true, ← Std.OrientedCmp.isGE_iff_isLE (a := key y)]
    cases cmp (key y) (key x) <;> simp
  have perm := List.mergeSort_perm entries fun x y => (cmp (key y) (key x)).isLE
  refine ⟨perm, List.pairwise_mergeSort trans total entries, fun x => ?_⟩
  have level : (entries.filter fun y => cmp (key x) (key y) = .eq).Pairwise
      fun y z => (cmp (key z) (key y)).isLE = true := by
    apply List.pairwise_of_forall_mem_list
    intro y first z second
    have left := of_decide_eq_true (List.mem_filter.mp first).2
    have right := of_decide_eq_true (List.mem_filter.mp second).2
    rw [Std.TransCmp.eq_trans (Std.OrientedCmp.eq_symm right) left]
    rfl
  have kept := (List.sublist_mergeSort trans total level List.filter_sublist).filter
    fun y => decide (cmp (key x) (key y) = .eq)
  rw [List.filter_filter] at kept
  simp only [Bool.and_self] at kept
  exact (kept.eq_of_length (perm.filter _).length_eq.symm).symm

theorem stablyRanked_iff (cmp : β → β → Ordering) [Std.TransCmp cmp] (key : α → β)
    {entries ranked : List α} : StablyRanked cmp key entries ranked ↔
      ranked = entries.mergeSort fun x y => (cmp (key y) (key x)).isLE := by
  constructor
  · exact fun stable => stable.unique (stablyRanked_mergeSort cmp key entries)
  · rintro rfl
    exact stablyRanked_mergeSort cmp key entries

end Stability

theorem Counts.ranked_eq_mergeSort (counts : Counts) :
    counts.ranked = counts.entries.mergeSort fun x y => (compare y.2 x.2).isLE := by
  have same : (fun x y : String × Nat => decide (y.2 ≤ x.2)) = fun x y => (compare y.2 x.2).isLE := by
    funext x y
    rw [Bool.eq_iff_iff, decide_eq_true_iff, Nat.isLE_compare]
  rw [Counts.ranked, same]

namespace SortKey
variable {index : Nat} {a b : MetadataRow}

/-- The number that a row has in a column: the text between two commas, without the blanks around it, is a
decimal with an optional sign that fits into 64 bits. -/
def HasNumber (index : Nat) (row : MetadataRow) (z : Int) : Prop :=
  ∃ fields field, Text.Pieces ',' row.text fields ∧ fields[index]? = some field ∧
    Text.SignedNumeral (Text.trim field) z

theorem number?_eq_some {row : MetadataRow} {z : Int} :
    number? index row = some z ↔ HasNumber index row z := by
  simp only [number?, MetadataRow.field?, Option.bind_eq_some_iff, Option.map_eq_some_iff,
    Text.signedWord?_eq_some, HasNumber]
  constructor
  · rintro ⟨_, ⟨field, found, rfl⟩, numeral⟩
    exact ⟨_, field, Text.splitAtChar_eq_iff.mp rfl, found, numeral⟩
  · rintro ⟨fields, field, pieces, found, numeral⟩
    obtain rfl := Text.splitAtChar_eq_iff.mpr pieces
    exact ⟨_, ⟨field, found, rfl⟩, numeral⟩

theorem number?_eq_none {row : MetadataRow} :
    number? index row = none ↔ ∀ z, ¬ HasNumber index row z := by
  simp only [← number?_eq_some, Option.eq_none_iff_forall_ne_some, ne_eq]

theorem order_column_of_numbers {m n : Int} (first : HasNumber index a m)
    (second : HasNumber index b n) : (column index).order a b = compare m n := by
  rw [order, number?_eq_some.mpr first, number?_eq_some.mpr second]
  rfl

theorem order_column_of_none (first : ∀ m, ¬ HasNumber index a m)
    (second : ∀ n, ¬ HasNumber index b n) : (column index).order a b = .eq := by
  rw [order, number?_eq_none.mpr first, number?_eq_none.mpr second]
  rfl

theorem order_column_of_none_left {n : Int} (first : ∀ m, ¬ HasNumber index a m)
    (second : HasNumber index b n) : (column index).order a b = .lt := by
  rw [order, number?_eq_none.mpr first, number?_eq_some.mpr second]
  rfl

end SortKey

namespace Report

/-- Every sort key is a total preorder of the rows. In a column rows are compared by their numbers, and those
without a number tie with each other below all others. The metadata report is the stable descending sort of
its table under the key, and the counts of a report that of theirs: each is the only list of that kind. -/
theorem reports_stably_ranked :
    (∀ key : SortKey,
      (∀ a, key.order a a = .eq) ∧
      (∀ a b, key.order b a = (key.order a b).swap) ∧
      (∀ a b, (key.order a b).isLE = true ∨ (key.order b a).isLE = true) ∧
      ∀ a b c, (key.order a b).isLE = true → (key.order b c).isLE = true →
        (key.order a c).isLE = true) ∧
    (∀ index a b,
      (∀ m n, SortKey.HasNumber index a m → SortKey.HasNumber index b n →
        (SortKey.column index).order a b = compare m n) ∧
      ((∀ m, ¬ SortKey.HasNumber index a m) →
        ((∀ n, ¬ SortKey.HasNumber index b n) → (SortKey.column index).order a b = .eq) ∧
        ∀ n, SortKey.HasNumber index b n → (SortKey.column index).order a b = .lt)) ∧
    (∀ (s : Summaries) (key : SortKey) ranked,
      StablyRanked key.order Prod.snd s.metadata.entries ranked ↔ ranked = rankedMetadata s key) ∧
    ∀ (counts : Counts) ranked,
      StablyRanked compare Prod.snd counts.entries ranked ↔ ranked = counts.ranked := by
  refine ⟨fun key => ⟨fun a => Std.ReflCmp.compare_self, fun a b => Std.OrientedCmp.eq_swap,
    key.isLE_order_total, fun a b c => Std.TransCmp.isLE_trans⟩, fun index a b => ⟨?_, ?_⟩, ?_, ?_⟩
  · exact fun m n => SortKey.order_column_of_numbers
  · intro first
    exact ⟨SortKey.order_column_of_none first, fun n => SortKey.order_column_of_none_left first⟩
  · intro s key ranked
    exact stablyRanked_iff key.order Prod.snd
  · intro counts ranked
    rw [counts.ranked_eq_mergeSort]
    exact stablyRanked_iff compare Prod.snd

/-- The least and the greatest number of 64 bits, one between wide blanks and one with a sign and zeros in
front, among a number beyond them and a row without the column. -/
theorem rows_ranked_at_word_limits :
    let beyond : MetadataRow := ⟨"1, 9223372036854775808"⟩
    let least : MetadataRow := ⟨"1,\u2003-9223372036854775808\u3000,2"⟩
    let short : MetadataRow := ⟨"1"⟩
    let greatest : MetadataRow := ⟨"1, +009223372036854775807"⟩
    let s : Summaries := ⟨.empty, ⟨[("a", 2), ("b", 10), ("c", 2)], by decide⟩,
      ⟨[("a", beyond), ("b", least), ("c", short), ("d", greatest)], by decide⟩⟩
    (SortKey.HasNumber 1 least (-2 ^ 63) ∧ SortKey.HasNumber 1 greatest (2 ^ 63 - 1) ∧
      (∀ z, ¬ SortKey.HasNumber 1 beyond z) ∧ ∀ z, ¬ SortKey.HasNumber 1 short z) ∧
    ((SortKey.column 1).order least greatest = .lt ∧ (SortKey.column 1).order beyond short = .eq ∧
      (SortKey.column 1).order short least = .lt ∧
      ((SortKey.column 1).order short greatest).isLE = true) ∧
    StablyRanked (SortKey.column 1).order Prod.snd s.metadata.entries
      [("d", greatest), ("b", least), ("a", beyond), ("c", short)] ∧
    StablyRanked compare Prod.snd s.packages.entries [("b", 10), ("a", 2), ("c", 2)] := by
  intro beyond least short greatest s
  have lowest : SortKey.HasNumber 1 least (-2 ^ 63) := SortKey.number?_eq_some.mp (by decide +kernel)
  have highest : SortKey.HasNumber 1 greatest (2 ^ 63 - 1) :=
    SortKey.number?_eq_some.mp (by decide +kernel)
  have outside : ∀ z, ¬ SortKey.HasNumber 1 beyond z := SortKey.number?_eq_none.mp (by decide +kernel)
  have missing : ∀ z, ¬ SortKey.HasNumber 1 short z := SortKey.number?_eq_none.mp (by decide +kernel)
  obtain ⟨preorder, columns, rows, counts⟩ := reports_stably_ranked
  obtain ⟨-, swap, -, trans⟩ := preorder (.column 1)
  have rising : (SortKey.column 1).order least greatest = .lt :=
    (columns 1 least greatest).1 _ _ lowest highest
  have level : (SortKey.column 1).order beyond short = .eq :=
    ((columns 1 beyond short).2 outside).1 missing
  have lower : (SortKey.column 1).order short least = .lt :=
    ((columns 1 short least).2 missing).2 _ lowest
  have lowerGreatest : (SortKey.column 1).order short greatest = .lt :=
    ((columns 1 short greatest).2 missing).2 _ highest
  have lowerBeyond : (SortKey.column 1).order beyond least = .lt :=
    ((columns 1 beyond least).2 outside).2 _ lowest
  have across : ((SortKey.column 1).order short greatest).isLE = true :=
    trans short least greatest (by rw [lower]; rfl) (by rw [rising]; rfl)
  refine ⟨⟨lowest, highest, outside, missing⟩, ⟨rising, level, lower, across⟩,
    (rows s (.column 1) _).mpr ?_, (counts s.packages _).mpr ?_⟩
  · simp [rankedMetadata, List.mergeSort, s, rising, level, lower, lowerGreatest, lowerBeyond,
      swap beyond least, swap short greatest, swap least greatest, swap beyond short]
  · simp [Counts.ranked, List.mergeSort, s]

end Report
end EffectSurvey
