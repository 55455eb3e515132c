import EffectSurvey.Proofs.Summaries.Balance

/-! Every way to build summaries. The summaries that are merged into others have a history of their own,
so a history is a tree, and what every operation preserves holds of the summaries of every tree. -/
namespace EffectSurvey

/-- How a table holds a number of occurrences: what does not occur has no entry. -/
def Counts.positive? (n : Nat) : Option Nat := if n = 0 then none else some n

theorem Counts.positive?_ne_zero (n : Nat) : positive? n ≠ some 0 := by
  unfold positive?
  split
  · exact nofun
  · rename_i nonzero
    exact fun zero => nonzero (Option.some.inj zero)

theorem Counts.getD_positive? (n : Nat) : (positive? n).getD 0 = n := by
  unfold positive?
  split
  · rename_i zero
    exact zero.symm
  · rfl

theorem Counts.positive?_add (m n : Nat) :
    (positive? m).merge (· + ·) (positive? n) = positive? (m + n) := by
  rcases Nat.eq_zero_or_pos m with rfl | left
  · simp [positive?]
  · rcases Nat.eq_zero_or_pos n with rfl | right
    · simp [positive?]
    · simp [positive?, Nat.ne_of_gt left, Nat.ne_of_gt right]

def patternCount (findings : List Finding) (pattern : String) : Nat :=
  findings.countP (·.pattern = pattern)

theorem patternCount_append (first second : List Finding) (pattern : String) :
    patternCount (first ++ second) pattern =
      patternCount first pattern + patternCount second pattern :=
  List.countP_append

/-- Each pattern is counted as often as the findings show it, and no other pattern is counted. -/
def Counts.Tally (counts : Counts) (findings : List Finding) : Prop :=
  ∀ pattern, counts.get? pattern = positive? (patternCount findings pattern)

namespace Counts.Tally
variable {a b : Counts} {first second : List Finding}

theorem empty : Tally .empty [] := fun _ => rfl

theorem join (left : a.Tally first) (right : b.Tally second) :
    Tally (a.join (· + ·) b) (first ++ second) := by
  intro pattern
  rw [Table.get?_join, left pattern, right pattern, positive?_add, patternCount_append]

theorem single (finding : Finding) :
    Tally (Table.empty.put (· + ·) finding.pattern 1) [finding] := by
  intro pattern
  rw [Table.get?_put, Table.get?_empty]
  by_cases same : finding.pattern = pattern
  · simp [patternCount, positive?, same]
  · simp [patternCount, positive?, same, Ne.symm same]

theorem gather (findings : List Finding) :
    Tally (Table.empty.gather (· + ·) (Summaries.patternPairs findings)) findings := by
  induction findings with
  | nil => exact empty
  | cons finding findings ih =>
    rw [Summaries.patternPairs, List.map_cons, Table.gather_cons, Table.gather_eq_join]
    exact (single finding).join ih

end Counts.Tally

namespace Summaries

/-- The summaries are those of these findings: the totals agree on their number, and each pattern has its
share of them. -/
structure Records (s : Summaries) (findings : List Finding) : Prop where
  balanced : s.Balanced findings.length
  tally : s.patterns.Tally findings

namespace Records
variable {s a b : Summaries} {findings first second : List Finding}

theorem empty : Summaries.empty.Records [] := ⟨Balanced.empty, Counts.Tally.empty⟩

theorem register (records : s.Records findings) (package : String) :
    (s.register package).Records findings :=
  ⟨records.balanced.register package, records.tally⟩

theorem withPackages (packages : List String) : (Summaries.withPackages packages).Records [] :=
  List.foldlRecOn (motive := (Records · [])) packages _ Records.empty
    fun _ records package _ => records.register package

theorem unregister (records : s.Records findings) (package : String) :
    (s.unregister package).Records findings := by
  have patterns : (s.unregister package).patterns = s.patterns := by
    rw [unregister_eq]
    split <;> rfl
  exact ⟨records.balanced.unregister package, patterns ▸ records.tally⟩

theorem merge (left : a.Records first) (right : b.Records second) :
    (a.merge b).Records (first ++ second) := by
  refine ⟨?_, ?_⟩
  · rw [List.length_append]
    exact left.balanced.merge right.balanced
  · rw [patterns_merge]
    exact left.tally.join right.tally

theorem fold (records : s.Records first) (package : String) (findings : List Finding)
    (row : MetadataRow) : (s.fold package findings row).Records (first ++ findings) := by
  have alone : (Summaries.empty.fold package findings row).Records findings := by
    refine ⟨Balanced.fold_empty package findings row, ?_⟩
    rw [patterns_fold]
    exact Counts.Tally.gather findings
  rw [fold_eq_merge]
  exact records.merge alone

end Records

inductive History where
  | new
  | withPackages (packages : List String)
  | register (before : History) (package : String)
  | unregister (before : History) (package : String)
  | fold (before : History) (package : String) (findings : List Finding) (row : MetadataRow)
  | foldScan (before : History) (scan : PackageScan)
  | merge (before other : History)

namespace History

def summaries : History → Summaries
  | new => .empty
  | withPackages packages => .withPackages packages
  | register before package => before.summaries.register package
  | unregister before package => before.summaries.unregister package
  | fold before package findings row => before.summaries.fold package findings row
  | foldScan before scan => before.summaries.foldScan scan
  | merge before other => before.summaries.merge other.summaries

/-- The findings folded in so far, also those that came with merged summaries. -/
def findings : History → List Finding
  | new => []
  | withPackages _ => []
  | register before _ => before.findings
  | unregister before _ => before.findings
  | fold before _ findings _ => before.findings ++ findings
  | foldScan before scan => before.findings ++ scan.findings
  | merge before other => before.findings ++ other.findings

theorem records (history : History) : history.summaries.Records history.findings := by
  induction history with
  | new => exact Records.empty
  | withPackages packages => exact Records.withPackages packages
  | register _ package ih => exact ih.register package
  | unregister _ package ih => exact ih.unregister package
  | fold _ package findings row ih => exact ih.fold package findings row
  | foldScan _ scan ih => exact ih.fold scan.package scan.findings scan.metadata
  | merge _ _ left right => exact left.merge right

/-- Whatever the history, the two totals are the number of findings folded in, packages with findings
have a metadata row and packages with a metadata row are counted. The patterns in the table are exactly
those of the findings, each with the number of findings that show it. -/
theorem summaries_account_for_findings (history : History) :
    history.summaries.patternTotal = history.findings.length ∧
    history.summaries.packageTotal = history.findings.length ∧
    history.summaries.checkConsistency = .ok () ∧
    (∀ package count, history.summaries.packages.get? package = some count → 0 < count →
      package ∈ history.summaries.metadata.keys) ∧
    (∀ package ∈ history.summaries.metadata.keys, package ∈ history.summaries.packages.keys) ∧
    ∀ pattern, history.summaries.patterns.get? pattern ≠ some 0 ∧
      (history.summaries.patterns.get? pattern).getD 0 =
        patternCount history.findings pattern := by
  obtain ⟨balanced, tally⟩ := history.records
  refine ⟨balanced.patternTotal, balanced.packageTotal, balanced.consistent, balanced.scanned,
    balanced.known, ?_⟩
  intro pattern
  rw [tally pattern]
  exact ⟨Counts.positive?_ne_zero _, Counts.getD_positive? _⟩

end History
end Summaries
end EffectSurvey
