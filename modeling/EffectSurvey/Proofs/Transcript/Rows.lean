import EffectSurvey.Proofs.Transcript.Refusals
import EffectSurvey.Proofs.Transcript.RoundTrip
import Mathlib.Algebra.GroupWithZero.Nat

/-! Rows fed to a reader that waits for findings. Separators inside the texts of a finding only add columns to
its row, and the reader counts the columns first, so no such row passes for the row of another finding. -/
namespace EffectSurvey

namespace Finding
variable {f : Finding}

def surplus (f : Finding) : Nat := (f.texts.map fun text => Text.pairCount ',' ' ' text.toList).sum

theorem surplus_eq_zero :
    f.surplus = 0 ↔ ∀ text ∈ f.texts, Text.Unbroken ',' ' ' text.toList := by
  simp [surplus, List.sum_eq_zero_iff_forall_eq_nat, Text.pairCount_eq_zero]

/-- Every separator inside a text adds a column to the eight. -/
theorem length_splitAtPair_row (f : Finding) :
    (Text.splitAtPair ',' ' ' f.row).length = columnCount + f.surplus := by
  have nonempty : f.columns.map String.toList ≠ [] := by simp [columns]
  have numbers : ∀ n, Text.pairCount ',' ' ' (Text.decimal n).toList = 0 := fun n =>
    Text.pairCount_eq_zero.mpr (Text.unbroken_decimal n)
  have chars : f.row.toList = [',', ' '].intercalate (f.columns.map String.toList) :=
    String.toList_intercalate
  rw [Text.splitAtPair, List.length_map, chars,
    Text.splitPair_intercalate_eq_flatMap (by decide) nonempty, List.length_flatMap]
  simp only [columns, surplus, texts, columnCount, List.map_cons, List.map_nil, List.sum_cons,
    List.sum_nil, Text.length_splitPair (show ',' ≠ ' ' by decide), numbers]
  omega

theorem ofRow_row_of_surplus (broken : 0 < f.surplus) :
    Finding.ofRow f.row = .error (.columns (columnCount + f.surplus)) := by
  refine ofRow_of_explains ⟨by omega, _, ?_, f.length_splitAtPair_row⟩
  exact (Text.splitAtPair_eq_iff (by decide) f.row _).mp rfl

end Finding

namespace Transcript
variable {r : Reader} {f : Finding}

theorem Reader.feed_row_of_error {fault : RowFault} (stage : r.stage = .findings)
    (trimmed : Text.trim f.row = f.row) (refused : Finding.ofRow f.row = .error fault) :
    r.feed f.row = (r.count, some (.malformedFinding (r.lineCount + 1) fault)) := by
  simp only [feed, trimmed, take, count_stage, stage, if_neg f.row_ne_empty, refused]
  rfl

/-- A row gives back its finding, or else it is refused for its number of columns, which tells how many
separators the texts hold. -/
theorem row_never_misread (r : Reader) (f : Finding) (stage : r.stage = .findings)
    (line : f.line < 2 ^ 64) (col : f.col < 2 ^ 64)
    (unindented : ∀ c, f.package.toList.head? = some c → Text.isBlank c = false) :
    ((∀ text ∈ f.texts, ¬ [',', ' '] <:+: text.toList) →
      r.feed f.row =
        ({ r with lineCount := r.lineCount + 1, findings := r.findings ++ [f] }, none)) ∧
    ((∃ text ∈ f.texts, [',', ' '] <:+: text.toList) →
      0 < f.surplus ∧ r.feed f.row =
        ({ r with lineCount := r.lineCount + 1 },
          some (.malformedFinding (r.lineCount + 1) (.columns (8 + f.surplus))))) := by
  have trimmed := Finding.trim_row unindented
  constructor
  · intro separable
    have accepts : r.count.Accepts f.row _ :=
      .row stage f.row_ne_empty (Finding.spelledBy_row separable line col)
    exact Reader.feed_of_accepts trimmed accepts
  · rintro ⟨text, member, pair⟩
    have broken : 0 < f.surplus := by
      rw [Nat.pos_iff_ne_zero, Ne, Finding.surplus_eq_zero]
      exact fun separable => separable text member pair
    exact ⟨broken, Reader.feed_row_of_error stage trimmed (Finding.ofRow_row_of_surplus broken)⟩

/-- Texts that are empty, hold line feeds, or make separators beside the ones between them; then with
two more separators in one of them. -/
theorem row_never_misread_at_seams :
    let r : Reader := ⟨"p", .findings, 6, [], none⟩
    let f : Finding := ⟨"", " f,", "g\n", ",", "", " ", 18446744073709551615, 0⟩
    let g : Finding := ⟨"a, b, 1", "f", "g", "h", "d", "l", 7, 8⟩
    r.feed f.row = (⟨"p", .findings, 7, [f], none⟩, none) ∧
    g.surplus = 2 ∧
    r.feed g.row =
      (⟨"p", .findings, 7, [], none⟩, some (.malformedFinding 7 (.columns (8 + g.surplus)))) := by
  intro r f g
  have unindented : ∀ c, g.package.toList.head? = some c → Text.isBlank c = false := by
    intro c first
    simp only [g, String.reduceToList, List.head?_cons, Option.some.injEq] at first
    subst first
    decide
  refine ⟨?_, by decide +kernel, ?_⟩
  · exact (row_never_misread r f rfl (by decide) (by decide) (by simp [f])).1 (by decide +kernel)
  · exact ((row_never_misread r g rfl (by decide) (by decide) unindented).2 (by decide +kernel)).2

end Transcript
end EffectSurvey
