import EffectSurvey.Proofs.Text.Blank
import EffectSurvey.Proofs.Text.Decimal
import EffectSurvey.SortKey

/-! The texts that name a sort key. The word `raw` may be in letters of either case and the mark of a column may
not, while blanks may stand around both and also between the mark and the index. Reading accepts exactly these
spellings, and the name that a key is printed under is one of them. -/
namespace EffectSurvey.SortKey
variable {s text : String} {k : SortKey}

/-- The texts that stand for a sort key, without the blanks around them. -/
inductive Spelling : String → SortKey → Prop where
  | raw {r a w : Char} (first : r = 'r' ∨ r = 'R') (second : a = 'a' ∨ a = 'A')
      (third : w = 'w' ∨ w = 'W') : Spelling (String.ofList [r, a, w]) .raw
  | column {index : String} {n : Nat} (numeral : Text.Numeral (Text.trim index) n) :
      Spelling ("column:" ++ index) (.column n)

def IsWord : SortKey → Prop
  | .column n => n < 2 ^ 64
  | .raw => True

section Raw

theorem toNat_toLower (c : Char) :
    c.toLower.toNat = if 65 ≤ c.toNat ∧ c.toNat ≤ 90 then c.toNat + 32 else c.toNat := by
  have range : (c.val ≥ 'A'.val ∧ c.val ≤ 'Z'.val) ↔ (65 ≤ c.toNat ∧ c.toNat ≤ 90) := Iff.rfl
  unfold Char.toLower
  by_cases upper : 65 ≤ c.toNat ∧ c.toNat ≤ 90
  · rw [dif_pos (range.mpr upper), if_pos upper]
    change (c.val + 32).toNat = c.toNat + 32
    have small : c.val.toNat + 32 < 2 ^ 32 := by
      have := upper.2
      rw [← Char.toNat_val] at this
      omega
    exact Nat.mod_eq_of_lt small
  · rw [dif_neg (range.not.mpr upper), if_neg upper]

/-- Lowering the case gives a small letter for that letter and for its capital. -/
theorem toLower_eq_iff {c letter capital : Char} (isCapital : 65 ≤ capital.toNat ∧ capital.toNat ≤ 90)
    (pair : letter.toNat = capital.toNat + 32) : c.toLower = letter ↔ c = letter ∨ c = capital := by
  simp only [← Char.toNat_inj, toNat_toLower, pair]
  split <;> omega

theorem sameIgnoringCase_raw :
    sameIgnoringCase text "raw" = true ↔ ∃ r a w, text = String.ofList [r, a, w] ∧
      (r = 'r' ∨ r = 'R') ∧ (a = 'a' ∨ a = 'A') ∧ (w = 'w' ∨ w = 'W') := by
  have lowered : "raw".toList.map Char.toLower = ['r', 'a', 'w'] := rfl
  rw [sameIgnoringCase, lowered, beq_iff_eq]
  simp only [List.map_eq_cons_iff, List.map_eq_nil_iff]
  constructor
  · rintro ⟨r, _, chars, first, a, _, rfl, second, w, _, rfl, third, rfl⟩
    refine ⟨r, a, w, ?_, (toLower_eq_iff (by decide) rfl).mp first,
      (toLower_eq_iff (by decide) rfl).mp second, (toLower_eq_iff (by decide) rfl).mp third⟩
    rw [← chars, String.ofList_toList]
  · rintro ⟨r, a, w, rfl, first, second, third⟩
    exact ⟨r, _, String.toList_ofList, (toLower_eq_iff (by decide) rfl).mpr first, a, _, rfl,
      (toLower_eq_iff (by decide) rfl).mpr second, w, _, rfl,
      (toLower_eq_iff (by decide) rfl).mpr third, rfl⟩

end Raw

section Reading

theorem spelling_raw_iff : Spelling text .raw ↔ sameIgnoringCase text "raw" = true := by
  rw [sameIgnoringCase_raw]
  constructor
  · rintro ⟨first, second, third⟩
    exact ⟨_, _, _, rfl, first, second, third⟩
  · rintro ⟨r, a, w, rfl, first, second, third⟩
    exact .raw first second third

theorem spelling_column_iff {n : Nat} : Spelling text (.column n) ↔
    ∃ index, text = "column:" ++ index ∧ Text.Numeral (Text.trim index) n := by
  constructor
  · rintro ⟨⟩
    exact ⟨_, rfl, ‹_›⟩
  · rintro ⟨index, rfl, numeral⟩
    exact .column numeral

theorem toList_marked (index : String) :
    ("column:" ++ index).toList = columnMark ++ index.toList := by
  unfold columnMark
  exact String.toList_append

theorem not_raw_of_marked (index : String) : ¬ Spelling ("column:" ++ index) .raw := by
  rw [spelling_raw_iff, sameIgnoringCase_raw]
  rintro ⟨r, a, w, same, -⟩
  have longer := congrArg String.length same
  have mark : "column:".length = 7 := rfl
  rw [String.length_append, mark, String.length_ofList] at longer
  simp only [List.length_cons, List.length_nil] at longer
  omega

theorem isPrefixOf_columnMark :
    columnMark.isPrefixOf text.toList = true ↔ ∃ index, text = "column:" ++ index := by
  rw [List.isPrefixOf_iff_prefix]
  constructor
  · rintro ⟨rest, chars⟩
    refine ⟨String.ofList rest, String.toList_injective ?_⟩
    rw [← chars, toList_marked, String.toList_ofList]
  · rintro ⟨index, rfl⟩
    rw [toList_marked]
    exact List.prefix_append _ _

theorem read_of_raw (spelled : Spelling (Text.trim s) .raw) : read s = .ok .raw := by
  simp only [read, if_pos (spelling_raw_iff.mp spelled)]

theorem read_of_marked {index : String} (marked : Text.trim s = "column:" ++ index) :
    read s = (Text.word? (Text.trim index)).elim (.error (.invalidColumn (Text.trim s)))
      fun n => .ok (.column n) := by
  have other : ¬ sameIgnoringCase (Text.trim s) "raw" = true := by
    rw [← spelling_raw_iff, marked]
    exact not_raw_of_marked index
  have rest : String.ofList ((Text.trim s).toList.drop columnMark.length) = index := by
    rw [marked, toList_marked, List.drop_left, String.ofList_toList]
  simp only [read, if_neg other, if_pos (isPrefixOf_columnMark.mpr ⟨index, marked⟩), rest]
  cases Text.word? (Text.trim index) <;> rfl

theorem read_of_unmarked (other : ¬ Spelling (Text.trim s) .raw)
    (unmarked : ¬ ∃ index, Text.trim s = "column:" ++ index) :
    read s = .error (.unknown (Text.trim s)) := by
  rw [spelling_raw_iff] at other
  rw [← isPrefixOf_columnMark] at unmarked
  simp only [read, if_neg other, if_neg unmarked]

theorem read_eq_ok : read s = .ok k ↔ Spelling (Text.trim s) k := by
  by_cases marked : ∃ index, Text.trim s = "column:" ++ index
  · obtain ⟨index, marked⟩ := marked
    rw [read_of_marked marked]
    cases k with
    | raw =>
      have other : ¬ Spelling (Text.trim s) .raw := marked ▸ not_raw_of_marked index
      cases Text.word? (Text.trim index) <;> simp [other]
    | column n =>
      rw [spelling_column_iff, marked]
      simp only [String.append_right_inj, exists_eq_left', ← Text.word?_eq_some]
      cases Text.word? (Text.trim index) <;> simp
  · have notColumn (n : Nat) : ¬ Spelling (Text.trim s) (.column n) := by
      rw [spelling_column_iff]
      exact fun ⟨index, found, _⟩ => marked ⟨index, found⟩
    by_cases raw : Spelling (Text.trim s) .raw
    · rw [read_of_raw raw]
      cases k with
      | raw => simp [raw]
      | column n => simp [notColumn n]
    · rw [read_of_unmarked raw marked]
      cases k with
      | raw => simp [raw]
      | column n => simp [notColumn n]

theorem exists_error_iff : (∃ e, read s = .error e) ↔ ∀ k, ¬ Spelling (Text.trim s) k := by
  simp only [← read_eq_ok]
  cases read s with
  | ok k => simp
  | error e => simp

/-- An error holds the trimmed text, and tells apart whether it is marked as a column. -/
theorem error_of_read {e : ReadError} (failed : read s = .error e) :
    e = .invalidColumn (Text.trim s) ∧ (∃ index, Text.trim s = "column:" ++ index) ∨
      e = .unknown (Text.trim s) ∧ ¬ ∃ index, Text.trim s = "column:" ++ index := by
  by_cases marked : ∃ index, Text.trim s = "column:" ++ index
  · obtain ⟨index, marked⟩ := marked
    rw [read_of_marked marked] at failed
    cases value : Text.word? (Text.trim index) with
    | none =>
      rw [value] at failed
      exact .inl ⟨(Except.error.inj failed).symm, index, marked⟩
    | some n =>
      rw [value] at failed
      contradiction
  · have other : ¬ Spelling (Text.trim s) .raw := exists_error_iff.mp ⟨e, failed⟩ .raw
    rw [read_of_unmarked other marked] at failed
    exact .inr ⟨(Except.error.inj failed).symm, marked⟩

end Reading

section Naming

theorem trim_name (k : SortKey) : Text.trim k.name = k.name := by
  cases k with
  | raw => decide +kernel
  | column n =>
    have chars : (SortKey.column n).name.toList = 'c' :: ("olumn:".toList ++ (Text.decimal n).toList) := by
      rw [name, String.toList_append]
      rfl
    refine Text.trim_eq_self (fun c first => ?_) (fun c last => ?_)
    · rw [chars] at first
      cases first
      rfl
    · rw [chars, ← List.cons_append,
        List.getLast?_append_of_ne_nil _ (Text.digits_decimal n).nonempty] at last
      exact Text.not_isBlank_of_mem_decimal (List.mem_of_getLast? last)

theorem spelling_name (word : k.IsWord) : Spelling k.name k := by
  cases k with
  | raw => exact .raw (.inl rfl) (.inl rfl) (.inl rfl)
  | column n =>
    refine .column ?_
    rw [Text.trim_decimal]
    exact Text.numeral_decimal word

theorem Spelling.isWord (spelled : Spelling text k) : k.IsWord := by
  cases spelled with
  | raw => trivial
  | column numeral =>
    obtain ⟨digits, -, -, bounded⟩ := numeral
    exact bounded

theorem read_name (word : k.IsWord) : read k.name = .ok k := by
  rw [read_eq_ok, trim_name]
  exact spelling_name word

end Naming

/-- Reading gives a key for exactly the spellings of that key, and an error that holds the trimmed text for
every other text. A key whose index is a word is read back from its name, so to name the key of a text that
was read, and to read the name, gives the same key. -/
theorem read_exactly_spellings :
    (∀ s k, read s = .ok k ↔ Spelling (Text.trim s) k) ∧
    (∀ s, (∃ e, read s = .error e) ↔ ∀ k, ¬ Spelling (Text.trim s) k) ∧
    (∀ s e, read s = .error e →
      e = .invalidColumn (Text.trim s) ∧ (∃ index, Text.trim s = "column:" ++ index) ∨
      e = .unknown (Text.trim s) ∧ ¬ ∃ index, Text.trim s = "column:" ++ index) ∧
    (∀ k : SortKey, k.IsWord → read k.name = .ok k) ∧
    ∀ s k, read s = .ok k → read k.name = .ok k := by
  refine ⟨fun s k => read_eq_ok, fun s => exists_error_iff, fun s e => error_of_read,
    fun k => read_name, ?_⟩
  intro s k accepted
  have spelled : Spelling (Text.trim s) k := read_eq_ok.mp accepted
  exact read_name spelled.isWord

/-- Blanks, a plus sign and zeros before the index do not matter, but the case of the mark does. -/
example : read " column:\t+007 " = .ok (.column 7) ∧ read "RaW" = .ok .raw ∧
    read "Column:7" = .error (.unknown "Column:7") := by
  decide +kernel

end EffectSurvey.SortKey
