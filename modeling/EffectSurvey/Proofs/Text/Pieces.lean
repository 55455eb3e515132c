import EffectSurvey.Text.Pieces
import Mathlib.Data.List.Basic

/-! The pieces between the occurrences of a character, or of a pair of two different characters. Such a pair
cannot overlap itself or a separator, so the pieces are the one way to write the text as pieces without the
pair that are joined by it. -/
namespace EffectSurvey.Text
variable {a b : Char}

def Unbroken (a b : Char) (piece : List Char) : Prop := ¬ [a, b] <:+: piece

instance (piece : List Char) : Decidable (Unbroken a b piece) :=
  inferInstanceAs (Decidable (¬ [a, b] <:+: piece))

theorem unbroken_cons_iff {c : Char} {piece : List Char} :
    Unbroken a b (c :: piece) ↔ ¬ (c = a ∧ piece.head? = some b) ∧ Unbroken a b piece := by
  unfold Unbroken
  rw [List.infix_cons_iff, not_or]
  refine and_congr_left fun _ => not_congr ?_
  cases piece with
  | nil => simp
  | cons d rest => simp [eq_comm]

theorem splitPair_ne_nil (cs : List Char) : splitPair a b cs ≠ [] := by
  fun_cases splitPair a b cs <;> simp [prependToFirst]
  split <;> simp

/-- A step that finds no pair lengthens the first piece of the rest. -/
theorem splitPair_cons {c : Char} {cs : List Char} (apart : ¬ (c = a ∧ cs.head? = some b)) :
    splitPair a b (c :: cs) = prependToFirst c (splitPair a b cs) := by
  cases cs with
  | nil => rfl
  | cons d rest =>
    have unequal : ¬ (c = a ∧ d = b) := by simpa using apart
    rw [splitPair, if_neg unequal]

theorem splitPair_pair (rest : List Char) :
    splitPair a b (a :: b :: rest) = [] :: splitPair a b rest := by
  simp [splitPair]

theorem splitPair_unbroken {piece : List Char} (unbroken : Unbroken a b piece) :
    splitPair a b piece = [piece] := by
  induction piece with
  | nil => rfl
  | cons c piece ih =>
    obtain ⟨apart, unbroken⟩ := unbroken_cons_iff.mp unbroken
    rw [splitPair_cons apart, ih unbroken]
    rfl

/-- The pair is found wherever it stands: it cannot overlap a pair that begins or ends beside it. -/
theorem splitPair_append_pair (differ : a ≠ b) (piece rest : List Char) :
    splitPair a b (piece ++ a :: b :: rest) = splitPair a b piece ++ splitPair a b rest := by
  induction piece using splitPair.induct a b with
  | case1 => exact splitPair_pair rest
  | case2 c =>
    have apart : ¬ (c = a ∧ (a :: b :: rest).head? = some b) := by simp [differ]
    rw [List.singleton_append, splitPair_cons apart, splitPair_pair]
    rfl
  | case3 c d piece found ih =>
    obtain ⟨rfl, rfl⟩ := found
    rw [List.cons_append, List.cons_append, splitPair_pair, splitPair_pair, ih]
    rfl
  | case4 c d piece apart ih =>
    obtain ⟨first, pieces, split⟩ := List.exists_cons_of_ne_nil (splitPair_ne_nil (d :: piece))
    have apart : ∀ more, ¬ (c = a ∧ (d :: more).head? = some b) := by simpa using apart
    rw [List.cons_append, List.cons_append, splitPair_cons (apart _), splitPair_cons (apart _),
      ← List.cons_append, ih, split]
    rfl

theorem splitPair_append {piece : List Char} (differ : a ≠ b) (unbroken : Unbroken a b piece)
    (rest : List Char) : splitPair a b (piece ++ a :: b :: rest) = piece :: splitPair a b rest := by
  rw [splitPair_append_pair differ, splitPair_unbroken unbroken, List.singleton_append]

/-- Where a piece ends at the first pair after it, both can be read off the text. -/
theorem append_pair_inj {piece other rest more : List Char} (differ : a ≠ b)
    (unbroken : Unbroken a b piece) (unbroken' : Unbroken a b other)
    (same : piece ++ a :: b :: rest = other ++ a :: b :: more) : piece = other ∧ rest = more := by
  have split := congrArg (splitPair a b) same
  rw [splitPair_append differ unbroken, splitPair_append differ unbroken'] at split
  obtain ⟨rfl, -⟩ := List.cons.inj split
  simpa using same

theorem intercalate_prependToFirst (separator : List Char) (c : Char) (pieces : List (List Char)) :
    separator.intercalate (prependToFirst c pieces) = c :: separator.intercalate pieces := by
  cases pieces with
  | nil => simp [prependToFirst]
  | cons piece pieces => exact List.intercalate_cons_cons_left

theorem intercalate_splitPair (cs : List Char) : [a, b].intercalate (splitPair a b cs) = cs := by
  induction cs using splitPair.induct a b with
  | case1 => simp [splitPair]
  | case2 c => simp [splitPair]
  | case3 c d rest found ih =>
    obtain ⟨rfl, rfl⟩ := found
    rw [splitPair_pair, List.intercalate_cons_of_ne_nil (splitPair_ne_nil _), ih]
    rfl
  | case4 c d rest apart ih =>
    rw [splitPair, if_neg apart, intercalate_prependToFirst, ih]

/-- The first piece begins as the text does. -/
theorem head?_of_splitPair {cs piece : List Char} {pieces : List (List Char)} {c : Char}
    (split : splitPair a b cs = piece :: pieces) (first : piece.head? = some c) :
    cs.head? = some c := by
  have joined := intercalate_splitPair (a := a) (b := b) cs
  cases piece with
  | nil => simp at first
  | cons d piece =>
    rw [split, List.intercalate_cons_cons_left] at joined
    rw [← joined]
    simpa using first

theorem unbroken_splitPair (cs : List Char) : ∀ piece ∈ splitPair a b cs, Unbroken a b piece := by
  induction cs using splitPair.induct a b with
  | case1 => simp [splitPair, Unbroken]
  | case2 c =>
    have single : Unbroken a b [c] := unbroken_cons_iff.mpr ⟨by simp, by simp [Unbroken]⟩
    simpa [splitPair] using single
  | case3 c d rest found ih =>
    obtain ⟨rfl, rfl⟩ := found
    simpa [splitPair_pair, Unbroken] using ih
  | case4 c d rest apart ih =>
    rw [splitPair, if_neg apart]
    cases split : splitPair a b (d :: rest) with
    | nil => exact absurd split (splitPair_ne_nil _)
    | cons piece pieces =>
      rw [split] at ih
      intro other member
      rcases List.mem_cons.mp member with rfl | member
      · refine unbroken_cons_iff.mpr ⟨?_, ih piece List.mem_cons_self⟩
        rintro ⟨same, first⟩
        have begins := head?_of_splitPair split first
        exact apart ⟨same, by simpa using begins⟩
      · exact ih other (List.mem_cons_of_mem _ member)

/-- Joining pieces by the pair and splitting again splits each of them. -/
theorem splitPair_intercalate_eq_flatMap (differ : a ≠ b) {pieces : List (List Char)}
    (nonempty : pieces ≠ []) :
    splitPair a b ([a, b].intercalate pieces) = pieces.flatMap (splitPair a b) := by
  induction pieces with
  | nil => exact absurd rfl nonempty
  | cons piece pieces ih =>
    cases pieces with
    | nil => simp
    | cons next pieces =>
      rw [List.intercalate_cons_of_ne_nil (by simp), List.append_assoc, List.flatMap_cons,
        ← ih (by simp)]
      exact splitPair_append_pair differ piece _

theorem splitPair_intercalate (differ : a ≠ b) {pieces : List (List Char)} (nonempty : pieces ≠ [])
    (unbroken : ∀ piece ∈ pieces, Unbroken a b piece) :
    splitPair a b ([a, b].intercalate pieces) = pieces := by
  rw [splitPair_intercalate_eq_flatMap differ nonempty]
  clear nonempty
  induction pieces with
  | nil => rfl
  | cons piece pieces ih =>
    obtain ⟨first, later⟩ := List.forall_mem_cons.mp unbroken
    rw [List.flatMap_cons, splitPair_unbroken first, ih later, List.singleton_append]

def pairCount (a b : Char) (cs : List Char) : Nat := (cs.zip cs.tail).count (a, b)

theorem pairCount_cons_cons (c d : Char) (rest : List Char) :
    pairCount a b (c :: d :: rest) =
      pairCount a b (d :: rest) + if c = a ∧ d = b then 1 else 0 := by
  simp [pairCount, List.count_cons]

theorem pairCount_eq_zero {cs : List Char} : pairCount a b cs = 0 ↔ Unbroken a b cs := by
  induction cs with
  | nil => simp [pairCount, Unbroken]
  | cons c cs ih =>
    rw [unbroken_cons_iff, ← ih]
    cases cs with
    | nil => simp [pairCount]
    | cons d rest =>
      rw [pairCount_cons_cons]
      by_cases found : c = a ∧ d = b <;> simp [found]

/-- Every pair ends a piece. -/
theorem length_splitPair (differ : a ≠ b) (cs : List Char) :
    (splitPair a b cs).length = pairCount a b cs + 1 := by
  induction cs using splitPair.induct a b with
  | case1 => rfl
  | case2 c => rfl
  | case3 c d rest found ih =>
    obtain ⟨rfl, rfl⟩ := found
    have inside : pairCount c d (d :: rest) = pairCount c d rest := by
      cases rest with
      | nil => rfl
      | cons e rest => simp [pairCount_cons_cons, differ.symm]
    rw [splitPair_pair, List.length_cons, ih, pairCount_cons_cons, inside]
    simp
  | case4 c d rest apart ih =>
    obtain ⟨first, pieces, split⟩ := List.exists_cons_of_ne_nil (splitPair_ne_nil (d :: rest))
    rw [split] at ih
    rw [splitPair, if_neg apart, split, pairCount_cons_cons, if_neg apart]
    exact ih

structure Columns (a b : Char) (text : String) (columns : List String) : Prop where
  nonempty : columns ≠ []
  joined : (String.ofList [a, b]).intercalate columns = text
  unbroken : ∀ column ∈ columns, Unbroken a b column.toList

theorem splitAtPair_eq_iff (differ : a ≠ b) (text : String) (columns : List String) :
    splitAtPair a b text = columns ↔ Columns a b text columns := by
  constructor
  · rintro rfl
    refine ⟨by simp [splitAtPair, splitPair_ne_nil], ?_, ?_⟩
    · apply String.toList_injective
      rw [String.toList_intercalate]
      simpa [splitAtPair, Function.comp_def] using intercalate_splitPair text.toList
    · intro column member
      obtain ⟨piece, inside, rfl⟩ := List.mem_map.mp member
      simpa using unbroken_splitPair text.toList piece inside
  · rintro ⟨nonempty, rfl, unbroken⟩
    have split : splitPair a b ([a, b].intercalate (columns.map String.toList)) = _ :=
      splitPair_intercalate differ (by simpa using nonempty) (by simpa using unbroken)
    rw [splitAtPair, String.toList_intercalate, String.toList_ofList, split]
    simp [Function.comp_def]

theorem unbroken_of_not_mem {piece : List Char} (absent : a ∉ piece) : Unbroken a b piece :=
  fun pair => absent (pair.subset List.mem_cons_self)

/-- A piece between separators does not hold one. -/
theorem not_mem_of_mem_splitOn {cs piece : List Char} (member : piece ∈ cs.splitOn a) : a ∉ piece := by
  induction cs generalizing piece with
  | nil =>
    rw [List.splitOn_nil, List.mem_singleton] at member
    simp [member]
  | cons c cs ih =>
    obtain ⟨first, pieces, split⟩ := List.exists_cons_of_ne_nil (List.splitOn_ne_nil a cs)
    rw [List.splitOn_cons_eq_if_modifyHead, split] at member
    rw [split] at ih
    split at member
    · rcases List.mem_cons.mp member with rfl | later
      · simp
      · exact ih later
    · rename_i other
      rcases List.mem_cons.mp member with rfl | later
      · have apart : a ≠ c := fun same => other (by simp [same])
        simp [apart, ih List.mem_cons_self]
      · exact ih (List.mem_cons_of_mem _ later)

/-- What is appended to a text and holds no separator goes to the last piece. -/
theorem splitOn_append_of_not_mem {tail : List Char} (absent : a ∉ tail) (front : List Char) :
    ∃ pieces last, front.splitOn a = pieces ++ [last] ∧
      (front ++ tail).splitOn a = pieces ++ [last ++ tail] := by
  by_cases separated : a ∈ front
  · obtain ⟨back, rest, split, unseparated⟩ := List.eq_append_cons_of_mem (List.mem_reverse.mpr separated)
    have whole : front = rest.reverse ++ a :: back.reverse := by
      rw [← List.reverse_reverse front, split]
      simp
    have last : a ∉ back.reverse := by simpa using unseparated
    have longer : a ∉ back.reverse ++ tail := by simpa using ⟨unseparated, absent⟩
    refine ⟨rest.reverse.splitOn a, back.reverse, ?_, ?_⟩
    · rw [whole, List.splitOn_append_cons_self, List.splitOn_eq_singleton last]
    · rw [whole, List.append_assoc, List.cons_append, List.splitOn_append_cons_self,
        List.splitOn_eq_singleton longer]
  · have longer : a ∉ front ++ tail := by simpa using ⟨separated, absent⟩
    exact ⟨[], front, List.splitOn_eq_singleton separated, List.splitOn_eq_singleton longer⟩

theorem append_separator_inj {piece other rest more : List Char} (absent : a ∉ piece)
    (absent' : a ∉ other) (same : piece ++ a :: rest = other ++ a :: more) :
    piece = other ∧ rest = more := by
  have split := congrArg (List.splitOn a) same
  rw [List.splitOn_append_cons_self_of_not_mem absent,
    List.splitOn_append_cons_self_of_not_mem absent'] at split
  obtain ⟨rfl, -⟩ := List.cons.inj split
  simpa using same

theorem mem_intercalate_of_mem {separator piece : List Char} {pieces : List (List Char)} {c : Char}
    (member : piece ∈ pieces) (inside : c ∈ piece) : c ∈ separator.intercalate pieces := by
  induction pieces with
  | nil => contradiction
  | cons first rest ih =>
    cases rest with
    | nil =>
      rw [List.mem_singleton] at member
      simpa [← member] using inside
    | cons next rest =>
      rw [List.intercalate_cons_of_ne_nil (by simp), List.mem_append, List.mem_append]
      rcases List.mem_cons.mp member with rfl | later
      · exact Or.inl (Or.inl inside)
      · exact Or.inr (ih later)

theorem not_mem_of_mem_splitAtChar {s piece : String} (member : piece ∈ splitAtChar a s) :
    a ∉ piece.toList := by
  obtain ⟨chars, inside, rfl⟩ := List.mem_map.mp member
  rw [String.toList_ofList]
  exact not_mem_of_mem_splitOn inside

/-- The pieces of a text between the occurrences of a character. -/
structure Pieces (separator : Char) (text : String) (pieces : List String) : Prop where
  nonempty : pieces ≠ []
  unseparated : ∀ piece ∈ pieces, separator ∉ piece.toList
  joined : String.intercalate (String.singleton separator) pieces = text

theorem splitAtChar_eq_iff {text : String} {pieces : List String} :
    splitAtChar a text = pieces ↔ Pieces a text pieces := by
  constructor
  · rintro rfl
    refine ⟨?_, fun piece => not_mem_of_mem_splitAtChar, ?_⟩
    · simp [splitAtChar]
    · apply String.toList_injective
      have chars : (splitAtChar a text).map String.toList = text.toList.splitOn a := by
        simp [splitAtChar, Function.comp_def]
      rw [String.toList_intercalate, chars, String.toList_singleton, List.intercalate_splitOn]
  · rintro ⟨nonempty, unseparated, rfl⟩
    have apart : ∀ piece ∈ pieces.map String.toList, a ∉ piece := by simpa using unseparated
    rw [splitAtChar, String.toList_intercalate, String.toList_singleton,
      List.splitOn_intercalate a apart (by simpa using nonempty)]
    simp [Function.comp_def]

theorem mem_of_mem_splitAtChar {s piece : String} {c : Char} (member : piece ∈ splitAtChar a s)
    (inside : c ∈ piece.toList) : c ∈ s.toList := by
  obtain ⟨chars, among, rfl⟩ := List.mem_map.mp member
  rw [String.toList_ofList] at inside
  have joined : [a].intercalate (s.toList.splitOn a) = s.toList := List.intercalate_splitOn a
  rw [← joined]
  exact mem_intercalate_of_mem among inside

namespace Columns
variable {text first : String} {columns : List String}

theorem mem_of_mem_column (split : Columns a b text columns) {column : String} {c : Char}
    (member : column ∈ columns) (inside : c ∈ column.toList) : c ∈ text.toList := by
  rw [← split.joined, String.toList_intercalate]
  exact mem_intercalate_of_mem (List.mem_map_of_mem member) inside

theorem head?_of_first (split : Columns a b text (first :: columns)) {c : Char}
    (begins : first.toList.head? = some c) : text.toList.head? = some c := by
  rw [← split.joined, String.toList_intercalate, List.map_cons]
  cases chars : first.toList with
  | nil => simp [chars] at begins
  | cons d rest =>
    rw [List.intercalate_cons_cons_left]
    simpa [chars] using begins

end Columns

end EffectSurvey.Text
