import EffectSurvey.Proofs.Text.Utf8
import EffectSurvey.Proofs.Transcript.Viability

/-! Transcripts whose lines end in a carriage return and a line feed. Neither of the two bytes can continue
the sequence of a character, so the returns come through decoding, broken sequences and all, and trimming the
lines takes them off. -/
namespace EffectSurvey

def Text.withReturns {α : Type} [DecidableEq α] (before feed : α) (items : List α) : List α :=
  items.flatMap fun item => if item = feed then [before, feed] else [item]

namespace Text
section WithReturns
variable {α : Type} [DecidableEq α] {before feed item : α} {items : List α}

@[simp] theorem withReturns_nil : withReturns before feed [] = [] := rfl

@[simp] theorem withReturns_feed (items : List α) :
    withReturns before feed (feed :: items) = before :: feed :: withReturns before feed items := by
  simp [withReturns]

theorem withReturns_cons (other : item ≠ feed) (items : List α) :
    withReturns before feed (item :: items) = item :: withReturns before feed items := by
  simp [withReturns, other]

theorem withReturns_append (items more : List α) :
    withReturns before feed (items ++ more) =
      withReturns before feed items ++ withReturns before feed more :=
  List.flatMap_append

theorem withReturns_of_not_mem (absent : feed ∉ items) : withReturns before feed items = items := by
  induction items with
  | nil => rfl
  | cons item items ih =>
    obtain ⟨other, absent⟩ := not_or.mp (mt List.mem_cons.mpr absent)
    rw [withReturns_cons (Ne.symm other), ih absent]

end WithReturns

namespace Utf8

/-- What a lead byte demands of the bytes after it: none is an ASCII byte, and already with the first of
them the code point is too large for one. -/
theorem demands_of_lead? {b bits : Nat} {ranges : List (Nat × Nat)}
    (known : lead? b = some (bits, ranges)) :
    (∀ range ∈ ranges, 0x80 ≤ range.1) ∧ ∃ low high later, ranges = (low, high) :: later ∧
      ∀ m, low ≤ m → m ≤ high → 0x80 ≤ (bits * 64 + m % 64) * 64 ^ later.length := by
  simp only [lead?] at known
  repeat' split at known
  all_goals
    simp only [Option.some.injEq, Prod.mk.injEq, reduceCtorEq] at known
  all_goals
    obtain ⟨rfl, rfl⟩ := known
    refine ⟨by simp, _, _, _, rfl, ?_⟩
    intro m above below
    simp only [List.length_nil, List.length_cons, Nat.reduceAdd, Nat.reducePow]
    omega

theorem readTail_withReturns {ranges : List (Nat × Nat)} (high : ∀ range ∈ ranges, 0x80 ≤ range.1)
    (n : Nat) (bytes : Bytes) :
    readTail n ranges (withReturns 0x0D 0x0A bytes) =
      ((readTail n ranges bytes).1, withReturns 0x0D 0x0A (readTail n ranges bytes).2) := by
  induction ranges generalizing n bytes with
  | nil => rfl
  | cons range ranges ih =>
    obtain ⟨first, later⟩ := List.forall_mem_cons.mp high
    cases bytes with
    | nil => rfl
    | cons b rest =>
      by_cases feed : b = 0x0A
      · subst feed
        have outside : ∀ m, m ≤ 0x0D → ¬ (range.1 ≤ m ∧ m ≤ range.2) := by omega
        rw [withReturns_feed, readTail, readTail, if_neg (outside _ (by decide)),
          if_neg (outside _ (by decide)), withReturns_feed]
      · rw [withReturns_cons feed, readTail, readTail]
        split
        · exact ih later _ rest
        · rw [withReturns_cons feed]

theorem le_of_readTail {n m : Nat} {ranges : List (Nat × Nat)} {bytes rest : Bytes}
    (read : readTail n ranges bytes = (some m, rest)) : n * 64 ^ ranges.length ≤ m := by
  induction ranges generalizing n bytes with
  | nil =>
    cases read
    simp
  | cons range ranges ih =>
    cases bytes with
    | nil => cases read
    | cons b bytes =>
      rw [readTail] at read
      split at read
      · have more := ih read
        rw [List.length_cons, Nat.pow_succ, Nat.mul_comm (64 ^ _), ← Nat.mul_assoc]
        exact Nat.le_trans (Nat.mul_le_mul_right _ (Nat.le_add_right _ _)) more
      · cases read

theorem ofNat_ne_feed {n : Nat} (other : n ≠ 0x0A) : Char.ofNat n ≠ '\n' := by
  by_cases valid : n.isValidChar
  · rw [Char.ofNat, dif_pos valid]
    exact fun same => other (congrArg Char.toNat same)
  · rw [Char.ofNat, dif_neg valid]
    decide

theorem le_of_readTail_lead {b bits m : Nat} {ranges : List (Nat × Nat)} {bytes rest : Bytes}
    (known : lead? b = some (bits, ranges)) (read : readTail bits ranges bytes = (some m, rest)) :
    0x80 ≤ m := by
  obtain ⟨-, low, high, later, rfl, large⟩ := demands_of_lead? known
  cases bytes with
  | nil => cases read
  | cons c bytes =>
    rw [readTail] at read
    split at read
    · rename_i inside
      exact Nat.le_trans (large _ inside.1 inside.2) (le_of_readTail read)
    · cases read

/-- Only one byte is read as a line feed. -/
theorem readChar_ne_feed {b : UInt8} (other : b ≠ 0x0A) (rest : Bytes) :
    (readChar b rest).1 ≠ some '\n' := by
  unfold readChar
  split
  · have apart : b.toNat ≠ 0x0A := fun same => other (UInt8.toNat_inj.mp same)
    simpa using ofNat_ne_feed apart
  · split
    · simp
    · rename_i bits ranges known
      cases read : readTail bits ranges rest with
      | mk point after =>
        cases point with
        | none => simp
        | some m =>
          have above := le_of_readTail_lead known read
          simpa using ofNat_ne_feed (n := m) (by omega)

theorem readChar_withReturns (b : UInt8) (rest : Bytes) :
    readChar b (withReturns 0x0D 0x0A rest) =
      ((readChar b rest).1, withReturns 0x0D 0x0A (readChar b rest).2) := by
  unfold readChar
  split
  · rfl
  · split
    · rfl
    · rename_i bits ranges known
      rw [readTail_withReturns (demands_of_lead? known).1]

theorem decodeChars_withReturns (bytes : Bytes) :
    decodeChars (withReturns 0x0D 0x0A bytes) =
      withReturns (some '\r') (some '\n') (decodeChars bytes) := by
  induction bytes using decodeChars.induct with
  | case1 => simp [decodeChars]
  | case2 b rest ih =>
    by_cases feed : b = 0x0A
    · subst feed
      have ret : ∀ more, readChar 0x0D more = (some '\r', more) := fun _ => rfl
      have line : ∀ more, readChar 0x0A more = (some '\n', more) := fun _ => rfl
      simp only [line] at ih
      rw [withReturns_feed, decodeChars, ret, decodeChars, line, ih, decodeChars, line, withReturns_feed]
    · rw [withReturns_cons feed, decodeChars, readChar_withReturns, ih, decodeChars,
        withReturns_cons (readChar_ne_feed feed rest)]

/-- The returns come through decoding, also behind an ill-formed stretch. -/
theorem decodeLossy_withReturns (bytes : Bytes) :
    decodeLossy (withReturns 0x0D 0x0A bytes) =
      String.ofList (withReturns '\r' '\n' (decodeLossy bytes).toList) := by
  rw [decodeLossy, decodeLossy, decodeChars_withReturns, String.toList_ofList]
  congr 1
  induction decodeChars bytes with
  | nil => rfl
  | cons point points ih =>
    by_cases feed : point = some '\n'
    · subst feed
      simpa using ih
    · have other : point.getD replacement ≠ '\n' := by
        cases point with
        | none => decide
        | some c => simpa using feed
      rw [withReturns_cons feed, List.map_cons, List.map_cons, withReturns_cons other, ih]

end Utf8

theorem trimmedLines_withReturns (s : String) :
    trimmedLines (String.ofList (withReturns '\r' '\n' s.toList)) = trimmedLines s := by
  induction s using lineRec with
  | last line single => rw [withReturns_of_not_mem single, String.ofList_toList]
  | more line rest single ih =>
    have split : String.ofList (withReturns '\r' '\n' (line ++ "\n" ++ rest).toList) =
        line ++ "\r" ++ "\n" ++ String.ofList (withReturns '\r' '\n' rest.toList) := by
      apply String.toList_injective
      simp [withReturns_append, withReturns_of_not_mem single]
    rw [split, trimmedLines_append (by simpa using single), trimmedLines_append single,
      trim_append_return, ih]

end Text

namespace Transcript

/-- A reader sees no more of its lines than trimming leaves. -/
theorem Reader.complete_congr {lines others : List String} (r : Reader)
    (same : lines.map Text.trim = others.map Text.trim) : r.complete lines = r.complete others := by
  induction lines generalizing r others with
  | nil =>
    rw [List.map_nil, eq_comm, List.map_eq_nil_iff] at same
    rw [same]
  | cons line lines ih =>
    obtain ⟨other, others, rfl, first, later⟩ := List.map_eq_cons_iff.mp same.symm
    rw [complete_cons, complete_cons, feed, feed, first]
    rcases r.count.take (Text.trim line) with ⟨next, _ | e⟩
    · exact ih next later.symm
    · rfl

/-- It makes no difference whether lines end in a line feed or in a carriage return and a line feed: the
scan is the same, or the error with all that it says. -/
theorem read_ignores_returns (package : String) (output : Bytes) :
    read package (Text.withReturns 0x0D 0x0A output) = read package output := by
  have same := Text.trimmedLines_withReturns (Text.Utf8.decodeLossy output)
  rw [Text.trimmedLines, Text.trimmedLines, ← Text.Utf8.decodeLossy_withReturns] at same
  exact (Reader.start package).complete_congr same

end Transcript
end EffectSurvey
