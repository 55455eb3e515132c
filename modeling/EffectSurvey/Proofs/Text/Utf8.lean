import EffectSurvey.Text.Utf8

/-! A text survives encoding and decoding. The ranges that a lead byte sets for the byte after it admit
every encoded character, so no part of an encoding is taken for an ill-formed stretch. -/
namespace EffectSurvey.Text.Utf8

theorem toNat_continuation (n : Nat) : (continuation n).toNat = 0x80 + n % 64 := by
  have small : 0x80 + n % 64 < UInt8.size := by
    have := Nat.mod_lt n (show 0 < 64 by decide)
    simp only [UInt8.size]
    omega
  exact UInt8.toNat_ofNat_of_lt' small

/-- A byte in the expected range gives the next six bits. -/
theorem readTail_continuation {low high m : Nat} (bits : Nat) (ranges : List (Nat × Nat))
    (rest : Bytes) (above : low ≤ 0x80 + m % 64) (below : 0x80 + m % 64 ≤ high) :
    readTail bits ((low, high) :: ranges) (continuation m :: rest) =
      readTail (bits * 64 + m % 64) ranges rest := by
  have sixBits : (0x80 + m % 64) % 64 = m % 64 := by omega
  rw [readTail, toNat_continuation, if_pos ⟨above, below⟩, sixBits]

theorem lead?_two {n : Nat} (above : 0x80 ≤ n) (below : n < 0x800) :
    lead? (0xC0 + n / 64) = some (n / 64, [(0x80, 0xBF)]) := by
  have range : 0xC2 ≤ 0xC0 + n / 64 ∧ 0xC0 + n / 64 ≤ 0xDF := by omega
  simp only [lead?]
  rw [if_pos range, Nat.add_sub_cancel_left]

/-- The range of the second byte rules out what two bytes can write, and the surrogates. -/
theorem lead?_three {n : Nat} (above : 0x800 ≤ n) (below : n < 0x10000)
    (scalar : n < 0xD800 ∨ 0xDFFF < n) :
    ∃ low high, lead? (0xE0 + n / 4096) = some (n / 4096, [(low, high), (0x80, 0xBF)]) ∧
      low ≤ 0x80 + n / 64 % 64 ∧ 0x80 + n / 64 % 64 ≤ high := by
  simp only [lead?]
  rw [if_neg (by omega)]
  by_cases first : n / 4096 = 0
  · exact ⟨0xA0, 0xBF, by simp [first], by omega, by omega⟩
  · rw [if_neg (by omega)]
    by_cases before : n / 4096 = 0xD
    · exact ⟨0x80, 0x9F, by simp [before], by omega, by omega⟩
    · rw [if_neg (by omega), if_pos (by omega), Nat.add_sub_cancel_left]
      exact ⟨0x80, 0xBF, rfl, by omega, by omega⟩

/-- The range of the second byte rules out what three bytes can write, and what lies past the last
character. -/
theorem lead?_four {n : Nat} (above : 0x10000 ≤ n) (below : n < 0x110000) :
    ∃ low high,
      lead? (0xF0 + n / 262144) = some (n / 262144, [(low, high), (0x80, 0xBF), (0x80, 0xBF)]) ∧
      low ≤ 0x80 + n / 4096 % 64 ∧ 0x80 + n / 4096 % 64 ≤ high := by
  simp only [lead?]
  rw [if_neg (by omega), if_neg (by omega), if_neg (by omega), if_neg (by omega)]
  by_cases first : n / 262144 = 0
  · exact ⟨0x90, 0xBF, by simp [first], by omega, by omega⟩
  · rw [if_neg (by omega)]
    by_cases last : n / 262144 = 4
    · exact ⟨0x80, 0x8F, by simp [last], by omega, by omega⟩
    · rw [if_pos (by omega), Nat.add_sub_cancel_left]
      exact ⟨0x80, 0xBF, rfl, by omega, by omega⟩

theorem readChar_ascii {n : Nat} (below : n < 0x80) (rest : Bytes) :
    readChar (UInt8.ofNat n) rest = (some (Char.ofNat n), rest) := by
  have value : (UInt8.ofNat n).toNat = n :=
    UInt8.toNat_ofNat_of_lt' (show n < UInt8.size by simp only [UInt8.size]; omega)
  rw [readChar, value, if_pos below]

theorem readChar_lead {lead bits n : Nat} {ranges : List (Nat × Nat)} {after rest : Bytes}
    (above : 0x80 ≤ lead) (below : lead < 0x100) (known : lead? lead = some (bits, ranges))
    (tail : readTail bits ranges after = (some n, rest)) :
    readChar (UInt8.ofNat lead) after = (some (Char.ofNat n), rest) := by
  have value : (UInt8.ofNat lead).toNat = lead := UInt8.toNat_ofNat_of_lt' below
  rw [readChar, value, if_neg (by omega), known]
  simp [tail]

theorem scalar_toNat (c : Char) : c.toNat < 0xD800 ∨ 0xDFFF < c.toNat ∧ c.toNat < 0x110000 := c.valid

theorem decodeChars_encodeChar (c : Char) (rest : Bytes) :
    decodeChars (encodeChar c ++ rest) = some c :: decodeChars rest := by
  suffices whole : ∃ lead tail, encodeChar c = lead :: tail ∧
      readChar lead (tail ++ rest) = (some c, rest) by
    obtain ⟨lead, tail, bytes, read⟩ := whole
    rw [bytes, List.cons_append, decodeChars, read]
  have scalar := scalar_toNat c
  have back : Char.ofNat c.toNat = c := Char.ofNat_toNat c
  simp only [encodeChar]
  generalize c.toNat = n at *
  subst back
  by_cases one : n < 0x80
  · exact ⟨_, _, if_pos one, readChar_ascii one rest⟩
  rw [if_neg one]
  by_cases two : n < 0x800
  · refine ⟨_, _, if_pos two, readChar_lead (by omega) (by omega) (lead?_two (by omega) two) ?_⟩
    have value : n / 64 * 64 + n % 64 = n := by omega
    rw [List.cons_append, readTail_continuation _ _ _ (by omega) (by omega), value]
    rfl
  rw [if_neg two]
  by_cases three : n < 0x10000
  · obtain ⟨low, high, known, above, below⟩ := lead?_three (by omega) three (by omega)
    refine ⟨_, _, if_pos three, readChar_lead (by omega) (by omega) known ?_⟩
    have value : (n / 4096 * 64 + n / 64 % 64) * 64 + n % 64 = n := by omega
    rw [List.cons_append, List.cons_append, readTail_continuation _ _ _ above below,
      readTail_continuation _ _ _ (by omega) (by omega), value]
    rfl
  · obtain ⟨low, high, known, above, below⟩ := lead?_four (n := n) (by omega) (by omega)
    refine ⟨_, _, if_neg three, readChar_lead (by omega) (by omega) known ?_⟩
    have value : ((n / 262144 * 64 + n / 4096 % 64) * 64 + n / 64 % 64) * 64 + n % 64 = n := by omega
    simp only [List.cons_append]
    rw [readTail_continuation _ _ _ above below, readTail_continuation _ _ _ (by omega) (by omega),
      readTail_continuation _ _ _ (by omega) (by omega), value]
    rfl

theorem decodeChars_encode (s : String) : decodeChars (encode s) = s.toList.map some := by
  rw [encode]
  induction s.toList with
  | nil => rw [List.flatMap_nil, decodeChars]; rfl
  | cons c rest ih => rw [List.flatMap_cons, decodeChars_encodeChar, ih, List.map_cons]

/-- Decoding an encoded text replaces nothing. -/
theorem decodeLossy_encode (s : String) : decodeLossy (encode s) = s := by
  rw [decodeLossy, decodeChars_encode, List.map_map]
  simp [Function.comp_def]

end EffectSurvey.Text.Utf8
