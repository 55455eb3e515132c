import EffectSurvey.Proofs.Text.Blank
import EffectSurvey.Text.Decimal
import Mathlib.Data.Nat.Digits.Defs

/-! What the readers of decimal numerals accept, and the number they read. -/
namespace EffectSurvey.Text

/-- The number that decimal digits stand for, the most significant one first. -/
def digitsValue (digits : List Char) : Nat :=
  Nat.ofDigits 10 (digits.map fun c => c.toNat - '0'.toNat).reverse

structure Digits (digits : List Char) (n : Nat) : Prop where
  nonempty : digits ≠ []
  decimal : ∀ c ∈ digits, c.isDigit = true
  value : digitsValue digits = n

/-- Digits after an optional plus sign, for a number below `2 ^ 64`. -/
def Numeral (text : String) (n : Nat) : Prop :=
  ∃ digits, (text.toList = digits ∨ text.toList = '+' :: digits) ∧ Digits digits n ∧ n < 2 ^ 64

/-- Digits after an optional sign, for a number from `-2 ^ 63` up to `2 ^ 63 - 1`. -/
def SignedNumeral (text : String) (z : Int) : Prop :=
  ∃ digits n, Digits digits n ∧
    ((text.toList = digits ∨ text.toList = '+' :: digits) ∧ z = n ∨
      text.toList = '-' :: digits ∧ z = -n) ∧ -2 ^ 63 ≤ z ∧ z < 2 ^ 63

theorem digit?_eq_some {c : Char} {d : Nat} :
    digit? c = some d ↔ c.isDigit = true ∧ d = c.toNat - '0'.toNat := by
  have range : ('0' ≤ c ∧ c ≤ '9') ↔ c.isDigit = true := by
    simp [Char.isDigit, Char.le_def]
  simp only [digit?, range]
  split <;> rename_i digit
  · exact ⟨fun read => ⟨digit, (Option.some.inj read).symm⟩, fun read => congrArg some read.2.symm⟩
  · simp [digit]

theorem digitsValue_cons (c : Char) (rest : List Char) :
    digitsValue (c :: rest) = (c.toNat - '0'.toNat) * 10 ^ rest.length + digitsValue rest := by
  simp only [digitsValue, List.map_cons, Nat.ofDigits_reverse_cons, List.length_map]
  ring

theorem readDigits_eq_some {n m : Nat} {digits : List Char} :
    readDigits n digits = some m ↔
      (∀ c ∈ digits, c.isDigit = true) ∧ m = n * 10 ^ digits.length + digitsValue digits := by
  induction digits generalizing n with
  | nil =>
    have value : digitsValue [] = 0 := rfl
    simpa [readDigits, value] using eq_comm
  | cons c rest ih =>
    rw [readDigits, Option.bind_eq_some_iff, digitsValue_cons, List.forall_mem_cons]
    constructor
    · rintro ⟨d, read, later⟩
      obtain ⟨digit, rfl⟩ := digit?_eq_some.mp read
      obtain ⟨digits, rfl⟩ := ih.mp later
      refine ⟨⟨digit, digits⟩, ?_⟩
      rw [List.length_cons]
      ring
    · rintro ⟨⟨digit, digits⟩, rfl⟩
      refine ⟨_, digit?_eq_some.mpr ⟨digit, rfl⟩, ih.mpr ⟨digits, ?_⟩⟩
      rw [List.length_cons]
      ring

theorem magnitude?_eq_some {digits : List Char} {n : Nat} :
    magnitude? digits = some n ↔ Digits digits n := by
  cases digits with
  | nil => exact ⟨by simp [magnitude?], fun read => absurd rfl read.nonempty⟩
  | cons c rest =>
    simp only [magnitude?, List.isEmpty_cons, Bool.false_eq_true, if_false, readDigits_eq_some,
      Nat.zero_mul, Nat.zero_add]
    exact ⟨fun read => ⟨by simp, read.1, read.2.symm⟩, fun read => ⟨read.decimal, read.value.symm⟩⟩

theorem not_digits_cons {c : Char} {rest : List Char} {n : Nat} (sign : c.isDigit = false) :
    ¬ Digits (c :: rest) n := by
  intro read
  rw [read.decimal c List.mem_cons_self] at sign
  contradiction

theorem numeral?_eq_some {cs : List Char} {n : Nat} :
    numeral? cs = some n ↔ ∃ digits, (cs = digits ∨ cs = '+' :: digits) ∧ Digits digits n := by
  unfold numeral?
  split
  · rename_i rest
    rw [magnitude?_eq_some]
    constructor
    · exact fun read => ⟨rest, Or.inr rfl, read⟩
    · rintro ⟨digits, rfl | same, read⟩
      · exact absurd read (not_digits_cons rfl)
      · exact (List.cons.inj same).2 ▸ read
  · rename_i unsigned
    rw [magnitude?_eq_some]
    constructor
    · exact fun read => ⟨cs, Or.inl rfl, read⟩
    · rintro ⟨digits, rfl | rfl, read⟩
      · exact read
      · exact absurd rfl (unsigned digits)

theorem word?_eq_some {text : String} {n : Nat} : word? text = some n ↔ Numeral text n := by
  rw [word?, Option.bind_eq_some_iff, Numeral]
  constructor
  · rintro ⟨m, read, bounded⟩
    obtain ⟨digits, spelled, value⟩ := numeral?_eq_some.mp read
    split at bounded
    · rename_i below
      cases bounded
      exact ⟨digits, spelled, value, below⟩
    · contradiction
  · rintro ⟨digits, spelled, value, below⟩
    exact ⟨n, numeral?_eq_some.mpr ⟨digits, spelled, value⟩, if_pos below⟩

theorem signedWord?_eq_some {text : String} {z : Int} :
    signedWord? text = some z ↔ SignedNumeral text z := by
  have half : wordBound / 2 = 2 ^ 63 := rfl
  unfold signedWord? SignedNumeral
  split
  · rename_i rest chars
    rw [Option.bind_eq_some_iff]
    constructor
    · rintro ⟨n, read, bounded⟩
      split at bounded
      · cases bounded
        exact ⟨rest, n, magnitude?_eq_some.mp read, .inr ⟨chars, rfl⟩, by omega, by omega⟩
      · contradiction
    · rintro ⟨digits, n, value, ⟨same | same, -⟩ | ⟨same, rfl⟩, low, -⟩
      · exact absurd ((same.symm.trans chars) ▸ value) (not_digits_cons rfl)
      · simp [chars] at same
      · obtain rfl : rest = digits := (List.cons.inj (chars.symm.trans same)).2
        exact ⟨n, magnitude?_eq_some.mpr value, if_pos (by omega)⟩
  · rename_i unsigned
    rw [Option.bind_eq_some_iff]
    constructor
    · rintro ⟨n, read, bounded⟩
      obtain ⟨digits, spelled, value⟩ := numeral?_eq_some.mp read
      split at bounded
      · cases bounded
        exact ⟨digits, n, value, .inl ⟨spelled, rfl⟩, by omega, by omega⟩
      · contradiction
    · rintro ⟨digits, n, value, ⟨spelled, rfl⟩ | ⟨same, -⟩, -, high⟩
      · exact ⟨n, numeral?_eq_some.mpr ⟨digits, spelled, value⟩, if_pos (by omega)⟩
      · exact absurd same (unsigned digits)

theorem readDigits_eq_ofDigitChars {n : Nat} {digits : List Char}
    (decimal : ∀ c ∈ digits, c.isDigit = true) :
    readDigits n digits = some (Nat.ofDigitChars 10 digits n) := by
  induction digits generalizing n with
  | nil => rfl
  | cons c rest ih =>
    obtain ⟨digit, later⟩ := List.forall_mem_cons.mp decimal
    rw [readDigits, digit?_eq_some.mpr ⟨digit, rfl⟩, Nat.ofDigitChars_cons]
    exact ih later

/-- A printed number is read back. -/
theorem digits_decimal (n : Nat) : Digits (decimal n).toList n := by
  have printed : (decimal n).toList = Nat.toDigits 10 n := String.toList_ofList
  have digits : ∀ c ∈ Nat.toDigits 10 n, c.isDigit = true := fun c member =>
    Nat.isDigit_of_mem_toDigits (by decide) (by decide) member
  have nonempty : (Nat.toDigits 10 n).isEmpty = false := by simp [Nat.toDigits_ne_nil]
  rw [printed, ← magnitude?_eq_some, magnitude?, nonempty, readDigits_eq_ofDigitChars digits,
    Nat.ofDigitChars_ten_toDigits]
  rfl

theorem decimal_injective {m n : Nat} (same : decimal m = decimal n) : m = n := by
  have digits := digits_decimal m
  rw [same] at digits
  exact digits.value.symm.trans (digits_decimal n).value

theorem numeral_decimal {n : Nat} (bounded : n < 2 ^ 64) : Numeral (decimal n) n :=
  ⟨_, Or.inl rfl, digits_decimal n, bounded⟩

theorem not_isBlank_of_isDigit {c : Char} (digit : c.isDigit = true) : isBlank c = false := by
  have range : 48 ≤ c.toNat ∧ c.toNat ≤ 57 := by
    simpa [Char.isDigit, Char.le_def, UInt32.le_iff_toNat_le] using digit
  simp only [isBlank, Bool.or_eq_false_iff, Bool.and_eq_false_iff, decide_eq_false_iff_not,
    beq_eq_false_iff_ne]
  omega

theorem not_mem_decimal {c : Char} (other : c.isDigit = false) (n : Nat) :
    c ∉ (decimal n).toList := by
  intro member
  have digit := (digits_decimal n).decimal c member
  rw [other] at digit
  contradiction

theorem not_isBlank_of_mem_decimal {c : Char} {n : Nat} (member : c ∈ (decimal n).toList) :
    isBlank c = false :=
  not_isBlank_of_isDigit ((digits_decimal n).decimal c member)

theorem trim_decimal (n : Nat) : trim (decimal n) = decimal n :=
  trim_eq_self (fun _ first => not_isBlank_of_mem_decimal (List.mem_of_head? first))
    fun _ last => not_isBlank_of_mem_decimal (List.mem_of_getLast? last)

end EffectSurvey.Text
