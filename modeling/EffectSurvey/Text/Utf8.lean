/-! UTF-8: every text has an encoding, and every byte sequence decodes to a text once each ill-formed
stretch is replaced. -/
namespace EffectSurvey

abbrev Bytes := List UInt8

namespace Text.Utf8

/-- A byte that continues a sequence, with six bits of its code point. -/
def continuation (n : Nat) : UInt8 := UInt8.ofNat (0x80 + n % 64)

def encodeChar (c : Char) : Bytes :=
  let n := c.toNat
  if n < 0x80 then [UInt8.ofNat n]
  else if n < 0x800 then [UInt8.ofNat (0xC0 + n / 64), continuation n]
  else if n < 0x10000 then
    [UInt8.ofNat (0xE0 + n / 4096), continuation (n / 64), continuation n]
  else
    [UInt8.ofNat (0xF0 + n / 262144), continuation (n / 4096), continuation (n / 64), continuation n]

def encode (s : String) : Bytes := s.toList.flatMap encodeChar

/-- The bits that a lead byte gives and the ranges of the bytes that must follow it. No other bytes
begin the sequence of a character outside ASCII. -/
def lead? (b : Nat) : Option (Nat × List (Nat × Nat)) :=
  let tail := (0x80, 0xBF)
  if 0xC2 ≤ b ∧ b ≤ 0xDF then some (b - 0xC0, [tail])
  else if b = 0xE0 then some (0, [(0xA0, 0xBF), tail])
  else if b = 0xED then some (0xD, [(0x80, 0x9F), tail])
  else if 0xE1 ≤ b ∧ b ≤ 0xEF then some (b - 0xE0, [tail, tail])
  else if b = 0xF0 then some (0, [(0x90, 0xBF), tail, tail])
  else if 0xF1 ≤ b ∧ b ≤ 0xF3 then some (b - 0xF0, [tail, tail, tail])
  else if b = 0xF4 then some (4, [(0x80, 0x8F), tail, tail])
  else none

/-- Reads as many of the expected bytes as are there: the code point if all are, and the rest of the
input after the last one that fits. -/
def readTail (n : Nat) : List (Nat × Nat) → Bytes → Option Nat × Bytes
  | [], bytes => (some n, bytes)
  | _ :: _, [] => (none, [])
  | (low, high) :: ranges, b :: rest =>
    if low ≤ b.toNat ∧ b.toNat ≤ high then readTail (n * 64 + b.toNat % 64) ranges rest
    else (none, b :: rest)

theorem length_readTail (n : Nat) (ranges : List (Nat × Nat)) (bytes : Bytes) :
    (readTail n ranges bytes).2.length ≤ bytes.length := by
  induction ranges generalizing n bytes with
  | nil => simp [readTail]
  | cons range ranges ih =>
    cases bytes with
    | nil => simp [readTail]
    | cons b rest =>
      rw [readTail]
      split
      · exact Nat.le_trans (ih _ rest) (by simp)
      · exact Nat.le_refl _

/-- One step of decoding after the byte `b`: the character, or nothing for an ill-formed stretch, and
the bytes after it. -/
def readChar (b : UInt8) (rest : Bytes) : Option Char × Bytes :=
  if b.toNat < 0x80 then (some (Char.ofNat b.toNat), rest)
  else
    match lead? b.toNat with
    | none => (none, rest)
    | some (bits, ranges) =>
      match readTail bits ranges rest with
      | (point, after) => (point.map Char.ofNat, after)

theorem length_readChar (b : UInt8) (rest : Bytes) : (readChar b rest).2.length ≤ rest.length := by
  unfold readChar
  split
  · exact Nat.le_refl _
  · split
    · exact Nat.le_refl _
    · exact length_readTail _ _ _

/-- The characters of a byte sequence, with nothing for each ill-formed stretch. -/
def decodeChars : Bytes → List (Option Char)
  | [] => []
  | b :: rest => (readChar b rest).1 :: decodeChars (readChar b rest).2
termination_by bytes => bytes.length
decreasing_by
  have := length_readChar b rest
  simp
  omega

/-- Stands for an ill-formed stretch. -/
def replacement : Char := Char.ofNat 0xFFFD

def decodeLossy (bytes : Bytes) : String :=
  String.ofList ((decodeChars bytes).map (·.getD replacement))

/-- The text of a well-formed byte sequence. -/
def decode? (bytes : Bytes) : Option String :=
  let chars := decodeChars bytes
  if chars.all Option.isSome then some (String.ofList (chars.filterMap id)) else none

end Text.Utf8
end EffectSurvey
