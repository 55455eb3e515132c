/-! Decimal numerals with an optional sign, read into a bounded range. -/
namespace EffectSurvey.Text

/-- Words hold the numbers below this bound. -/
def wordBound : Nat := UInt64.size

def digit? (c : Char) : Option Nat :=
  if '0' ≤ c ∧ c ≤ '9' then some (c.toNat - '0'.toNat) else none

/-- The value of a list of digits read after the number `n`. -/
def readDigits (n : Nat) : List Char → Option Nat
  | [] => some n
  | c :: rest => (digit? c).bind fun d => readDigits (10 * n + d) rest

/-- One or more digits. -/
def magnitude? (cs : List Char) : Option Nat :=
  if cs.isEmpty then none else readDigits 0 cs

/-- One or more digits after an optional plus sign. -/
def numeral? : List Char → Option Nat
  | '+' :: rest => magnitude? rest
  | cs => magnitude? cs

/-- A numeral below the word bound. -/
def word? (s : String) : Option Nat :=
  (numeral? s.toList).bind fun n => if n < wordBound then some n else none

/-- One or more digits after an optional sign, from `-2^63` up to `2^63 - 1`. -/
def signedWord? (s : String) : Option Int :=
  match s.toList with
  | '-' :: rest => (magnitude? rest).bind fun n => if n ≤ wordBound / 2 then some (-(n : Int)) else none
  | cs => (numeral? cs).bind fun n => if n < wordBound / 2 then some (n : Int) else none

def decimal (n : Nat) : String := n.repr

end EffectSurvey.Text
