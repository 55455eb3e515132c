import EffectSurvey.Toml.Strings
import EffectSurvey.Toml.Value

/-! The numbers and dates of TOML. -/
namespace EffectSurvey.Toml

/-- Digits, with single underscores between them. -/
def moreDigits (isDigit : Char → Bool) : List Char → List Char × List Char
  | [] => ([], [])
  | [c] => if isDigit c then ([c], []) else ([], [c])
  | c :: d :: rest =>
    if isDigit c then
      let (digits, after) := moreDigits isDigit (d :: rest)
      (c :: digits, after)
    else if c == '_' && isDigit d then
      let (digits, after) := moreDigits isDigit rest
      (d :: digits, after)
    else ([], c :: d :: rest)

/-- One digit and more. -/
def digits? (isDigit : Char → Bool) (cs : List Char) : Scan :=
  match cs with
  | c :: rest =>
    if isDigit c then
      let (digits, after) := moreDigits isDigit rest
      some (c :: digits, after)
    else none
  | [] => none

/-- A sign that may be missing: whether it is a minus, and what follows. -/
def sign (cs : List Char) : Bool × List Char :=
  match cs with
  | '+' :: rest => (false, rest)
  | '-' :: rest => (true, rest)
  | _ => (false, cs)

/-- Digits of which the first is no zero, or a single zero. -/
def whole? (cs : List Char) : Scan :=
  match cs with
  | '0' :: rest => some (['0'], rest)
  | _ => digits? Char.isDigit cs

def digitsValue (base : Nat) (digits : List Char) : Nat :=
  digits.foldl (fun n c => base * n + (hexDigit? c).getD 0) 0

def inRange (n : Int) : Option Value :=
  if Int64.minValue.toInt ≤ n ∧ n ≤ Int64.maxValue.toInt then some (.integer n) else none

def isOctal (c : Char) : Bool := '0' ≤ c && c ≤ '7'

def isBinary (c : Char) : Bool := c == '0' || c == '1'

def radix? (base : Nat) (isDigit : Char → Bool) (cs : List Char) : Option (Value × List Char) := do
  let (digits, rest) ← digits? isDigit cs
  return (← inRange (digitsValue base digits), rest)

def integer? (cs : List Char) : Option (Value × List Char) :=
  match cs with
  | '0' :: 'x' :: rest => radix? 16 (fun c => (hexDigit? c).isSome) rest
  | '0' :: 'o' :: rest => radix? 8 isOctal rest
  | '0' :: 'b' :: rest => radix? 2 isBinary rest
  | _ => do
    let (negative, unsigned) := sign cs
    let (digits, rest) ← whole? unsigned
    let n : Int := digitsValue 10 digits
    return (← inRange (if negative then -n else n), rest)

/-- From this number on a decimal is nearer to infinity than to any float. -/
def overflowBound : Nat := Nat.pow 2 1024 - Nat.pow 2 970

/-- Whether the digits, with the point moved by the exponent, reach the bound. -/
def overflows (digits : List Char) (exponent : Int) : Bool :=
  let n := digitsValue 10 digits
  let size : Int := (Nat.toDigits 10 n).length + exponent
  if n = 0 || size < 300 then false
  else if 320 < size then true
  else if 0 ≤ exponent then overflowBound ≤ n * Nat.pow 10 exponent.toNat
  else overflowBound * Nat.pow 10 (-exponent).toNat ≤ n

/-- The digits after a point, if one follows. -/
def fraction? (cs : List Char) : Scan :=
  match cs with
  | '.' :: rest => digits? Char.isDigit rest
  | _ => none

/-- The exponent, if one follows. -/
def exponent? (cs : List Char) : Option (Int × List Char) :=
  match cs with
  | c :: rest =>
    if c == 'e' || c == 'E' then do
      let (negative, unsigned) := sign rest
      let (digits, after) ← digits? Char.isDigit unsigned
      let n : Int := digitsValue 10 digits
      return (if negative then -n else n, after)
    else none
  | [] => none

/-- A float has a fraction or an exponent. A positive one may not be too large. -/
def decimalFloat? (cs : List Char) : Option (Value × List Char) := do
  let (negative, unsigned) := sign cs
  let (whole, rest) ← whole? unsigned
  let fraction := fraction? rest
  let (part, afterPart) := fraction.getD ([], rest)
  let power := exponent? afterPart
  if fraction.isNone && power.isNone then none
  else
    let (exponent, after) := power.getD (0, afterPart)
    if !negative && overflows (whole ++ part) (exponent - part.length) then none
    else return (.float, after)

def specialFloat? (cs : List Char) : Option (Value × List Char) :=
  match (sign cs).2 with
  | 'i' :: 'n' :: 'f' :: rest | 'n' :: 'a' :: 'n' :: rest => some (.float, rest)
  | _ => none

/-- Exactly two digits with a value in a range. -/
def twoDigits? (low high : Nat) : List Char → Option (Nat × List Char)
  | a :: b :: rest =>
    let n := digitsValue 10 [a, b]
    if a.isDigit && b.isDigit && low ≤ n && n ≤ high then some (n, rest) else none
  | _ => none

def expect (c : Char) : List Char → Option (List Char)
  | d :: rest => if c = d then some rest else none
  | [] => none

def daysInMonth (year month : Nat) : Nat :=
  if month = 2 then
    if (year % 4 = 0 ∧ year % 100 ≠ 0) ∨ year % 400 = 0 then 29 else 28
  else if month ∈ [4, 6, 9, 11] then 30
  else 31

def date? (cs : List Char) : Option (List Char) := do
  let year := cs.take 4
  if year.length < 4 || !year.all Char.isDigit then none
  else
    let (month, rest) ← twoDigits? 1 12 (← expect '-' (cs.drop 4))
    let (_, after) ← twoDigits? 1 (daysInMonth (digitsValue 10 year) month) (← expect '-' rest)
    return after

def time? (cs : List Char) : Option (List Char) := do
  let (_, afterHour) ← twoDigits? 0 23 cs
  let (_, afterMinute) ← twoDigits? 0 59 (← expect ':' afterHour)
  let (_, afterSecond) ← twoDigits? 0 60 (← expect ':' afterMinute)
  match afterSecond with
  | '.' :: rest =>
    if (rest.head?.any Char.isDigit) then return rest.dropWhile Char.isDigit else return afterSecond
  | _ => return afterSecond

def zone? (cs : List Char) : Option (List Char) :=
  match cs with
  | c :: rest =>
    if c == 'Z' || c == 'z' then some rest
    else if c == '+' || c == '-' then do
      let (_, afterHour) ← twoDigits? 0 23 rest
      let (_, after) ← twoDigits? 0 59 (← expect ':' afterHour)
      return after
    else none
  | [] => none

/-- A time after a date, with its offset. -/
def timeOfDay? (cs : List Char) : Option (List Char) :=
  match cs with
  | c :: rest =>
    if c == 'T' || c == 't' || c == ' ' then
      (time? rest).map fun after => (zone? after).getD after
    else none
  | [] => none

/-- A date, a date with a time, or a time. -/
def datetime? (cs : List Char) : Option (Value × List Char) :=
  match date? cs with
  | some rest => some (.datetime, (timeOfDay? rest).getD rest)
  | none => (time? cs).map fun rest => (.datetime, rest)

def number? (cs : List Char) : Option (Value × List Char) :=
  datetime? cs <|> decimalFloat? cs <|> specialFloat? cs <|> integer? cs

end EffectSurvey.Toml
