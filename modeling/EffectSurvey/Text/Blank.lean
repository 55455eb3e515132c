/-! Blank characters, and text with characters stripped from its two ends. -/
namespace EffectSurvey.Text

/-- The characters with the property White_Space. -/
def isBlank (c : Char) : Bool :=
  let n := c.toNat
  (0x9 ≤ n && n ≤ 0xD) || n == 0x20 || n == 0x85 || n == 0xA0 || n == 0x1680 ||
    (0x2000 ≤ n && n ≤ 0x200A) || n == 0x2028 || n == 0x2029 || n == 0x202F || n == 0x205F ||
    n == 0x3000

/-- The list without its longest final run of characters in `p`. -/
def stripEnd (p : Char → Bool) (cs : List Char) : List Char :=
  (cs.reverse.dropWhile p).reverse

/-- The list without its longest first and last runs of characters in `p`. -/
def stripBoth (p : Char → Bool) (cs : List Char) : List Char :=
  stripEnd p (cs.dropWhile p)

def trim (s : String) : String :=
  String.ofList (stripBoth isBlank s.toList)

def trimEnd (s : String) : String :=
  String.ofList (stripEnd isBlank s.toList)

/-- The text without the double quotes at its two ends. -/
def unquote (s : String) : String :=
  String.ofList (stripBoth (· == '"') s.toList)

end EffectSurvey.Text
