/-! The strings, bare words and blanks of TOML. Each reader takes the text from where it stands and gives
back what follows. -/
namespace EffectSurvey.Toml

def isSpace (c : Char) : Bool := c == ' ' || c == '\t'

/-- Characters that may stand in a comment: all but the controls, among which the tab may. -/
def isPlain (c : Char) : Bool := c == '\t' || (0x20 ≤ c.toNat && c.toNat != 0x7F)

def skipSpace (cs : List Char) : List Char := cs.dropWhile isSpace

def newline? : List Char → Option (List Char)
  | '\n' :: rest => some rest
  | '\r' :: '\n' :: rest => some rest
  | _ => none

def skipComment : List Char → List Char
  | '#' :: rest => rest.dropWhile isPlain
  | cs => cs

/-- The end of a line after blanks and a comment, which the end of the text is too. -/
def lineEnd? (cs : List Char) : Option (List Char) :=
  match skipComment (skipSpace cs) with
  | [] => some []
  | rest => newline? rest

/-- The carriage return of a line end. -/
def startsLineEnd (c : Char) (rest : List Char) : Bool := c == '\r' && rest.head? == some '\n'

/-- Blanks, comments and line ends, from inside a comment or outside one. -/
def skipFrom (comment : Bool) : List Char → List Char
  | [] => []
  | c :: rest =>
    if c = '\n' then skipFrom false rest
    else if startsLineEnd c rest then skipFrom comment rest
    else if comment then if isPlain c then skipFrom true rest else c :: rest
    else if isSpace c then skipFrom false rest
    else if c = '#' then skipFrom true rest
    else c :: rest

/-- Blanks, comments and line ends. -/
def skipAll (cs : List Char) : List Char := skipFrom false cs

def hexDigit? (c : Char) : Option Nat :=
  if c.isDigit then some (c.toNat - '0'.toNat)
  else if 'a' ≤ c ∧ c ≤ 'f' then some (c.toNat - 'a'.toNat + 10)
  else if 'A' ≤ c ∧ c ≤ 'F' then some (c.toNat - 'A'.toNat + 10)
  else none

/-- The character of an escape of one letter. -/
def letterEscape? : Char → Option Char
  | 'b' => some '\x08'
  | 't' => some '\t'
  | 'n' => some '\n'
  | 'f' => some '\x0c'
  | 'r' => some '\r'
  | '"' => some '"'
  | '\\' => some '\\'
  | _ => none

/-- The character of a number, unless it is a surrogate or too large. -/
def codePoint? (n : Nat) : Option Char :=
  if n < 0xD800 || (0xE000 ≤ n && n ≤ 0x10FFFF) then some (Char.ofNat n) else none

/-- Where a reader of escapes stands. -/
inductive Escaping where
  | no
  /-- Right after a backslash. -/
  | started
  /-- So many hexadecimal digits are to come, and those before them have this value. -/
  | digits (left value : Nat)
  /-- Among the blanks and line ends that a backslash at the end of a line removes. -/
  | joining
  deriving DecidableEq, Repr

/-- One more character of an escape: what the escape gives, once it is complete. -/
def escapeStep (e : Escaping) (c : Char) : Option (Option Char × Escaping) :=
  match e with
  | .digits left value =>
    (hexDigit? c).bind fun d =>
      if 1 < left then some (none, .digits (left - 1) (16 * value + d))
      else (codePoint? (16 * value + d)).map fun x => (some x, .no)
  | _ =>
    if c = 'u' then some (none, .digits 4 0)
    else if c = 'U' then some (none, .digits 8 0)
    else (letterEscape? c).map fun x => (some x, .no)

abbrev Scan := Option (List Char × List Char)

def Scan.cons (c : Char) (scan : Scan) : Scan := scan.map fun (text, rest) => (c :: text, rest)

def Scan.push (c : Option Char) (scan : Scan) : Scan :=
  match c with
  | some c => Scan.cons c scan
  | none => scan

/-- A string on one line with escapes, after its opening quote. -/
def basicChars (e : Escaping) : List Char → Scan
  | [] => none
  | c :: rest =>
    if e = .no then
      if c = '"' then some ([], rest)
      else if c = '\\' then basicChars .started rest
      else if isPlain c then Scan.cons c (basicChars .no rest)
      else none
    else
      (escapeStep e c).bind fun (x, next) => Scan.push x (basicChars next rest)

/-- A string on one line without escapes, after its opening quote. -/
def literalChars : List Char → Scan
  | [] => none
  | c :: rest =>
    if c = '\'' then some ([], rest)
    else if isPlain c then Scan.cons c (literalChars rest) else none

/-- What three quotes in a row end: the string may end in up to two more of them. -/
def closing? (quote : Char) (cs : List Char) : Scan :=
  let run := cs.takeWhile (· == quote)
  if run.length < 3 then none
  else
    let taken := min run.length 5
    some (List.replicate (taken - 3) quote, cs.drop taken)

/-- Whether only blanks stand before the end of the line. -/
def endsLine (cs : List Char) : Bool := (newline? (skipSpace cs)).isSome

def isJoined (c : Char) (rest : List Char) : Bool := isSpace c || c == '\n' || startsLineEnd c rest

/-- A string on several lines with escapes. After a backslash at the end of a line, all blanks and line
ends are passed over. -/
def longBasicChars (e : Escaping) : List Char → Scan
  | [] => none
  | c :: rest =>
    if (e = .joining ∧ isJoined c rest) ∨ (e = .started ∧ endsLine (c :: rest)) then
      longBasicChars .joining rest
    else if e = .no ∨ e = .joining then
      match closing? '"' (c :: rest) with
      | some ended => some ended
      | none =>
        if startsLineEnd c rest then longBasicChars .no rest
        else if c = '\\' then longBasicChars .started rest
        else if c = '\n' ∨ isPlain c then Scan.cons c (longBasicChars .no rest)
        else none
    else
      (escapeStep e c).bind fun (x, next) => Scan.push x (longBasicChars next rest)

/-- A string on several lines without escapes. -/
def longLiteralChars : List Char → Scan
  | [] => none
  | c :: rest =>
    match closing? '\'' (c :: rest) with
    | some ended => some ended
    | none =>
      if startsLineEnd c rest then longLiteralChars rest
      else if c = '\n' ∨ isPlain c then Scan.cons c (longLiteralChars rest)
      else none

/-- The text after a line end that directly follows the opening quotes. -/
def dropFirstNewline (cs : List Char) : List Char := (newline? cs).getD cs

/-- A string of any of the four kinds, from its opening quote on. -/
def string? (cs : List Char) : Scan :=
  match cs with
  | '"' :: '"' :: '"' :: rest => longBasicChars .no (dropFirstNewline rest)
  | '"' :: rest => basicChars .no rest
  | '\'' :: '\'' :: '\'' :: rest => longLiteralChars (dropFirstNewline rest)
  | '\'' :: rest => literalChars rest
  | _ => none

def isBareKeyChar (c : Char) : Bool := c.isAlphanum || c == '_' || c == '-'

/-- One key: quoted on one line, or bare. -/
def simpleKey? (cs : List Char) : Scan :=
  match cs with
  | '"' :: rest => basicChars .no rest
  | '\'' :: rest => literalChars rest
  | _ =>
    let bare := cs.takeWhile isBareKeyChar
    if bare.isEmpty then none else some (bare, cs.drop bare.length)

/-- Keys with dots between them, for as many as `fuel` allows. -/
def keysAfter : Nat → List Char → Option (List String × List Char)
  | 0, _ => none
  | fuel + 1, cs => do
    let (key, rest) ← simpleKey? (skipSpace cs)
    match skipSpace rest with
    | '.' :: more =>
      let (keys, after) ← keysAfter fuel more
      return (String.ofList key :: keys, after)
    | after => return ([String.ofList key], after)

/-- A dotted key has fewer parts than this, and values are nested less deep. -/
def nestingLimit : Nat := 80

def dottedKey? (cs : List Char) : Option (List String × List Char) :=
  keysAfter (nestingLimit - 1) cs

end EffectSurvey.Toml
