import EffectSurvey.Toml.Numbers

/-! A TOML document: its values, and its lines with keys and headers. -/
namespace EffectSurvey.Toml

abbrev ValueReader := List Char → Option (Value × List Char)

/-- A value that holds no other values. -/
def scalar? (cs : List Char) : Option (Value × List Char) :=
  match cs with
  | 't' :: 'r' :: 'u' :: 'e' :: rest => some (.boolean true, rest)
  | 'f' :: 'a' :: 'l' :: 's' :: 'e' :: rest => some (.boolean false, rest)
  | '"' :: _ | '\'' :: _ => (string? cs).map fun (text, rest) => (.string (String.ofList text), rest)
  | _ => number? cs

/-- The items of an array up to its closing bracket. A comma may follow the last one. -/
def arrayItems (item : ValueReader) : Nat → List Char → Option (List Value × List Char)
  | 0, _ => none
  | fuel + 1, cs =>
    match skipAll cs with
    | ']' :: rest => some ([], rest)
    | start => do
      let (value, rest) ← item start
      match skipAll rest with
      | ',' :: more =>
        let (values, after) ← arrayItems item fuel more
        return (value :: values, after)
      | ']' :: after => return ([value], after)
      | _ => none

/-- A key, an equals sign and a value. -/
def keyValue? (item : ValueReader) (cs : List Char) :
    Option ((List String × Value) × List Char) := do
  let (keys, rest) ← dottedKey? cs
  let start ← expect '=' rest
  let (value, after) ← item (skipSpace start)
  return ((keys, value), after)

/-- The pairs of an inline table, of which there is at least one, up to its closing brace. -/
def inlinePairs (item : ValueReader) : Nat → List Char → Option (List (List String × Value) × List Char)
  | 0, _ => none
  | fuel + 1, cs => do
    let (pair, rest) ← keyValue? item cs
    match skipSpace rest with
    | ',' :: more =>
      let (pairs, after) ← inlinePairs item fuel more
      return (pair :: pairs, after)
    | '\x7d' :: after => return ([pair], after)
    | _ => none

/-- The table of the pairs between braces. -/
def inlineTable? (pairs : List (List String × Value)) : Option Value :=
  (pairs.foldlM (fun fields (keys, value) => assign keys value .inline fields) []).map
    (Value.table .inline)

/-- A value of at most `size` items each way, in which values may be nested as deep as the second
argument says. -/
def value? (size : Nat) : Nat → ValueReader
  | 0, cs => scalar? cs
  | depth + 1, cs =>
    match cs with
    | '[' :: rest =>
      (arrayItems (value? size depth) size rest).map fun (items, after) => (.array items, after)
    | '\x7b' :: rest =>
      match skipSpace rest with
      | '\x7d' :: after => some (.table .inline [], after)
      | start => do
        let (pairs, after) ← inlinePairs (value? size depth) size start
        return (← inlineTable? pairs, after)
    | _ => scalar? cs

/-- What has been read: all tables, and the header under which keys now stand. -/
structure Draft where
  root : Fields
  header : List String

/-- A key under the current header. -/
def Draft.assign (d : Draft) (keys : List String) (value : Value) : Option Draft :=
  (enter false .explicit (Toml.assign keys value) d.root d.header).map fun root => { d with root }

/-- A header, after its brackets have been opened. -/
def header? (closing : List Char) (cs : List Char) : Option (List String × List Char) := do
  let (keys, rest) ← dottedKey? cs
  if closing.isPrefixOf rest then
    return (keys, ← lineEnd? (rest.drop closing.length))
  else none

/-- One line that is neither empty nor a comment. -/
def line? (size : Nat) (d : Draft) (cs : List Char) : Option (Draft × List Char) :=
  match cs with
  | '[' :: '[' :: rest => do
    let (keys, after) ← header? [']', ']'] rest
    return (⟨← openRow keys d.root, keys⟩, after)
  | '[' :: rest => do
    let (keys, after) ← header? [']'] rest
    return (⟨← openTable keys d.root, keys⟩, after)
  | _ => do
    let ((keys, value), rest) ← keyValue? (value? size (nestingLimit - 1)) cs
    return (← d.assign keys value, ← lineEnd? rest)

/-- The lines of a document, for as many as `fuel` allows. -/
def lines? (size : Nat) : Nat → Draft → List Char → Option Draft
  | 0, _, _ => none
  | fuel + 1, d, cs =>
    match skipAll cs with
    | [] => some d
    | start => do
      let (next, rest) ← line? size d start
      lines? size fuel next rest

/-- The tables of a document. A byte order mark may stand before it. No value has more items than the
document has characters. -/
def parse (text : String) : Option Fields :=
  let cs := match text.toList with
    | '\uFEFF' :: rest => rest
    | cs => cs
  let size := cs.length + 1
  (lines? size size ⟨[], []⟩ cs).map Draft.root

end EffectSurvey.Toml
