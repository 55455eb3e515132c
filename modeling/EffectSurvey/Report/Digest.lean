import EffectSurvey.Report.Texts

/-! The summaries as one JSON document, indented by two spaces a level. -/
namespace EffectSurvey.Report

/-- What the JSON document says. -/
structure Digest where
  patterns : List (String × Nat)
  packages : List (String × Nat)
  packagesWithFindings : Nat
  packagesWithoutFindings : Nat
  metadata : List (String × MetadataRow)

def Digest.of (s : Summaries) (key : SortKey) : Digest where
  patterns := s.patterns.ranked
  packages := affected s
  packagesWithFindings := s.packagesWithFindings
  packagesWithoutFindings := s.packages.size - s.packagesWithFindings
  metadata := rankedMetadata s key

namespace Json

/-- Quotes and backslashes are escaped, and so are the controls below the space. -/
def escape (c : Char) : List Char :=
  match c with
  | '"' => ['\\', '"']
  | '\\' => ['\\', '\\']
  | '\n' => ['\\', 'n']
  | '\r' => ['\\', 'r']
  | '\t' => ['\\', 't']
  | '\x08' => ['\\', 'b']
  | '\x0c' => ['\\', 'f']
  | _ =>
    if c.toNat < 0x20 then
      "\\u00".toList ++ [Nat.digitChar (c.toNat / 16), Nat.digitChar (c.toNat % 16)]
    else [c]

def text (s : String) : String := String.ofList ('"' :: s.toList.flatMap escape ++ ['"'])

def indent (depth : Nat) : String := String.ofList (List.replicate (2 * depth) ' ')

/-- Items on lines of their own between two brackets, which stand at the given depth. -/
def block (opening closing : String) (depth : Nat) (items : List String) : String :=
  if items.isEmpty then opening ++ closing
  else
    opening ++ "\n" ++ String.intercalate ",\n" (items.map (indent (depth + 1) ++ ·)) ++ "\n" ++
      indent depth ++ closing

def array (depth : Nat) (items : List String) : String := block "[" "]" depth items

def object (depth : Nat) (fields : List (String × String)) : String :=
  block "\x7b" "\x7d" depth (fields.map fun (key, value) => text key ++ ": " ++ value)

end Json

def Digest.count (entry : String × Nat) : String :=
  Json.object 2 [("name", Json.text entry.1), ("count", Text.decimal entry.2)]

def Digest.row (entry : String × MetadataRow) : String :=
  Json.object 2 [("crate", Json.text entry.1), ("row", Json.text entry.2.text)]

def Digest.render (d : Digest) : String :=
  Json.object 0
    [("patterns", Json.array 1 (d.patterns.map Digest.count)),
     ("crates", Json.array 1 (d.packages.map Digest.count)),
     ("crates_with_effects", Text.decimal d.packagesWithFindings),
     ("crates_without_effects", Text.decimal d.packagesWithoutFindings),
     ("metadata_header", Json.text MetadataRow.header),
     ("metadata", Json.array 1 (d.metadata.map Digest.row))]

def json (s : Summaries) (key : SortKey) : String := (Digest.of s key).render

end EffectSurvey.Report
