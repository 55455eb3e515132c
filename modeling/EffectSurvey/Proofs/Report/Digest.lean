import EffectSurvey.Proofs.Json.Reading
import EffectSurvey.Proofs.Report.Reading

/-! The JSON document and the texts of the reports say the same. A reader of the document finds the lists and
the totals that the texts are written from, whatever the names are, since the document escapes them; and where
names and rows keep to their lines a reader of the texts finds them too. -/
namespace EffectSurvey.Report

namespace Json

def Value.field? (name : String) : Value → Option Value
  | .object fields => fields.lookup name
  | _ => none

def Value.text? : Value → Option String
  | .text s => some s
  | _ => none

def Value.number? : Value → Option Nat
  | .number n => some n
  | _ => none

def Value.items? : Value → Option (List Value)
  | .array items => some items
  | _ => none

def Value.textAt? (v : Value) (name : String) : Option String := (v.field? name).bind Value.text?

def Value.numberAt? (v : Value) (name : String) : Option Nat := (v.field? name).bind Value.number?

def Value.itemsAt? (v : Value) (name : String) : Option (List Value) :=
  (v.field? name).bind Value.items?

end Json

open Json (Value Reads value? reads_text reads_decimal reads_array reads_object)

namespace Digest

def readCount? (v : Value) : Option (String × Nat) := do
  return (← v.textAt? "name", ← v.numberAt? "count")

def readRow? (v : Value) : Option (String × MetadataRow) := do
  return (← v.textAt? "crate", ⟨← v.textAt? "row"⟩)

/-- What a JSON document says about the summaries, by the names of its fields. -/
def read? (text : String) : Option Digest := do
  let v ← Json.read? text
  return {
    patterns := ← (← v.itemsAt? "patterns").mapM readCount?
    packages := ← (← v.itemsAt? "crates").mapM readCount?
    packagesWithFindings := ← v.numberAt? "crates_with_effects"
    packagesWithoutFindings := ← v.numberAt? "crates_without_effects"
    metadata := ← (← v.itemsAt? "metadata").mapM readRow? }

def countValue (entry : String × Nat) : Value :=
  .object [("name", .text entry.1), ("count", .number entry.2)]

def rowValue (entry : String × MetadataRow) : Value :=
  .object [("crate", .text entry.1), ("row", .text entry.2.text)]

def value (d : Digest) : Value :=
  .object
    [("patterns", .array (d.patterns.map countValue)),
     ("crates", .array (d.packages.map countValue)),
     ("crates_with_effects", .number d.packagesWithFindings),
     ("crates_without_effects", .number d.packagesWithoutFindings),
     ("metadata_header", .text MetadataRow.header),
     ("metadata", .array (d.metadata.map rowValue))]

theorem reads_count (depth : Nat) (entry : String × Nat) :
    Reads (value? (depth + 1)) (count entry) (countValue entry) :=
  reads_object (.cons ⟨rfl, reads_text _ _⟩ (.cons ⟨rfl, reads_decimal _ _⟩ .nil))

theorem reads_row (depth : Nat) (entry : String × MetadataRow) :
    Reads (value? (depth + 1)) (row entry) (rowValue entry) :=
  reads_object (.cons ⟨rfl, reads_text _ _⟩ (.cons ⟨rfl, reads_text _ _⟩ .nil))

theorem reads_list {α : Type} {depth : Nat} {write : α → String} {value : α → Value}
    (reads : ∀ a, Reads (value? depth) (write a) (value a)) (items : List α) :
    Reads (value? (depth + 1)) (Json.array 1 (items.map write)) (.array (items.map value)) := by
  apply reads_array
  rw [List.forall₂_map_left_iff, List.forall₂_map_right_iff]
  exact List.forall₂_same.mpr fun a _ => reads a

theorem reads_render (depth : Nat) (d : Digest) :
    Reads (value? (depth + 3)) d.render d.value := by
  apply reads_object
  refine .cons ⟨rfl, reads_list (reads_count depth) _⟩ ?_
  refine .cons ⟨rfl, reads_list (reads_count depth) _⟩ ?_
  refine .cons ⟨rfl, reads_decimal _ _⟩ (.cons ⟨rfl, reads_decimal _ _⟩ ?_)
  refine .cons ⟨rfl, reads_text _ _⟩ ?_
  exact .cons ⟨rfl, reads_list (reads_row depth) _⟩ .nil

/-- A digest is read back from its document. -/
theorem read?_render (d : Digest) : read? d.render = some d := by
  have document : Json.read? d.render = some d.value := Json.read?_of_reads (reads_render 125 d)
  have counts (entries : List (String × Nat)) :
      (entries.map countValue).mapM readCount? = some entries := mapM_map fun _ _ => rfl
  have rows (entries : List (String × MetadataRow)) :
      (entries.map rowValue).mapM readRow? = some entries := mapM_map fun _ _ => rfl
  have patterns : d.value.itemsAt? "patterns" = some (d.patterns.map countValue) := rfl
  have packages : d.value.itemsAt? "crates" = some (d.packages.map countValue) := rfl
  have affected : d.value.numberAt? "crates_with_effects" = some d.packagesWithFindings := rfl
  have unaffected : d.value.numberAt? "crates_without_effects" = some d.packagesWithoutFindings := rfl
  have metadata : d.value.itemsAt? "metadata" = some (d.metadata.map rowValue) := rfl
  rw [read?, document]
  simp only [Option.bind_eq_bind, Option.bind_some, patterns, packages, affected, unaffected, metadata,
    counts, rows]
  rfl

end Digest

/-- The number of packages with findings, counted over the table or over the ranked list. -/
theorem packagesWithFindings_eq (s : Summaries) : s.packagesWithFindings = (affected s).length := by
  rw [Summaries.packagesWithFindings, Table.values, List.countP_map, affected,
    ← List.countP_eq_length_filter]
  exact (s.packages.ranked_perm.countP_eq _).symm

theorem packagesWithoutFindings_eq (s : Summaries) (key : SortKey) :
    (Digest.of s key).packagesWithoutFindings = (unaffected s).length := by
  have sum := length_affected_add s
  rw [← packagesWithFindings_eq] at sum
  change s.packages.size - s.packagesWithFindings = _
  omega

/-- The name and the row of a line of the metadata report: the row follows the first separator. -/
def readRowText? (text : String) : Option (String × MetadataRow) :=
  match Text.splitAtPair ',' ' ' text with
  | name :: column :: columns => some (name, ⟨String.intercalate ", " (column :: columns)⟩)
  | _ => none

def readMetadata? (text : String) : Option (List (String × MetadataRow)) :=
  (rows text).mapM readRowText?

/-- An entry that keeps to its line, and whose name ends at the first separator. -/
structure TidyRow (entry : String × MetadataRow) : Prop where
  single : '\n' ∉ entry.1.toList
  name : Text.Unbroken ',' ' ' entry.1.toList
  row : Text.Plain entry.2.text

theorem readRowText?_rowText {entry : String × MetadataRow}
    (name : Text.Unbroken ',' ' ' entry.1.toList) : readRowText? (rowText entry) = some entry := by
  have chars : (rowText entry).toList = entry.1.toList ++ ',' :: ' ' :: entry.2.text.toList := by
    simp [rowText]
  have split : Text.splitAtPair ',' ' ' (rowText entry) =
      entry.1 :: Text.splitAtPair ',' ' ' entry.2.text := by
    rw [Text.splitAtPair, chars, Text.splitPair_append (by decide) name, List.map_cons,
      String.ofList_toList]
    rfl
  obtain ⟨nonempty, joined, -⟩ :=
    (Text.splitAtPair_eq_iff (show ',' ≠ ' ' by decide) entry.2.text _).mp rfl
  obtain ⟨column, columns, pieces⟩ := List.exists_cons_of_ne_nil nonempty
  rw [pieces] at joined
  rw [readRowText?, split, pieces]
  exact congrArg (fun text => some (entry.1, MetadataRow.mk text)) joined

theorem readMetadata?_metadata {s : Summaries} (tidy : ∀ entry ∈ s.metadata.entries, TidyRow entry)
    (key : SortKey) : readMetadata? (metadata s key) = some (rankedMetadata s key) := by
  rw [readMetadata?, rows_metadata_of_plain (fun entry member => (tidy entry member).single)
    fun entry member => (tidy entry member).row]
  apply mapM_map
  intro entry member
  exact readRowText?_rowText (tidy entry ((rankedMetadata_perm s key).mem_iff.mp member)).name

/-- The JSON document of summaries, as it is read back, against the texts of the reports. The texts are
written from the lists and the totals of the document, one line for each entry, whatever the names are. The
packages with findings are counted alike in the document's list, over the table and in the text, so the rest of
the packages is never a negative number. Where names and rows keep to their lines, what can be read from the
texts is what the document says. -/
theorem json_agrees_with_texts (s : Summaries) (key : SortKey) :
    ∃ d, Digest.read? (json s key) = some d ∧
      patterns s = line "===== Patterns =====" ++ line "Total instances of each effect pattern:" ++
        String.join (d.patterns.map countLine) ∧
      packages s = line "===== Crate Summary =====" ++ line "Number of effects by crate:" ++
        String.join (d.packages.map countLine) ++ line totalsTitle ++
        line (Text.decimal d.packagesWithFindings ++ affectedLabel) ++
        line (Text.decimal d.packagesWithoutFindings ++ unaffectedLabel) ∧
      metadata s key = line ("crate, " ++ MetadataRow.header) ++
        String.join (d.metadata.map metadataLine) ∧
      (d.packagesWithFindings = d.packages.length ∧ s.packagesWithFindings ≤ s.packages.size ∧
        d.packagesWithFindings + d.packagesWithoutFindings = s.packages.size) ∧
      ((∀ name ∈ s.patterns.keys, '\n' ∉ name.toList) →
        readPatterns? (patterns s) = some d.patterns) ∧
      ((∀ name ∈ s.packages.keys, '\n' ∉ name.toList) → readPackages? (packages s) =
        some ⟨d.packages, d.packagesWithFindings, d.packagesWithoutFindings⟩) ∧
      ((∀ entry ∈ s.metadata.entries, TidyRow entry) →
        readMetadata? (metadata s key) = some d.metadata) := by
  have counted : (Digest.of s key).packagesWithFindings = (affected s).length :=
    packagesWithFindings_eq s
  have uncounted := packagesWithoutFindings_eq s key
  have sum := length_affected_add s
  refine ⟨Digest.of s key, Digest.read?_render _, rfl, ?_, rfl, ⟨counted, ?_, ?_⟩, ?_, ?_, ?_⟩
  · rw [counted, uncounted]
    rfl
  · rw [packagesWithFindings_eq]
    omega
  · rw [counted, uncounted, sum]
  · exact readPatterns?_patterns
  · intro single
    rw [counted, uncounted]
    exact readPackages?_packages single
  · exact fun tidy => readMetadata?_metadata tidy key

/-- Names with a quote, a backslash and a control character, counts that tie, a package without findings and a
row that holds the separator. -/
theorem json_agrees_on_escaped_names :
    let s : Summaries := ⟨⟨[("\"x\": 3", 1), ("\\\t", 4)], by decide⟩,
      ⟨[("quiet", 0), ("a\x01", 2), ("b: 2", 2), ("c", 3)], by decide⟩,
      ⟨[("a\x01", ⟨"7, 1"⟩), ("c", ⟨"9, "⟩)], by decide⟩⟩
    ∃ d, Digest.read? (json s .raw) = some d ∧
      d.patterns = [("\\\t", 4), ("\"x\": 3", 1)] ∧
      d.packages = [("c", 3), ("a\x01", 2), ("b: 2", 2)] ∧
      d.packagesWithFindings = 3 ∧ d.packagesWithoutFindings = 1 ∧
      readPatterns? (patterns s) = some d.patterns ∧
      readPackages? (packages s) = some ⟨d.packages, 3, 1⟩ ∧
      readMetadata? (metadata s .raw) = some d.metadata ∧
      d.metadata = [("c", ⟨"9, "⟩), ("a\x01", ⟨"7, 1"⟩)] := by
  intro s
  have patternNames : ∀ name ∈ s.patterns.keys, '\n' ∉ name.toList := by decide
  have packageNames : ∀ name ∈ s.packages.keys, '\n' ∉ name.toList := by decide
  have tidy : ∀ entry ∈ s.metadata.entries, TidyRow entry := by
    simp only [s, List.forall_mem_cons]
    exact ⟨⟨by decide, by decide, by decide, by decide⟩, ⟨by decide, by decide, by decide, by decide⟩,
      List.forall_mem_nil _⟩
  obtain ⟨d, document, -, -, -, -, counts, totals, rows⟩ := json_agrees_with_texts s .raw
  have first : s.patterns.ranked = [("\\\t", 4), ("\"x\": 3", 1)] := by
    simp [s, Counts.ranked, List.mergeSort]
  have second : s.packages.ranked = [("c", 3), ("a\x01", 2), ("b: 2", 2), ("quiet", 0)] := by
    simp [s, Counts.ranked, List.mergeSort]
  have third : rankedMetadata s .raw = [("c", ⟨"9, "⟩), ("a\x01", ⟨"7, 1"⟩)] := by
    have above : (SortKey.raw.order ⟨"9, "⟩ ⟨"7, 1"⟩).isLE = false := by decide +kernel
    simp [s, rankedMetadata, List.mergeSort, above]
  have patterns := (counts patternNames).symm.trans (readPatterns?_patterns patternNames)
  have packages := (totals packageNames).symm.trans (readPackages?_packages packageNames)
  have metadata := (rows tidy).symm.trans (readMetadata?_metadata tidy .raw)
  rw [affected, unaffected, second] at packages
  obtain ⟨same, nonzero, zero⟩ := PackageReading.mk.inj (Option.some.inj packages)
  have affected : d.packagesWithFindings = 3 := nonzero
  have unaffected : d.packagesWithoutFindings = 1 := zero
  refine ⟨d, document, (Option.some.inj patterns).trans first, same, affected, unaffected,
    counts patternNames, ?_, rows tidy, (Option.some.inj metadata).trans third⟩
  rw [totals packageNames, affected, unaffected]

end EffectSurvey.Report
