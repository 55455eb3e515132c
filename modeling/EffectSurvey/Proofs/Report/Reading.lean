import EffectSurvey.Proofs.Report.Ranking
import EffectSurvey.Proofs.Transcript.RoundTrip

/-! The reports read back from their texts alone. A name is written as it is, so a report has one line per
entry only if no name holds a line feed; then its lines give back the entries it was written from. -/
namespace EffectSurvey

namespace Text

theorem Plain.append {a b : String} (left : Plain a) (right : Plain b) : Plain (a ++ b) := by
  constructor
  · rw [String.toList_append, List.mem_append, not_or]
    exact ⟨left.single, right.single⟩
  · rw [String.toList_append, List.getLast?_append]
    cases last : b.toList.getLast? with
    | none => exact left.unreturned
    | some c =>
      rw [Option.some_or, ← last]
      exact right.unreturned

/-- A name may end in a carriage return if a separator comes after it. -/
theorem Plain.after {name separator text : String} (single : '\n' ∉ name.toList)
    (visible : separator ≠ "") (between : Plain separator) (right : Plain text) :
    Plain (name ++ separator ++ text) := by
  refine Plain.append ⟨?_, ?_⟩ right
  · rw [String.toList_append, List.mem_append, not_or]
    exact ⟨single, between.single⟩
  · rw [String.toList_append, List.getLast?_append_of_ne_nil _ (by simpa using visible)]
    exact between.unreturned

theorem plain_decimal (n : Nat) : Plain (decimal n) := by
  refine ⟨not_mem_decimal (by decide) n, ?_⟩
  intro last
  exact not_mem_decimal (by decide) n (List.mem_of_getLast? last)

theorem lines_join {items : List String} (plain : ∀ item ∈ items, Plain item) :
    lines (String.join (items.map Report.line)) = items := by
  induction items with
  | nil => rfl
  | cons item items ih =>
    obtain ⟨first, later⟩ := List.forall_mem_cons.mp plain
    rw [List.map_cons, String.join_cons, Report.line, lines_append first, ih later]

end Text

namespace Report

/-- The name and the count of a line: the count is all digits at the end, after a colon and a space. -/
def readCount? (text : String) : Option (String × Nat) :=
  let reversed := text.toList.reverse
  match reversed.dropWhile Char.isDigit with
  | ' ' :: ':' :: name =>
    (Text.magnitude? (reversed.takeWhile Char.isDigit).reverse).map (String.ofList name.reverse, ·)
  | _ => none

def readTotal? (label text : String) : Option Nat :=
  if text.toList.dropWhile Char.isDigit = label.toList then
    Text.magnitude? (text.toList.takeWhile Char.isDigit)
  else none

def readPatterns? (text : String) : Option (List (String × Nat)) :=
  ((Text.lines text).drop 2).mapM readCount?

structure PackageReading where
  counts : List (String × Nat)
  affected : Nat
  unaffected : Nat

def totalsTitle : String := "===== Crate Totals ====="

def affectedLabel : String := " crates with 1 or more effects"

def unaffectedLabel : String := " crates with 0 effects"

/-- The entries of a package report stand between its two title lines and the title of the totals. -/
def readPackages? (text : String) : Option PackageReading := do
  let body := (Text.lines text).drop 2
  let counts ← (body.takeWhile (· ≠ totalsTitle)).mapM readCount?
  match body.dropWhile (· ≠ totalsTitle) with
  | [_, first, second] =>
    return ⟨counts, ← readTotal? affectedLabel first, ← readTotal? unaffectedLabel second⟩
  | _ => none

def rows (text : String) : List String := (Text.lines text).drop 1

def countText (entry : String × Nat) : String := entry.1 ++ ": " ++ Text.decimal entry.2

def rowText (entry : String × MetadataRow) : String := entry.1 ++ ", " ++ entry.2.text

theorem countLine_eq : countLine = line ∘ countText := rfl

theorem metadataLine_eq : metadataLine = line ∘ rowText := rfl

theorem readCount?_countText (entry : String × Nat) : readCount? (countText entry) = some entry := by
  obtain ⟨name, n⟩ := entry
  have digits := Text.digits_decimal n
  have backwards : ∀ c ∈ (Text.decimal n).toList.reverse, c.isDigit = true := by
    simpa using digits.decimal
  have split : (countText (name, n)).toList.reverse =
      (Text.decimal n).toList.reverse ++ ' ' :: ':' :: name.toList.reverse := by
    simp [countText]
  simp only [readCount?, split]
  rw [List.dropWhile_append_of_pos backwards, List.takeWhile_append_of_pos backwards]
  simp [Text.magnitude?_eq_some.mpr digits]

/-- Items that are each read back from the way they are written are all read back. -/
theorem mapM_map {α β : Type} {read : β → Option α} {write : α → β} {items : List α}
    (known : ∀ item ∈ items, read (write item) = some item) :
    (items.map write).mapM read = some items := by
  induction items with
  | nil => rfl
  | cons item items ih =>
    obtain ⟨first, later⟩ := List.forall_mem_cons.mp known
    simp [first, ih later]

theorem mapM_readCount? (entries : List (String × Nat)) :
    (entries.map countText).mapM readCount? = some entries :=
  mapM_map fun entry _ => readCount?_countText entry

theorem readTotal?_append {label : String} (lettered : label.toList.head? = some ' ') (n : Nat) :
    readTotal? label (Text.decimal n ++ label) = some n := by
  have digits := Text.digits_decimal n
  obtain ⟨rest, chars⟩ : ∃ rest, label.toList = ' ' :: rest := by
    cases chars : label.toList with
    | nil => simp [chars] at lettered
    | cons c rest => exact ⟨rest, by simpa [chars] using lettered⟩
  rw [readTotal?, String.toList_append, List.dropWhile_append_of_pos digits.decimal,
    List.takeWhile_append_of_pos digits.decimal, chars]
  simp [Text.magnitude?_eq_some.mpr digits]

theorem plain_countText {entry : String × Nat} (single : '\n' ∉ entry.1.toList) :
    Text.Plain (countText entry) :=
  Text.Plain.after single (by decide) ⟨by decide, by decide⟩ (Text.plain_decimal _)

theorem plain_countText_of_mem {counts : Counts} (single : ∀ key ∈ counts.keys, '\n' ∉ key.toList)
    {entry : String × Nat} (member : entry ∈ counts.ranked) : Text.Plain (countText entry) :=
  plain_countText (single entry.1 (List.mem_map_of_mem (Counts.mem_ranked.mp member)))

/-- The digits at its end tell a line of counts from a title. -/
theorem countText_ne_totalsTitle (entry : String × Nat) : countText entry ≠ totalsTitle := by
  intro same
  have read := readCount?_countText entry
  rw [same, show readCount? totalsTitle = none by decide] at read
  contradiction

theorem lines_patterns {s : Summaries} (single : ∀ key ∈ s.patterns.keys, '\n' ∉ key.toList) :
    Text.lines (patterns s) =
      "===== Patterns =====" :: "Total instances of each effect pattern:" ::
        s.patterns.ranked.map countText := by
  have text : patterns s = String.join (("===== Patterns =====" ::
      "Total instances of each effect pattern:" :: s.patterns.ranked.map countText).map line) := by
    simp [patterns, countLine_eq, String.join_cons, String.append_assoc]
  rw [text, Text.lines_join]
  simp only [List.forall_mem_cons, List.forall_mem_map]
  refine ⟨⟨by decide, by decide⟩, ⟨by decide, by decide⟩, ?_⟩
  exact fun entry member => plain_countText_of_mem single member

theorem readPatterns?_patterns {s : Summaries}
    (single : ∀ key ∈ s.patterns.keys, '\n' ∉ key.toList) :
    readPatterns? (patterns s) = some s.patterns.ranked := by
  rw [readPatterns?, lines_patterns single]
  exact mapM_readCount? _

theorem lines_packages {s : Summaries} (single : ∀ key ∈ s.packages.keys, '\n' ∉ key.toList) :
    Text.lines (packages s) =
      "===== Crate Summary =====" :: "Number of effects by crate:" ::
        (affected s).map countText ++ [totalsTitle,
          Text.decimal (affected s).length ++ affectedLabel,
          Text.decimal (unaffected s).length ++ unaffectedLabel] := by
  have text : packages s = String.join (("===== Crate Summary =====" ::
      "Number of effects by crate:" :: (affected s).map countText ++ [totalsTitle,
        Text.decimal (affected s).length ++ affectedLabel,
        Text.decimal (unaffected s).length ++ unaffectedLabel]).map line) := by
    simp [packages, countLine_eq, totalsTitle, affectedLabel, unaffectedLabel, String.join_append,
      String.join_cons, String.append_assoc]
  rw [text, Text.lines_join]
  simp only [List.cons_append, List.forall_mem_cons, List.forall_mem_append, List.forall_mem_map]
  refine ⟨⟨by decide, by decide⟩, ⟨by decide, by decide⟩, ?_, ⟨by decide, by decide⟩, ?_, ?_,
    List.forall_mem_nil _⟩
  · intro entry member
    exact plain_countText_of_mem single (List.mem_filter.mp member).1
  · exact (Text.plain_decimal _).append ⟨by decide, by decide⟩
  · exact (Text.plain_decimal _).append ⟨by decide, by decide⟩

/-- A package report ends in its two totals, whatever the names in it are. -/
theorem last_lines_packages (s : Summaries) :
    (Text.lines (packages s)).reverse.take 2 =
      [Text.decimal (unaffected s).length ++ unaffectedLabel,
        Text.decimal (affected s).length ++ affectedLabel] := by
  have text : packages s = line "===== Crate Summary =====" ++ line "Number of effects by crate:" ++
      String.join ((affected s).map countLine) ++ totalsTitle ++ "\n" ++
        String.join ([Text.decimal (affected s).length ++ affectedLabel,
          Text.decimal (unaffected s).length ++ unaffectedLabel].map line) := by
    simp [packages, line, totalsTitle, affectedLabel, unaffectedLabel, String.join_cons,
      String.append_assoc]
  rw [text, Text.lines_append_of_feed, Text.lines_join]
  · simp
  · simp only [List.forall_mem_cons]
    refine ⟨?_, ?_, List.forall_mem_nil _⟩
    · exact (Text.plain_decimal _).append ⟨by decide, by decide⟩
    · exact (Text.plain_decimal _).append ⟨by decide, by decide⟩

theorem readPackages?_packages {s : Summaries}
    (single : ∀ key ∈ s.packages.keys, '\n' ∉ key.toList) :
    readPackages? (packages s) =
      some ⟨affected s, (affected s).length, (unaffected s).length⟩ := by
  have entries : ∀ text ∈ (affected s).map countText, decide (text ≠ totalsTitle) = true := by
    simp only [List.forall_mem_map, decide_eq_true_eq]
    exact fun entry _ => countText_ne_totalsTitle entry
  simp only [readPackages?, lines_packages single, List.cons_append, List.drop_succ_cons,
    List.drop_zero]
  rw [List.takeWhile_append_of_pos entries, List.dropWhile_append_of_pos entries]
  rw [List.takeWhile_cons_of_neg (by simp), List.dropWhile_cons_of_neg (by simp), List.append_nil,
    mapM_readCount?]
  simp only [Option.bind_eq_bind, Option.bind_some, Option.pure_def]
  rw [readTotal?_append (by decide), readTotal?_append (by decide)]
  rfl

theorem rows_metadata_of_plain {s : Summaries}
    (single : ∀ entry ∈ s.metadata.entries, '\n' ∉ entry.1.toList)
    (plain : ∀ entry ∈ s.metadata.entries, Text.Plain entry.2.text) (key : SortKey) :
    rows (metadata s key) = (rankedMetadata s key).map rowText := by
  have text : metadata s key = String.join ((("crate" ++ ", " ++ MetadataRow.header) ::
      (rankedMetadata s key).map rowText).map line) := by
    rw [metadata, metadataLine_eq, List.map_cons, List.map_map, String.join_cons]
    rfl
  have comma : Text.Plain ", " := ⟨by decide, by decide⟩
  rw [rows, text, Text.lines_join]
  · rfl
  · simp only [List.forall_mem_cons, List.forall_mem_map, (rankedMetadata_perm s key).mem_iff]
    refine ⟨.after (by decide) (by decide) comma MetadataRow.oneLine_header.plain, ?_⟩
    intro entry member
    exact .after (single entry member) (by decide) comma (plain entry member)

theorem rows_metadata {s : Summaries} (single : ∀ key ∈ s.metadata.keys, '\n' ∉ key.toList)
    (alone : ∀ entry ∈ s.metadata.entries, Text.OneLine entry.2.text) (key : SortKey) :
    rows (metadata s key) = (rankedMetadata s key).map rowText :=
  rows_metadata_of_plain (fun entry member => single entry.1 (List.mem_map_of_mem member))
    (fun entry member => (alone entry member).plain) key

theorem rows_findings {found : List Finding} (expressible : ∀ f ∈ found, f.Expressible) :
    rows (findings found) = found.map Finding.row := by
  have text : findings found = String.join ((Finding.header :: found.map Finding.row).map line) := by
    simp [findings, String.join_cons, Function.comp_def]
  rw [rows, text, Text.lines_join]
  · rfl
  · simp only [List.forall_mem_cons, List.forall_mem_map]
    exact ⟨Finding.oneLine_header.plain, fun f member =>
      (Finding.oneLine_row (expressible f member)).plain⟩

end Report
end EffectSurvey
