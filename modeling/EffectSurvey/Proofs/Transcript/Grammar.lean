import EffectSurvey.Proofs.Text.Decimal
import EffectSurvey.Proofs.Text.Lines
import EffectSurvey.Proofs.Text.Pieces
import EffectSurvey.Transcript
import Mathlib.Data.List.Forall2

/-! The grammar of transcripts, on trimmed lines, and its agreement with the reader. Each stage of the
reader stands for what may still come; the lemmas on the stages are chained from the last one back to the
first. -/
namespace EffectSurvey

/-- The row of a finding: its six texts, its line and its column, in eight columns. -/
def Finding.SpelledBy (f : Finding) (row : String) : Prop :=
  ∃ line col, Text.Columns ',' ' ' row
      [f.package, f.function, f.callee, f.pattern, f.dir, f.file, line, col] ∧
    Text.Numeral line f.line ∧ Text.Numeral col f.col

theorem Finding.ofRow_eq_ok {row : String} {f : Finding} :
    Finding.ofRow row = .ok f ↔ f.SpelledBy row := by
  have split := Text.splitAtPair_eq_iff (a := ',') (b := ' ') (by decide) row
  constructor
  · intro read
    unfold Finding.ofRow at read
    split at read
    · rename_i columns
      split at read
      · rename_i lineRead colRead
        cases read
        exact ⟨_, _, (split _).mp columns, Text.word?_eq_some.mp lineRead,
          Text.word?_eq_some.mp colRead⟩
      · contradiction
      · contradiction
    · contradiction
  · rintro ⟨line, col, columns, lineRead, colRead⟩
    rw [Finding.ofRow, (split _).mpr columns]
    simp only [Text.word?_eq_some.mpr lineRead, Text.word?_eq_some.mpr colRead]

theorem Finding.oneLine_header : Text.OneLine Finding.header := by
  -- The kernel takes a literal for the list of its characters much faster than it computes that list.
  obtain ⟨cs, chars, single, begins, ends⟩ : ∃ cs : List Char, Finding.header = .ofList cs ∧
      '\n' ∉ cs ∧ cs.head? = some 'c' ∧ cs.getLast? = some 'l' := by
    refine ⟨_, rfl, ?_, ?_, ?_⟩ <;> decide +kernel
  rw [← String.toList_ofList (l := cs), ← chars] at single begins ends
  exact Text.oneLine_of_ends single begins ends (by decide)

theorem MetadataRow.oneLine_header : Text.OneLine MetadataRow.header := by
  obtain ⟨a, b, c, d, chars, single, begins, ends⟩ : ∃ a b c d : List Char,
      MetadataRow.header = .ofList a ++ .ofList b ++ .ofList c ++ .ofList d ∧
      '\n' ∉ a ++ b ++ c ++ d ∧ (a ++ b ++ c ++ d).head? = some 't' ∧
      (a ++ b ++ c ++ d).getLast? = some 's' := by
    refine ⟨_, _, _, _, rfl, ?_, ?_, ?_⟩ <;> decide +kernel
  have whole : MetadataRow.header.toList = a ++ b ++ c ++ d := by simp [chars]
  rw [← whole] at single begins ends
  exact Text.oneLine_of_ends single begins ends (by decide)

namespace Transcript

def Blank (lines : List String) : Prop := ∀ line ∈ lines, line = ""

def Rows (rows : List String) (findings : List Finding) : Prop :=
  List.Forall₂ (fun row finding => row ≠ "" ∧ finding.SpelledBy row) rows findings

/-- The trimmed lines of a transcript: the header of the findings, their rows, an empty line, the header
of the metadata, its row, and empty lines after it. -/
def Grammar (lines : List String) (findings : List Finding) (metadata : MetadataRow) : Prop :=
  ∃ rows blanks, Rows rows findings ∧ Blank blanks ∧
    lines = Finding.header :: rows ++ "" :: MetadataRow.header :: metadata.text :: blanks

def Body (lines : List String) (findings : List Finding) (metadata : MetadataRow) : Prop :=
  ∃ rows blanks, Rows rows findings ∧ Blank blanks ∧
    lines = rows ++ "" :: MetadataRow.header :: metadata.text :: blanks

section Lines
variable {line : String} {lines : List String} {findings : List Finding} {metadata : MetadataRow}

theorem grammar_cons :
    Grammar (line :: lines) findings metadata ↔
      line = Finding.header ∧ Body lines findings metadata := by
  constructor
  · rintro ⟨rows, blanks, spelled, tail, same⟩
    obtain ⟨first, rest⟩ := List.cons.inj same
    exact ⟨first, rows, blanks, spelled, tail, rest⟩
  · rintro ⟨rfl, rows, blanks, spelled, tail, rfl⟩
    exact ⟨rows, blanks, spelled, tail, rfl⟩

/-- An empty line can only end the rows, since no row is empty. -/
theorem body_blank :
    Body ("" :: lines) findings metadata ↔
      findings = [] ∧ ∃ blanks, Blank blanks ∧
        lines = MetadataRow.header :: metadata.text :: blanks := by
  constructor
  · rintro ⟨rows, blanks, spelled, tail, same⟩
    cases spelled with
    | nil => exact ⟨rfl, blanks, tail, (List.cons.inj same).2⟩
    | cons row _ => exact absurd (List.cons.inj same).1.symm row.1
  · rintro ⟨rfl, blanks, tail, rfl⟩
    exact ⟨[], blanks, .nil, tail, rfl⟩

theorem body_row (nonempty : line ≠ "") :
    Body (line :: lines) findings metadata ↔
      ∃ finding others, findings = finding :: others ∧ finding.SpelledBy line ∧
        Body lines others metadata := by
  constructor
  · rintro ⟨rows, blanks, spelled, tail, same⟩
    cases spelled with
    | nil => exact absurd (List.cons.inj same).1 nonempty
    | cons row spelled =>
      obtain ⟨rfl, rest⟩ := List.cons.inj same
      exact ⟨_, _, rfl, row.2, _, blanks, spelled, tail, rest⟩
  · rintro ⟨finding, others, rfl, spelling, rows, blanks, spelled, tail, rfl⟩
    exact ⟨line :: rows, blanks, .cons ⟨nonempty, spelling⟩ spelled, tail, rfl⟩

end Lines

namespace Reader
variable {r : Reader} {scan : PackageScan}

def complete (r : Reader) (lines : List String) : Except TranscriptError PackageScan :=
  match r.feedAll lines with
  | .ok last => last.finish
  | .error e => .error e

@[simp] theorem count_package (r : Reader) : r.count.package = r.package := rfl

@[simp] theorem count_findings (r : Reader) : r.count.findings = r.findings := rfl

@[simp] theorem count_stage (r : Reader) : r.count.stage = r.stage := rfl

theorem complete_nil (r : Reader) : r.complete [] = r.finish := rfl

theorem complete_cons (r : Reader) (line : String) (lines : List String) :
    r.complete (line :: lines) =
      match r.feed line with
      | (next, none) => next.complete lines
      | (_, some e) => .error e := by
  rw [complete, feedAll]
  rcases r.feed line with ⟨next, _ | e⟩ <;> rfl

theorem complete_done (stage : r.stage = .done) (lines : List String) :
    r.complete lines = .ok scan ↔
      Blank (lines.map Text.trim) ∧ scan = ⟨r.package, r.findings, r.metadata.getD ⟨""⟩⟩ := by
  induction lines generalizing r with
  | nil => simp [complete_nil, finish, stage, Blank, eq_comm]
  | cons line lines ih =>
    rw [complete_cons]
    simp only [feed, take, count_stage, stage]
    by_cases blank : Text.trim line = ""
    · have rest : r.count.complete lines = .ok scan ↔ _ := ih stage
      simpa [blank, Blank, count] using rest
    · simp [blank, Blank]

theorem complete_metadataRow (stage : r.stage = .metadataRow) (lines : List String) :
    r.complete lines = .ok scan ↔
      ∃ blanks, Blank blanks ∧ lines.map Text.trim = scan.metadata.text :: blanks ∧
        scan.package = r.package ∧ scan.findings = r.findings := by
  cases lines with
  | nil => simp [complete_nil, finish, stage]
  | cons line lines =>
    rw [complete_cons]
    simp only [feed, take, count_stage, stage]
    rw [complete_done rfl]
    constructor
    · rintro ⟨blank, rfl⟩
      exact ⟨_, blank, rfl, rfl, rfl⟩
    · rintro ⟨blanks, blank, lines, package, findings⟩
      obtain ⟨first, rfl⟩ := List.cons.inj lines
      refine ⟨blank, ?_⟩
      cases scan
      simp_all [count]

theorem complete_metadataHeader (stage : r.stage = .metadataHeader) (lines : List String) :
    r.complete lines = .ok scan ↔
      ∃ blanks, Blank blanks ∧
        lines.map Text.trim = MetadataRow.header :: scan.metadata.text :: blanks ∧
        scan.package = r.package ∧ scan.findings = r.findings := by
  cases lines with
  | nil => simp [complete_nil, finish, stage]
  | cons line lines =>
    rw [complete_cons]
    simp only [feed, take, count_stage, stage]
    by_cases header : Text.trim line = MetadataRow.header
    · have rest : complete { r.count with stage := .metadataRow } lines = .ok scan ↔ _ :=
        complete_metadataRow rfl lines
      simpa [header, count] using rest
    · simp [header]

theorem complete_findings (stage : r.stage = .findings) (lines : List String) :
    r.complete lines = .ok scan ↔
      ∃ found, Body (lines.map Text.trim) found scan.metadata ∧
        scan.package = r.package ∧ scan.findings = r.findings ++ found := by
  induction lines generalizing r with
  | nil => simp [complete_nil, finish, stage, Body]
  | cons line lines ih =>
    rw [complete_cons, List.map_cons]
    simp only [feed, take, count_stage, stage]
    by_cases blank : Text.trim line = ""
    · have rest : complete { r.count with stage := .metadataHeader } lines = .ok scan ↔ _ :=
        complete_metadataHeader rfl lines
      simp only [blank, if_true, rest, body_blank]
      constructor
      · rintro ⟨blanks, tail, lines, package, findings⟩
        exact ⟨[], ⟨rfl, blanks, tail, lines⟩, package, by simpa using findings⟩
      · rintro ⟨_, ⟨rfl, blanks, tail, lines⟩, package, findings⟩
        exact ⟨blanks, tail, lines, package, by simpa using findings⟩
    · simp only [blank, if_false, body_row blank]
      cases decoded : Finding.ofRow (Text.trim line) with
      | error fault =>
        refine ⟨nofun, ?_⟩
        rintro ⟨_, ⟨finding, others, _, spelling, _⟩, _⟩
        rw [Finding.ofRow_eq_ok.mpr spelling] at decoded
        contradiction
      | ok finding =>
        have spelling := Finding.ofRow_eq_ok.mp decoded
        have rest : complete { r.count with
            stage := .findings, findings := r.findings ++ [finding] } lines = .ok scan ↔ _ := ih rfl
        refine rest.trans ?_
        constructor
        · rintro ⟨found, body, package, findings⟩
          exact ⟨finding :: found, ⟨finding, found, rfl, spelling, body⟩, package,
            by simpa using findings⟩
        · rintro ⟨_, ⟨first, others, rfl, spelled, body⟩, package, findings⟩
          rw [Finding.ofRow_eq_ok.mpr spelled] at decoded
          cases decoded
          exact ⟨others, body, package, by simpa using findings⟩

theorem complete_start (package : String) (lines : List String) :
    (start package).complete lines = .ok scan ↔
      scan.package = package ∧ Grammar (lines.map Text.trim) scan.findings scan.metadata := by
  cases lines with
  | nil => simp [complete_nil, finish, start, Grammar]
  | cons line lines =>
    rw [complete_cons, List.map_cons, grammar_cons]
    simp only [feed, take, start, count]
    by_cases header : Text.trim line = Finding.header
    · have rest : complete ⟨package, .findings, 1, [], none⟩ lines = .ok scan ↔ _ :=
        complete_findings rfl lines
      simp only [header, if_true, Nat.zero_add, rest, true_and, List.nil_append]
      constructor
      · rintro ⟨found, body, package, rfl⟩
        exact ⟨package, body⟩
      · rintro ⟨package, body⟩
        exact ⟨_, body, package, rfl⟩
    · simp [header]

end Reader

theorem readText_eq_ok {package text : String} {scan : PackageScan} :
    readText package text = .ok scan ↔ scan.package = package ∧
      Grammar ((Text.lines text).map Text.trim) scan.findings scan.metadata :=
  Reader.complete_start package (Text.lines text)

theorem read_nil (package : String) : read package [] = .error (.ended .findingHeader) := by
  have lines : Text.lines (Text.Utf8.decodeLossy []) = [] := by decide +kernel
  rw [read, readText, lines]
  rfl

/-- Reading accepts exactly the byte sequences whose lines, decoded and trimmed, follow the grammar, and
gives the findings and the metadata row that the lines spell. -/
theorem read_accepts_grammar (package : String) (output : Bytes) (scan : PackageScan) :
    read package output = .ok scan ↔ scan.package = package ∧
      Grammar ((Text.lines (Text.Utf8.decodeLossy output)).map Text.trim)
        scan.findings scan.metadata :=
  readText_eq_ok

end Transcript
end EffectSurvey
