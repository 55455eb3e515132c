import EffectSurvey.Proofs.Batch.Results
import EffectSurvey.Proofs.Text.Lines
import EffectSurvey.Proofs.Text.Utf8
import EffectSurvey.Report.Texts

/-! Findings written as a transcript and read back. What a row can express is said of the finding alone;
writing and reading then meet at the grammar, and everything that was read is again expressible. -/
namespace EffectSurvey

namespace Text

theorem unbroken_decimal (n : Nat) : Unbroken ',' ' ' (decimal n).toList := by
  intro pair
  exact not_mem_decimal (by decide) n (pair.subset List.mem_cons_self)

end Text

namespace Finding
variable {f : Finding} {row : String}

def texts (f : Finding) : List String :=
  [f.package, f.function, f.callee, f.pattern, f.dir, f.file]

/-- What a row can express: no text holds the separator or a line feed, the first one does not begin with
a blank, and the numbers are words. -/
structure Expressible (f : Finding) : Prop where
  separable : ∀ text ∈ f.texts, Text.Unbroken ',' ' ' text.toList
  single : ∀ text ∈ f.texts, '\n' ∉ text.toList
  unindented : ∀ c, f.package.toList.head? = some c → Text.isBlank c = false
  line : f.line < 2 ^ 64
  col : f.col < 2 ^ 64

theorem expressible_iff (f : Finding) :
    f.Expressible ↔ (∀ text ∈ f.texts, Text.Unbroken ',' ' ' text.toList) ∧
      (∀ text ∈ f.texts, '\n' ∉ text.toList) ∧
      f.package.toList.head?.all (fun c => !Text.isBlank c) = true ∧
      f.line < 2 ^ 64 ∧ f.col < 2 ^ 64 := by
  have first : (∀ c, f.package.toList.head? = some c → Text.isBlank c = false) ↔
      f.package.toList.head?.all (fun c => !Text.isBlank c) = true := by
    simp [Option.all_eq_true]
  rw [← first]
  exact ⟨fun f => ⟨f.separable, f.single, f.unindented, f.line, f.col⟩,
    fun ⟨separable, single, unindented, line, col⟩ => ⟨separable, single, unindented, line, col⟩⟩

instance (f : Finding) : Decidable f.Expressible := decidable_of_iff _ (expressible_iff f).symm

theorem columns_eq (f : Finding) :
    f.columns = f.texts ++ [Text.decimal f.line, Text.decimal f.col] := rfl

theorem columns_row (separable : ∀ text ∈ f.texts, Text.Unbroken ',' ' ' text.toList) :
    Text.Columns ',' ' ' f.row f.columns := by
  refine ⟨by simp [columns], rfl, ?_⟩
  intro column member
  rw [columns_eq, List.mem_append] at member
  rcases member with text | number
  · exact separable column text
  · simp only [List.mem_cons, List.not_mem_nil, or_false] at number
    rcases number with rfl | rfl <;> exact Text.unbroken_decimal _

theorem spelledBy_row (separable : ∀ text ∈ f.texts, Text.Unbroken ',' ' ' text.toList)
    (line : f.line < 2 ^ 64) (col : f.col < 2 ^ 64) : f.SpelledBy f.row :=
  ⟨_, _, columns_row separable, Text.numeral_decimal line, Text.numeral_decimal col⟩

theorem row_eq (f : Finding) :
    f.row = f.package ++ ", " ++ f.function ++ ", " ++ f.callee ++ ", " ++ f.pattern ++ ", " ++
      f.dir ++ ", " ++ f.file ++ ", " ++ Text.decimal f.line ++ ", " ++ Text.decimal f.col := rfl

theorem single_row (expressible : f.Expressible) : '\n' ∉ f.row.toList := by
  have texts := expressible.single
  simp only [Finding.texts, List.forall_mem_cons] at texts
  have numbers : ∀ n, '\n' ∉ (Text.decimal n).toList := Text.not_mem_decimal (by decide)
  simp [row_eq, texts, numbers]

theorem getLast?_row {c : Char} (last : f.row.toList.getLast? = some c) :
    c ∈ (Text.decimal f.col).toList := by
  rw [row_eq, String.toList_append, List.getLast?_append_of_ne_nil _
    (Text.digits_decimal f.col).nonempty] at last
  exact List.mem_of_getLast? last

theorem head?_row {c : Char} (first : f.row.toList.head? = some c) :
    f.package.toList.head? = some c ∨ c = ',' := by
  simp only [row_eq, String.toList_append, List.append_assoc] at first
  cases chars : f.package.toList with
  | nil => exact Or.inr (by simpa [chars, eq_comm] using first)
  | cons d rest => exact Or.inl (by simpa [chars] using first)

/-- A row begins as its first text does, or with a separator, and ends in a digit. -/
theorem trim_row (unindented : ∀ c, f.package.toList.head? = some c → Text.isBlank c = false) :
    Text.trim f.row = f.row := by
  refine Text.trim_eq_self ?_ ?_
  · intro c first
    rcases head?_row first with package | rfl
    · exact unindented c package
    · decide
  · intro c last
    exact Text.not_isBlank_of_isDigit ((Text.digits_decimal f.col).decimal c (getLast?_row last))

theorem oneLine_row (expressible : f.Expressible) : Text.OneLine f.row :=
  ⟨trim_row expressible.unindented, single_row expressible⟩

theorem row_ne_empty (f : Finding) : f.row ≠ "" := by
  intro none
  have separator : ',' ∈ f.row.toList := by simp [row_eq]
  simp [none] at separator

theorem expressible_of_spelledBy (spelled : f.SpelledBy row) (alone : Text.OneLine row) :
    f.Expressible := by
  obtain ⟨line, col, split, lineRead, colRead⟩ := spelled
  have among : ∀ text ∈ f.texts,
      text ∈ [f.package, f.function, f.callee, f.pattern, f.dir, f.file, line, col] :=
    fun text member => List.mem_append_left [line, col] member
  have bounded : ∀ {text n}, Text.Numeral text n → n < 2 ^ 64 := fun ⟨_, _, _, below⟩ => below
  refine ⟨fun text member => split.unbroken text (among text member), ?_, ?_, bounded lineRead,
    bounded colRead⟩
  · intro text member feed
    exact alone.single (split.mem_of_mem_column (among text member) feed)
  · intro c first
    have begins := split.head?_of_first first
    rw [← alone.trimmed, Text.toList_trim] at begins
    exact Text.head?_stripBoth begins

end Finding

namespace Transcript
variable {findings : List Finding} {metadata : MetadataRow} {package : String} {output : Bytes}
  {scan : PackageScan}

/-- A transcript of the findings and the metadata row: the report of the findings, an empty line, and the
row below its header. -/
def write (findings : List Finding) (metadata : MetadataRow) : Bytes :=
  Text.Utf8.encode
    (Report.findings findings ++ "\n" ++ MetadataRow.header ++ "\n" ++ metadata.text ++ "\n")

theorem trimmedLines_join {lines : List String} (alone : ∀ line ∈ lines, Text.OneLine line) :
    Text.trimmedLines (String.join (lines.map Report.line)) = lines := by
  induction lines with
  | nil => rfl
  | cons line lines ih =>
    obtain ⟨first, later⟩ := List.forall_mem_cons.mp alone
    rw [List.map_cons, String.join_cons, Report.line, Text.trimmedLines_append first.single,
      first.trimmed, ih later]

theorem write_eq_join (findings : List Finding) (metadata : MetadataRow) :
    write findings metadata = Text.Utf8.encode (String.join
      ((Finding.header :: findings.map Finding.row ++
        ["", MetadataRow.header, metadata.text]).map Report.line)) := by
  simp [write, Report.findings, Report.line, String.join_append, String.join_cons, Function.comp_def,
    String.append_assoc]

theorem trimmedLines_write (rows : ∀ f ∈ findings, f.Expressible)
    (row : Text.OneLine metadata.text) :
    Text.trimmedLines (Text.Utf8.decodeLossy (write findings metadata)) =
      Finding.header :: findings.map Finding.row ++ ["", MetadataRow.header, metadata.text] := by
  rw [write_eq_join, Text.Utf8.decodeLossy_encode]
  apply trimmedLines_join
  intro line member
  simp only [List.cons_append, List.mem_cons, List.mem_append, List.mem_map,
    List.not_mem_nil, or_false] at member
  rcases member with rfl | ⟨f, inside, rfl⟩ | rfl | rfl | rfl
  · exact Finding.oneLine_header
  · exact Finding.oneLine_row (rows f inside)
  · exact ⟨rfl, by simp⟩
  · exact MetadataRow.oneLine_header
  · exact row

theorem rows_of_expressible (rows : ∀ f ∈ findings, f.Expressible) :
    Rows (findings.map Finding.row) findings := by
  rw [Rows, List.forall₂_map_left_iff, List.forall₂_same]
  intro f member
  obtain ⟨separable, -, -, line, col⟩ := rows f member
  exact ⟨f.row_ne_empty, Finding.spelledBy_row separable line col⟩

theorem read_write (package : String) (rows : ∀ f ∈ findings, f.Expressible)
    (row : Text.OneLine metadata.text) :
    read package (write findings metadata) = .ok ⟨package, findings, metadata⟩ := by
  refine readText_eq_ok.mpr ⟨rfl, findings.map Finding.row, [], rows_of_expressible rows, nofun, ?_⟩
  exact trimmedLines_write rows row

theorem Rows.exists_row {rows : List String} (spelled : Rows rows findings) {f : Finding}
    (member : f ∈ findings) : ∃ row ∈ rows, f.SpelledBy row := by
  induction spelled with
  | nil => contradiction
  | cons first _ ih =>
    rcases List.mem_cons.mp member with rfl | later
    · exact ⟨_, List.mem_cons_self, first.2⟩
    · obtain ⟨row, inside, spelling⟩ := ih later
      exact ⟨row, List.mem_cons_of_mem _ inside, spelling⟩

theorem expressible_of_read (accepted : read package output = .ok scan) :
    (∀ f ∈ scan.findings, f.Expressible) ∧ Text.OneLine scan.metadata.text := by
  obtain ⟨_, rows, blanks, spelled, _, lines⟩ := readText_eq_ok.mp accepted
  have alone : ∀ line ∈ Finding.header :: rows ++ "" :: MetadataRow.header :: scan.metadata.text ::
      blanks, Text.OneLine line := by
    intro line member
    rw [← lines] at member
    exact Text.oneLine_of_mem_trimmedLines line member
  constructor
  · intro f member
    obtain ⟨row, inside, spelling⟩ := spelled.exists_row member
    exact Finding.expressible_of_spelledBy spelling (alone row (by simp [inside]))
  · exact alone scan.metadata.text (by simp)

theorem read_write_of_read (accepted : read package output = .ok scan) :
    read package (write scan.findings scan.metadata) = .ok scan := by
  obtain ⟨rows, row⟩ := expressible_of_read accepted
  obtain ⟨rfl, _⟩ := readText_eq_ok.mp accepted
  exact read_write scan.package rows row

end Transcript

theorem ScanResult.ofReply_of_write {reply : String → Except String Bytes} {name : String}
    {findings : List Finding} {metadata : MetadataRow} (rows : ∀ f ∈ findings, f.Expressible)
    (row : Text.OneLine metadata.text)
    (written : reply name = .ok (Transcript.write findings metadata)) :
    ScanResult.ofReply reply name = .ok ⟨name, findings, metadata⟩ := by
  simp only [ScanResult.ofReply, written]
  rw [Transcript.read_write name rows row]
  rfl

/-- All packages but one get the same transcript, and that one gets none. -/
theorem ScanResult.ofReply_of_muted {findings : List Finding} {metadata : MetadataRow}
    (rows : ∀ f ∈ findings, f.Expressible) (row : Text.OneLine metadata.text) (muted name : String) :
    ScanResult.ofReply
      (fun name => .ok (if name = muted then [] else Transcript.write findings metadata)) name =
      if name = muted then .error (.badTranscript name (.ended .findingHeader))
      else .ok ⟨name, findings, metadata⟩ := by
  split
  · rename_i silent
    simp only [ScanResult.ofReply, if_pos silent, Transcript.read_nil]
    rfl
  · rename_i speaks
    exact ScanResult.ofReply_of_write rows row (by simp [speaks])

namespace Batch
variable {fetcher : Fetcher} {analyzer : Analyzer} {options : BatchOptions}

theorem scanPackage_reads (name : String) :
    (scanPackage fetcher analyzer options name).Returns fun result =>
      ∀ scan, result = .ok scan → ∃ output, Transcript.read name output = .ok scan := by
  refine Work.Returns.bind (fun _ _ _ _ => nofun) fun dir => ?_
  refine Work.Returns.bind (fun _ _ _ _ => nofun) fun output => ?_
  split
  · rename_i scan read
    refine (Work.quiet_forM (fun _ => Work.quiet_log _ _) _).returns_bind ?_
    rintro _ _ ⟨⟩
    exact ⟨output, read⟩
  · exact fun _ _ => nofun

theorem exists_read_of_mem_results {packages : List String} {files : FileTree} {scan : PackageScan}
    (member : .ok scan ∈ results (scanPackage fetcher analyzer options) packages files) :
    ∃ name output, Transcript.read name output = .ok scan := by
  induction packages generalizing files with
  | nil => contradiction
  | cons name names ih =>
    rcases List.mem_cons.mp member with first | later
    · exact ⟨name, scanPackage_reads name files scan first.symm⟩
    · exact ih later

theorem mem_findings_foldl_take {o : Outcome} {results : List ScanResult} {f : Finding}
    (member : f ∈ (results.foldl Outcome.take o).findings) :
    f ∈ o.findings ∨ ∃ scan, .ok scan ∈ results ∧ f ∈ scan.findings := by
  rw [Outcome.findings_foldl_take, List.mem_append, List.mem_flatMap] at member
  rcases member with before | ⟨result, taken, inside⟩
  · exact Or.inl before
  · cases result with
    | ok scan => exact Or.inr ⟨scan, taken, inside⟩
    | error e => contradiction

theorem expressible_of_run {packages : List String} {files : FileTree} {outcome : Outcome}
    (ended : (run fetcher analyzer options packages files).value = .ok outcome) :
    ∀ f ∈ outcome.findings, f.Expressible := by
  intro f member
  rw [value_run] at ended
  rw [Outcome.eq_foldl_of_deliverAll ended] at member
  rcases mem_findings_foldl_take member with before | ⟨scan, taken, inside⟩
  · contradiction
  · obtain ⟨name, output, accepted⟩ := exists_read_of_mem_results taken
    exact (Transcript.expressible_of_read accepted).1 f inside

end Batch

namespace Transcript

/-- Reading is inverse to writing on all that rows and lines can express. Nothing else is ever read, so
every scan, and all findings of a run together, can be written and read again. -/
theorem write_read_roundtrip :
    (∀ package findings metadata, (∀ f ∈ findings, f.Expressible) → Text.OneLine metadata.text →
      read package (write findings metadata) = .ok ⟨package, findings, metadata⟩) ∧
    (∀ package output scan, read package output = .ok scan →
      (∀ f ∈ scan.findings, f.Expressible) ∧ Text.OneLine scan.metadata.text ∧
        read package (write scan.findings scan.metadata) = .ok scan) ∧
    ∀ fetcher analyzer options packages files outcome,
      (Batch.run fetcher analyzer options packages files).value = .ok outcome →
      ∀ package metadata, Text.OneLine metadata.text →
        read package (write outcome.findings metadata) = .ok ⟨package, outcome.findings, metadata⟩ := by
  refine ⟨fun package _ _ rows row => read_write package rows row, ?_, ?_⟩
  · intro package output scan accepted
    obtain ⟨rows, row⟩ := expressible_of_read accepted
    exact ⟨rows, row, read_write_of_read accepted⟩
  · intro fetcher analyzer options packages files outcome ended package metadata row
    exact read_write package (Batch.expressible_of_run ended) row

/-- Texts that are empty, begin with blanks, end in commas or hold a carriage return, below an empty
metadata row; then the same transcript in a run. -/
theorem write_read_awkward_finding :
    let f : Finding :=
      ⟨"", "  f,", "g\r", "\u00a0Unsafe\t", ",", " ,,", 18446744073709551615, 0⟩
    let scan : PackageScan := ⟨"p", [f], ⟨""⟩⟩
    let fetcher : Fetcher := fun _ _ => Work.succeed ()
    let reply : String → Except String Bytes := fun _ => .ok (write [f] ⟨""⟩)
    let run := Batch.run fetcher (Analyzer.replying reply) ⟨"src", false, 1, false, 10⟩ ["p", "p"]
    (f.Expressible ∧ read "p" (write [f] ⟨""⟩) = .ok scan) ∧
      read "p" (write scan.findings scan.metadata) = .ok scan ∧
      ∃ outcome, (run ⟨[], []⟩).value = .ok outcome ∧ outcome.findings = [f, f] ∧
        read "q" (write outcome.findings ⟨"5, 1"⟩) = .ok ⟨"q", [f, f], ⟨"5, 1"⟩⟩ := by
  intro f scan fetcher reply run
  have expressible : f.Expressible := by decide +kernel
  have written : read "p" (write [f] ⟨""⟩) = .ok scan :=
    write_read_roundtrip.1 "p" [f] ⟨""⟩ (by simpa using expressible) ⟨rfl, by simp⟩
  obtain ⟨outcome, ended, findings⟩ : ∃ outcome, (run ⟨[], []⟩).value = .ok outcome ∧
      outcome.findings = [f, f] := by
    have result : ScanResult.ofReply reply "p" = .ok scan := by
      simp only [ScanResult.ofReply, reply, written]
      rfl
    simp only [run, Batch.value_run]
    rw [(Batch.steady_replying reply rfl fun _ _ _ => rfl).results_eq ["p", "p"] trivial,
      List.map_cons, List.map_cons, result]
    exact ⟨_, rfl, rfl⟩
  refine ⟨⟨expressible, written⟩, (write_read_roundtrip.2.1 "p" _ scan written).2.2, outcome, ended,
    findings, ?_⟩
  rw [write_read_roundtrip.2.2 _ _ _ _ _ outcome ended "q" ⟨"5, 1"⟩ ⟨by decide +kernel, by simp⟩,
    findings]

end Transcript
end EffectSurvey
