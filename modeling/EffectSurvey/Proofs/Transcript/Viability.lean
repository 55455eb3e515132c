import EffectSurvey.Proofs.Transcript.Grammar

/-! Where the reader refuses a transcript. Every stage can be completed, so a line is refused exactly when
nothing that follows could make up for it, and the error tells where that line stands. -/
namespace EffectSurvey

/-- What is wrong with a row: it has another number of columns than eight, or it has eight and the seventh
is no numeral, or only the last of them is none. -/
def RowFault.Explains (row : String) : RowFault → Prop
  | .columns found => found ≠ Finding.columnCount ∧
      ∃ columns, Text.Columns ',' ' ' row columns ∧ columns.length = found
  | .line text => ∃ texts col, texts.length = 6 ∧
      Text.Columns ',' ' ' row (texts ++ [text, col]) ∧ ∀ n, ¬ Text.Numeral text n
  | .col text => ∃ texts line, texts.length = 6 ∧
      Text.Columns ',' ' ' row (texts ++ [line, text]) ∧ (∃ n, Text.Numeral line n) ∧
      ∀ n, ¬ Text.Numeral text n

theorem Text.word?_eq_none {text : String} : Text.word? text = none ↔ ∀ n, ¬ Text.Numeral text n := by
  rw [Option.eq_none_iff_forall_ne_some]
  exact forall_congr' fun n => not_congr Text.word?_eq_some

theorem Finding.explains_of_ofRow {row : String} {fault : RowFault}
    (refused : Finding.ofRow row = .error fault) : fault.Explains row := by
  have split := Text.splitAtPair_eq_iff (a := ',') (b := ' ') (by decide) row
  unfold Finding.ofRow at refused
  split at refused
  · rename_i package function callee pattern dir file lineText colText columns
    have columns := (split _).mp columns
    split at refused
    · contradiction
    · rename_i unread
      cases refused
      exact ⟨[package, function, callee, pattern, dir, file], colText, rfl, columns,
        Text.word?_eq_none.mp unread⟩
    · rename_i line lineRead unread
      cases refused
      exact ⟨[package, function, callee, pattern, dir, file], lineText, rfl, columns,
        ⟨line, Text.word?_eq_some.mp lineRead⟩, Text.word?_eq_none.mp unread⟩
  · rename_i other
    cases refused
    refine ⟨?_, _, (split _).mp rfl, rfl⟩
    intro eight
    match columns : Text.splitAtPair ',' ' ' row, eight with
    | [package, function, callee, pattern, dir, file, line, col], _ =>
      exact other package function callee pattern dir file line col columns

theorem Finding.six_texts {texts : List String} (six : texts.length = 6) :
    ∃ package function callee pattern dir file,
      texts = [package, function, callee, pattern, dir, file] := by
  match texts, six with
  | [package, function, callee, pattern, dir, file], _ =>
    exact ⟨package, function, callee, pattern, dir, file, rfl⟩

theorem Finding.ofRow_of_explains {row : String} {fault : RowFault} (explains : fault.Explains row) :
    Finding.ofRow row = .error fault := by
  have split := Text.splitAtPair_eq_iff (a := ',') (b := ' ') (by decide) row
  cases fault with
  | columns found =>
    obtain ⟨differs, columns, columnsOf, rfl⟩ := explains
    rw [Finding.ofRow, (split columns).mpr columnsOf]
    split
    · exact absurd rfl differs
    · rfl
  | line text =>
    obtain ⟨texts, col, six, columnsOf, unread⟩ := explains
    obtain ⟨_, _, _, _, _, _, rfl⟩ := six_texts six
    rw [Finding.ofRow, (split _).mpr columnsOf]
    simp [Text.word?_eq_none.mpr unread]
  | col text =>
    obtain ⟨texts, line, six, columnsOf, ⟨n, lineRead⟩, unread⟩ := explains
    obtain ⟨_, _, _, _, _, _, rfl⟩ := six_texts six
    rw [Finding.ofRow, (split _).mpr columnsOf]
    simp [Text.word?_eq_some.mpr lineRead, Text.word?_eq_none.mpr unread]

namespace Transcript

/-- The trimmed lines that lead to a stage. -/
def Reached : Stage → List String → Prop
  | .findingHeader, lines => lines = []
  | .findings, lines => ∃ rows found, Rows rows found ∧ lines = Finding.header :: rows
  | .metadataHeader, lines => ∃ rows found, Rows rows found ∧
      lines = Finding.header :: rows ++ [""]
  | .metadataRow, lines => ∃ rows found, Rows rows found ∧
      lines = Finding.header :: rows ++ ["", MetadataRow.header]
  | .done, lines => ∃ findings metadata, Grammar lines findings metadata

/-- The stage that some lines can lead to at most, by where their first empty line stands. -/
def stageAfter : List String → Stage
  | [] => .findingHeader
  | _ :: lines =>
    match lines.dropWhile (· ≠ "") with
    | [] => .findings
    | [_] => .metadataHeader
    | [_, _] => .metadataRow
    | _ :: _ :: _ :: _ => .done

theorem dropWhile_rows {rows : List String} {found : List Finding} (spelled : Rows rows found)
    (rest : List String) : (rows ++ rest).dropWhile (· ≠ "") = rest.dropWhile (· ≠ "") := by
  induction spelled with
  | nil => rfl
  | cons row _ ih =>
    rw [List.cons_append, List.dropWhile_cons_of_pos (by simpa using row.1)]
    exact ih

theorem Reached.stage_eq {stage : Stage} {lines : List String} (reached : Reached stage lines) :
    stage = stageAfter lines := by
  cases stage with
  | findingHeader =>
    cases reached
    rfl
  | findings =>
    obtain ⟨rows, found, spelled, rfl⟩ := reached
    have none := dropWhile_rows spelled []
    rw [List.append_nil] at none
    rw [stageAfter, none]
    rfl
  | metadataHeader =>
    obtain ⟨rows, found, spelled, rfl⟩ := reached
    rw [List.cons_append, stageAfter, dropWhile_rows spelled]
    rfl
  | metadataRow =>
    obtain ⟨rows, found, spelled, rfl⟩ := reached
    rw [List.cons_append, stageAfter, dropWhile_rows spelled]
    rfl
  | done =>
    obtain ⟨findings, metadata, rows, blanks, spelled, _, rfl⟩ := reached
    rw [List.cons_append, stageAfter, dropWhile_rows spelled]
    rfl

theorem Reached.unique {first second : Stage} {lines : List String} (left : Reached first lines)
    (right : Reached second lines) : first = second :=
  left.stage_eq.trans right.stage_eq.symm

/-- The error for a line of this number and trimmed text that cannot stand at a stage. Any line can stand
for the metadata row. -/
def Stage.Refuses (number : Nat) (text : String) : Stage → TranscriptError → Prop
  | .findingHeader, e => e = .findingHeader text
  | .findings, e => ∃ fault : RowFault, fault.Explains text ∧ e = .malformedFinding number fault
  | .metadataHeader, e => e = .metadataHeader text
  | .metadataRow, _ => False
  | .done, e => e = .trailing number text

theorem Stage.Refuses.unique {number : Nat} {text : String} {stage : Stage}
    {first second : TranscriptError} (left : stage.Refuses number text first)
    (right : stage.Refuses number text second) : first = second := by
  cases stage with
  | findingHeader | metadataHeader | done => exact left.trans right.symm
  | metadataRow => contradiction
  | findings =>
    obtain ⟨fault, explains, rfl⟩ := left
    obtain ⟨other, explained, rfl⟩ := right
    have same := (Finding.ofRow_of_explains explains).symm.trans
      (Finding.ofRow_of_explains explained)
    rw [Except.error.inj same]

def Stage.before : Expected → Stage
  | .findingHeader => .findingHeader
  | .blankLine => .findings
  | .metadataHeader => .metadataHeader
  | .metadataRow => .metadataRow

/-- The lines begin some transcript. -/
def Viable (lines : List String) : Prop :=
  ∃ more findings metadata, Grammar ((lines ++ more).map Text.trim) findings metadata

/-- The error of the first line after which the lines begin no transcript any more. -/
def FirstDead (lines : List String) (e : TranscriptError) : Prop :=
  ∃ before line after stage, lines = before ++ line :: after ∧
    Viable before ∧ ¬ Viable (before ++ [line]) ∧ Reached stage (before.map Text.trim) ∧
    stage.Refuses (before.length + 1) (Text.trim line) e

/-- The lines begin a transcript, and the error names what has to come next. -/
def CutShort (lines : List String) (e : TranscriptError) : Prop :=
  Viable lines ∧ ∃ expected, e = .ended expected ∧
    Reached (Stage.before expected) (lines.map Text.trim)

namespace Reader
variable {r next : Reader} {package text : String} {lines : List String} {e : TranscriptError}

/-- All that taking a trimmed line can do to a reader. -/
inductive Accepts (r : Reader) : String → Reader → Prop where
  | findingHeader (stage : r.stage = .findingHeader) :
    Accepts r Finding.header { r with stage := .findings }
  | row {text : String} {finding : Finding} (stage : r.stage = .findings) (visible : text ≠ "")
    (spelling : finding.SpelledBy text) :
    Accepts r text { r with findings := r.findings ++ [finding] }
  | separator (stage : r.stage = .findings) : Accepts r "" { r with stage := .metadataHeader }
  | metadataHeader (stage : r.stage = .metadataHeader) :
    Accepts r MetadataRow.header { r with stage := .metadataRow }
  | metadataRow {text : String} (stage : r.stage = .metadataRow) :
    Accepts r text { r with stage := .done, metadata := some ⟨text⟩ }
  | trailing (stage : r.stage = .done) : Accepts r "" r

theorem Accepts.take_eq (accepts : r.Accepts text next) : r.take text = (next, none) := by
  unfold take
  cases accepts with
  | row stage visible spelling => simp only [stage, if_neg visible, Finding.ofRow_eq_ok.mpr spelling]
  | metadataRow stage => simp only [stage]
  | findingHeader stage | separator stage | metadataHeader stage | trailing stage =>
    simp only [stage, if_true]

/-- All that can come of a line: it is accepted, or it is refused and the reader stays as it is. -/
theorem take_cases (r : Reader) (text : String) :
    (∃ next, r.take text = (next, none) ∧ r.Accepts text next) ∨
      ∃ e, r.take text = (r, some e) ∧ r.stage.Refuses r.lineCount text e := by
  cases stage : r.stage with
  | findingHeader =>
    by_cases header : text = Finding.header
    · subst header
      have accepts : r.Accepts Finding.header _ := .findingHeader stage
      exact .inl ⟨_, accepts.take_eq, accepts⟩
    · exact .inr ⟨_, by simp only [take, stage, if_neg header], rfl⟩
  | findings =>
    by_cases blank : text = ""
    · subst blank
      have accepts : r.Accepts "" _ := .separator stage
      exact .inl ⟨_, accepts.take_eq, accepts⟩
    · cases read : Finding.ofRow text with
      | ok finding =>
        have accepts : r.Accepts text _ := .row stage blank (Finding.ofRow_eq_ok.mp read)
        exact .inl ⟨_, accepts.take_eq, accepts⟩
      | error fault =>
        exact .inr ⟨_, by simp only [take, stage, if_neg blank, read], fault,
          Finding.explains_of_ofRow read, rfl⟩
  | metadataHeader =>
    by_cases header : text = MetadataRow.header
    · subst header
      have accepts : r.Accepts MetadataRow.header _ := .metadataHeader stage
      exact .inl ⟨_, accepts.take_eq, accepts⟩
    · exact .inr ⟨_, by simp only [take, stage, if_neg header], rfl⟩
  | metadataRow =>
    have accepts : r.Accepts text _ := .metadataRow stage
    exact .inl ⟨_, accepts.take_eq, accepts⟩
  | done =>
    by_cases blank : text = ""
    · subst blank
      have accepts : r.Accepts "" _ := .trailing stage
      exact .inl ⟨_, accepts.take_eq, accepts⟩
    · exact .inr ⟨_, by simp only [take, stage, if_neg blank], rfl⟩

/-- The same of a line that is counted and trimmed. -/
theorem feed_cases (r : Reader) (line : String) :
    (∃ next, r.feed line = (next, none) ∧ r.count.Accepts (Text.trim line) next) ∨
      ∃ e, r.feed line = (r.count, some e) ∧
        r.stage.Refuses (r.lineCount + 1) (Text.trim line) e :=
  r.count.take_cases (Text.trim line)

theorem feed_of_accepts {line : String} (trimmed : Text.trim line = text)
    (accepts : r.count.Accepts text next) : r.feed line = (next, none) := by
  rw [feed, trimmed, accepts.take_eq]

/-- The reader stands where the trimmed lines lead, and has counted them. -/
structure Follows (r : Reader) (lines : List String) : Prop where
  reached : Reached r.stage lines
  counted : r.lineCount = lines.length

theorem follows_start (package : String) : (start package).Follows [] := ⟨rfl, rfl⟩

theorem Accepts.reached (accepts : r.Accepts text next) (reached : Reached r.stage lines) :
    Reached next.stage (lines ++ [text]) := by
  cases accepts with
  | findingHeader stage =>
    rw [stage] at reached
    cases reached
    exact ⟨[], [], .nil, rfl⟩
  | row stage visible spelling =>
    rw [stage] at reached
    obtain ⟨rows, found, spelled, rfl⟩ := reached
    rw [stage]
    exact ⟨rows ++ [text], _, List.rel_append spelled (.cons ⟨visible, spelling⟩ .nil), rfl⟩
  | separator stage =>
    rw [stage] at reached
    obtain ⟨rows, found, spelled, rfl⟩ := reached
    exact ⟨rows, found, spelled, rfl⟩
  | metadataHeader stage =>
    rw [stage] at reached
    obtain ⟨rows, found, spelled, rfl⟩ := reached
    exact ⟨rows, found, spelled, by simp⟩
  | metadataRow stage =>
    rw [stage] at reached
    obtain ⟨rows, found, spelled, rfl⟩ := reached
    exact ⟨found, ⟨text⟩, rows, [], spelled, nofun, by simp⟩
  | trailing stage =>
    rw [stage] at reached ⊢
    obtain ⟨findings, metadata, rows, blanks, spelled, tail, rfl⟩ := reached
    have longer : Blank (blanks ++ [""]) := by
      intro line member
      rcases List.mem_append.mp member with before | last
      · exact tail line before
      · exact List.mem_singleton.mp last
    exact ⟨findings, metadata, rows, blanks ++ [""], spelled, longer, by simp⟩

theorem Accepts.lineCount (accepts : r.Accepts text next) : next.lineCount = r.lineCount := by
  cases accepts <;> rfl

theorem feedAll_cons_of_ok {line : String} (taken : r.feed line = (next, none)) (lines : List String) :
    r.feedAll (line :: lines) = next.feedAll lines := by
  rw [feedAll, taken]

theorem feedAll_cons_of_error {line : String} (refused : r.feed line = (next, some e))
    (lines : List String) : r.feedAll (line :: lines) = .error e := by
  rw [feedAll, refused]

theorem feedAll_append (r : Reader) (lines more : List String) :
    r.feedAll (lines ++ more) = r.feedAll lines >>= fun last => last.feedAll more := by
  induction lines generalizing r with
  | nil => rfl
  | cons line lines ih =>
    rw [List.cons_append, feedAll, feedAll]
    rcases r.feed line with ⟨next, _ | e⟩
    · exact ih next
    · rfl

theorem Follows.feedAll {before : List String} (follows : r.Follows before)
    (fed : r.feedAll lines = .ok next) : next.Follows (before ++ lines.map Text.trim) := by
  induction lines generalizing r before with
  | nil =>
    cases fed
    simpa using follows
  | cons line lines ih =>
    obtain ⟨between, taken, accepts⟩ | ⟨e, refused, -⟩ := r.feed_cases line
    · rw [feedAll_cons_of_ok taken] at fed
      have counted : between.lineCount = (before ++ [Text.trim line]).length := by
        simp [accepts.lineCount, count, follows.counted]
      simpa using ih ⟨accepts.reached follows.reached, counted⟩ fed
    · rw [feedAll_cons_of_error refused] at fed
      contradiction

def completion : Stage → List String
  | .findingHeader => [Finding.header, "", MetadataRow.header, ""]
  | .findings => ["", MetadataRow.header, ""]
  | .metadataHeader => [MetadataRow.header, ""]
  | .metadataRow => [""]
  | .done => []

theorem Accepts.exists_complete {line : String} {lines : List String}
    (accepts : r.count.Accepts text next) (trimmed : Text.trim line = text)
    (rest : ∃ scan, next.complete lines = .ok scan) :
    ∃ scan, r.complete (line :: lines) = .ok scan := by
  rw [complete_cons, feed_of_accepts trimmed accepts]
  exact rest

theorem complete_completion (r : Reader) : ∃ scan, r.complete (completion r.stage) = .ok scan := by
  have done : ∀ r : Reader, r.stage = .done → ∃ scan, r.complete [] = .ok scan := by
    intro r stage
    exact ⟨_, by rw [complete_nil, finish, stage]⟩
  have row : ∀ r : Reader, r.stage = .metadataRow → ∃ scan, r.complete [""] = .ok scan := by
    intro r stage
    have accepts : r.count.Accepts "" _ := .metadataRow stage
    exact accepts.exists_complete rfl (done _ rfl)
  have header : ∀ r : Reader, r.stage = .metadataHeader →
      ∃ scan, r.complete [MetadataRow.header, ""] = .ok scan := by
    intro r stage
    have accepts : r.count.Accepts MetadataRow.header _ := .metadataHeader stage
    exact accepts.exists_complete MetadataRow.oneLine_header.trimmed (row _ rfl)
  have separator : ∀ r : Reader, r.stage = .findings →
      ∃ scan, r.complete ["", MetadataRow.header, ""] = .ok scan := by
    intro r stage
    have accepts : r.count.Accepts "" _ := .separator stage
    exact accepts.exists_complete rfl (header _ rfl)
  cases stage : r.stage with
  | findingHeader =>
    have accepts : r.count.Accepts Finding.header _ := .findingHeader stage
    exact accepts.exists_complete Finding.oneLine_header.trimmed (separator _ rfl)
  | findings => exact separator r stage
  | metadataHeader => exact header r stage
  | metadataRow => exact row r stage
  | done => exact done r stage

theorem complete_eq_ok {scan : PackageScan} :
    r.complete lines = .ok scan ↔ ∃ last, r.feedAll lines = .ok last ∧ last.finish = .ok scan := by
  unfold complete
  cases r.feedAll lines <;> simp

theorem complete_eq_error : r.complete lines = .error e ↔
    r.feedAll lines = .error e ∨ ∃ last, r.feedAll lines = .ok last ∧ last.finish = .error e := by
  unfold complete
  cases r.feedAll lines <;> simp

theorem viable_iff_finish (package : String) :
    Viable lines ↔ ∃ more last scan, (start package).feedAll (lines ++ more) = .ok last ∧
      last.finish = .ok scan := by
  constructor
  · rintro ⟨more, findings, metadata, grammar⟩
    have whole : (start package).complete (lines ++ more) = .ok ⟨package, findings, metadata⟩ :=
      (complete_start package _).mpr ⟨rfl, grammar⟩
    obtain ⟨last, fed, finished⟩ := complete_eq_ok.mp whole
    exact ⟨more, last, _, fed, finished⟩
  · rintro ⟨more, last, scan, fed, finished⟩
    have grammar := (complete_start package _).mp (complete_eq_ok.mpr ⟨last, fed, finished⟩)
    exact ⟨more, scan.findings, scan.metadata, grammar.2⟩

theorem exists_feedAll_iff_viable (package : String) :
    (∃ last, (start package).feedAll lines = .ok last) ↔ Viable lines := by
  rw [viable_iff_finish package]
  constructor
  · rintro ⟨last, fed⟩
    obtain ⟨scan, completed⟩ := last.complete_completion
    obtain ⟨final, fedRest, finished⟩ := complete_eq_ok.mp completed
    refine ⟨completion last.stage, final, scan, ?_, finished⟩
    rw [feedAll_append, fed]
    exact fedRest
  · rintro ⟨more, final, scan, fed, _⟩
    rw [feedAll_append] at fed
    cases first : (start package).feedAll lines with
    | ok last => exact ⟨last, rfl⟩
    | error e =>
      rw [first] at fed
      contradiction

/-- The error of a line is the error of all lines that go on after it. -/
theorem feedAll_of_refused {before after : List String} {line : String}
    (fed : r.feedAll before = .ok next) (refused : next.feed line = (next.count, some e)) :
    r.feedAll (before ++ line :: after) = .error e := by
  rw [feedAll_append, fed]
  exact feedAll_cons_of_error refused after

theorem exists_refused_of_feedAll (failed : r.feedAll lines = .error e) :
    ∃ before line after last, lines = before ++ line :: after ∧ r.feedAll before = .ok last ∧
      last.feed line = (last.count, some e) ∧
      last.stage.Refuses (last.lineCount + 1) (Text.trim line) e := by
  induction lines generalizing r with
  | nil => contradiction
  | cons line lines ih =>
    obtain ⟨next, taken, -⟩ | ⟨other, refused, refuses⟩ := r.feed_cases line
    · rw [feedAll_cons_of_ok taken] at failed
      obtain ⟨before, other, after, last, rfl, fed, refused⟩ := ih failed
      exact ⟨line :: before, other, after, last, rfl, by rw [feedAll_cons_of_ok taken, fed], refused⟩
    · rw [feedAll_cons_of_error refused] at failed
      cases failed
      exact ⟨[], line, lines, r, rfl, rfl, refused, refuses⟩

theorem finish_eq_error :
    r.finish = .error e ↔ ∃ expected, e = .ended expected ∧ Stage.before expected = r.stage := by
  unfold finish
  constructor
  · intro failed
    cases stage : r.stage <;> simp only [stage] at failed <;> cases failed
    · exact ⟨.findingHeader, rfl, rfl⟩
    · exact ⟨.blankLine, rfl, rfl⟩
    · exact ⟨.metadataHeader, rfl, rfl⟩
    · exact ⟨.metadataRow, rfl, rfl⟩
  · rintro ⟨expected, rfl, stage⟩
    rw [← stage]
    cases expected <;> rfl

theorem reached_of_feedAll (fed : (start package).feedAll lines = .ok r) :
    Reached r.stage (lines.map Text.trim) ∧ r.lineCount = lines.length := by
  obtain ⟨reached, counted⟩ := (follows_start package).feedAll fed
  exact ⟨by simpa using reached, by simpa using counted⟩

theorem feedAll_eq_error_iff :
    (start package).feedAll lines = .error e ↔ FirstDead lines e := by
  constructor
  · intro failed
    obtain ⟨before, line, after, last, rfl, fed, refused, refuses⟩ := exists_refused_of_feedAll failed
    obtain ⟨reached, counted⟩ := reached_of_feedAll fed
    refine ⟨before, line, after, last.stage, rfl, (exists_feedAll_iff_viable package).mp ⟨last, fed⟩, ?_,
      reached, ?_⟩
    · intro viable
      obtain ⟨_, going⟩ := (exists_feedAll_iff_viable package).mpr viable
      rw [feedAll_of_refused fed refused] at going
      contradiction
    · rwa [counted] at refuses
  · rintro ⟨before, line, after, stage, rfl, viable, dead, reached, refuses⟩
    obtain ⟨last, fed⟩ := (exists_feedAll_iff_viable package).mpr viable
    obtain ⟨there, counted⟩ := reached_of_feedAll fed
    obtain rfl := reached.unique there
    obtain ⟨next, taken, -⟩ | ⟨other, refused, explained⟩ := last.feed_cases line
    · refine absurd ((exists_feedAll_iff_viable package).mp ⟨next, ?_⟩) dead
      rw [feedAll_append, fed]
      exact feedAll_cons_of_ok taken []
    · rw [counted] at explained
      rw [feedAll_of_refused fed refused, explained.unique refuses]

theorem exists_unfinished_iff :
    (∃ last, (start package).feedAll lines = .ok last ∧ last.finish = .error e) ↔
      CutShort lines e := by
  constructor
  · rintro ⟨last, fed, unfinished⟩
    obtain ⟨expected, rfl, stage⟩ := finish_eq_error.mp unfinished
    refine ⟨(exists_feedAll_iff_viable package).mp ⟨last, fed⟩, expected, rfl, ?_⟩
    rw [stage]
    exact (reached_of_feedAll fed).1
  · rintro ⟨viable, expected, rfl, reached⟩
    obtain ⟨last, fed⟩ := (exists_feedAll_iff_viable package).mpr viable
    have stage := reached.unique (reached_of_feedAll fed).1
    exact ⟨last, fed, finish_eq_error.mpr ⟨expected, rfl, stage⟩⟩

end Reader

/-- The reader goes on as long as some further lines could complete the transcript. A transcript is refused
with the error of its first line after which none can, or else with the element that has to come next. -/
theorem read_refuses_first_dead_line (package : String) :
    (∀ lines, ((∃ last, (Reader.start package).feedAll lines = .ok last) ↔ Viable lines) ∧
      (Viable lines ↔ ∃ more last scan,
        (Reader.start package).feedAll (lines ++ more) = .ok last ∧ last.finish = .ok scan)) ∧
    ∀ output e, read package output = .error e ↔
      FirstDead (Text.lines (Text.Utf8.decodeLossy output)) e ∨
      CutShort (Text.lines (Text.Utf8.decodeLossy output)) e := by
  constructor
  · intro lines
    exact ⟨Reader.exists_feedAll_iff_viable package, Reader.viable_iff_finish package⟩
  · intro output e
    refine Reader.complete_eq_error.trans ?_
    rw [Reader.feedAll_eq_error_iff, Reader.exists_unfinished_iff]

end Transcript
end EffectSurvey
