import EffectSurvey.Proofs.Transcript.Viability

/-! Readers that go on after errors. A refused line is counted and changes nothing else, so such a reader
stands where the lines it accepted lead on their own, and only the number of lines tells the two apart. -/
namespace EffectSurvey.Transcript

namespace Reader
variable {r next : Reader} {line text : String} {e : TranscriptError}

/-- The reader after some lines, whether it accepts or refuses each of them. -/
def feedOn (r : Reader) (lines : List String) : Reader :=
  lines.foldl (fun reader line => (reader.feed line).1) r

/-- Those of the lines that the reader accepts on its way. -/
def acceptedLines (r : Reader) : List String → List String
  | [] => []
  | line :: lines =>
    match r.feed line with
    | (next, none) => line :: next.acceptedLines lines
    | (next, some _) => next.acceptedLines lines

def recount (r : Reader) (n : Nat) : Reader := { r with lineCount := n }

theorem recount_count (r : Reader) (n : Nat) : r.count.recount n = r.recount n := rfl

theorem finish_recount (r : Reader) (n : Nat) : (r.recount n).finish = r.finish := rfl

/-- The number of lines decides nothing. -/
theorem Accepts.recount (accepts : r.Accepts text next) (n : Nat) :
    (r.recount n).Accepts text (next.recount n) := by
  cases accepts with
  | findingHeader stage => exact .findingHeader stage
  | row stage visible spelling => exact .row stage visible spelling
  | separator stage => exact .separator stage
  | metadataHeader stage => exact .metadataHeader stage
  | metadataRow stage => exact .metadataRow stage
  | trailing stage => exact .trailing stage

/-- What holds of the counted reader, and of each reader that taking the line leads to, holds after the
line. -/
@[elab_as_elim]
theorem feed_rec {motive : Reader → Prop} (r : Reader) (line : String) (refused : motive r.count)
    (accepted : ∀ next, r.count.Accepts (Text.trim line) next → motive next) :
    motive (r.feed line).1 := by
  obtain ⟨next, fed, accepts⟩ | ⟨e, fed, -⟩ := r.feed_cases line
  · rw [fed]
    exact accepted next accepts
  · rw [fed]
    exact refused

theorem feed_of_refused (refused : (r.feed line).2 = some e) :
    (r.feed line).1 = { r with lineCount := r.lineCount + 1 } := by
  obtain ⟨next, fed, -⟩ | ⟨_, fed, -⟩ := r.feed_cases line
  · rw [fed] at refused
    contradiction
  · rw [fed]
    rfl

theorem feedOn_cons (r : Reader) (line : String) (lines : List String) :
    r.feedOn (line :: lines) = (r.feed line).1.feedOn lines := rfl

theorem feedOn_append (r : Reader) (lines more : List String) :
    r.feedOn (lines ++ more) = (r.feedOn lines).feedOn more :=
  List.foldl_append

theorem lineCount_feed (r : Reader) (line : String) :
    (r.feed line).1.lineCount = r.lineCount + 1 := by
  refine feed_rec r line rfl ?_
  intro next accepts
  exact accepts.lineCount

theorem lineCount_feedOn (r : Reader) (lines : List String) :
    (r.feedOn lines).lineCount = r.lineCount + lines.length := by
  induction lines generalizing r with
  | nil => rfl
  | cons line lines ih =>
    rw [feedOn_cons, ih, lineCount_feed, List.length_cons]
    omega

theorem acceptedLines_append (r : Reader) (lines more : List String) :
    r.acceptedLines (lines ++ more) =
      r.acceptedLines lines ++ (r.feedOn lines).acceptedLines more := by
  induction lines generalizing r with
  | nil => rfl
  | cons line lines ih =>
    rw [List.cons_append, feedOn_cons]
    simp only [acceptedLines]
    obtain ⟨next, fed, -⟩ | ⟨e, fed, -⟩ := r.feed_cases line
    · simp only [fed, List.cons_append, ih]
    · simp only [fed, ih]

/-- A reader that gets only the accepted lines accepts them again, whatever its number of lines, and ends
where the other one does. -/
theorem feedAll_acceptedLines (r : Reader) (n : Nat) (lines : List String) :
    (r.recount n).feedAll (r.acceptedLines lines) =
      .ok ((r.feedOn lines).recount (n + (r.acceptedLines lines).length)) := by
  induction lines generalizing r n with
  | nil => rfl
  | cons line lines ih =>
    rw [feedOn_cons, acceptedLines]
    obtain ⟨next, fed, accepts⟩ | ⟨e, fed, -⟩ := r.feed_cases line
    · have again : (r.recount n).feed line = (next.recount (n + 1), none) :=
        feed_of_accepts rfl (accepts.recount (n + 1))
      simp only [fed]
      rw [feedAll_cons_of_ok again]
      simp only [ih, List.length_cons]
      rw [Nat.add_assoc, Nat.add_comm 1]
    · simp only [fed]
      rw [← recount_count r n, ih]

end Reader

open Reader in
/-- A refused line leaves the reader as it was but for the number of lines. After any beginning of the
lines, a reader that goes on after errors stands where the accepted ones alone lead, all of which are
accepted there too, and finishes as that one does. -/
theorem refused_lines_leave_no_trace :
    (∀ (r : Reader) line e, (r.feed line).2 = some e →
      (r.feed line).1 = { r with lineCount := r.lineCount + 1 }) ∧
    ∀ package lines n,
      (start package).acceptedLines (lines.take n) <+: (start package).acceptedLines lines ∧
      ∃ last, (start package).feedAll ((start package).acceptedLines (lines.take n)) = .ok last ∧
        (start package).feedOn (lines.take n) =
          { last with lineCount := (lines.take n).length } ∧
        ((start package).feedOn (lines.take n)).finish = last.finish := by
  refine ⟨fun r line e => feed_of_refused, ?_⟩
  intro package lines n
  constructor
  · have whole := (start package).acceptedLines_append (lines.take n) (lines.drop n)
    rw [List.take_append_drop] at whole
    rw [whole]
    exact List.prefix_append _ _
  · refine ⟨_, (start package).feedAll_acceptedLines 0 (lines.take n), ?_, ?_⟩
    · have counted := (start package).lineCount_feedOn (lines.take n)
      rw [show (start package).lineCount = 0 from rfl, Nat.zero_add] at counted
      rw [← counted]
      rfl
    · exact (finish_recount _ _).symm

open Reader in
/-- A row whose last column is no number is refused where rows are expected, and lines with such rows
among them lead where the others do. -/
theorem noisy_lines_read_on :
    let row := "p, f, g, h, d, l, 10, 4"
    let broken := "p, f, g, h, d, l, 10, x"
    let lines := ["warning", Finding.header, broken, row, broken, ""]
    let r : Reader := ⟨"p", .findings, 6, [], none⟩
    ((r.feed broken).2 = some (.malformedFinding 7 (.col "x")) ∧
      (r.feed broken).1 = { r with lineCount := 7 }) ∧
    (start "p").acceptedLines lines = [Finding.header, row, ""] ∧
    ∃ last, (start "p").feedAll ((start "p").acceptedLines lines) = .ok last ∧
      (start "p").feedOn lines = { last with lineCount := 6 } ∧
      ((start "p").feedOn lines).finish = last.finish := by
  intro row broken lines r
  have refused : (r.feed broken).2 = some (.malformedFinding 7 (.col "x")) := by decide +kernel
  have accepted : (start "p").acceptedLines lines = [Finding.header, row, ""] := by decide +kernel
  exact ⟨⟨refused, refused_lines_leave_no_trace.1 r broken _ refused⟩, accepted,
    (refused_lines_leave_no_trace.2 "p" lines 6).2⟩

end EffectSurvey.Transcript
