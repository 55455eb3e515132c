import EffectSurvey.Proofs.Text.Blank
import EffectSurvey.Text.Pieces

/-! The lines of a text, taken off its front one at a time. Plain items that are joined into a text are its
lines again. How a line ended is forgotten once it is trimmed, and a text that is cut off keeps all its lines
but the last, of which it keeps the beginning. -/
namespace EffectSurvey.Text

theorem lineChars_append {line : List Char} (single : '\n' ∉ line) (rest : List Char) :
    lineChars (line ++ '\n' :: rest) = dropReturn line :: lineChars rest := by
  obtain ⟨piece, pieces, split⟩ := List.exists_cons_of_ne_nil (List.splitOn_ne_nil '\n' rest)
  simp only [lineChars, List.splitOn_append_cons_self_of_not_mem single, split,
    List.dropLast_cons_cons, List.getLast?_cons_cons, List.map_cons]
  split <;> rfl

theorem lineChars_of_not_mem {line : List Char} (single : '\n' ∉ line) :
    lineChars line = if line = [] then [] else [line] := by
  simp only [lineChars, List.splitOn_eq_singleton single]
  cases line <;> rfl

/-- At most one carriage return is dropped, from the end. -/
theorem dropReturn_cases (line : List Char) :
    dropReturn line = line ∨ line = dropReturn line ++ ['\r'] := by
  unfold dropReturn
  split
  · rename_i last
    obtain ⟨front, rfl⟩ := List.getLast?_eq_some_iff.mp last
    right
    rw [List.dropLast_concat]
  · exact .inl rfl

theorem stripBoth_append_return (line : List Char) :
    stripBoth isBlank (line ++ ['\r']) = stripBoth isBlank line :=
  stripBoth_append (List.forall_mem_singleton.mpr rfl) line

theorem stripBoth_dropReturn (line : List Char) :
    stripBoth isBlank (dropReturn line) = stripBoth isBlank line := by
  rcases dropReturn_cases line with same | returned
  · rw [same]
  · conv_rhs => rw [returned, stripBoth_append_return]

theorem trim_append_return (line : String) : trim (line ++ "\r") = trim line := by
  have chars : (line ++ "\r").toList = line.toList ++ ['\r'] := by simp
  rw [trim, trim, chars, stripBoth_append_return]

def trimmedLines (s : String) : List String := (lines s).map trim

theorem trimmedLines_append {line : String} (single : '\n' ∉ line.toList) (rest : String) :
    trimmedLines (line ++ "\n" ++ rest) = trim line :: trimmedLines rest := by
  have split : (line ++ "\n" ++ rest).toList = line.toList ++ '\n' :: rest.toList := by simp
  simp only [trimmedLines, lines, split, lineChars_append single, List.map_cons]
  rw [trim, String.toList_ofList, stripBoth_dropReturn]
  rfl

theorem trimmedLines_of_not_mem {line : String} (single : '\n' ∉ line.toList) :
    trimmedLines line = if line = "" then [] else [trim line] := by
  rw [trimmedLines, lines, lineChars_of_not_mem single]
  simp only [String.toList_eq_nil_iff]
  split <;> simp

/-- Every text is a last line, which may be empty, after some lines with a line feed each. -/
theorem lineRec {P : String → Prop} (last : ∀ line, '\n' ∉ line.toList → P line)
    (more : ∀ line rest, '\n' ∉ line.toList → P rest → P (line ++ "\n" ++ rest)) (s : String) :
    P s := by
  induction size : s.length using Nat.strongRecOn generalizing s with
  | ind n ih =>
    by_cases feed : '\n' ∈ s.toList
    · obtain ⟨line, rest, split, single⟩ := List.eq_append_cons_of_mem feed
      have whole : s = String.ofList line ++ "\n" ++ String.ofList rest := by
        apply String.toList_injective
        simp [split]
      have shorter : (String.ofList rest).length < n := by
        rw [whole, String.length_append, String.length_append] at size
        have : "\n".length = 1 := rfl
        omega
      rw [whole]
      exact more _ _ (by simpa using single) (ih _ shorter _ rfl)
    · exact last s feed

theorem lines_append_of_single {line : String} (single : '\n' ∉ line.toList) (rest : String) :
    lines (line ++ "\n" ++ rest) = String.ofList (dropReturn line.toList) :: lines rest := by
  have split : (line ++ "\n" ++ rest).toList = line.toList ++ '\n' :: rest.toList := by simp
  rw [lines, split, lineChars_append single, List.map_cons]
  rfl

theorem mem_of_mem_dropReturn {cs : List Char} {c : Char} (inside : c ∈ dropReturn cs) : c ∈ cs := by
  unfold dropReturn at inside
  split at inside
  · exact List.dropLast_subset _ inside
  · exact inside

theorem single_of_mem_lines {s line : String} (member : line ∈ lines s) : '\n' ∉ line.toList := by
  induction s using lineRec with
  | last last single =>
    rw [lines, lineChars_of_not_mem single] at member
    split at member
    · simp at member
    · have same : line = last := by simpa using member
      exact same ▸ single
  | more first rest single ih =>
    rw [lines_append_of_single single] at member
    rcases List.mem_cons.mp member with rfl | later
    · rw [String.toList_ofList]
      exact fun feed => single (mem_of_mem_dropReturn feed)
    · exact ih later

structure OneLine (s : String) : Prop where
  trimmed : trim s = s
  single : '\n' ∉ s.toList

theorem oneLine_of_ends {s : String} {first last : Char} (single : '\n' ∉ s.toList)
    (begins : s.toList.head? = some first) (ends : s.toList.getLast? = some last)
    (visible : isBlank first = false ∧ isBlank last = false) : OneLine s := by
  refine ⟨trim_eq_self ?_ ?_, single⟩
  · intro c head
    rw [begins] at head
    exact Option.some.inj head ▸ visible.1
  · intro c tail
    rw [ends] at tail
    exact Option.some.inj tail ▸ visible.2

theorem oneLine_trim {line : String} (single : '\n' ∉ line.toList) : OneLine (trim line) :=
  ⟨trim_trim line, fun feed => single (mem_of_mem_trim feed)⟩

theorem oneLine_of_mem_trimmedLines {s : String} : ∀ line ∈ trimmedLines s, OneLine line := by
  induction s using lineRec with
  | last line single =>
    rw [trimmedLines_of_not_mem single]
    split
    · simp
    · simpa using oneLine_trim single
  | more line rest single ih =>
    rw [trimmedLines_append single, List.forall_mem_cons]
    exact ⟨oneLine_trim single, ih⟩

/-- A text that stands in a line as it is: it holds no line feed, and no carriage return at its end that
would pass for a part of the line's ending. -/
structure Plain (s : String) : Prop where
  single : '\n' ∉ s.toList
  unreturned : s.toList.getLast? ≠ some '\r'

theorem OneLine.plain {s : String} (alone : OneLine s) : Plain s := by
  refine ⟨alone.single, ?_⟩
  intro last
  rw [← alone.trimmed, toList_trim] at last
  have visible := getLast?_stripBoth last
  contradiction

theorem lines_append {line : String} (plain : Plain line) (rest : String) :
    lines (line ++ "\n" ++ rest) = line :: lines rest := by
  have kept : dropReturn line.toList = line.toList := if_neg plain.unreturned
  rw [lines_append_of_single plain.single, kept, String.ofList_toList]

/-- Texts may be cut after any line feed. -/
theorem lines_append_of_feed (first rest : String) :
    lines (first ++ "\n" ++ rest) = lines (first ++ "\n") ++ lines rest := by
  induction first using lineRec with
  | last line single =>
    have alone := lines_append_of_single single ""
    rw [String.append_empty] at alone
    rw [lines_append_of_single single, alone]
    rfl
  | more line later single ih =>
    have whole : line ++ "\n" ++ later ++ "\n" = line ++ "\n" ++ (later ++ "\n") := by
      rw [String.append_assoc]
    rw [whole, String.append_assoc, lines_append_of_single single, lines_append_of_single single, ih,
      List.cons_append]

theorem lines_of_single {line : String} (single : '\n' ∉ line.toList) (visible : line ≠ "") :
    lines line = [line] := by
  rw [lines, lineChars_of_not_mem single, if_neg (by simpa using visible)]
  simp

/-- Lines that are not empty need no line feed behind the last of them. -/
theorem lines_intercalate {items : List String} (plain : ∀ item ∈ items, Plain item)
    (visible : ∀ item ∈ items, item ≠ "") : lines (String.intercalate "\n" items) = items := by
  induction items with
  | nil => rfl
  | cons item items ih =>
    obtain ⟨first, later⟩ := List.forall_mem_cons.mp plain
    obtain ⟨shown, laterShown⟩ := List.forall_mem_cons.mp visible
    cases items with
    | nil => exact lines_of_single first.single shown
    | cons next items =>
      rw [String.intercalate_cons_cons, lines_append first, ih later laterShown]

/-- The first lines are those of a longer list cut off: all but the last of them are whole. -/
inductive CutLines : List String → List String → Prop where
  | nil (lines : List String) : CutLines [] lines
  | last {cut line : String} (begins : cut.toList <+: line.toList) (lines : List String) :
    CutLines [cut] (line :: lines)
  | cons {cut lines : List String} (line : String) (later : CutLines cut lines) :
    CutLines (line :: cut) (line :: lines)

theorem trim_isPrefix {cut s : String} (shorter : cut.toList <+: s.toList) :
    (trim cut).toList <+: (trim s).toList := by
  rw [toList_trim, toList_trim]
  exact stripBoth_isPrefix shorter

theorem cutLines_of_not_mem {cut line : String} (single : '\n' ∉ cut.toList)
    (begins : cut.toList <+: line.toList) (lines : List String) :
    CutLines (trimmedLines cut) (trim line :: lines) := by
  rw [trimmedLines_of_not_mem single]
  split
  · exact .nil _
  · exact .last (trim_isPrefix begins) lines

/-- The lines of a text that is cut off are the lines of the whole text, cut off. -/
theorem cutLines_of_isPrefix {cut s : String} (shorter : cut.toList <+: s.toList) :
    CutLines (trimmedLines cut) (trimmedLines s) := by
  induction s using lineRec generalizing cut with
  | last line single =>
    have cutSingle : '\n' ∉ cut.toList := fun feed => single (shorter.subset feed)
    rw [trimmedLines_of_not_mem single]
    split
    · rename_i none
      have empty : cut = "" := by simpa [none] using shorter
      rw [empty]
      exact .nil _
    · exact cutLines_of_not_mem cutSingle shorter []
  | more line rest single ih =>
    rw [trimmedLines_append single]
    have whole : (line ++ "\n" ++ rest).toList = line.toList ++ ['\n'] ++ rest.toList := by simp
    rw [whole] at shorter
    rcases List.prefix_or_prefix_of_prefix shorter (List.prefix_append _ _) with inside | past
    · rcases List.prefix_concat_iff.mp inside with same | inside
      · have cutWhole : cut = line ++ "\n" ++ "" := by
          apply String.toList_injective
          simpa using same
        rw [cutWhole, trimmedLines_append single]
        exact .cons _ (.nil _)
      · exact cutLines_of_not_mem (fun feed => single (inside.subset feed)) inside _
    · obtain ⟨kept, split⟩ := past
      rw [← split, List.prefix_append_right_inj] at shorter
      have cutWhole : cut = line ++ "\n" ++ String.ofList kept := by
        apply String.toList_injective
        simp [← split]
      rw [cutWhole, trimmedLines_append single]
      exact .cons _ (ih (by simpa using shorter))

end EffectSurvey.Text
