import EffectSurvey.Proofs.PackageList.Cleaning

/-! Package lists line by line. A carriage return at the end of a line and an empty last line make no difference
to a list, so it can be read off the pieces between its line feeds, and cut at each of them. -/
namespace EffectSurvey.PackageList
variable {content line : String} {hasHeader : Bool}

theorem clean_append_return (field : String) : clean (field ++ "\r") = clean field := by
  rw [clean, Text.trim_append_return]
  rfl

theorem listing?_append_return (line : String) : listing? (line ++ "\r") = listing? line := by
  have absent : ',' ∉ ['\r'] := by simp
  obtain ⟨pieces, last, split, longer⟩ := Text.splitOn_append_of_not_mem absent line.toList
  have chars : (line ++ "\r").toList = line.toList ++ ['\r'] := by simp
  have returned : String.ofList (last ++ ['\r']) = String.ofList last ++ "\r" := by simp
  have fields : (Text.splitAtChar ',' (line ++ "\r")).map clean =
      (Text.splitAtChar ',' line).map clean := by
    simp only [Text.splitAtChar, chars, split, longer, List.map_append, List.map_singleton, returned,
      clean_append_return]
  rw [listing?, listing?, fields]

theorem listing?_dropReturn (line : String) :
    listing? (String.ofList (Text.dropReturn line.toList)) = listing? line := by
  rcases Text.dropReturn_cases line.toList with same | returned
  · rw [same, String.ofList_toList]
  · have whole : line = String.ofList (Text.dropReturn line.toList) ++ "\r" := by
      apply String.toList_injective
      simpa using returned
    conv_rhs => rw [whole, listing?_append_return]

theorem splitAtChar_append_separator (first rest : String) :
    Text.splitAtChar '\n' (first ++ "\n" ++ rest) =
      Text.splitAtChar '\n' first ++ Text.splitAtChar '\n' rest := by
  have chars : (first ++ "\n" ++ rest).toList = first.toList ++ '\n' :: rest.toList := by simp
  simp only [Text.splitAtChar, chars, List.splitOn_append_cons_self, List.map_append]

theorem splitAtChar_of_single (single : '\n' ∉ line.toList) : Text.splitAtChar '\n' line = [line] := by
  rw [Text.splitAtChar, List.splitOn_eq_singleton single]
  simp

theorem filterMap_lines (content : String) :
    (Text.lines content).filterMap listing? = (Text.splitAtChar '\n' content).filterMap listing? := by
  induction content using Text.lineRec with
  | last line single =>
    rw [splitAtChar_of_single single]
    by_cases empty : line = ""
    · subst empty
      rfl
    · rw [Text.lines_of_single single empty]
  | more line rest single ih =>
    rw [Text.lines_append_of_single single, splitAtChar_append_separator,
      splitAtChar_of_single single, List.singleton_append, List.filterMap_cons, List.filterMap_cons,
      listing?_dropReturn, ih]

theorem parse_eq_pieces (content : String) (hasHeader : Bool) :
    parse content hasHeader =
      ((Text.splitAtChar '\n' content).drop (if hasHeader then 1 else 0)).filterMap listing? := by
  rw [parse_eq]
  cases hasHeader with
  | false => exact filterMap_lines content
  | true =>
    induction content using Text.lineRec with
    | last line single =>
      have short : (Text.lines line).drop 1 = [] := by
        by_cases empty : line = ""
        · rw [empty]
          rfl
        · rw [Text.lines_of_single single empty]
          rfl
      rw [if_pos rfl, short, splitAtChar_of_single single]
      rfl
    | more line rest single _ =>
      rw [Text.lines_append_of_single single, splitAtChar_append_separator,
        splitAtChar_of_single single]
      exact filterMap_lines rest

theorem parse_append (first rest : String) (hasHeader : Bool) :
    parse (first ++ "\n" ++ rest) hasHeader = parse first hasHeader ++ parse rest false := by
  have header : (if hasHeader = true then 1 else 0) ≤ (Text.splitAtChar '\n' first).length := by
    have nonempty := List.length_pos_of_ne_nil (List.splitOn_ne_nil '\n' first.toList)
    rw [Text.splitAtChar, List.length_map]
    split <;> omega
  simp only [parse_eq_pieces, splitAtChar_append_separator, List.drop_append_of_le_length header,
    List.filterMap_append]
  rfl

theorem names_append (first rest : String) (hasHeader : Bool) :
    names (first ++ "\n" ++ rest) hasHeader = names first hasHeader ++ names rest false := by
  simp only [names, parse_append, List.map_append]

theorem filterMap_name? (lines : List String) :
    lines.filterMap name? = (lines.map fun line => clean (firstField line)).filter (· ≠ "") := by
  induction lines with
  | nil => rfl
  | cons line lines ih =>
    by_cases shown : clean (firstField line) = ""
    · have unnamed : name? line = none := if_pos shown
      rw [List.filterMap_cons_none unnamed, ih, List.map_cons,
        List.filter_cons_of_neg (by simpa using shown)]
    · have named : name? line = some (clean (firstField line)) := if_neg shown
      rw [List.filterMap_cons_some named, ih, List.map_cons,
        List.filter_cons_of_pos (by simpa using shown)]

/-- A list may be cut at each of its line feeds: what is named, and what is shown of it, is that of the first
part with its header and then that of the rest. A name is what is left of a line before its first comma, in
the order of the lines, wherever anything is left of it. -/
theorem names_line_by_line (content : String) (hasHeader : Bool) :
    (∀ first rest,
      parse (first ++ "\n" ++ rest) hasHeader = parse first hasHeader ++ parse rest false ∧
      names (first ++ "\n" ++ rest) hasHeader = names first hasHeader ++ names rest false) ∧
    (∀ name ∈ names content hasHeader, name ≠ "" ∧ ',' ∉ name.toList ∧ '\n' ∉ name.toList) ∧
    names content hasHeader =
      ((dataLines content hasHeader).map fun line => clean (firstField line)).filter (· ≠ "") ∧
    (names content hasHeader).length =
      (dataLines content hasHeader).countP fun line => clean (firstField line) ≠ "" := by
  refine ⟨fun first rest => ⟨parse_append first rest hasHeader, names_append first rest hasHeader⟩,
    fun name member => ?_, ?_, ?_⟩
  · have nameable : Nameable name := nameable_of_mem_names member
    exact ⟨nameable.visible, nameable.unseparated, nameable.single⟩
  · rw [names_eq, filterMap_name?]
  · simp only [names_eq, filterMap_name?, List.countP_eq_length_filter, List.filter_map,
      List.length_map, Function.comp_def]

/-- The header is a blank line here, and neither the return before the first line feed nor the missing last one
matters. -/
example : names "\r\n\"a\" , 1\n ,b\nc" true = ["a", "c"] := by decide +kernel

end EffectSurvey.PackageList
