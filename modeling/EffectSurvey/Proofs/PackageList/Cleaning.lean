import EffectSurvey.Proofs.PackageList

/-! How clean the names of a package list are. A field loses its blanks, its quotes and again its blanks, each
once, so no name has a blank at its ends, and one has a quote there exactly if the field has a second layer of
quotes below blanks. The names can be listed and read again just when there is no such field. -/
namespace EffectSurvey

namespace PackageList
variable {content line name field : String} {hasHeader : Bool} {cs : List Char}

def firstField (line : String) : String := String.ofList (line.toList.takeWhile (· != ','))

/-- Quotes, blanks and then a quote again, which is not one of those that end the text. -/
def Layered (cs : List Char) : Prop :=
  ∃ quotes blanks rest, cs = quotes ++ (blanks ++ '"' :: rest) ∧
    (quotes ≠ [] ∧ ∀ c ∈ quotes, c = '"') ∧
    (blanks ≠ [] ∧ ∀ c ∈ blanks, Text.isBlank c = true) ∧ ∃ c ∈ rest, c ≠ '"'

def CleanEnds (name : String) : Prop :=
  ∀ c, name.toList.head? = some c ∨ name.toList.getLast? = some c →
    Text.isBlank c = false ∧ c ≠ '"'

section Stripping

def core (cs : List Char) : List Char :=
  Text.stripBoth Text.isBlank (Text.stripBoth (· == '"') cs)

theorem toList_clean (field : String) : (clean field).toList = core (Text.trim field).toList := by
  simp [clean, core, Text.trim, Text.unquote]

theorem core_reverse (cs : List Char) : core cs.reverse = (core cs).reverse := by
  rw [core, core, Text.stripBoth_reverse, Text.stripBoth_reverse]

theorem not_quote_of_isBlank {c : Char} (blank : Text.isBlank c = true) : (c == '"') = false := by
  rw [beq_eq_false_iff_ne]
  rintro rfl
  contradiction

/-- A text that does not end in a quote goes on after each of its quotes. -/
theorem exists_after_inner_quote {front rest : List Char}
    (lastKept : ∀ c, (front ++ '"' :: rest).getLast? = some c → c ≠ '"') : ∃ c ∈ rest, c ≠ '"' := by
  cases ending : rest.getLast? with
  | none =>
    rw [List.getLast?_eq_none_iff.mp ending] at lastKept
    exact absurd rfl (lastKept '"' (by simp))
  | some c =>
    have last := lastKept c (by simp [List.getLast?_append, List.getLast?_cons, ending])
    exact ⟨c, List.mem_of_getLast? ending, last⟩

theorem layered_of_head?_core (trimmed : ∀ c, cs.head? = some c → Text.isBlank c = false)
    (quote : (core cs).head? = some '"') : Layered cs := by
  obtain ⟨quotes, endQuotes, whole, allQuotes, -⟩ := Text.exists_eq_append_stripBoth (· == '"') cs
  obtain ⟨blanks, endBlanks, inner, allBlanks, -⟩ :=
    Text.exists_eq_append_stripBoth Text.isBlank (Text.stripBoth (· == '"') cs)
  obtain ⟨name, begins⟩ : ∃ name, core cs = '"' :: name := List.head?_eq_some_iff.mp quote
  change _ = blanks ++ (core cs ++ endBlanks) at inner
  rw [begins, List.cons_append] at inner
  have firstKept : ∀ c, (Text.stripBoth (· == '"') cs).head? = some c → c ≠ '"' :=
    fun c first => by simpa using Text.head?_stripBoth first
  have lastKept : ∀ c, (Text.stripBoth (· == '"') cs).getLast? = some c → c ≠ '"' :=
    fun c last => by simpa using Text.getLast?_stripBoth last
  rw [inner] at firstKept lastKept
  have indented : blanks ≠ [] := by
    rintro rfl
    exact firstKept '"' rfl rfl
  have quoted : quotes ≠ [] := by
    rintro rfl
    obtain ⟨blank, others, rfl⟩ := List.exists_cons_of_ne_nil indented
    have visible := trimmed blank (by rw [whole, inner]; rfl)
    simp [allBlanks blank List.mem_cons_self] at visible
  refine ⟨quotes, blanks, name ++ endBlanks ++ endQuotes, ?_, ⟨quoted, by simpa using allQuotes⟩,
    ⟨indented, allBlanks⟩, ?_⟩
  · rw [inner] at whole
    simpa using whole
  · obtain ⟨c, member, other⟩ := exists_after_inner_quote lastKept
    exact ⟨c, List.mem_append_left _ member, other⟩

theorem head?_core_of_layered (layered : Layered cs) : (core cs).head? = some '"' := by
  obtain ⟨quotes, blanks, rest, rfl, ⟨-, allQuotes⟩, ⟨indented, allBlanks⟩, other⟩ := layered
  obtain ⟨blank, others, rfl⟩ := List.exists_cons_of_ne_nil indented
  have unquoted : Text.stripBoth (· == '"') (quotes ++ (blank :: others ++ '"' :: rest)) =
      blank :: others ++ '"' :: Text.stripEnd (· == '"') rest := by
    have stays : (blank == '"') = false := not_quote_of_isBlank (allBlanks blank List.mem_cons_self)
    have other : ∃ c ∈ rest, (c == '"') = false := by simpa using other
    rw [Text.stripBoth, List.dropWhile_append_of_pos (by simpa using allQuotes), List.cons_append,
      List.dropWhile_cons_of_neg (by simp [stays]), ← List.cons_append, List.append_cons,
      Text.stripEnd_append_of_exists other]
    simp
  rw [core, unquoted, Text.stripBoth, List.dropWhile_append_of_pos allBlanks,
    List.dropWhile_cons_of_neg (by decide), Text.stripEnd_cons_of_neg (by decide)]
  rfl

end Stripping

theorem head?_trim {c : Char} (first : (Text.trim field).toList.head? = some c) :
    Text.isBlank c = false := by
  rw [Text.toList_trim] at first
  exact Text.head?_stripBoth first

theorem getLast?_trim {c : Char} (last : (Text.trim field).toList.getLast? = some c) :
    Text.isBlank c = false := by
  rw [Text.toList_trim] at last
  exact Text.getLast?_stripBoth last

theorem head?_clean_iff :
    (clean field).toList.head? = some '"' ↔ Layered (Text.trim field).toList := by
  rw [toList_clean]
  exact ⟨layered_of_head?_core fun _ => head?_trim, head?_core_of_layered⟩

theorem getLast?_clean_iff :
    (clean field).toList.getLast? = some '"' ↔ Layered (Text.trim field).toList.reverse := by
  rw [toList_clean, ← List.head?_reverse, ← core_reverse]
  refine ⟨layered_of_head?_core fun c first => ?_, head?_core_of_layered⟩
  rw [List.head?_reverse] at first
  exact getLast?_trim first

/-- Neither end of the field hides quotes below quotes and blanks. -/
def Unlayered (field : String) : Prop :=
  ¬ Layered (Text.trim field).toList ∧ ¬ Layered (Text.trim field).toList.reverse

theorem cleanEnds_clean_iff : CleanEnds (clean field) ↔ Unlayered field := by
  rw [Unlayered, ← head?_clean_iff, ← getLast?_clean_iff]
  constructor
  · exact fun ends => ⟨fun first => (ends '"' (Or.inl first)).2 rfl,
      fun last => (ends '"' (Or.inr last)).2 rfl⟩
  · rintro ⟨begins, ends⟩ c (first | last)
    · exact ⟨head?_trim first, fun quote => begins (quote ▸ first)⟩
    · exact ⟨getLast?_trim last, fun quote => ends (quote ▸ last)⟩

theorem cleanEnds_empty : CleanEnds "" := by
  rintro c (first | last) <;> contradiction

/-- A trimmed text is left alone just when there is no quote to take off. -/
theorem clean_eq_self_iff (trimmed : Text.trim name = name) : clean name = name ↔ CleanEnds name := by
  constructor
  · intro same c ends
    refine ⟨?_, ?_⟩
    · rw [← trimmed] at ends
      exact ends.elim head?_trim getLast?_trim
    · rintro rfl
      have stripped : Text.stripBoth (· == '"') name.toList = name.toList := by
        refine (Text.stripBoth_sublist _).eq_of_length_le ?_
        have shorter := (Text.stripBoth_sublist (p := Text.isBlank)
          (Text.stripBoth (· == '"') name.toList)).length_le
        have chars : core name.toList = name.toList := by rw [← trimmed, ← toList_clean, same, trimmed]
        rwa [← core, chars] at shorter
      have visible : ('"' == '"') = false := by
        rw [← stripped] at ends
        exact ends.elim Text.head?_stripBoth Text.getLast?_stripBoth
      contradiction
  · intro ends
    have unquoted : Text.unquote name = name := by
      rw [Text.unquote, Text.stripBoth_eq_self, String.ofList_toList]
      · exact fun c first => by simpa using (ends c (Or.inl first)).2
      · exact fun c last => by simpa using (ends c (Or.inr last)).2
    rw [clean, trimmed, unquoted, trimmed]

section Names

theorem firstField_of_not_mem (unseparated : ',' ∉ line.toList) : firstField line = line := by
  have whole : line.toList.takeWhile (· != ',') = line.toList :=
    List.takeWhile_eq_self_iff.mpr fun c member => by
      simpa using fun comma : c = ',' => unseparated (comma ▸ member)
  rw [firstField, whole, String.ofList_toList]

theorem splitAtChar_eq_firstField (line : String) :
    ∃ fields, Text.splitAtChar ',' line = firstField line :: fields := by
  by_cases separated : ',' ∈ line.toList
  · obtain ⟨front, rest, whole, absent⟩ := List.eq_append_cons_of_mem separated
    have taken : line.toList.takeWhile (· != ',') = front := by
      rw [whole, List.takeWhile_append_of_pos, List.takeWhile_cons_of_neg] <;> simp
      exact fun c member comma => absent (comma ▸ member)
    rw [Text.splitAtChar, firstField, taken, whole,
      List.splitOn_append_cons_self_of_not_mem absent]
    exact ⟨_, rfl⟩
  · rw [Text.splitAtChar, List.splitOn_eq_singleton separated, firstField_of_not_mem separated]
    exact ⟨[], by simp⟩

def name? (line : String) : Option String :=
  if clean (firstField line) = "" then none else some (clean (firstField line))

theorem listing?_name (line : String) : (listing? line).map Listing.name = name? line := by
  obtain ⟨fields, split⟩ := splitAtChar_eq_firstField line
  rw [listing?, split, List.map_cons, name?]
  simp only
  split <;> rfl

def dataLines (content : String) (hasHeader : Bool) : List String :=
  (Text.lines content).drop (if hasHeader then 1 else 0)

theorem names_eq (content : String) (hasHeader : Bool) :
    names content hasHeader = (dataLines content hasHeader).filterMap name? := by
  have named : (fun line => (listing? line).map Listing.name) = name? := funext listing?_name
  rw [names, parse_eq, List.map_filterMap, named, dataLines]

theorem name?_eq_some : name? line = some name ↔ name ≠ "" ∧ clean (firstField line) = name := by
  unfold name?
  split <;> rename_i shown
  · simp only [reduceCtorEq, false_iff, not_and]
    rintro visible rfl
    exact visible shown
  · rw [Option.some.injEq]
    exact ⟨fun same => ⟨same ▸ shown, same⟩, And.right⟩

theorem cleanEnds_names_iff :
    (∀ name ∈ names content hasHeader, CleanEnds name) ↔
      ∀ line ∈ dataLines content hasHeader, Unlayered (firstField line) := by
  simp only [names_eq, List.mem_filterMap, name?_eq_some]
  constructor
  · intro ends line member
    rw [← cleanEnds_clean_iff]
    by_cases shown : clean (firstField line) = ""
    · rw [shown]
      exact cleanEnds_empty
    · exact ends _ ⟨line, member, shown, rfl⟩
  · rintro unlayered _ ⟨line, member, -, rfl⟩
    exact cleanEnds_clean_iff.mpr (unlayered line member)

theorem names_intercalate_names (content : String) (hasHeader : Bool) :
    names (String.intercalate "\n" (names content hasHeader)) false =
      (names content hasHeader).filterMap name? := by
  have nameable : ∀ name ∈ names content hasHeader, Nameable name := fun _ => nameable_of_mem_names
  have lines := Text.lines_intercalate (fun name member => (nameable name member).toOneLine.plain)
    fun name member => (nameable name member).visible
  rw [names_eq (String.intercalate _ _), dataLines, lines]
  rfl

theorem Nameable.name?_eq_self_iff (nameable : Nameable name) :
    name? name = some name ↔ CleanEnds name := by
  rw [name?_eq_some, firstField_of_not_mem nameable.unseparated, clean_eq_self_iff nameable.trimmed]
  exact and_iff_right nameable.visible

/-- A pass over a list gives back the list only if it keeps every item. -/
theorem filterMap_eq_self_iff {α : Type} {f : α → Option α} {items : List α} :
    items.filterMap f = items ↔ ∀ item ∈ items, f item = some item := by
  induction items with
  | nil => simp
  | cons item items ih =>
    rw [List.forall_mem_cons, ← ih]
    cases kept : f item with
    | none =>
      rw [List.filterMap_cons_none kept]
      refine ⟨fun same => ?_, fun both => nomatch both.1⟩
      have bound := List.length_filterMap_le f items
      rw [same, List.length_cons] at bound
      omega
    | some other =>
      rw [List.filterMap_cons_some kept]
      simp

theorem names_reread_iff :
    names (String.intercalate "\n" (names content hasHeader)) false = names content hasHeader ↔
      ∀ name ∈ names content hasHeader, CleanEnds name := by
  rw [names_intercalate_names, filterMap_eq_self_iff]
  refine forall_congr' fun name => forall_congr' fun member => ?_
  exact (nameable_of_mem_names member).name?_eq_self_iff

end Names

/-- No name begins or ends with a blank. Names are without quotes at their ends, and are read again from
the list of them, exactly if no line below the header has quotes below quotes and blanks in its first
field. -/
theorem names_cleaned_iff_unlayered (content : String) (hasHeader : Bool) :
    (∀ name ∈ names content hasHeader, ∀ c,
      name.toList.head? = some c ∨ name.toList.getLast? = some c → Text.isBlank c = false) ∧
    ((∀ name ∈ names content hasHeader, CleanEnds name) ↔
      ∀ line ∈ dataLines content hasHeader, Unlayered (firstField line)) ∧
    (names (String.intercalate "\n" (names content hasHeader)) false = names content hasHeader ↔
      ∀ line ∈ dataLines content hasHeader, Unlayered (firstField line)) := by
  refine ⟨?_, cleanEnds_names_iff, names_reread_iff.trans cleanEnds_names_iff⟩
  intro name member c ends
  rw [← (nameable_of_mem_names member).trimmed] at ends
  exact ends.elim head?_trim getLast?_trim

/-- Quotes below quotes and a blank: the name keeps a layer, and reading it again takes that off too. -/
theorem layered_name_keeps_quotes :
    names "\" \"a\" \"\n" false = ["\"a\""] ∧ ¬ CleanEnds "\"a\"" ∧
      names (String.intercalate "\n" (names "\" \"a\" \"\n" false)) false = ["a"] := by
  refine ⟨by decide +kernel, ?_, by decide +kernel⟩
  intro ends
  exact (ends '"' (Or.inl (by simp))).2 rfl

end PackageList
end EffectSurvey
