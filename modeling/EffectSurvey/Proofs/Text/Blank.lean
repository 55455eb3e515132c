import EffectSurvey.Text.Blank
import Mathlib.Data.List.DropRight

/-! Text stripped at its two ends: what is left begins and ends outside the class, and text of which an end
is cut off loses no more than that when it is stripped. -/
namespace EffectSurvey.Text
variable {p : Char → Bool} {cs : List Char}

theorem stripEnd_isPrefix (cs : List Char) : stripEnd p cs <+: cs := List.rdropWhile_prefix p cs

theorem stripBoth_sublist (cs : List Char) : (stripBoth p cs).Sublist cs :=
  (stripEnd_isPrefix _).sublist.trans (List.dropWhile_sublist p)

/-- All that is stripped belongs to the class. -/
theorem exists_eq_append_stripBoth (p : Char → Bool) (cs : List Char) :
    ∃ front back, cs = front ++ (stripBoth p cs ++ back) ∧
      (∀ c ∈ front, p c = true) ∧ ∀ c ∈ back, p c = true := by
  refine ⟨cs.takeWhile p, (cs.dropWhile p).rtakeWhile p, ?_, ?_, ?_⟩
  · have ends : stripBoth p cs ++ (cs.dropWhile p).rtakeWhile p = cs.dropWhile p :=
      List.rdropWhile_append_rtakeWhile
    rw [ends, List.takeWhile_append_dropWhile]
  · exact fun c member => List.mem_takeWhile_imp member
  · exact fun c member => List.mem_rtakeWhile_imp member

theorem head?_stripBoth {c : Char} (first : (stripBoth p cs).head? = some c) : p c = false := by
  have begins : (cs.dropWhile p).head? = some c := by
    obtain ⟨rest, whole⟩ := stripEnd_isPrefix (p := p) (cs.dropWhile p)
    rw [← whole]
    exact List.mem_head?_append_of_mem_head? first
  have outside := List.head?_dropWhile_not p cs
  rw [begins] at outside
  simpa using outside

theorem getLast?_stripBoth {c : Char} (last : (stripBoth p cs).getLast? = some c) :
    p c = false := by
  have nonempty : stripBoth p cs ≠ [] := by
    rintro none
    simp [none] at last
  have outside := List.rdropWhile_last_not p (cs.dropWhile p) nonempty
  rw [List.getLast?_eq_some_getLast nonempty] at last
  rw [← Option.some.inj last]
  exact (Bool.not_eq_true _).mp outside

theorem stripBoth_eq_self (first : ∀ c, cs.head? = some c → p c = false)
    (last : ∀ c, cs.getLast? = some c → p c = false) : stripBoth p cs = cs := by
  have front : cs.dropWhile p = cs := by
    cases cs with
    | nil => rfl
    | cons c rest => exact List.dropWhile_cons_of_neg (by simp [first c rfl])
  rw [stripBoth, front]
  refine List.rdropWhile_eq_self_iff.mpr fun nonempty => ?_
  simp [last _ (List.getLast?_eq_some_getLast nonempty)]

theorem stripBoth_stripBoth (cs : List Char) : stripBoth p (stripBoth p cs) = stripBoth p cs :=
  stripBoth_eq_self (fun _ => head?_stripBoth) fun _ => getLast?_stripBoth

theorem stripEnd_append {more : List Char} (inside : ∀ c ∈ more, p c = true) (cs : List Char) :
    stripEnd p (cs ++ more) = stripEnd p cs := by
  have front : ∀ c ∈ more.reverse, p c = true := fun c member => inside c (List.mem_reverse.mp member)
  rw [stripEnd, List.reverse_append, List.dropWhile_append_of_pos front]
  rfl

/-- Characters of the class at the end of a text make no difference. -/
theorem stripBoth_append {more : List Char} (inside : ∀ c ∈ more, p c = true) (cs : List Char) :
    stripBoth p (cs ++ more) = stripBoth p cs := by
  rw [stripBoth, stripBoth, List.dropWhile_append]
  split
  · rename_i none
    have front : more.dropWhile p = [] := List.dropWhile_eq_nil_iff.mpr inside
    rw [front, List.isEmpty_iff.mp none]
  · exact stripEnd_append inside _

theorem stripEnd_isPrefix_append (cs more : List Char) : stripEnd p cs <+: stripEnd p (cs ++ more) := by
  induction more using List.reverseRecOn with
  | nil => simp
  | append_singleton more c ih =>
    rw [← List.append_assoc]
    by_cases inside : p c = true
    · rwa [stripEnd_append (by simpa using inside)]
    · have kept : stripEnd p (cs ++ more ++ [c]) = cs ++ more ++ [c] :=
        List.rdropWhile_concat_neg p _ c inside
      rw [kept, List.append_assoc]
      exact (stripEnd_isPrefix cs).trans (List.prefix_append cs _)

/-- A text that is cut off is stripped to the beginning of what the whole text is stripped to. -/
theorem stripBoth_isPrefix {cut : List Char} (shorter : cut <+: cs) :
    stripBoth p cut <+: stripBoth p cs := by
  obtain ⟨more, rfl⟩ := shorter
  rw [stripBoth, stripBoth, List.dropWhile_append]
  split
  · rename_i none
    rw [List.isEmpty_iff.mp none]
    exact List.nil_prefix
  · exact stripEnd_isPrefix_append _ more

theorem stripEnd_eq_nil : stripEnd p cs = [] ↔ ∀ c ∈ cs, p c = true := List.rdropWhile_eq_nil_iff

/-- What comes before a character outside the class stays. -/
theorem stripEnd_append_of_exists {more : List Char} (outside : ∃ c ∈ more, p c = false)
    (cs : List Char) : stripEnd p (cs ++ more) = cs ++ stripEnd p more := by
  obtain ⟨c, member, other⟩ := outside
  have kept : more.reverse.dropWhile p ≠ [] := by
    rw [Ne, List.dropWhile_eq_nil_iff]
    intro inside
    rw [inside c (List.mem_reverse.mpr member)] at other
    contradiction
  rw [stripEnd, List.reverse_append, List.dropWhile_append, if_neg (by simpa using kept),
    List.reverse_append, List.reverse_reverse]
  rfl

theorem stripEnd_cons_of_neg {c : Char} (outside : p c = false) (cs : List Char) :
    stripEnd p (c :: cs) = c :: stripEnd p cs := by
  by_cases rest : ∀ d ∈ cs, p d = true
  · have alone : stripEnd p [c] = [c] := by simp [stripEnd, outside]
    rw [stripEnd_eq_nil.mpr rest, ← List.singleton_append, stripEnd_append rest, alone]
  · have rest : ∃ d ∈ cs, p d = false := by simpa using rest
    exact stripEnd_append_of_exists rest [c]

theorem dropWhile_stripEnd (cs : List Char) :
    (stripEnd p cs).dropWhile p = stripEnd p (cs.dropWhile p) := by
  induction cs with
  | nil => rfl
  | cons c cs ih =>
    by_cases inside : p c = true
    · rw [List.dropWhile_cons_of_pos inside, ← ih]
      by_cases rest : ∀ d ∈ cs, p d = true
      · have all : ∀ d ∈ c :: cs, p d = true := List.forall_mem_cons.mpr ⟨inside, rest⟩
        rw [stripEnd_eq_nil.mpr all, stripEnd_eq_nil.mpr rest]
      · have rest : ∃ d ∈ cs, p d = false := by simpa using rest
        have kept : stripEnd p (c :: cs) = c :: stripEnd p cs := stripEnd_append_of_exists rest [c]
        rw [kept, List.dropWhile_cons_of_pos inside]
    · have outside : p c = false := by simpa using inside
      rw [stripEnd_cons_of_neg outside, List.dropWhile_cons_of_neg inside,
        List.dropWhile_cons_of_neg inside, stripEnd_cons_of_neg outside]

/-- The two ends are stripped alike. -/
theorem stripBoth_reverse (cs : List Char) : stripBoth p cs.reverse = (stripBoth p cs).reverse := by
  rw [stripBoth, stripBoth, ← dropWhile_stripEnd]
  simp [stripEnd]

theorem toList_trim (s : String) : (trim s).toList = stripBoth isBlank s.toList :=
  String.toList_ofList

theorem mem_of_mem_trim {s : String} {c : Char} (inside : c ∈ (trim s).toList) : c ∈ s.toList := by
  rw [toList_trim] at inside
  exact (stripBoth_sublist _).subset inside

theorem trim_eq_empty_iff {s : String} : trim s = "" ↔ ∀ c ∈ s.toList, isBlank c = true := by
  rw [← String.toList_eq_nil_iff, toList_trim]
  constructor
  · intro empty c inside
    obtain ⟨front, back, whole, blankFront, blankBack⟩ := exists_eq_append_stripBoth isBlank s.toList
    rw [empty, List.nil_append] at whole
    rw [whole] at inside
    rcases List.mem_append.mp inside with member | member
    · exact blankFront c member
    · exact blankBack c member
  · intro blank
    exact stripEnd_eq_nil.mpr fun c inside => blank c ((List.dropWhile_sublist _).subset inside)

theorem mem_of_mem_unquote {s : String} {c : Char} (inside : c ∈ (unquote s).toList) :
    c ∈ s.toList := by
  rw [unquote, String.toList_ofList] at inside
  exact (stripBoth_sublist _).subset inside

@[simp] theorem trim_trim (s : String) : trim (trim s) = trim s := by
  apply String.toList_injective
  rw [toList_trim, toList_trim, stripBoth_stripBoth]

theorem trim_eq_self {s : String} (first : ∀ c, s.toList.head? = some c → isBlank c = false)
    (last : ∀ c, s.toList.getLast? = some c → isBlank c = false) : trim s = s := by
  rw [trim, stripBoth_eq_self first last, String.ofList_toList]

end EffectSurvey.Text
