import EffectSurvey.PackageList
import EffectSurvey.Proofs.Text.Lines
import EffectSurvey.Proofs.Text.Pieces

/-! The names in a package list. A name is a part of one field of one line, so it holds neither of the two
separators, and cleaning leaves it visible and without blanks around it. -/
namespace EffectSurvey.PackageList
variable {content line name : String} {hasHeader : Bool}

/-- What a list can name a package. -/
structure Nameable (name : String) : Prop extends Text.OneLine name where
  visible : name ≠ ""
  unseparated : ',' ∉ name.toList

theorem mem_of_mem_clean {field : String} {c : Char} (inside : c ∈ (clean field).toList) :
    c ∈ field.toList :=
  Text.mem_of_mem_trim (Text.mem_of_mem_unquote (Text.mem_of_mem_trim inside))

theorem exists_field_of_listing? {listing : Listing} (named : listing? line = some listing) :
    ∃ field ∈ Text.splitAtChar ',' line, listing.name = clean field ∧ listing.name ≠ "" := by
  unfold listing? at named
  split at named
  · contradiction
  · rename_i name remarks fields
    split at named
    · contradiction
    · rename_i visible
      obtain rfl := Option.some.inj named
      obtain ⟨field, others, split, cleaned, -⟩ := List.map_eq_cons_iff.mp fields
      exact ⟨field, split ▸ List.mem_cons_self, cleaned.symm, visible⟩

theorem nameable_of_listing? {listing : Listing} (single : '\n' ∉ line.toList)
    (named : listing? line = some listing) : Nameable listing.name := by
  obtain ⟨field, member, cleaned, visible⟩ := exists_field_of_listing? named
  have inside {c : Char} (kept : c ∈ listing.name.toList) : c ∈ field.toList :=
    mem_of_mem_clean (cleaned ▸ kept)
  exact
    { trimmed := by rw [cleaned, clean, Text.trim_trim]
      single := fun feed => single (Text.mem_of_mem_splitAtChar member (inside feed))
      visible := visible
      unseparated := fun comma => Text.not_mem_of_mem_splitAtChar member (inside comma) }

/-- Of a line of blanks no name is left. -/
theorem listing?_of_blank (blank : Text.trim line = "") : listing? line = none := by
  refine Option.eq_none_iff_forall_ne_some.mpr fun listing named => ?_
  obtain ⟨field, member, cleaned, visible⟩ := exists_field_of_listing? named
  have blanks : ∀ c ∈ listing.name.toList, Text.isBlank c = true := fun c kept =>
    Text.trim_eq_empty_iff.mp blank c
      (Text.mem_of_mem_splitAtChar member (mem_of_mem_clean (cleaned ▸ kept)))
  have empty := Text.trim_eq_empty_iff.mpr blanks
  rw [cleaned, clean, Text.trim_trim] at empty
  exact visible (cleaned.trans empty)

/-- So it makes no difference that blank lines are passed over. -/
theorem parse_eq (content : String) (hasHeader : Bool) :
    parse content hasHeader =
      ((Text.lines content).drop (if hasHeader then 1 else 0)).filterMap listing? := by
  rw [parse, List.filterMap_filter]
  congr 1
  funext line
  by_cases blank : Text.trim line = ""
  · simp [blank, listing?_of_blank]
  · simp [blank]

theorem nameable_of_mem_names (member : name ∈ names content hasHeader) : Nameable name := by
  obtain ⟨listing, parsed, rfl⟩ := List.mem_map.mp member
  rw [parse_eq] at parsed
  obtain ⟨line, inside, named⟩ := List.mem_filterMap.mp parsed
  exact nameable_of_listing? (Text.single_of_mem_lines (List.mem_of_mem_drop inside)) named

end EffectSurvey.PackageList
