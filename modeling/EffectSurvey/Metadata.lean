import EffectSurvey.Text.Blank
import EffectSurvey.Text.Pieces

/-! The metadata row of a package. Only its sort key ever looks inside. -/
namespace EffectSurvey

structure MetadataRow where
  text : String
  deriving DecidableEq, Repr

namespace MetadataRow

def header : String :=
  "total, loc_lb, loc_ub, macros, loc_lb, loc_ub, conditional_code, loc_lb, loc_ub, " ++
  "skipped_calls, loc_lb, loc_ub, skipped_fn_ptrs, loc_lb, loc_ub, skipped_other, loc_lb, loc_ub, " ++
  "unsafe_trait, loc_lb, loc_ub, unsafe_impl, loc_lb, loc_ub, pub_fns, pub_fns_with_effects, " ++
  "pub_total_effects"

/-- The field at a position between commas, without the blanks around it. -/
def field? (m : MetadataRow) (index : Nat) : Option String :=
  (Text.splitAtChar ',' m.text)[index]?.map Text.trim

end MetadataRow
end EffectSurvey
