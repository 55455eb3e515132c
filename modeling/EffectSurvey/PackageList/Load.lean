import EffectSurvey.Failure
import EffectSurvey.PackageList

/-! Package lists kept in files. -/
namespace EffectSurvey

/-- The names in a list file, which must not be empty. -/
def loadPackageList (path : String) (hasHeader : Bool) : Work Failure (List String) := do
  let content ← (Work.read (·.readText path)).mapError (.listUnread path)
  let listings := PackageList.parse content hasHeader
  listings.forM fun listing => Work.log .debug listing.message
  if listings.isEmpty then Work.fail (.listEmpty path) else return listings.map Listing.name

end EffectSurvey
