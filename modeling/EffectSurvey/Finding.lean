import EffectSurvey.Text.Decimal

/-! One effect that the analyzer reports, and its row of eight columns. -/
namespace EffectSurvey

structure Finding where
  /-- The analyzer's own name for the package, which may differ from the name it was run under. -/
  package : String
  function : String
  callee : String
  /-- The kind of effect. -/
  pattern : String
  dir : String
  file : String
  line : Nat
  col : Nat
  deriving DecidableEq, Repr

namespace Finding

def header : String := "crate, fn_decl, callee, effect, dir, file, line, col"

def columnCount : Nat := 8

def columns (f : Finding) : List String :=
  [f.package, f.function, f.callee, f.pattern, f.dir, f.file, Text.decimal f.line,
    Text.decimal f.col]

/-- The columns, each separated from the next by a comma and a space. -/
def row (f : Finding) : String := String.intercalate ", " f.columns

end Finding
end EffectSurvey
