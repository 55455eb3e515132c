import EffectSurvey.SortKey
import EffectSurvey.Summaries

/-! The four reports of a run as text. -/
namespace EffectSurvey.Report

def line (text : String) : String := text ++ "\n"

def countLine (entry : String × Nat) : String :=
  line (entry.1 ++ ": " ++ Text.decimal entry.2)

def patterns (s : Summaries) : String :=
  line "===== Patterns =====" ++ line "Total instances of each effect pattern:" ++
    String.join (s.patterns.ranked.map countLine)

/-- The packages with findings, most findings first. -/
def affected (s : Summaries) : List (String × Nat) :=
  s.packages.ranked.filter fun entry => 0 < entry.2

/-- The packages without findings. -/
def unaffected (s : Summaries) : List (String × Nat) :=
  s.packages.ranked.filter fun entry => entry.2 = 0

/-- Packages without findings are counted only. -/
def packages (s : Summaries) : String :=
  line "===== Crate Summary =====" ++ line "Number of effects by crate:" ++
    String.join ((affected s).map countLine) ++
    line "===== Crate Totals =====" ++
    line (Text.decimal (affected s).length ++ " crates with 1 or more effects") ++
    line (Text.decimal (unaffected s).length ++ " crates with 0 effects")

/-- The metadata rows, highest key first. Equal keys keep the order of the table. -/
def rankedMetadata (s : Summaries) (key : SortKey) : List (String × MetadataRow) :=
  s.metadata.entries.mergeSort fun a b => (key.order b.2 a.2).isLE

def metadataLine (entry : String × MetadataRow) : String :=
  line (entry.1 ++ ", " ++ entry.2.text)

def metadata (s : Summaries) (key : SortKey) : String :=
  line ("crate, " ++ MetadataRow.header) ++ String.join ((rankedMetadata s key).map metadataLine)

def findings (found : List Finding) : String :=
  line Finding.header ++ String.join (found.map fun f => line f.row)

end EffectSurvey.Report
