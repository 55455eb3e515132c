import EffectSurvey.Table
import EffectSurvey.Transcript

/-! The running summaries of a batch: findings by pattern, findings by package, and the metadata row of
each scanned package. -/
namespace EffectSurvey

/-- The two counts of the findings differ. -/
structure Inconsistency where
  patternTotal : Nat
  packageTotal : Nat
  deriving DecidableEq, Repr

def Inconsistency.message (e : Inconsistency) : String :=
  "crate summary and pattern summary are inconsistent: " ++ Text.decimal e.patternTotal ++
    " findings by pattern, " ++ Text.decimal e.packageTotal ++ " by crate"

abbrev Counts := Table String Nat

/-- Adds to the count of a key, which starts at zero. -/
def Counts.add (counts : Counts) (key : String) (n : Nat) : Counts :=
  counts.update key fun old => old.getD 0 + n

def Counts.total (counts : Counts) : Nat := counts.values.foldr (· + ·) 0

structure Summaries where
  patterns : Counts
  packages : Counts
  metadata : Table String MetadataRow
  deriving DecidableEq

namespace Summaries

def empty : Summaries := ⟨.empty, .empty, .empty⟩

/-- Makes a package known, so that it counts even if nothing is found in it. -/
def register (s : Summaries) (package : String) : Summaries :=
  { s with packages := s.packages.add package 0 }

def withPackages (packages : List String) : Summaries := packages.foldl register empty

/-- Forgets a package that was made known but never scanned. -/
def unregister (s : Summaries) (package : String) : Summaries :=
  if s.metadata.contains package = false ∧ s.packages.get? package = some 0 then
    { s with packages := s.packages.erase package }
  else s

/-- Counts the findings of a package and sets its metadata row. -/
def fold (s : Summaries) (package : String) (findings : List Finding) (row : MetadataRow) :
    Summaries where
  patterns := findings.foldl (fun counts f => counts.add f.pattern 1) s.patterns
  packages := s.packages.add package findings.length
  metadata := s.metadata.insert package row

/-- Counts a scan for the package it was run on, whatever name its findings give. -/
def foldScan (s : Summaries) (scan : PackageScan) : Summaries :=
  s.fold scan.package scan.findings scan.metadata

def mergeCounts (a b : Counts) : Counts :=
  b.entries.foldl (fun counts (key, n) => counts.add key n) a

/-- Adds the counts of `b` in its order. Its metadata rows replace those of `a`. -/
def merge (a b : Summaries) : Summaries where
  patterns := mergeCounts a.patterns b.patterns
  packages := mergeCounts a.packages b.packages
  metadata := b.metadata.entries.foldl (fun rows (package, row) => rows.insert package row) a.metadata

def patternTotal (s : Summaries) : Nat := s.patterns.total

def packageTotal (s : Summaries) : Nat := s.packages.total

def packagesWithFindings (s : Summaries) : Nat := s.packages.values.countP (0 < ·)

def checkConsistency (s : Summaries) : Except Inconsistency Unit :=
  if s.patternTotal = s.packageTotal then .ok ()
  else .error ⟨s.patternTotal, s.packageTotal⟩

end Summaries

/-- The entries by decreasing count. Equal counts keep the order of the table. -/
def Counts.ranked (counts : Counts) : List (String × Nat) :=
  counts.entries.mergeSort fun a b => b.2 ≤ a.2

end EffectSurvey
