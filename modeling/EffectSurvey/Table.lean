/-! Tables that keep their keys in the order of first appearance. -/
namespace EffectSurvey

structure Table (κ α : Type) where
  entries : List (κ × α)
  distinct : (entries.map Prod.fst).Nodup
  deriving DecidableEq

namespace Table
variable {κ α : Type} [DecidableEq κ]

def empty : Table κ α := ⟨[], by simp⟩

instance : Inhabited (Table κ α) := ⟨empty⟩

def keys (t : Table κ α) : List κ := t.entries.map Prod.fst

def values (t : Table κ α) : List α := t.entries.map Prod.snd

def size (t : Table κ α) : Nat := t.entries.length

def lookup (k : κ) : List (κ × α) → Option α
  | [] => none
  | (key, value) :: rest => if key = k then some value else lookup k rest

def get? (t : Table κ α) (k : κ) : Option α := lookup k t.entries

def contains (t : Table κ α) (k : κ) : Bool := (t.get? k).isSome

/-- Changes the value of a key where it stands, or puts a new key at the end. -/
def updateEntries (k : κ) (f : Option α → α) : List (κ × α) → List (κ × α)
  | [] => [(k, f none)]
  | (key, value) :: rest =>
    if key = k then (key, f (some value)) :: rest else (key, value) :: updateEntries k f rest

theorem keys_updateEntries (k : κ) (f : Option α → α) (entries : List (κ × α)) :
    (updateEntries k f entries).map Prod.fst =
      if k ∈ entries.map Prod.fst then entries.map Prod.fst else entries.map Prod.fst ++ [k] := by
  induction entries with
  | nil => simp [updateEntries]
  | cons entry rest ih =>
    obtain ⟨key, value⟩ := entry
    by_cases same : key = k
    · simp [updateEntries, same]
    · have other : k ≠ key := fun h => same h.symm
      simp only [updateEntries, same, if_false, List.map_cons, ih, List.mem_cons, other, false_or]
      split <;> simp

theorem nodup_updateEntries (k : κ) (f : Option α → α) {entries : List (κ × α)}
    (distinct : (entries.map Prod.fst).Nodup) :
    ((updateEntries k f entries).map Prod.fst).Nodup := by
  rw [keys_updateEntries]
  split
  · exact distinct
  · rename_i absent
    refine List.nodup_append.mpr ⟨distinct, by simp, ?_⟩
    intro a member b single
    rw [List.mem_singleton] at single
    exact fun same => absent (by rw [← single, ← same]; exact member)

def update (t : Table κ α) (k : κ) (f : Option α → α) : Table κ α :=
  ⟨updateEntries k f t.entries, nodup_updateEntries k f t.distinct⟩

/-- Gives a key a value. A key that is there keeps its place. -/
def insert (t : Table κ α) (k : κ) (value : α) : Table κ α := t.update k fun _ => value

/-- Drops a key and keeps the order of the others. -/
def erase (t : Table κ α) (k : κ) : Table κ α :=
  ⟨t.entries.filter (·.1 ≠ k), List.Pairwise.sublist (List.filter_sublist.map _) t.distinct⟩

end Table
end EffectSurvey
