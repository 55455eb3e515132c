import EffectSurvey.Table
import Mathlib.Data.List.Basic

/-! Tables seen through two views: the keys in order, and the value under each key. The views determine a
table, and every operation is described by what it does to them. Adding pairs to a table one after the
other is then a product with an identity, for every associative way to combine two values of one key. -/
namespace EffectSurvey

section Firsts
variable {κ : Type} [DecidableEq κ]

theorem filter_ne_of_not_mem {keys : List κ} {key : κ} (absent : key ∉ keys) :
    keys.filter (· ≠ key) = keys := by
  apply List.filter_eq_self.mpr
  intro other member
  have differs : other ≠ key := fun same => absent (same ▸ member)
  simpa using differs

theorem eraseDups_filter (p : κ → Bool) (keys : List κ) :
    (keys.filter p).eraseDups = keys.eraseDups.filter p := by
  -- The tail of `eraseDups` is itself filtered, so the induction is on the length.
  induction size : keys.length using Nat.strongRecOn generalizing keys with
  | ind n ih =>
    cases keys with
    | nil => rfl
    | cons key rest =>
      have shorter : (rest.filter fun other => !other == key).length < n := by
        have := List.length_filter_le (fun other => !other == key) rest
        simp only [List.length_cons] at size
        omega
      have tail := ih _ shorter _ rfl
      rw [List.filter_comm] at tail
      by_cases holds : p key = true
      · simp only [List.filter_cons, holds, if_true, List.eraseDups_cons, tail]
      · have absent : (rest.filter p).filter (fun other => !other == key) = rest.filter p := by
          have dropped : key ∉ rest.filter p := fun member => holds (List.mem_filter.mp member).2
          simpa [beq_eq_decide] using filter_ne_of_not_mem dropped
        rw [absent] at tail
        rw [List.filter_cons_of_neg holds, List.eraseDups_cons, List.filter_cons_of_neg holds]
        exact tail

theorem eraseDups_of_nodup {keys : List κ} (distinct : keys.Nodup) : keys.eraseDups = keys := by
  induction keys with
  | nil => rfl
  | cons key rest ih =>
    obtain ⟨absent, distinct⟩ := List.nodup_cons.mp distinct
    rw [List.eraseDups_cons, eraseDups_filter, ih distinct]
    congr 1
    simpa using filter_ne_of_not_mem absent

theorem nodup_eraseDups (keys : List κ) : keys.eraseDups.Nodup := by
  induction keys with
  | nil => simp
  | cons key rest ih =>
    rw [List.eraseDups_cons, eraseDups_filter]
    exact List.nodup_cons.mpr ⟨by simp, ih.filter _⟩

theorem eraseDups_append_filter (keys more : List κ) :
    (keys ++ more).eraseDups = keys.eraseDups ++ (more.filter (· ∉ keys)).eraseDups := by
  rw [List.eraseDups_append]
  simp [List.removeAll]

theorem eraseDups_eraseDups_append (keys more : List κ) :
    (keys.eraseDups ++ more).eraseDups = (keys ++ more).eraseDups := by
  simp only [eraseDups_append_filter, List.mem_eraseDups,
    eraseDups_of_nodup (nodup_eraseDups keys)]

theorem eraseDups_append_eraseDups (keys more : List κ) :
    (keys ++ more.eraseDups).eraseDups = (keys ++ more).eraseDups := by
  rw [eraseDups_append_filter, eraseDups_append_filter, eraseDups_filter, eraseDups_filter,
    eraseDups_of_nodup (nodup_eraseDups more)]

theorem eraseDups_append_self (keys : List κ) : (keys ++ keys).eraseDups = keys.eraseDups := by
  have none_new : keys.filter (· ∉ keys) = [] := by simp
  rw [eraseDups_append_filter, none_new, List.eraseDups_nil, List.append_nil]

end Firsts

namespace Table
variable {κ α : Type} [DecidableEq κ]

theorem lookup_eq_none {k : κ} {entries : List (κ × α)} :
    lookup k entries = none ↔ k ∉ entries.map Prod.fst := by
  induction entries with
  | nil => simp [lookup]
  | cons entry rest ih =>
    obtain ⟨key, value⟩ := entry
    by_cases same : key = k
    · simp [lookup, same]
    · have other : k ≠ key := fun h => same h.symm
      simp [lookup, same, ih, other]

theorem lookup_eq_some {k : κ} {v : α} {entries : List (κ × α)}
    (distinct : (entries.map Prod.fst).Nodup) : lookup k entries = some v ↔ (k, v) ∈ entries := by
  induction entries with
  | nil => simp [lookup]
  | cons entry rest ih =>
    obtain ⟨key, value⟩ := entry
    obtain ⟨absent, distinct⟩ := List.nodup_cons.mp distinct
    by_cases same : key = k
    · subst same
      have elsewhere : (key, v) ∉ rest := fun member =>
        absent (List.mem_map.mpr ⟨(key, v), member, rfl⟩)
      simp [lookup, elsewhere, eq_comm]
    · have other : k ≠ key := fun h => same h.symm
      simp [lookup, same, ih distinct, other]

theorem get?_eq_none {t : Table κ α} {k : κ} : t.get? k = none ↔ k ∉ t.keys := lookup_eq_none

theorem get?_eq_some {t : Table κ α} {k : κ} {v : α} : t.get? k = some v ↔ (k, v) ∈ t.entries :=
  lookup_eq_some t.distinct

theorem mem_keys_of_get? {t : Table κ α} {k : κ} {v : α} (found : t.get? k = some v) :
    k ∈ t.keys :=
  List.mem_map_of_mem (get?_eq_some.mp found)

theorem mem_keys_iff {t : Table κ α} {k : κ} : k ∈ t.keys ↔ ∃ v, t.get? k = some v := by
  constructor
  · intro member
    cases found : t.get? k with
    | none => exact absurd member (get?_eq_none.mp found)
    | some v => exact ⟨v, rfl⟩
  · rintro ⟨v, found⟩
    exact mem_keys_of_get? found

theorem contains_iff {t : Table κ α} {k : κ} : t.contains k = true ↔ k ∈ t.keys := by
  rw [contains, Option.isSome_iff_exists, mem_keys_iff]

theorem entries_eq_of_views {a b : List (κ × α)} (distinct : (a.map Prod.fst).Nodup)
    (keys : a.map Prod.fst = b.map Prod.fst) (values : ∀ k, lookup k a = lookup k b) : a = b := by
  induction a generalizing b with
  | nil => exact (List.map_eq_nil_iff.mp keys.symm).symm
  | cons entry rest ih =>
    obtain ⟨key, value⟩ := entry
    cases b with
    | nil => simp at keys
    | cons other others =>
      obtain ⟨key', value'⟩ := other
      simp only [List.map_cons, List.cons.injEq] at keys
      obtain ⟨same, keys⟩ := keys
      subst same
      obtain ⟨absent, distinct⟩ := List.nodup_cons.mp distinct
      have first : value = value' := by simpa [lookup] using values key
      have tails : ∀ k, lookup k rest = lookup k others := by
        intro k
        by_cases same : key = k
        · subst same
          rw [lookup_eq_none.mpr absent, lookup_eq_none.mpr (keys ▸ absent)]
        · simpa [lookup, same] using values k
      rw [first, ih distinct keys tails]

@[simp] theorem eraseDups_keys (t : Table κ α) : t.keys.eraseDups = t.keys :=
  eraseDups_of_nodup t.distinct

/-- The keys in order and the value under each key determine a table. -/
theorem eq_of_views {a b : Table κ α} (keys : a.keys = b.keys)
    (values : ∀ k, a.get? k = b.get? k) : a = b := by
  have entries := entries_eq_of_views a.distinct keys values
  cases a
  cases b
  simpa using entries

/-- Tables that differ at most in the order of their keys have the same entries. -/
theorem entries_perm_of_get? {a b : Table κ α} (values : ∀ k, a.get? k = b.get? k) :
    a.entries.Perm b.entries := by
  have nodup : ∀ t : Table κ α, t.entries.Nodup := fun t =>
    List.Pairwise.of_map Prod.fst (fun _ _ differ same => differ (congrArg Prod.fst same)) t.distinct
  refine (List.perm_ext_iff_of_nodup (nodup a) (nodup b)).mpr ?_
  rintro ⟨k, v⟩
  rw [← get?_eq_some, ← get?_eq_some, values]

omit [DecidableEq κ] in
@[simp] theorem keys_empty : (empty : Table κ α).keys = [] := rfl

@[simp] theorem get?_empty (k : κ) : (empty : Table κ α).get? k = none := rfl

theorem lookup_updateEntries (k j : κ) (f : Option α → α) (entries : List (κ × α)) :
    lookup j (updateEntries k f entries) =
      if j = k then some (f (lookup k entries)) else lookup j entries := by
  induction entries with
  | nil => by_cases same : k = j <;> simp [updateEntries, lookup, same, eq_comm]
  | cons entry rest ih =>
    obtain ⟨key, value⟩ := entry
    by_cases here : key = k
    · by_cases same : j = k <;> simp_all [updateEntries, lookup, eq_comm]
    · by_cases there : key = j <;> simp_all [updateEntries, lookup]

theorem get?_update (t : Table κ α) (k j : κ) (f : Option α → α) :
    (t.update k f).get? j = if j = k then some (f (t.get? k)) else t.get? j :=
  lookup_updateEntries k j f t.entries

theorem keys_update (t : Table κ α) (k : κ) (f : Option α → α) :
    (t.update k f).keys = (t.keys ++ [k]).eraseDups := by
  rw [eraseDups_append_filter, eraseDups_keys]
  simp only [keys, update, keys_updateEntries]
  split <;> rename_i known <;> simp [known, List.eraseDups_cons]

theorem keys_erase (t : Table κ α) (k : κ) : (t.erase k).keys = t.keys.filter (· ≠ k) := by
  simp [keys, erase, List.filter_map, Function.comp_def]

theorem lookup_filter_ne (k j : κ) (entries : List (κ × α)) :
    lookup j (entries.filter (·.1 ≠ k)) = if j = k then none else lookup j entries := by
  induction entries with
  | nil => simp [lookup]
  | cons entry rest ih =>
    obtain ⟨key, value⟩ := entry
    by_cases here : key = k
    · by_cases same : j = k <;> simp_all [lookup, eq_comm]
    · by_cases there : key = j <;> simp_all [lookup]

theorem get?_erase (t : Table κ α) (k j : κ) :
    (t.erase k).get? j = if j = k then none else t.get? j :=
  lookup_filter_ne k j t.entries

theorem erase_of_not_mem {t : Table κ α} {k : κ} (absent : k ∉ t.keys) : t.erase k = t := by
  apply eq_of_views
  · rw [keys_erase, filter_ne_of_not_mem absent]
  · intro other
    rw [get?_erase]
    split
    · rename_i same
      rw [same, get?_eq_none.mpr absent]
    · rfl

/-- Adds a value under a key. It is combined with the value that is there. -/
def put (op : α → α → α) (t : Table κ α) (k : κ) (v : α) : Table κ α :=
  t.update k fun old => (old.merge op (some v)).getD v

def gather (op : α → α → α) (t : Table κ α) (pairs : List (κ × α)) : Table κ α :=
  pairs.foldl (fun t pair => t.put op pair.1 pair.2) t

/-- Adds all of the second table to the first, in its order. -/
def join (op : α → α → α) (a b : Table κ α) : Table κ α := a.gather op b.entries

variable {op : α → α → α}

theorem keys_put (t : Table κ α) (k : κ) (v : α) :
    (t.put op k v).keys = (t.keys ++ [k]).eraseDups :=
  keys_update _ _ _

theorem get?_put (t : Table κ α) (k j : κ) (v : α) :
    (t.put op k v).get? j = (t.get? j).merge op (if j = k then some v else none) := by
  rw [put, get?_update]
  by_cases same : j = k
  · subst same
    cases t.get? j <;> simp
  · simp [same]

@[simp] theorem gather_nil (t : Table κ α) : t.gather op [] = t := rfl

theorem gather_cons (t : Table κ α) (pair : κ × α) (pairs : List (κ × α)) :
    t.gather op (pair :: pairs) = (t.put op pair.1 pair.2).gather op pairs := rfl

theorem keys_gather (t : Table κ α) (pairs : List (κ × α)) :
    (t.gather op pairs).keys = (t.keys ++ pairs.map Prod.fst).eraseDups := by
  induction pairs generalizing t with
  | nil => simp
  | cons pair pairs ih =>
    rw [gather_cons, ih, keys_put, eraseDups_eraseDups_append]
    simp

/-- What is found after pairs were added: the old value first, then all that was added under the key. -/
theorem get?_gather [Std.Associative op] (t : Table κ α) (pairs : List (κ × α)) (k : κ) :
    (t.gather op pairs).get? k = (t.get? k).merge op ((empty.gather op pairs).get? k) := by
  induction pairs generalizing t with
  | nil => simp
  | cons pair pairs ih =>
    rw [gather_cons, gather_cons, ih, ih (empty.put op pair.1 pair.2), get?_put, get?_put,
      (Option.associative_merge op).assoc]
    simp

/-- Keys that are all different are gathered as they stand. -/
theorem lookup_gather [Std.Associative op] {entries : List (κ × α)}
    (distinct : (entries.map Prod.fst).Nodup) (k : κ) :
    (empty.gather op entries).get? k = lookup k entries := by
  induction entries with
  | nil => rfl
  | cons entry rest ih =>
    obtain ⟨key, value⟩ := entry
    obtain ⟨absent, distinct⟩ := List.nodup_cons.mp distinct
    rw [gather_cons, get?_gather, get?_put, ih distinct]
    by_cases same : key = k
    · subst same
      simp [lookup, lookup_eq_none.mpr absent]
    · have other : k ≠ key := fun h => same h.symm
      simp [lookup, same, other]

theorem keys_join (a b : Table κ α) : (a.join op b).keys = (a.keys ++ b.keys).eraseDups :=
  keys_gather a b.entries

theorem get?_join [Std.Associative op] (a b : Table κ α) (k : κ) :
    (a.join op b).get? k = (a.get? k).merge op (b.get? k) := by
  rw [join, get?_gather, lookup_gather b.distinct]
  rfl

theorem mem_keys_join {a b : Table κ α} {k : κ} :
    k ∈ (a.join op b).keys ↔ k ∈ a.keys ∨ k ∈ b.keys := by
  rw [keys_join, List.mem_eraseDups, List.mem_append]

theorem empty_join [Std.Associative op] (a : Table κ α) : empty.join op a = a := by
  apply eq_of_views
  · simp [keys_join]
  · intro k
    simp [get?_join]

theorem join_assoc [Std.Associative op] (a b c : Table κ α) :
    (a.join op b).join op c = a.join op (b.join op c) := by
  apply eq_of_views
  · simp only [keys_join, eraseDups_eraseDups_append, eraseDups_append_eraseDups,
      List.append_assoc]
  · intro k
    simp only [get?_join, (Option.associative_merge op).assoc]

/-- A key that the second table does not have may be dropped before or after joining it. -/
theorem erase_join [Std.Associative op] {a b : Table κ α} {k : κ} (absent : k ∉ b.keys) :
    (a.join op b).erase k = (a.erase k).join op b := by
  apply eq_of_views
  · simp only [keys_erase, keys_join, ← eraseDups_filter, List.filter_append,
      filter_ne_of_not_mem absent]
  · intro other
    simp only [get?_erase, get?_join]
    split
    · rename_i same
      rw [same, get?_eq_none.mpr absent]
      rfl
    · rfl

/-- Pairs may be gathered apart and joined afterwards. -/
theorem gather_eq_join [Std.Associative op] (t : Table κ α) (pairs : List (κ × α)) :
    t.gather op pairs = t.join op (empty.gather op pairs) := by
  apply eq_of_views
  · simp only [keys_join, keys_gather, keys_empty, List.nil_append, eraseDups_append_eraseDups]
  · intro k
    rw [get?_join, get?_gather]

end Table
end EffectSurvey
