import EffectSurvey.Proofs.Files.Tree

/-! Where paths lead, told by the entries of the tree alone. A walk that arrives ends at an entry or at a
free name in a directory; and where it arrives does not change when files are put over entries that are no
directories, unless they block the way. -/
namespace EffectSurvey

namespace Cursor
variable {t : FileTree} {c : Cursor} {name : String} {contents : Folder}

/-- The directories above a directory, up to the root, each hold the one below it. -/
def Chain (root : Folder) : Folder → List (String × Folder) → Prop
  | here, [] => here = root
  | here, (name, parent) :: above => parent.find? name = some (.directory here) ∧ Chain root parent above

def In (c : Cursor) (t : FileTree) : Prop := Chain t.root c.here c.above

theorem in_top (t : FileTree) : t.top.In t := rfl

@[simp] theorem place_top (t : FileTree) : t.top.place = [] := rfl

@[simp] theorem place_enter (c : Cursor) (name : String) (contents : Folder) :
    (c.enter name contents).place = c.place ++ [name] := by
  simp [enter, place]

@[simp] theorem place_up (c : Cursor) : c.up.place = c.place.dropLast := by
  obtain ⟨here, above⟩ := c
  cases above with
  | nil => rfl
  | cons entry above => simp [up, place]

theorem In.up (inside : c.In t) : c.up.In t := by
  obtain ⟨here, above⟩ := c
  cases above with
  | nil => exact inside
  | cons entry above => exact inside.2

theorem In.enter (inside : c.In t) (found : c.here.find? name = some (.directory contents)) :
    (c.enter name contents).In t :=
  ⟨found, inside⟩

theorem In.entryAt?_append (inside : c.In t) (rest : Location) :
    t.entryAt? (c.place ++ rest) = c.here.entryAt? rest := by
  obtain ⟨here, above⟩ := c
  induction above generalizing here rest with
  | nil =>
    rw [FileTree.entryAt?_eq, show here = t.root from inside]
    rfl
  | cons entry above ih =>
    obtain ⟨name, parent⟩ := entry
    have higher := ih (name :: rest) parent inside.2
    rw [Folder.entryAt?_of_directory inside.1] at higher
    simpa [place] using higher

theorem In.entryAt?_place (inside : c.In t) : t.entryAt? c.place = some .directory := by
  simpa using inside.entryAt?_append []

theorem In.find? (inside : c.In t) (name : String) :
    (c.here.find? name).map Node.entry = t.entryAt? (c.place ++ [name]) := by
  rw [inside.entryAt?_append, Folder.entryAt?_singleton]

theorem In.exists_contents (inside : c.In t)
    (found : t.entryAt? (c.place ++ [name]) = some .directory) :
    ∃ contents, c.here.find? name = some (.directory contents) := by
  rw [← inside.find?, Option.map_eq_some_iff] at found
  obtain ⟨node, here, entry⟩ := found
  cases node with
  | directory contents => exact ⟨contents, here⟩
  | file content mode => contradiction
  | link target => contradiction

theorem In.find?_node (inside : c.In t) {entry : Entry}
    (found : t.entryAt? (c.place ++ [name]) = some entry) (file : entry ≠ .directory) :
    c.here.find? name = some entry.node := by
  rw [← inside.find?, Option.map_eq_some_iff] at found
  obtain ⟨node, here, rfl⟩ := found
  cases node with
  | directory contents => exact absurd rfl file
  | file content mode => exact here
  | link target => exact here

theorem In.find?_none (inside : c.In t) (absent : t.entryAt? (c.place ++ [name]) = none) :
    c.here.find? name = none := by
  rw [← inside.find?] at absent
  simpa using absent

theorem In.descend (inside : c.In t) (location : Location) : (c.descend location).In t := by
  induction location generalizing c with
  | nil => exact inside
  | cons name rest ih =>
    rw [Cursor.descend]
    split
    · rename_i contents found
      exact ih (inside.enter found)
    · exact inside

/-- How far down a cursor gets depends on where there are directories. -/
theorem place_descend {a b : FileTree} {c d : Cursor} (left : c.In a) (right : d.In b)
    (same : c.place = d.place)
    (directories : ∀ place, a.entryAt? place = some .directory ↔ b.entryAt? place = some .directory)
    (location : Location) : (c.descend location).place = (d.descend location).place := by
  induction location generalizing c d with
  | nil => exact same
  | cons name rest ih =>
    by_cases found : a.entryAt? (c.place ++ [name]) = some .directory
    · obtain ⟨contents, here⟩ := left.exists_contents found
      obtain ⟨others, there⟩ := right.exists_contents (same ▸ (directories _).mp found)
      simp only [Cursor.descend, here, there]
      exact ih (left.enter here) (right.enter there) (by simp [same])
    · have blocked := (directories _).not.mp found
      rw [same] at blocked
      have stays {t : FileTree} {c : Cursor} (inside : c.In t)
          (missing : t.entryAt? (c.place ++ [name]) ≠ some .directory) :
          c.descend (name :: rest) = c := by
        rw [Cursor.descend]
        split
        · rename_i contents here
          rw [← inside.find?, here] at missing
          exact absurd rfl missing
        · rfl
      rw [stays left found, stays right blocked, same]

/-- A cursor gets all the way down to a directory that is there. -/
theorem In.place_descend_of_directory (inside : c.In t) (location : Location)
    (there : t.entryAt? (c.place ++ location) = some .directory) :
    (c.descend location).place = c.place ++ location := by
  induction location generalizing c with
  | nil => simp [Cursor.descend]
  | cons name rest ih =>
    have split : c.place ++ name :: rest = c.place ++ [name] ++ rest := by simp
    have found : t.entryAt? (c.place ++ [name]) = some .directory := by
      by_contra blocked
      by_cases last : rest = []
      · exact blocked (last ▸ there)
      · rw [split, FileTree.entryAt?_eq, Folder.entryAt?_below blocked last] at there
        contradiction
    obtain ⟨contents, here⟩ := inside.exists_contents found
    have below : t.entryAt? ((c.enter name contents).place ++ rest) = some .directory := by
      rw [place_enter, ← split]
      exact there
    simp only [Cursor.descend, here]
    rw [ih (inside.enter here) below, place_enter, ← split]

end Cursor

namespace FileTree

namespace Spot

def place : Spot → Location
  | .found place _ | .vacant place => place

def entryAt? : Spot → Option Entry
  | .found _ entry => some entry
  | .vacant _ => none

end Spot

/-- The name is looked up in a directory when the rest of the names is still to come. -/
structure LookedUp (aim : Aim) (name : String) (rest : List String) : Prop where
  nonempty : name ≠ ""
  notHere : name ≠ "."
  notUp : name ≠ ".."
  wanted : ¬ (aim = .output ∧ rest = [""])
  short : name.utf8ByteSize ≤ maxNameBytes

instance (aim : Aim) (name : String) (rest : List String) : Decidable (LookedUp aim name rest) :=
  decidable_of_iff (name ≠ "" ∧ name ≠ "." ∧ name ≠ ".." ∧ ¬ (aim = .output ∧ rest = [""]) ∧
    name.utf8ByteSize ≤ maxNameBytes)
    ⟨fun ⟨nonempty, notHere, notUp, wanted, short⟩ => ⟨nonempty, notHere, notUp, wanted, short⟩,
      fun step => ⟨step.nonempty, step.notHere, step.notUp, step.wanted, step.short⟩⟩

/-- Walking from a directory along names, with so many links to spare, leads to the spot. -/
inductive Walks (t : FileTree) (aim : Aim) : Nat → Location → List String → Spot → Prop where
  | done {links : Nat} {here : Location} (directory : t.entryAt? here = some .directory) :
    Walks t aim links here [] (.found here .directory)
  | stay {links : Nat} {here : Location} {name : String} {rest : List String} {spot : Spot}
    (idle : name = "" ∨ name = ".") (later : Walks t aim links here rest spot) :
    Walks t aim links here (name :: rest) spot
  | up {links : Nat} {here : Location} {rest : List String} {spot : Spot}
    (later : Walks t aim links here.dropLast rest spot) : Walks t aim links here (".." :: rest) spot
  | vacant {links : Nat} {here : Location} {name : String} (step : LookedUp aim name [])
    (directory : t.entryAt? here = some .directory) (absent : t.entryAt? (here ++ [name]) = none) :
    Walks t aim links here [name] (.vacant (here ++ [name]))
  | file {links : Nat} {here : Location} {name : String} {content : Bytes} {mode : Nat}
    (step : LookedUp aim name []) (found : t.entryAt? (here ++ [name]) = some (.file content mode)) :
    Walks t aim links here [name] (.found (here ++ [name]) (.file content mode))
  | link {links : Nat} {here : Location} {name target : String} (step : LookedUp aim name [])
    (asked : aim = .entry) (found : t.entryAt? (here ++ [name]) = some (.link target)) :
    Walks t aim links here [name] (.found (here ++ [name]) (.link target))
  | enter {links : Nat} {here : Location} {name : String} {rest : List String} {spot : Spot}
    (step : LookedUp aim name rest) (found : t.entryAt? (here ++ [name]) = some .directory)
    (later : Walks t aim links (here ++ [name]) rest spot) : Walks t aim links here (name :: rest) spot
  | follow {links : Nat} {here : Location} {name target : String} {rest : List String} {spot : Spot}
    (step : LookedUp aim name rest) (found : t.entryAt? (here ++ [name]) = some (.link target))
    (onward : ¬ (rest = [] ∧ aim = .entry)) (nonempty : target ≠ "")
    (later : Walks t aim links (if Path.isAbsolute target then [] else here)
      (Path.steps target ++ rest) spot) : Walks t aim (links + 1) here (name :: rest) spot

section Walks
variable {t : FileTree} {aim : Aim} {links : Nat} {c : Cursor} {here : Location} {name : String}
  {names rest : List String} {spot : Spot}

theorem LookedUp.intro (moves : ¬ (name = "" ∨ name = ".")) (notUp : name ≠ "..")
    (wanted : ¬ (aim = .output ∧ rest = [""])) (short : ¬ maxNameBytes < name.utf8ByteSize) :
    LookedUp aim name rest :=
  ⟨fun empty => moves (.inl empty), fun dot => moves (.inr dot), notUp, wanted, Nat.le_of_not_lt short⟩

theorem walk_of_lookedUp (step : LookedUp aim name rest) :
    t.walk aim links c (name :: rest) =
      match c.here.find? name with
      | none => if rest = [] then .ok (.vacant (c.place ++ [name])) else .error .notFound
      | some (.directory contents) => t.walk aim links (c.enter name contents) rest
      | some (.file content mode) =>
        if rest = [] then .ok (.found (c.place ++ [name]) (.file content mode))
        else .error .notDirectory
      | some (.link target) =>
        if rest = [] ∧ aim = .entry then .ok (.found (c.place ++ [name]) (.link target))
        else
          match links with
          | 0 => .error .tooManyLinks
          | links + 1 =>
            if target = "" then .error .notFound
            else
              t.walk aim links (if Path.isAbsolute target then t.top else c)
                (Path.steps target ++ rest) := by
  have moves : ¬ (name = "" ∨ name = ".") := by simp [step.nonempty, step.notHere]
  rewrite [walk, if_neg moves, if_neg step.notUp, if_neg step.wanted,
    if_neg (Nat.not_lt.mpr step.short)]
  rfl

/-- A link is followed from the root, or from where it stands. -/
theorem place_origin (t : FileTree) (c : Cursor) (target : String) :
    (if Path.isAbsolute target then t.top else c).place =
      if Path.isAbsolute target then [] else c.place := by
  split <;> rfl

theorem in_origin (inside : c.In t) (target : String) :
    (if Path.isAbsolute target then t.top else c).In t := by
  split
  · exact Cursor.in_top t
  · exact inside

theorem walks_of_walk (inside : c.In t) (arrived : t.walk aim links c names = .ok spot) :
    t.Walks aim links c.place names spot := by
  fun_induction walk t aim links c names with
  | case1 links c =>
    cases arrived
    exact .done inside.entryAt?_place
  | case2 links c name rest idle ih => exact .stay idle (ih inside arrived)
  | case3 links c rest _ ih => exact .up (c.place_up ▸ ih inside.up arrived)
  | case6 links c name moves notUp short absent wanted =>
    cases arrived
    refine .vacant (.intro moves notUp wanted short) inside.entryAt?_place ?_
    rw [← inside.find?, absent]
    rfl
  | case8 links c name rest moves notUp wanted short contents found ih =>
    refine .enter (.intro moves notUp wanted short) ?_
      (c.place_enter name contents ▸ ih (inside.enter found) arrived)
    rw [← inside.find?, found]
    rfl
  | case9 links c name moves notUp short content mode found wanted =>
    cases arrived
    refine .file (.intro moves notUp wanted short) ?_
    rw [← inside.find?, found]
    rfl
  | case11 links c name rest moves notUp wanted short target found asked =>
    cases arrived
    obtain ⟨rfl, asked⟩ := asked
    refine .link (.intro moves notUp wanted short) asked ?_
    rw [← inside.find?, found]
    rfl
  | case14 c name rest moves notUp wanted short target found onward links nonempty ih =>
    refine .follow (.intro moves notUp wanted short) ?_ onward nonempty
      (place_origin t c target ▸ ih (in_origin inside target) arrived)
    rw [← inside.find?, found]
    rfl
  | _ => contradiction

theorem walk_of_walks (arrives : t.Walks aim links here names spot) (inside : c.In t)
    (stands : c.place = here) : t.walk aim links c names = .ok spot := by
  induction arrives generalizing c with
  | done => rw [walk, stands]
  | stay idle _ ih => rw [walk, if_pos idle, ih inside stands]
  | up _ ih => rw [walk, if_neg (by decide), if_pos rfl, ih inside.up (by simp [stands])]
  | vacant step _ absent =>
    subst stands
    rw [walk_of_lookedUp step, inside.find?_none absent]
    rfl
  | file step found =>
    subst stands
    rw [walk_of_lookedUp step, inside.find?_node found (by simp)]
    rfl
  | link step asked found =>
    subst stands
    rw [walk_of_lookedUp step, inside.find?_node found (by simp)]
    exact if_pos ⟨rfl, asked⟩
  | enter step found _ ih =>
    subst stands
    obtain ⟨contents, node⟩ := inside.exists_contents found
    rw [walk_of_lookedUp step, node]
    exact ih (inside.enter node) (by simp)
  | follow step found onward nonempty _ ih =>
    subst stands
    rw [walk_of_lookedUp step, inside.find?_node found (by simp)]
    simp only [Entry.node]
    rw [if_neg onward, if_neg nonempty]
    exact ih (in_origin inside _) (place_origin t c _)

theorem Walks.entryAt?_place (arrives : t.Walks aim links here names spot) :
    t.entryAt? spot.place = spot.entryAt? := by
  induction arrives with
  | done directory => exact directory
  | stay _ _ ih | up _ ih | enter _ _ _ ih | follow _ _ _ _ _ ih => exact ih
  | vacant _ _ absent => exact absent
  | file _ found | link _ _ found => exact found

/-- A walk that does not end at a directory ends where a file may be put. -/
theorem Walks.fillable (arrives : t.Walks aim links here names spot)
    (file : spot.entryAt? ≠ some .directory) : t.Fillable spot.place := by
  induction arrives with
  | done => exact absurd rfl file
  | stay _ _ ih | up _ ih | enter _ _ _ ih | follow _ _ _ _ _ ih => exact ih file
  | vacant _ directory absent => exact ⟨by rw [Spot.place, absent]; simp, _, _, rfl, directory⟩
  | file _ found | link _ _ found => exact fillable_of_entryAt? found (by simp)

/-- The last name is the one that the place has, if it is the name of an entry at all. A free name always
is. -/
theorem Walks.getLast?_place (arrives : t.Walks .entry links here names spot) {last : String}
    (ends : names.getLast? = some last)
    (named : spot.entryAt? = none ∨ last ≠ "" ∧ last ≠ "." ∧ last ≠ "..") :
    spot.place.getLast? = some last := by
  have onward {name : String} {rest : List String} (more : rest ≠ [])
      (ends : (name :: rest).getLast? = some last) : rest.getLast? = some last := by
    rwa [List.getLast?_cons, List.getLast?_eq_some_getLast more, Option.getD_some,
      ← List.getLast?_eq_some_getLast more] at ends
  have final {t : FileTree} {links : Nat} {here : Location} {spot : Spot}
      (arrives : t.Walks .entry links here [] spot) : spot = .found here .directory := by
    cases arrives
    rfl
  induction arrives with
  | done => contradiction
  | @stay _ _ name rest _ idle later ih =>
    by_cases more : rest = []
    · subst more
      cases ends
      rw [final later] at named
      simp_all [Spot.entryAt?]
    · exact ih (onward more ends) named
  | @up _ _ rest _ later ih =>
    by_cases more : rest = []
    · subst more
      cases ends
      rw [final later] at named
      simp_all [Spot.entryAt?]
    · exact ih (onward more ends) named
  | vacant | file | link =>
    cases ends
    simp [Spot.place]
  | @enter _ _ name rest _ _ _ later ih =>
    by_cases more : rest = []
    · subst more
      cases ends
      simp [final later, Spot.place]
    · exact ih (onward more ends) named
  | @follow _ _ _ target rest _ _ _ further _ later ih =>
    have more : rest ≠ [] := fun none => further ⟨none, rfl⟩
    refine ih ?_ named
    rw [List.getLast?_append_of_ne_nil _ more]
    exact onward more ends

end Walks

structure Admissible (path : String) : Prop where
  single : '\x00' ∉ path.toList
  nonempty : path ≠ ""
  short : path.utf8ByteSize ≤ maxPathBytes

instance (path : String) : Decidable (Admissible path) :=
  decidable_of_iff ('\x00' ∉ path.toList ∧ path ≠ "" ∧ path.utf8ByteSize ≤ maxPathBytes)
    ⟨fun ⟨single, nonempty, short⟩ => ⟨single, nonempty, short⟩,
      fun admissible => ⟨admissible.single, admissible.nonempty, admissible.short⟩⟩

def origin (t : FileTree) (path : String) : Cursor :=
  if Path.isAbsolute path then t.top else t.top.descend t.home

theorem origin_of_home {t : FileTree} (home : t.home = []) (path : String) : t.origin path = t.top := by
  unfold origin
  split
  · rfl
  · rw [home]
    rfl

theorem origin_in (t : FileTree) (path : String) : (t.origin path).In t := by
  unfold origin
  split
  · exact Cursor.in_top t
  · exact (Cursor.in_top t).descend t.home

def Housed (t : FileTree) : Prop := t.entryAt? t.home = some .directory

theorem Housed.place_origin {t : FileTree} (housed : t.Housed) (path : String) :
    (t.origin path).place = if Path.isAbsolute path then [] else t.home := by
  unfold origin
  split
  · rfl
  · exact (Cursor.in_top t).place_descend_of_directory t.home housed

section Resolving
variable {t a b : FileTree} {aim : Aim} {path : String} {steps : List String} {spot : Spot}
  {place : Location}

theorem resolveSteps_of_admissible (admissible : Admissible path) :
    t.resolveSteps aim path steps = t.walk aim maxLinks (t.origin path) steps := by
  rw [resolveSteps, if_neg admissible.single, if_neg admissible.nonempty,
    if_neg (Nat.not_lt.mpr admissible.short)]
  rfl

theorem resolveSteps_eq_ok : t.resolveSteps aim path steps = .ok spot ↔
    Admissible path ∧ t.Walks aim maxLinks (t.origin path).place steps spot := by
  constructor
  · intro resolved
    have admissible : Admissible path := by
      unfold resolveSteps at resolved
      split at resolved
      · contradiction
      · split at resolved
        · contradiction
        · split at resolved
          · contradiction
          · rename_i single nonempty short
            exact ⟨single, nonempty, Nat.le_of_not_lt short⟩
    rw [resolveSteps_of_admissible admissible] at resolved
    exact ⟨admissible, walks_of_walk (t.origin_in path) resolved⟩
  · rintro ⟨admissible, arrives⟩
    rw [resolveSteps_of_admissible admissible]
    exact walk_of_walks arrives (t.origin_in path) rfl

theorem stat_eq_ok {entry : Entry} : t.stat path = .ok (place, entry) ↔
    Admissible path ∧
      t.Walks .target maxLinks (t.origin path).place (Path.steps path) (.found place entry) := by
  rw [← resolveSteps_eq_ok]
  unfold stat resolve
  split <;> simp_all

theorem stat_of_vacant (place : Location) (admissible : Admissible path)
    (arrives : t.Walks .target maxLinks (t.origin path).place (Path.steps path) (.vacant place)) :
    t.stat path = .error .notFound := by
  rw [stat, resolve, resolveSteps_eq_ok.mpr ⟨admissible, arrives⟩]

/-- A walk along the names of entries, none of which is a link, leads to the last of them. -/
theorem walks_of_entryAt? {links : Nat} {here : Location} {names : List String} {entry : Entry}
    (inside : t.entryAt? here = some .directory) (plain : ∀ name ∈ names, LookedUp .target name [])
    (found : t.entryAt? (here ++ names) = some entry) (unlinked : ∀ target, entry ≠ .link target) :
    t.Walks .target links here names (.found (here ++ names) entry) := by
  induction names generalizing here with
  | nil =>
    rw [List.append_nil] at found ⊢
    obtain rfl := Option.some.inj (inside.symm.trans found)
    exact .done inside
  | cons name rest ih =>
    obtain ⟨first, later⟩ := List.forall_mem_cons.mp plain
    have step : LookedUp .target name rest :=
      ⟨first.nonempty, first.notHere, first.notUp, by simp, first.short⟩
    rw [List.append_cons] at found ⊢
    by_cases directory : t.entryAt? (here ++ [name]) = some .directory
    · exact .enter step directory (ih directory later found)
    · cases rest with
      | nil =>
        rw [List.append_nil] at found ⊢
        cases entry with
        | directory => contradiction
        | file content mode => exact .file step found
        | link target => exact absurd rfl (unlinked target)
      | cons next rest =>
        rw [entryAt?_eq, Folder.entryAt?_below directory (by simp)] at found
        contradiction

/-- A walk along the names of directories may end at a name that is free in the last of them. -/
theorem walks_of_absent {links : Nat} {here : Location} {names : List String} {name : String}
    (inside : t.entryAt? here = some .directory)
    (plain : ∀ other ∈ names ++ [name], LookedUp .target other [])
    (directory : t.entryAt? (here ++ names) = some .directory)
    (absent : t.entryAt? (here ++ names ++ [name]) = none) :
    t.Walks .target links here (names ++ [name]) (.vacant (here ++ names ++ [name])) := by
  induction names generalizing here with
  | nil =>
    rw [List.append_nil] at absent ⊢
    exact .vacant (plain name (by simp)) inside absent
  | cons first rest ih =>
    obtain ⟨step, later⟩ := List.forall_mem_cons.mp plain
    rw [List.append_cons here first rest] at directory absent ⊢
    have entered : t.entryAt? (here ++ [first]) = some .directory := by
      by_contra blocked
      cases rest with
      | nil =>
        rw [List.append_nil] at directory
        exact blocked directory
      | cons next rest =>
        rw [entryAt?_eq, Folder.entryAt?_below blocked (by simp)] at directory
        contradiction
    exact .enter ⟨step.nonempty, step.notHere, step.notUp, by simp, step.short⟩ entered
      (ih entered later directory absent)

/-- The path is a row of names from the working directory on. -/
structure Spells (path : String) (names : List String) : Prop where
  admissible : Admissible path
  relative : Path.isAbsolute path = false
  steps : Path.steps path = names ∨ Path.steps path = "." :: names
  plain : ∀ name ∈ names, LookedUp .target name []

instance (path : String) (names : List String) : Decidable (Spells path names) :=
  decidable_of_iff (Admissible path ∧ Path.isAbsolute path = false ∧
    (Path.steps path = names ∨ Path.steps path = "." :: names) ∧ ∀ name ∈ names, LookedUp .target name [])
    ⟨fun ⟨admissible, relative, steps, plain⟩ => ⟨admissible, relative, steps, plain⟩,
      fun spells => ⟨spells.admissible, spells.relative, spells.steps, spells.plain⟩⟩

theorem Spells.walks {names : List String} {here : Location} (spells : Spells path names)
    (arrives : t.Walks aim maxLinks here names spot) :
    t.Walks aim maxLinks here (Path.steps path) spot := by
  rcases spells.steps with steps | steps
  · exact steps ▸ arrives
  · rw [steps]
    exact .stay (.inr rfl) arrives

theorem stat_of_entryAt? {names : List String} {entry : Entry} (housed : t.Housed)
    (spells : Spells path names) (found : t.entryAt? (t.home ++ names) = some entry)
    (unlinked : ∀ target, entry ≠ .link target) : t.stat path = .ok (t.home ++ names, entry) := by
  refine stat_eq_ok.mpr ⟨spells.admissible, spells.walks ?_⟩
  rw [housed.place_origin, spells.relative]
  exact walks_of_entryAt? housed spells.plain found unlinked

theorem stat_of_absent {dir : List String} {name : String} (housed : t.Housed)
    (spells : Spells path (dir ++ [name])) (inside : t.entryAt? (t.home ++ dir) = some .directory)
    (absent : t.entryAt? (t.home ++ dir ++ [name]) = none) : t.stat path = .error .notFound := by
  refine stat_of_vacant (t.home ++ dir ++ [name]) spells.admissible (spells.walks ?_)
  rw [housed.place_origin, spells.relative]
  exact walks_of_absent housed spells.plain inside absent

theorem entryAt?_of_stat {entry : Entry} (found : t.stat path = .ok (place, entry)) :
    t.entryAt? place = some entry :=
  (stat_eq_ok.mp found).2.entryAt?_place

theorem pathExists_of_entryAt? {names : List String} {entry : Entry} (housed : t.Housed)
    (spells : Spells path names) (found : t.entryAt? (t.home ++ names) = some entry)
    (unlinked : ∀ target, entry ≠ .link target) : t.pathExists path = true := by
  rw [pathExists, stat_of_entryAt? housed spells found unlinked]

theorem pathExists_of_absent {dir : List String} {name : String} (housed : t.Housed)
    (spells : Spells path (dir ++ [name])) (inside : t.entryAt? (t.home ++ dir) = some .directory)
    (absent : t.entryAt? (t.home ++ dir ++ [name]) = none) : t.pathExists path = false := by
  rw [pathExists, stat_of_absent housed spells inside absent]

theorem pathExists_iff : t.pathExists path = true ↔ ∃ place entry, t.stat path = .ok (place, entry) := by
  unfold pathExists
  cases t.stat path with
  | ok found => exact ⟨fun _ => ⟨found.1, found.2, rfl⟩, fun _ => rfl⟩
  | error fault => simp

/-- The last name of a path stands, or would stand, at the location. -/
def Leads (t : FileTree) (path : String) (place : Location) : Prop :=
  ∃ spot, t.resolve .entry path = .ok spot ∧ spot.place = place

theorem Leads.unique {other : Location} (first : t.Leads path place) (second : t.Leads path other) :
    place = other := by
  obtain ⟨spot, resolved, rfl⟩ := first
  obtain ⟨same, again, rfl⟩ := second
  rw [resolved] at again
  cases again
  rfl

/-- The second tree is the first one with some files put over entries that are no directories, or at names
that were free. -/
structure Overlay (a b : FileTree) : Prop where
  home : b.home = a.home
  entries : ∀ place, b.entryAt? place = a.entryAt? place ∨
    a.entryAt? place ≠ some .directory ∧ ∃ content mode, b.entryAt? place = some (.file content mode)

namespace Overlay

theorem directory_iff (overlay : Overlay a b) (place : Location) :
    a.entryAt? place = some .directory ↔ b.entryAt? place = some .directory := by
  rcases overlay.entries place with same | ⟨blocked, content, mode, file⟩
  · rw [same]
  · simp [blocked, file]

theorem entryAt?_of_link (overlay : Overlay a b) {target : String}
    (found : b.entryAt? place = some (.link target)) : a.entryAt? place = some (.link target) := by
  rcases overlay.entries place with same | ⟨-, content, mode, file⟩
  · rw [← same, found]
  · rw [file] at found
    cases found

theorem entryAt?_of_none (overlay : Overlay a b) (absent : b.entryAt? place = none) :
    a.entryAt? place = none := by
  rcases overlay.entries place with same | ⟨-, content, mode, file⟩
  · rw [← same, absent]
  · rw [file] at absent
    contradiction

/-- One file is put where there is no directory. -/
theorem of_filled {content : Bytes} {mode : Nat} (filled : a.Filled place (.file content mode) b)
    (free : a.entryAt? place ≠ some .directory) : Overlay a b := by
  refine ⟨filled.home, fun other => ?_⟩
  rw [filled.entries]
  by_cases here : other = place
  · exact .inr ⟨here ▸ free, content, mode, if_pos here⟩
  · exact .inl (if_neg here)

theorem place_origin (overlay : Overlay a b) (path : String) :
    (a.origin path).place = (b.origin path).place := by
  unfold origin
  split
  · rfl
  · rw [overlay.home]
    exact Cursor.place_descend (Cursor.in_top a) (Cursor.in_top b) rfl overlay.directory_iff _

/-- A walk that arrives in spite of the files arrives at the same place without them. -/
theorem walks (overlay : Overlay a b) {links : Nat} {here : Location} {names : List String}
    (arrives : b.Walks .entry links here names spot) :
    ∃ before, a.Walks .entry links here names before ∧ before.place = spot.place := by
  induction arrives with
  | done directory => exact ⟨_, .done ((overlay.directory_iff _).mpr directory), rfl⟩
  | stay idle _ ih =>
    obtain ⟨before, later, same⟩ := ih
    exact ⟨before, .stay idle later, same⟩
  | up _ ih =>
    obtain ⟨before, later, same⟩ := ih
    exact ⟨before, .up later, same⟩
  | vacant step directory absent =>
    exact ⟨_, .vacant step ((overlay.directory_iff _).mpr directory) (overlay.entryAt?_of_none absent), rfl⟩
  | @file _ here name _ _ step found =>
    cases hidden : a.entryAt? (here ++ [name]) with
    | none =>
      have parent := (overlay.directory_iff _).mpr (entryAt?_parent found)
      exact ⟨_, .vacant step parent hidden, rfl⟩
    | some entry =>
      cases entry with
      | directory =>
        rw [overlay.directory_iff, found] at hidden
        cases hidden
      | file content mode => exact ⟨_, .file step hidden, rfl⟩
      | link target => exact ⟨_, .link step rfl hidden, rfl⟩
  | link step asked found => exact ⟨_, .link step asked (overlay.entryAt?_of_link found), rfl⟩
  | enter step found _ ih =>
    obtain ⟨before, later, same⟩ := ih
    exact ⟨before, .enter step ((overlay.directory_iff _).mpr found) later, same⟩
  | follow step found onward nonempty _ ih =>
    obtain ⟨before, later, same⟩ := ih
    exact ⟨before, .follow step (overlay.entryAt?_of_link found) onward nonempty later, same⟩

theorem leads (overlay : Overlay a b) (leads : b.Leads path place) : a.Leads path place := by
  obtain ⟨spot, resolved, rfl⟩ := leads
  obtain ⟨admissible, arrives⟩ := resolveSteps_eq_ok.mp resolved
  obtain ⟨before, earlier, same⟩ := overlay.walks arrives
  rw [← overlay.place_origin] at earlier
  exact ⟨before, resolveSteps_eq_ok.mpr ⟨admissible, earlier⟩, same⟩

/-- Where there was a way to a directory, a walk for the entry of the same name finds something, or a file
that blocks the way. -/
theorem walk_of_directory (overlay : Overlay a b) {links : Nat} {here : Location}
    {names more : List String} {d : Cursor}
    (arrives : a.Walks .target links here (names ++ more) (.found place .directory))
    (inside : d.In b) (stands : d.place = here) :
    (∃ other entry, b.walk .entry links d names = .ok (.found other entry)) ∨
      b.walk .entry links d names = .error .notDirectory := by
  have finish (links : Nat) (d : Cursor) :
      ∃ other entry, b.walk .entry links d [] = .ok (.found other entry) := ⟨_, _, by rw [walk]⟩
  have lookedUp {name : String} {rest next : List String} (step : LookedUp .target name rest) :
      LookedUp .entry name next := ⟨step.nonempty, step.notHere, step.notUp, by simp, step.short⟩
  generalize whole : names ++ more = all at arrives
  generalize goal : Spot.found place Entry.directory = spot at arrives
  induction arrives generalizing names d with
  | done =>
    obtain ⟨rfl, -⟩ := List.append_eq_nil_iff.mp whole
    exact .inl (finish _ d)
  | stay idle _ ih =>
    cases names with
    | nil => exact .inl (finish _ d)
    | cons name names =>
      obtain ⟨rfl, rfl⟩ := List.cons.inj whole
      rw [walk, if_pos idle]
      exact ih inside stands rfl goal
  | up _ ih =>
    cases names with
    | nil => exact .inl (finish _ d)
    | cons name names =>
      obtain ⟨rfl, rfl⟩ := List.cons.inj whole
      rw [walk, if_neg (by decide), if_pos rfl]
      exact ih inside.up (by simp [stands]) rfl goal
  | vacant => cases goal
  | file => cases goal
  | link => contradiction
  | enter step found _ ih =>
    cases names with
    | nil => exact .inl (finish _ d)
    | cons name names =>
      obtain ⟨rfl, rfl⟩ := List.cons.inj whole
      subst stands
      obtain ⟨contents, node⟩ := inside.exists_contents ((overlay.directory_iff _).mp found)
      rw [walk_of_lookedUp (lookedUp step), node]
      exact ih (inside.enter node) (by simp) rfl goal
  | follow step found onward nonempty _ ih =>
    cases names with
    | nil => exact .inl (finish _ d)
    | cons name names =>
      obtain ⟨rfl, rfl⟩ := List.cons.inj whole
      subst stands
      rw [walk_of_lookedUp (lookedUp step)]
      rcases overlay.entries (d.place ++ [name]) with same | ⟨-, content, mode, file⟩
      · rw [inside.find?_node (same.trans found) (by simp)]
        simp only [Entry.node, and_true, if_neg nonempty]
        split
        · exact .inl ⟨_, _, rfl⟩
        · exact ih (in_origin inside _) (FileTree.place_origin b d _) (List.append_assoc _ _ _) goal
      · rw [inside.find?_node file (by simp)]
        simp only [Entry.node]
        split
        · exact .inl ⟨_, _, rfl⟩
        · exact .inr rfl

end Overlay
end Resolving

end FileTree
end EffectSurvey
