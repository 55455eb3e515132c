import EffectSurvey.Proofs.Text.Decimal
import EffectSurvey.Report.Digest
import Mathlib.Data.List.DropRight
import Mathlib.Data.List.Forall2

/-! JSON documents read back from their text. The reader knows texts, natural numbers, arrays and objects; it
passes over white space and allows some depth of nesting. Each way to write a value has a lemma that the
reader takes it off the front of a text again, and leaves what follows. -/
namespace EffectSurvey.Report.Json

inductive Value where
  | text (s : String)
  | number (n : Nat)
  | array (items : List Value)
  | object (fields : List (String × Value))

abbrev Reader (α : Type) := List Char → Option (α × List Char)

def isSpace (c : Char) : Bool := c == ' ' || c == '\n' || c == '\r' || c == '\t'

/-- The character that a letter stands for after a backslash. -/
def unescape? : Char → Option Char
  | '"' => some '"'
  | '\\' => some '\\'
  | '/' => some '/'
  | 'b' => some '\x08'
  | 'f' => some '\x0c'
  | 'n' => some '\n'
  | 'r' => some '\r'
  | 't' => some '\t'
  | _ => none

def hexDigit? (c : Char) : Option Nat :=
  if c.isDigit then some (c.toNat - '0'.toNat)
  else if 'a' ≤ c ∧ c ≤ 'f' then some (c.toNat - 'a'.toNat + 10)
  else if 'A' ≤ c ∧ c ≤ 'F' then some (c.toNat - 'A'.toNat + 10)
  else none

/-- The character with a code of four digits. Halves of a surrogate pair are refused. -/
def coded? (a b c d : Char) : Option Char := do
  let code := ((← hexDigit? a) * 16 + (← hexDigit? b)) * 256 + ((← hexDigit? c) * 16 + (← hexDigit? d))
  if code.isValidChar then some (Char.ofNat code) else none

def characters? : Reader (List Char)
  | [] => none
  | '"' :: rest => some ([], rest)
  | '\\' :: 'u' :: a :: b :: c :: d :: rest =>
    (coded? a b c d).bind fun char => (characters? rest).map fun (chars, rest) => (char :: chars, rest)
  | '\\' :: letter :: rest =>
    (unescape? letter).bind fun char =>
      (characters? rest).map fun (chars, rest) => (char :: chars, rest)
  | char :: rest =>
    if char.toNat < 0x20 then none
    else (characters? rest).map fun (chars, rest) => (char :: chars, rest)

def scalar? : Reader Value := fun cs =>
  match cs.dropWhile isSpace with
  | '"' :: rest => (characters? rest).map fun (chars, rest) => (.text (String.ofList chars), rest)
  | cs =>
    (Text.magnitude? (cs.takeWhile Char.isDigit)).map fun n => (.number n, cs.dropWhile Char.isDigit)

/-- One or more items with commas between them and a bracket at the end. -/
def items? {α : Type} (item : Reader α) (closing : Char) : (limit : Nat) → Reader (List α)
  | 0, _ => none
  | limit + 1, cs => do
    let (a, rest) ← item cs
    match rest.dropWhile isSpace with
    | ',' :: rest => (items? item closing limit rest).map fun (more, rest) => (a :: more, rest)
    | c :: rest => if c = closing then some ([a], rest) else none
    | [] => none

/-- What follows an opening bracket: items, or nothing but the closing one. -/
def contents? {α : Type} (item : Reader α) (closing : Char) : Reader (List α) := fun cs =>
  match cs.dropWhile isSpace with
  | c :: rest => if c = closing then some ([], rest) else items? item closing cs.length cs
  | [] => none

def field? {α : Type} (value : Reader α) : Reader (String × α) := fun cs =>
  match cs.dropWhile isSpace with
  | '"' :: rest => do
    let (name, rest) ← characters? rest
    match rest.dropWhile isSpace with
    | ':' :: rest => (value rest).map fun (v, rest) => ((String.ofList name, v), rest)
    | _ => none
  | _ => none

/-- A value with arrays and objects nested up to a depth. -/
def value? : (depth : Nat) → Reader Value
  | 0, cs => scalar? cs
  | depth + 1, cs =>
    match cs.dropWhile isSpace with
    | '[' :: rest => (contents? (value? depth) ']' rest).map fun (items, rest) => (.array items, rest)
    | '\x7b' :: rest =>
      (contents? (field? (value? depth)) '\x7d' rest).map fun (fields, rest) => (.object fields, rest)
    | _ => scalar? cs

def maxDepth : Nat := 128

/-- A document is one value with nothing but white space after it. -/
def read? (text : String) : Option Value :=
  match value? maxDepth text.toList with
  | some (value, rest) => if rest.all isSpace then some value else none
  | none => none

section Texts

theorem hexDigit?_digitChar : ∀ n < 16, hexDigit? (Nat.digitChar n) = some n := by decide

theorem coded?_low {c : Char} (low : c.toNat < 0x20) :
    coded? '0' '0' (Nat.digitChar (c.toNat / 16)) (Nat.digitChar (c.toNat % 16)) = some c := by
  have code : (0 * 16 + 0) * 256 + (c.toNat / 16 * 16 + c.toNat % 16) = c.toNat := by omega
  have zero : hexDigit? '0' = some 0 := by decide
  have valid : c.toNat.isValidChar := c.valid
  rw [coded?, zero, hexDigit?_digitChar _ (by omega), hexDigit?_digitChar _ (by omega)]
  simp only [Option.bind_eq_bind, Option.bind_some, code, if_pos valid, Char.ofNat_toNat]

theorem characters?_letter {letter char : Char} (differs : letter ≠ 'u')
    (known : unescape? letter = some char) (rest : List Char) :
    characters? ('\\' :: letter :: rest) =
      (characters? rest).map fun (chars, rest) => (char :: chars, rest) := by
  rw [characters?, known, Option.bind_some]
  exact fun _ _ _ _ _ same => absurd same differs

theorem characters?_plain {c : Char} (unquoted : c ≠ '"') (unescaped : c ≠ '\\')
    (high : ¬ c.toNat < 0x20) (rest : List Char) :
    characters? (c :: rest) = (characters? rest).map fun (chars, rest) => (c :: chars, rest) := by
  rw [characters?, if_neg high]
  · exact unquoted
  · exact fun _ _ _ _ _ same => absurd same unescaped
  · exact fun _ _ same => absurd same unescaped

/-- A character is read back from the way it is written in a text. -/
theorem characters?_escape (c : Char) (rest : List Char) :
    characters? (escape c ++ rest) =
      (characters? rest).map fun (chars, rest) => (c :: chars, rest) := by
  unfold escape
  split
  · exact characters?_letter (by decide) rfl rest
  · exact characters?_letter (by decide) rfl rest
  · exact characters?_letter (by decide) rfl rest
  · exact characters?_letter (by decide) rfl rest
  · exact characters?_letter (by decide) rfl rest
  · exact characters?_letter (by decide) rfl rest
  · exact characters?_letter (by decide) rfl rest
  · rename_i unquoted unescaped _ _ _ _ _
    split
    · rename_i low
      change characters? ('\\' :: 'u' :: '0' :: '0' :: _ :: _ :: rest) = _
      rw [characters?, coded?_low low, Option.bind_some]
    · rename_i high
      exact characters?_plain unquoted unescaped high rest

theorem characters?_flatMap_escape (chars rest : List Char) :
    characters? (chars.flatMap escape ++ '"' :: rest) = some (chars, rest) := by
  induction chars with
  | nil => simp [characters?]
  | cons c chars ih =>
    rw [List.flatMap_cons, List.append_assoc, characters?_escape, ih]
    rfl

end Texts

/-- Nothing follows that could be a part of a number. -/
def Undigited (rest : List Char) : Prop := ∀ c, rest.head? = some c → c.isDigit = false

theorem undigited_cons {c : Char} (other : c.isDigit = false) (rest : List Char) :
    Undigited (c :: rest) := by
  rintro _ ⟨rfl⟩
  exact other

/-- The text is taken off the front of all that does not go on with a digit, and gives the value. -/
def Reads {α : Type} (read : Reader α) (text : String) (a : α) : Prop :=
  ∀ rest, Undigited rest → read (text.toList ++ rest) = some (a, rest)

section Contents
variable {α : Type} {item : Reader α} {closing : Char} {limit : Nat} {cs rest more : List Char} {a : α}
  {texts : List String} {values : List α}

theorem items?_last (bracket : closing ≠ ',') (read : item cs = some (a, rest))
    (closes : rest.dropWhile isSpace = closing :: more) :
    items? item closing (limit + 1) cs = some ([a], more) := by
  simp [items?, read, closes]

theorem items?_more (read : item cs = some (a, rest))
    (comma : rest.dropWhile isSpace = ',' :: more) :
    items? item closing (limit + 1) cs =
      (items? item closing limit more).map fun (later, rest) => (a :: later, rest) := by
  simp [items?, read, comma]

theorem items?_of_none (refused : item cs = none) : items? item closing limit cs = none := by
  cases limit <;> simp [items?, refused]

/-- An item may have white space before it, and cannot begin where the items end. -/
structure Separable (item : Reader α) (closing : Char) : Prop where
  spaced : ∀ cs, item (cs.dropWhile isSpace) = item cs
  closed : ∀ rest, item (closing :: rest) = none
  ended : item [] = none

theorem Separable.after_space (separable : Separable item closing) {space : List Char}
    (blank : ∀ c ∈ space, isSpace c = true) (cs : List Char) : item (space ++ cs) = item cs := by
  rw [← separable.spaced, List.dropWhile_append_of_pos blank, separable.spaced]

/-- Where there are items, the items are what is read. -/
theorem Separable.contents?_of_items (separable : Separable item closing)
    (items : items? item closing cs.length cs = some (values, rest)) :
    contents? item closing cs = some (values, rest) := by
  have accepted : item (cs.dropWhile isSpace) ≠ none := by
    intro refused
    rw [separable.spaced] at refused
    rw [items?_of_none refused] at items
    contradiction
  unfold contents?
  split
  · rename_i c more first
    have differs : c ≠ closing := by
      rintro rfl
      rw [first] at accepted
      exact accepted (separable.closed more)
    rw [if_neg differs, items]
  · rename_i first
    rw [first] at accepted
    exact absurd separable.ended accepted

def margin (depth : Nat) : List Char := '\n' :: (indent depth).toList

theorem isSpace_of_mem_margin (depth : Nat) : ∀ c ∈ margin depth, isSpace c = true := by
  simp [margin, indent, isSpace]

def itemLines (depth : Nat) (texts : List String) : List Char :=
  '\n' :: (String.intercalate ",\n" (texts.map (indent depth ++ ·))).toList

theorem itemLines_singleton (depth : Nat) (text : String) :
    itemLines depth [text] = margin depth ++ text.toList := by
  simp [itemLines, margin]

theorem itemLines_cons_cons (depth : Nat) (text next : String) (texts : List String) :
    itemLines depth (text :: next :: texts) =
      margin depth ++ (text.toList ++ ',' :: itemLines depth (next :: texts)) := by
  simp [itemLines, margin, String.intercalate_cons_cons]

theorem items?_itemLines (separable : Separable item closing) (bracket : closing ≠ ',')
    (written : List.Forall₂ (Reads item) texts values) (nonempty : texts ≠ []) (depth : Nat)
    {tail : List Char} (closes : tail.dropWhile isSpace = closing :: rest) (ends : Undigited tail)
    (enough : (itemLines depth texts ++ tail).length ≤ limit) :
    items? item closing limit (itemLines depth texts ++ tail) = some (values, rest) := by
  induction written generalizing limit with
  | nil => contradiction
  | @cons text a texts values reads written ih =>
    obtain ⟨limit, rfl⟩ : ∃ less, limit = less + 1 := by
      refine Nat.exists_eq_succ_of_ne_zero ?_
      simp only [itemLines, List.cons_append, List.length_cons] at enough
      omega
    cases texts with
    | nil =>
      cases written
      refine items?_last bracket ?_ closes
      rw [itemLines_singleton, List.append_assoc,
        separable.after_space (isSpace_of_mem_margin depth), reads tail ends]
    | cons next texts =>
      rw [itemLines_cons_cons, List.append_assoc, List.append_assoc, List.cons_append] at enough ⊢
      have first : item (margin depth ++ (text.toList ++ ',' ::
          (itemLines depth (next :: texts) ++ tail))) =
            some (a, ',' :: (itemLines depth (next :: texts) ++ tail)) := by
        rw [separable.after_space (isSpace_of_mem_margin depth), reads _ (undigited_cons rfl _)]
      have shorter : (itemLines depth (next :: texts) ++ tail).length ≤ limit := by
        simp only [List.length_append, List.length_cons] at enough ⊢
        omega
      rw [items?_more first (List.dropWhile_cons_of_neg (by decide)), ih (by simp) shorter]
      rfl

/-- What a block holds after its opening bracket is read back. -/
theorem contents?_block (separable : Separable item closing) (bracket : closing ≠ ',')
    (visible : isSpace closing = false) (written : List.Forall₂ (Reads item) texts values)
    (opening : String) (depth : Nat) :
    ∃ body, (block opening (String.singleton closing) depth texts).toList = opening.toList ++ body ∧
      ∀ rest, contents? item closing (body ++ rest) = some (values, rest) := by
  have closes (rest : List Char) : (closing :: rest).dropWhile isSpace = closing :: rest :=
    List.dropWhile_cons_of_neg (by simp [visible])
  cases written with
  | nil =>
    refine ⟨[closing], by simp [block], fun rest => ?_⟩
    simp [contents?, closes]
  | @cons text a texts values reads written =>
    refine ⟨itemLines (depth + 1) (text :: texts) ++ (margin depth ++ [closing]), ?_, fun rest => ?_⟩
    · simp [block, itemLines, margin]
    · rw [List.append_assoc, List.append_assoc]
      refine separable.contents?_of_items (items?_itemLines separable bracket (.cons reads written)
        (by simp) (depth + 1) ?_ (undigited_cons rfl _) (Nat.le_refl _))
      rw [List.dropWhile_append_of_pos (isSpace_of_mem_margin depth)]
      exact closes rest

end Contents

section Values

theorem scalar?_spaced (cs : List Char) : scalar? (cs.dropWhile isSpace) = scalar? cs := by
  simp only [scalar?, List.dropWhile_idempotent]

theorem value?_separable (depth : Nat) : Separable (value? depth) ']' where
  spaced cs := by
    cases depth with
    | zero => exact scalar?_spaced cs
    | succ depth => simp only [value?, List.dropWhile_idempotent, scalar?_spaced]
  closed rest := by cases depth <;> rfl
  ended := by cases depth <;> rfl

theorem field?_separable {α : Type} (value : Reader α) : Separable (field? value) '\x7d' where
  spaced cs := by simp only [field?, List.dropWhile_idempotent]
  closed rest := rfl
  ended := rfl

/-- What begins with neither bracket is read alike at every depth. -/
theorem value?_eq_scalar? {c : Char} (bracket : c ≠ '[') (brace : c ≠ '\x7b')
    (visible : isSpace c = false) (depth : Nat) (cs : List Char) :
    value? depth (c :: cs) = scalar? (c :: cs) := by
  cases depth with
  | zero => rfl
  | succ depth =>
    rw [value?, List.dropWhile_cons_of_neg (by simp [visible])]
    split
    · rename_i same
      exact absurd (List.cons.inj same).1 bracket
    · rename_i same
      exact absurd (List.cons.inj same).1 brace
    · rfl

theorem toList_text (s : String) : (text s).toList = '"' :: (s.toList.flatMap escape ++ ['"']) := by
  simp [text]

theorem reads_text (depth : Nat) (s : String) : Reads (value? depth) (text s) (.text s) := by
  intro rest _
  rw [toList_text, List.cons_append, value?_eq_scalar? (by decide) (by decide) rfl, scalar?,
    List.dropWhile_cons_of_neg (by decide), List.append_assoc, List.singleton_append]
  simp only [characters?_flatMap_escape, Option.map_some, String.ofList_toList]

theorem reads_decimal (depth n : Nat) : Reads (value? depth) (Text.decimal n) (.number n) := by
  intro rest undigited
  have digits := Text.digits_decimal n
  obtain ⟨c, more, chars⟩ := List.exists_cons_of_ne_nil digits.nonempty
  have digit : c.isDigit = true := digits.decimal c (by simp [chars])
  have other (d : Char) (letter : d.isDigit = false) : c ≠ d := by
    rintro rfl
    rw [digit] at letter
    contradiction
  have visible : isSpace c = false := by
    simp [isSpace, other ' ' rfl, other '\n' rfl, other '\r' rfl, other '\t' rfl]
  have stop : rest.takeWhile Char.isDigit = [] ∧ rest.dropWhile Char.isDigit = rest := by
    cases rest with
    | nil => exact ⟨rfl, rfl⟩
    | cons d rest => simp [undigited d rfl]
  have read : scalar? ((Text.decimal n).toList ++ rest) = some (.number n, rest) := by
    rw [scalar?, chars, List.cons_append, List.dropWhile_cons_of_neg (by simp [visible])]
    split
    · rename_i same
      exact absurd (List.cons.inj same).1 (other '"' rfl)
    · rw [← List.cons_append, ← chars, List.takeWhile_append_of_pos digits.decimal,
        List.dropWhile_append_of_pos digits.decimal, stop.1, stop.2, List.append_nil,
        Text.magnitude?_eq_some.mpr digits]
      rfl
  rw [chars] at read ⊢
  rw [List.cons_append, value?_eq_scalar? (other '[' rfl) (other '\x7b' rfl) visible]
  exact read

theorem reads_array {depth level : Nat} {texts : List String} {values : List Value}
    (written : List.Forall₂ (Reads (value? depth)) texts values) :
    Reads (value? (depth + 1)) (array level texts) (.array values) := by
  intro rest _
  obtain ⟨body, chars, read⟩ := contents?_block (value?_separable depth) (by decide) (by decide)
    written "[" level
  have whole : (array level texts).toList = '[' :: body := chars
  rw [whole, List.cons_append, value?, List.dropWhile_cons_of_neg (by decide)]
  simp only [read, Option.map_some]

theorem reads_field {depth : Nat} {value : Value} {written : String} (name : String)
    (reads : Reads (value? depth) written value) :
    Reads (field? (value? depth)) (text name ++ ": " ++ written) (name, value) := by
  intro rest undigited
  have later : value? depth (' ' :: (written.toList ++ rest)) = some (value, rest) := by
    rw [← reads rest undigited]
    exact (value?_separable depth).after_space (List.forall_mem_singleton.mpr rfl) _
  have chars : (text name ++ ": " ++ written).toList ++ rest =
      '"' :: (name.toList.flatMap escape ++ '"' :: ':' :: ' ' :: (written.toList ++ rest)) := by
    simp [toList_text]
  rw [chars, field?, List.dropWhile_cons_of_neg (by decide)]
  simp only [characters?_flatMap_escape, Option.bind_eq_bind, Option.bind_some]
  rw [List.dropWhile_cons_of_neg (by decide)]
  simp only [later, Option.map_some, String.ofList_toList]

theorem reads_object {depth level : Nat} {fields : List (String × String)}
    {values : List (String × Value)}
    (written : List.Forall₂ (fun field value => field.1 = value.1 ∧
      Reads (value? depth) field.2 value.2) fields values) :
    Reads (value? (depth + 1)) (object level fields) (.object values) := by
  intro rest _
  have lines : List.Forall₂ (Reads (field? (value? depth)))
      (fields.map fun field => text field.1 ++ ": " ++ field.2) values := by
    rw [List.forall₂_map_left_iff]
    refine written.imp ?_
    rintro ⟨key, text⟩ ⟨name, value⟩ ⟨rfl, reads⟩
    exact reads_field key reads
  obtain ⟨body, chars, read⟩ := contents?_block (field?_separable (value? depth)) (by decide)
    (by decide) lines "\x7b" level
  have whole : (object level fields).toList = '\x7b' :: body := chars
  rw [whole, List.cons_append, value?, List.dropWhile_cons_of_neg (by decide)]
  simp only [read, Option.map_some]

/-- A document that is written as one value is read as that value. -/
theorem read?_of_reads {text : String} {value : Value} (reads : Reads (value? maxDepth) text value) :
    read? text = some value := by
  have whole := reads [] (fun _ => nofun)
  rw [List.append_nil] at whole
  simp [read?, whole]

end Values
end EffectSurvey.Report.Json
