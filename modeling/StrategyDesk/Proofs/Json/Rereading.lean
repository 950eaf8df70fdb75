import Mathlib.Data.List.DropRight
import StrategyDesk.Proofs.Json.Numbers
import StrategyDesk.Proofs.Json.Quotes

/-!
# Reading what was written

A document whose numbers all have a text, and that is not nested too deeply, is read from its text
as it was, but for the floats in it: those are read as their own texts are.

## Main Definitions

* `Json.Legible` — every part of the document stands for a value
* `Json.depth` — how deeply the document is nested
* `Json.reread` — the document with every number read from its text

## Main Statements

* `Json.parse?_pretty` — the text of a document is read as the document with its numbers reread
-/

namespace StrategyDesk.Json

mutual

/-- Every part of the document stands for a value. -/
def Legible : Json → Prop
  | .unreadable => False
  | .null | .bool _ | .string _ => True
  | .number n => n.IsCanonical
  | .array items => ItemsLegible items
  | .object fields => FieldsLegible fields

/-- Every item is legible. -/
def ItemsLegible : List Json → Prop
  | [] => True
  | item :: rest => item.Legible ∧ ItemsLegible rest

/-- The value of every field is legible. -/
def FieldsLegible : List (String × Json) → Prop
  | [] => True
  | (_, value) :: rest => value.Legible ∧ FieldsLegible rest

end

mutual

/-- Levels of nesting. -/
def depth : Json → Nat
  | .array items => itemsDepth items + 1
  | .object fields => fieldsDepth fields + 1
  | .unreadable | .null | .bool _ | .number _ | .string _ => 0

/-- Levels of nesting in the deepest item. -/
def itemsDepth : List Json → Nat
  | [] => 0
  | item :: rest => max item.depth (itemsDepth rest)

/-- Levels of nesting in the deepest value. -/
def fieldsDepth : List (String × Json) → Nat
  | [] => 0
  | (_, value) :: rest => max value.depth (fieldsDepth rest)

end

mutual

/-- The document with every number read from its text. -/
def reread : Json → Json
  | .number n => (parse? n.text).getD .unreadable
  | .array items => .array (rereadItems items)
  | .object fields => .object (rereadFields fields)
  | .unreadable => .unreadable
  | .null => .null
  | .bool b => .bool b
  | .string s => .string s

/-- The items with every number read from its text. -/
def rereadItems : List Json → List Json
  | [] => []
  | item :: rest => item.reread :: rereadItems rest

/-- The fields with every number read from its text. -/
def rereadFields : List (String × Json) → List (String × Json)
  | [] => []
  | (key, value) :: rest => (key, value.reread) :: rereadFields rest

end

/-! ## Blanks -/

theorem skipSpace_cons {c : Char} (visible : isSpace c = false) (text : List Char) :
    skipSpace (c :: text) = c :: text := by
  unfold skipSpace
  rw [List.dropWhile_cons_of_neg (by simp [visible])]

theorem skipSpace_skipSpace (text : List Char) : skipSpace (skipSpace text) = skipSpace text :=
  List.dropWhile_idempotent isSpace text

/-- The start of a line is skipped. -/
theorem skipSpace_newLine (level : Nat) (text : List Char) :
    skipSpace ((newLine level).toList ++ text) = skipSpace text := by
  have blank : ∀ c ∈ (newLine level).toList, isSpace c = true := by
    intro c member
    have either : c = '\n' ∨ c ∈ List.replicate (2 * level) ' ' := by
      simpa [newLine] using member
    rcases either with rfl | space
    · rfl
    · rw [List.eq_of_mem_replicate space]
      rfl
  exact List.dropWhile_append_of_pos blank

/-! ## Numbers -/

/-- A number begins with a digit. -/
theorem isDigit_of_readNumber? {negative : Bool} {text : List Char}
    {result : JsonNumber × List Char} (read : readNumber? negative text = some result) :
    ∃ c rest, text = c :: rest ∧ c.isDigit := by
  cases text with
  | nil => cases read
  | cons c rest =>
      refine ⟨c, rest, rfl, ?_⟩
      by_contra other
      have run : (c :: rest).takeWhile Char.isDigit = [] := List.takeWhile_cons_of_neg other
      unfold readNumber? at read
      split at read
      · next zero =>
        exact other ((List.cons.inj zero).1 ▸ by decide)
      · rw [if_pos run] at read
        cases read

/-- The text of a number is an optional sign and a text that is read as a number. -/
def IsReadAs (n m : JsonNumber) : Prop :=
  ∃ (negative : Bool) (body : List Char),
    n.text.toList = (if negative then ['-'] else []) ++ body ∧ ReadsAs negative body m

/-- An integer of 64 bits is read as it was. -/
theorem isReadAs_integer {value : Int} (canonical : (JsonNumber.integer value).IsCanonical) :
    IsReadAs (.integer value) (.integer value) := by
  obtain ⟨low, high⟩ : -(wordSize 63 : Int) ≤ value ∧ value < wordSize 64 := canonical
  cases value with
  | ofNat v =>
      have fits : v < wordSize 64 := Int.ofNat_lt.mp high
      refine ⟨false, Nat.toDigits 10 v, ?_, fun rest ends => ?_⟩
      · exact Nat.toList_repr
      · rw [readNumber?_toDigits fits false ends]
        rfl
  | negSucc v =>
      have small : v + 1 ≤ wordSize 63 := by omega
      have fits : v + 1 < wordSize 64 := Nat.lt_of_le_of_lt small (by decide)
      refine ⟨true, Nat.toDigits 10 (v + 1), ?_, fun rest ends => ?_⟩
      · have text : (JsonNumber.integer (.negSucc v)).text = "-" ++ (v + 1).repr := rfl
        rw [text, String.toList_append, Nat.toList_repr]
        rfl
      · have inRange : ¬(v + 1 = 0 ∨ wordSize 63 < v + 1) := by omega
        rw [readNumber?_toDigits fits true ends, if_neg (by simp), if_neg inRange]
        rfl

/-- A finite number is read as a word that is scaled by a power of ten, made of no more than the
decimal that was written. -/
theorem exists_isReadAs_float (negative : Bool) {mantissa : Nat} {exponent : Int}
    (fits : Binary64.Fits mantissa exponent) :
    ∃ word power, IsReadAs (.float (.finite negative mantissa exponent fits))
        (.float (scaleWord negative word power)) ∧
      word < wordSize 64 ∧
      (power ≤ 16 ∨ (word : ℚ) * 10 ^ power ≤ (Binary64.decimal mantissa exponent).value) := by
  obtain ⟨word, power, reads, bounds⟩ :=
    exists_readsAs_format (Binary64.exponent_decimal_of_zero exponent) negative
  exact ⟨word, power, ⟨negative, _, String.toList_ofList, reads⟩, bounds⟩

/-- Every number that a text can give is read as some number. -/
theorem exists_isReadAs {n : JsonNumber} (canonical : n.IsCanonical) : ∃ m, IsReadAs n m := by
  cases n with
  | integer value => exact ⟨_, isReadAs_integer canonical⟩
  | float x =>
      cases x with
      | infinite _ | nan => cases canonical
      | finite negative mantissa exponent fits =>
          obtain ⟨word, power, reads, -⟩ := exists_isReadAs_float negative fits
          exact ⟨_, reads⟩

section Steps

variable {text rest : List Char} (fuel depth : Nat)

/-- Blanks before a value are skipped. -/
theorem readValue?_skipSpace :
    readValue? fuel depth (skipSpace text) = readValue? fuel depth text := by
  cases fuel with
  | zero => rfl
  | succ fuel => rw [readValue?, readValue?, skipSpace_skipSpace]

theorem readValue?_null (start : skipSpace text = 'n' :: 'u' :: 'l' :: 'l' :: rest) :
    readValue? (fuel + 1) depth text = some (.null, rest) := by
  rw [← readValue?_skipSpace, start]
  rfl

theorem readValue?_true (start : skipSpace text = 't' :: 'r' :: 'u' :: 'e' :: rest) :
    readValue? (fuel + 1) depth text = some (.bool true, rest) := by
  rw [← readValue?_skipSpace, start]
  rfl

theorem readValue?_false (start : skipSpace text = 'f' :: 'a' :: 'l' :: 's' :: 'e' :: rest) :
    readValue? (fuel + 1) depth text = some (.bool false, rest) := by
  rw [← readValue?_skipSpace, start]
  rfl

theorem readValue?_quote {s : String}
    (start : skipSpace text = '"' :: (s.toList.flatMap quoteChar ++ '"' :: rest)) :
    readValue? (fuel + 1) depth text = some (.string s, rest) := by
  rw [← readValue?_skipSpace, start]
  show (readQuoted? _).map _ = _
  rw [readQuoted?_flatMap]
  rfl

theorem readValue?_dash (start : skipSpace text = '-' :: rest) :
    readValue? (fuel + 1) depth text =
      (readNumber? true rest).map fun (n, rest) => (ofNumber n, rest) := by
  rw [← readValue?_skipSpace, start]
  rfl

theorem readValue?_emptyArray (start : skipSpace text = '[' :: ']' :: rest) :
    readValue? (fuel + 1) (depth + 1) text = some (.array [], rest) := by
  rw [← readValue?_skipSpace, start]
  rfl

theorem readValue?_array (start : skipSpace text = '[' :: rest)
    (more : ∀ after, skipSpace rest ≠ ']' :: after) :
    readValue? (fuel + 1) (depth + 1) text =
      (readItems? fuel depth (skipSpace rest)).map fun (items, rest) => (.array items, rest) := by
  rw [← readValue?_skipSpace, start]
  -- The reader computes as far as the match on what stands behind the bracket.
  conv_lhs => whnf
  split
  · next after close => exact absurd close (more after)
  · rfl

theorem readValue?_emptyObject (start : skipSpace text = '\x7b' :: '\x7d' :: rest) :
    readValue? (fuel + 1) (depth + 1) text = some (.object [], rest) := by
  rw [← readValue?_skipSpace, start]
  rfl

theorem readValue?_object (start : skipSpace text = '\x7b' :: rest)
    (more : ∀ after, skipSpace rest ≠ '\x7d' :: after) :
    readValue? (fuel + 1) (depth + 1) text =
      (readFields? fuel depth (skipSpace rest)).map fun (fields, rest) =>
        (.object fields, rest) := by
  rw [← readValue?_skipSpace, start]
  conv_lhs => whnf
  split
  · next after close => exact absurd close (more after)
  · rfl

theorem readItems?_last {item : Json} {after : List Char}
    (first : readValue? fuel depth text = some (item, rest))
    (close : skipSpace rest = ']' :: after) :
    readItems? (fuel + 1) depth text = some ([item], after) := by
  show (readValue? fuel depth text).bind _ = _
  simp only [first, Option.bind_some, close]

theorem readItems?_more {item : Json} {after : List Char}
    (first : readValue? fuel depth text = some (item, rest))
    (comma : skipSpace rest = ',' :: after) :
    readItems? (fuel + 1) depth text =
      (readItems? fuel depth after).map fun (items, rest) => (item :: items, rest) := by
  show (readValue? fuel depth text).bind _ = _
  simp only [first, Option.bind_some, comma]
  cases readItems? fuel depth after <;> rfl

theorem readFields?_last {key : String} {value : Json} {tail after : List Char}
    (start : skipSpace text = '"' :: (key.toList.flatMap quoteChar ++ '"' :: ':' :: tail))
    (first : readValue? fuel depth tail = some (value, rest))
    (close : skipSpace rest = '\x7d' :: after) :
    readFields? (fuel + 1) depth text = some ([(key, value)], after) := by
  have colon : skipSpace (':' :: tail) = ':' :: tail := rfl
  simp only [readFields?, start, readQuoted?_flatMap, colon, first, close, Option.bind_eq_bind,
    Option.bind_some]

theorem readFields?_more {key : String} {value : Json} {tail after : List Char}
    (start : skipSpace text = '"' :: (key.toList.flatMap quoteChar ++ '"' :: ':' :: tail))
    (first : readValue? fuel depth tail = some (value, rest))
    (comma : skipSpace rest = ',' :: after) :
    readFields? (fuel + 1) depth text =
      (readFields? fuel depth after).map fun (fields, rest) => ((key, value) :: fields, rest) := by
  have colon : skipSpace (':' :: tail) = ':' :: tail := rfl
  simp only [readFields?, start, readQuoted?_flatMap, colon, first, comma, Option.bind_eq_bind,
    Option.bind_some]
  cases readFields? fuel depth after <;> rfl

theorem readValue?_digit {c : Char} (digit : c.isDigit) (start : skipSpace text = c :: rest) :
    readValue? (fuel + 1) depth text =
      (readNumber? false (c :: rest)).map fun (n, rest) => (ofNumber n, rest) := by
  rw [readValue?, start]
  split <;> simp_all

end Steps

/-- The text of a number is read as one value, the same wherever it stands. -/
theorem IsReadAs.readValue? {n m : JsonNumber} (reads : IsReadAs n m) (fuel depth : Nat)
    {text rest : List Char} (ends : Ends rest) (start : skipSpace text = n.text.toList ++ rest) :
    Json.readValue? (fuel + 1) depth text = some (ofNumber m, rest) := by
  obtain ⟨negative, body, written, read⟩ := reads
  have number := read rest ends
  cases negative with
  | false =>
      obtain ⟨c, others, begins, digit⟩ := isDigit_of_readNumber? number
      have here : skipSpace text = c :: others := by rw [start, written, ← begins]; rfl
      rw [readValue?_digit _ _ digit here, ← begins, number]
      rfl
  | true =>
      have here : skipSpace text = '-' :: (body ++ rest) := by rw [start, written]; rfl
      rw [readValue?_dash _ _ here, number]
      rfl

/-- A character with which values begin: no blank, and no bracket that closes an array. -/
def IsStart (c : Char) : Prop := isSpace c = false ∧ c ≠ ']'

instance (c : Char) : Decidable (IsStart c) := inferInstanceAs (Decidable (_ ∧ _))

theorem isStart_of_isDigit {c : Char} (digit : c.isDigit) : IsStart c := by
  refine ⟨?_, fun close => ?_⟩
  · by_contra space
    have blank : c = ' ' ∨ c = '\n' ∨ c = '\t' ∨ c = '\r' := by
      simpa only [isSpace, Bool.not_eq_false, Bool.or_eq_true, beq_iff_eq, or_assoc] using space
    rcases blank with rfl | rfl | rfl | rfl <;> exact absurd digit (by decide)
  · subst close
    exact absurd digit (by decide)

theorem IsReadAs.exists_cons_text {n m : JsonNumber} (reads : IsReadAs n m) :
    ∃ c rest, n.text.toList = c :: rest ∧ IsStart c := by
  obtain ⟨negative, body, written, read⟩ := reads
  cases negative with
  | true => exact ⟨'-', body, written, by decide, by decide⟩
  | false =>
      obtain ⟨c, others, begins, digit⟩ := isDigit_of_readNumber? (read [] nofun)
      rw [List.append_nil] at begins
      exact ⟨c, others, written.trans begins, isStart_of_isDigit digit⟩

/-- A text that is read as one value to its end is the text of the value. -/
theorem parse?_of_readValue? {text : String} {j : Json}
    (read : readValue? (2 * text.toList.length + 2) depthLimit text.toList = some (j, [])) :
    parse? text = some j := by
  unfold parse?
  simp only [read, Option.bind_eq_bind, Option.bind_some]
  rfl

/-- A number is reread as the one that its text is read as. -/
theorem IsReadAs.reread {n m : JsonNumber} (reads : IsReadAs n m) :
    (Json.number n).reread = ofNumber m := by
  obtain ⟨c, others, begins, visible, -⟩ := reads.exists_cons_text
  have alone : skipSpace n.text.toList = n.text.toList ++ [] := by
    rw [begins, skipSpace_cons visible, List.append_nil]
  have whole : parse? n.text = some (ofNumber m) :=
    parse?_of_readValue? (reads.readValue? _ _ nofun alone)
  rw [Json.reread, whole]
  rfl

theorem reread_integer {value : Int} (canonical : (JsonNumber.integer value).IsCanonical) :
    (Json.number (.integer value)).reread = .number (.integer value) :=
  (isReadAs_integer canonical).reread.trans (if_pos canonical)

/-- The text of a number is read as the number reread, wherever it stands. -/
theorem readValue?_number {n : JsonNumber} (canonical : n.IsCanonical) (fuel depth : Nat)
    {text rest : List Char} (ends : Ends rest) (start : skipSpace text = n.text.toList ++ rest) :
    readValue? (fuel + 1) depth text = some ((Json.number n).reread, rest) := by
  obtain ⟨m, reads⟩ := exists_isReadAs canonical
  rw [reads.reread]
  exact reads.readValue? fuel depth ends start

/-! ## The text of a document -/

section Texts

variable (level : Nat)

theorem toList_quote (s : String) :
    (quote s).toList = '"' :: (s.toList.flatMap quoteChar ++ ['"']) := String.toList_ofList

theorem toList_prettyAt_null : (prettyAt level .null).toList = ['n', 'u', 'l', 'l'] := by
  show "null".toList = _
  simp

theorem toList_prettyAt_true : (prettyAt level (.bool true)).toList = ['t', 'r', 'u', 'e'] := by
  show "true".toList = _
  simp

theorem toList_prettyAt_false :
    (prettyAt level (.bool false)).toList = ['f', 'a', 'l', 's', 'e'] := by
  show "false".toList = _
  simp

theorem toList_prettyAt_emptyArray : (prettyAt level (.array [])).toList = ['[', ']'] := by
  show "[]".toList = _
  simp

theorem toList_prettyAt_array (item : Json) (items : List Json) :
    (prettyAt level (.array (item :: items))).toList =
      '[' :: ((prettyItems (level + 1) (item :: items)).toList ++
        ((newLine level).toList ++ [']'])) := by
  show ("[" ++ prettyItems (level + 1) (item :: items) ++ newLine level ++ "]").toList = _
  simp

theorem toList_prettyAt_emptyObject : (prettyAt level (.object [])).toList = ['\x7b', '\x7d'] := by
  show "\x7b\x7d".toList = _
  simp

theorem toList_prettyAt_object (field : String × Json) (fields : List (String × Json)) :
    (prettyAt level (.object (field :: fields))).toList =
      '\x7b' :: ((prettyFields (level + 1) (field :: fields)).toList ++
        ((newLine level).toList ++ ['\x7d'])) := by
  show ("\x7b" ++ prettyFields (level + 1) (field :: fields) ++ newLine level ++
    "\x7d").toList = _
  simp

theorem toList_prettyItems_singleton (item : Json) :
    (prettyItems level [item]).toList = (newLine level).toList ++ (item.prettyAt level).toList :=
  String.toList_append

theorem toList_prettyItems_cons (item next : Json) (items : List Json) :
    (prettyItems level (item :: next :: items)).toList =
      (newLine level).toList ++ ((item.prettyAt level).toList ++
        ',' :: (prettyItems level (next :: items)).toList) := by
  show (newLine level ++ item.prettyAt level ++ "," ++ prettyItems level (next :: items)).toList = _
  simp

theorem toList_prettyFields_singleton (key : String) (value : Json) :
    (prettyFields level [(key, value)]).toList =
      (newLine level).toList ++ ((quote key).toList ++
        ':' :: ' ' :: (value.prettyAt level).toList) := by
  show (newLine level ++ quote key ++ ": " ++ value.prettyAt level).toList = _
  simp

theorem toList_prettyFields_cons (key : String) (value : Json) (next : String × Json)
    (fields : List (String × Json)) :
    (prettyFields level ((key, value) :: next :: fields)).toList =
      (newLine level).toList ++ ((quote key).toList ++
        ':' :: ' ' :: ((value.prettyAt level).toList ++
          ',' :: (prettyFields level (next :: fields)).toList)) := by
  show (newLine level ++ quote key ++ ": " ++ value.prettyAt level ++ "," ++
    prettyFields level (next :: fields)).toList = _
  simp

/-- The text of a legible document begins as values do. -/
theorem exists_cons_prettyAt {j : Json} (legible : j.Legible) :
    ∃ c rest, (j.prettyAt level).toList = c :: rest ∧ IsStart c := by
  cases j with
  | unreadable => cases legible
  | null => exact ⟨_, _, toList_prettyAt_null level, by decide⟩
  | bool b =>
      cases b with
      | true => exact ⟨_, _, toList_prettyAt_true level, by decide⟩
      | false => exact ⟨_, _, toList_prettyAt_false level, by decide⟩
  | number n =>
      obtain ⟨m, reads⟩ := exists_isReadAs legible
      exact reads.exists_cons_text
  | string s => exact ⟨_, _, toList_quote s, by decide⟩
  | array items =>
      cases items with
      | nil => exact ⟨_, _, toList_prettyAt_emptyArray level, by decide⟩
      | cons item items => exact ⟨_, _, toList_prettyAt_array level item items, by decide⟩
  | object fields =>
      cases fields with
      | nil => exact ⟨_, _, toList_prettyAt_emptyObject level, by decide⟩
      | cons field fields => exact ⟨_, _, toList_prettyAt_object level field fields, by decide⟩

theorem skipSpace_prettyAt {j : Json} (legible : j.Legible) (tail : List Char) :
    skipSpace ((j.prettyAt level).toList ++ tail) = (j.prettyAt level).toList ++ tail := by
  obtain ⟨c, rest, begins, visible, -⟩ := exists_cons_prettyAt level legible
  rw [begins, List.cons_append, skipSpace_cons visible]

/-- A blank before the text of a document is skipped. -/
theorem skipSpace_blank {j : Json} (legible : j.Legible) (tail : List Char) :
    skipSpace (' ' :: ((j.prettyAt level).toList ++ tail)) = (j.prettyAt level).toList ++ tail :=
  skipSpace_prettyAt level legible tail

theorem ends_newLine (tail : List Char) : Ends ((newLine level).toList ++ tail) := by
  intro c first
  have line : c = '\n' := by simpa [newLine, eq_comm] using first
  rw [line]
  decide

theorem ends_comma (tail : List Char) : Ends (',' :: tail) := by
  intro c first
  rw [← Option.some.inj first]
  decide

/-- The lines of items begin with the first of them. -/
theorem exists_append_prettyItems (item : Json) (items : List Json) :
    ∃ tail, (prettyItems level (item :: items)).toList =
      (newLine level).toList ++ ((item.prettyAt level).toList ++ tail) := by
  cases items with
  | nil => exact ⟨[], by rw [toList_prettyItems_singleton, List.append_nil]⟩
  | cons next items => exact ⟨_, toList_prettyItems_cons level item next items⟩

/-- The lines of fields begin with the quote of the first key. -/
theorem exists_append_prettyFields (field : String × Json) (fields : List (String × Json)) :
    ∃ tail, (prettyFields level (field :: fields)).toList =
      (newLine level).toList ++ '"' :: tail := by
  cases fields with
  | nil => exact ⟨_, by rw [toList_prettyFields_singleton, toList_quote]; rfl⟩
  | cons next fields => exact ⟨_, by rw [toList_prettyFields_cons, toList_quote]; rfl⟩

/-- The start of a line leaves a step for what stands on it. -/
theorem length_le_of_line {level fuel : Nat} {text : List Char}
    (fuelled : ((newLine level).toList ++ text).length ≤ fuel + 1) : text.length ≤ fuel := by
  have line : 0 < (newLine level).toList.length := by simp [newLine]
  rw [List.length_append] at fuelled
  omega

theorem exists_depth_of_succ_le {inside depth : Nat} (shallow : inside + 1 ≤ depth) :
    ∃ n, depth = n + 1 ∧ inside ≤ n := ⟨depth - 1, by omega, by omega⟩

end Texts

/-! ## The length of a text -/

section Lengths

variable (level : Nat)

/-- Every item takes a line. -/
theorem length_le_prettyItems (items : List Json) :
    items.length ≤ (prettyItems level items).toList.length := by
  have line : 0 < (newLine level).toList.length := by simp [newLine]
  induction items with
  | nil => exact Nat.zero_le _
  | cons item items ih =>
      cases items with
      | nil =>
          rw [toList_prettyItems_singleton, List.length_append, List.length_singleton]
          omega
      | cons next items =>
          rw [toList_prettyItems_cons]
          simp only [List.length_append, List.length_cons] at ih ⊢
          omega

/-- An array has a text of at least as many characters as there are items. -/
theorem length_le_prettyAt_array (items : List Json) :
    items.length ≤ ((Json.array items).prettyAt level).toList.length := by
  cases items with
  | nil => exact Nat.zero_le _
  | cons item items =>
      have lines := length_le_prettyItems (level + 1) (item :: items)
      rw [toList_prettyAt_array]
      simp only [List.length_append, List.length_cons] at lines ⊢
      omega

/-- The text of a field is no longer than that of all of them. -/
theorem length_prettyAt_le_prettyFields {key : String} {value : Json} :
    ∀ {fields : List (String × Json)}, (key, value) ∈ fields →
      (value.prettyAt level).toList.length ≤ (prettyFields level fields).toList.length
  | [field], member => by
      obtain rfl := List.mem_singleton.mp member
      rw [toList_prettyFields_singleton]
      simp only [List.length_append, List.length_cons]
      omega
  | field :: next :: fields, member => by
      rw [toList_prettyFields_cons]
      simp only [List.length_append, List.length_cons]
      rcases List.mem_cons.mp member with rfl | later
      · dsimp only
        omega
      · have rest := length_prettyAt_le_prettyFields later
        omega

/-- The text of a field is no longer than that of the object. -/
theorem length_prettyAt_le_object {key : String} {value : Json} {fields : List (String × Json)}
    (member : (key, value) ∈ fields) :
    (value.prettyAt (level + 1)).toList.length ≤
      ((Json.object fields).prettyAt level).toList.length := by
  cases fields with
  | nil => cases member
  | cons field fields =>
      have inside := length_prettyAt_le_prettyFields (level + 1) member
      rw [toList_prettyAt_object, List.length_cons, List.length_append]
      omega

end Lengths

/-! ## Reading a text -/

/-- With so many steps, the texts of documents, items and fields that they suffice for are read as
these are reread, wherever they stand. -/
structure Rereads (fuel : Nat) : Prop where
  value : ∀ {j : Json} {level depth : Nat} {text rest : List Char}, j.Legible → j.depth ≤ depth →
    (j.prettyAt level).toList.length ≤ fuel → Ends rest →
    skipSpace text = (j.prettyAt level).toList ++ rest →
    readValue? fuel depth text = some (j.reread, rest)
  items : ∀ {item : Json} {items : List Json} {level below depth : Nat} {text rest : List Char},
    ItemsLegible (item :: items) → itemsDepth (item :: items) ≤ depth →
    (prettyItems level (item :: items)).toList.length ≤ fuel →
    skipSpace text = skipSpace ((prettyItems level (item :: items)).toList ++
      ((newLine below).toList ++ ']' :: rest)) →
    readItems? fuel depth text = some (rereadItems (item :: items), rest)
  fields : ∀ {key : String} {value : Json} {fields : List (String × Json)} {level below depth : Nat}
    {text rest : List Char}, FieldsLegible ((key, value) :: fields) →
    fieldsDepth ((key, value) :: fields) ≤ depth →
    (prettyFields level ((key, value) :: fields)).toList.length ≤ fuel →
    skipSpace text = skipSpace ((prettyFields level ((key, value) :: fields)).toList ++
      ((newLine below).toList ++ '\x7d' :: rest)) →
    readFields? fuel depth text = some (rereadFields ((key, value) :: fields), rest)

namespace Rereads

variable {fuel level below depth : Nat} {text rest : List Char}

/-- An array is read with one step more than its items. -/
theorem array_succ (later : Rereads fuel) {item : Json} {items : List Json}
    (legible : ItemsLegible (item :: items)) (shallow : itemsDepth (item :: items) + 1 ≤ depth)
    (fuelled : ((Json.array (item :: items)).prettyAt level).toList.length ≤ fuel + 1)
    (start : skipSpace text = ((Json.array (item :: items)).prettyAt level).toList ++ rest) :
    readValue? (fuel + 1) depth text = some ((Json.array (item :: items)).reread, rest) := by
  obtain ⟨depth, rfl, inside⟩ := exists_depth_of_succ_le shallow
  rw [toList_prettyAt_array] at start fuelled
  have bracket : skipSpace text = '[' :: ((prettyItems (level + 1) (item :: items)).toList ++
      ((newLine level).toList ++ ']' :: rest)) := by
    rw [start]
    simp
  have more : ∀ after, skipSpace ((prettyItems (level + 1) (item :: items)).toList ++
      ((newLine level).toList ++ ']' :: rest)) ≠ ']' :: after := by
    obtain ⟨tail, line⟩ := exists_append_prettyItems (level + 1) item items
    obtain ⟨c, others, begins, -, noBracket⟩ := exists_cons_prettyAt (level + 1) legible.1
    rw [line, List.append_assoc, skipSpace_newLine, List.append_assoc,
      skipSpace_prettyAt _ legible.1, begins]
    exact fun after same => noBracket (List.cons.inj same).1
  have fits : (prettyItems (level + 1) (item :: items)).toList.length ≤ fuel := by
    rw [List.length_cons, List.length_append] at fuelled
    omega
  rw [readValue?_array fuel depth bracket more,
    later.items legible inside fits (skipSpace_skipSpace _)]
  rfl

/-- An object is read with one step more than its fields. -/
theorem object_succ (later : Rereads fuel) {key : String} {value : Json}
    {fields : List (String × Json)} (legible : FieldsLegible ((key, value) :: fields))
    (shallow : fieldsDepth ((key, value) :: fields) + 1 ≤ depth)
    (fuelled : ((Json.object ((key, value) :: fields)).prettyAt level).toList.length ≤ fuel + 1)
    (start : skipSpace text =
      ((Json.object ((key, value) :: fields)).prettyAt level).toList ++ rest) :
    readValue? (fuel + 1) depth text =
      some ((Json.object ((key, value) :: fields)).reread, rest) := by
  obtain ⟨depth, rfl, inside⟩ := exists_depth_of_succ_le shallow
  rw [toList_prettyAt_object] at start fuelled
  have brace : skipSpace text = '\x7b' ::
      ((prettyFields (level + 1) ((key, value) :: fields)).toList ++
        ((newLine level).toList ++ '\x7d' :: rest)) := by
    rw [start]
    simp
  have more : ∀ after, skipSpace ((prettyFields (level + 1) ((key, value) :: fields)).toList ++
      ((newLine level).toList ++ '\x7d' :: rest)) ≠ '\x7d' :: after := by
    obtain ⟨tail, line⟩ := exists_append_prettyFields (level + 1) (key, value) fields
    rw [line, List.append_assoc, skipSpace_newLine, List.cons_append, skipSpace_cons (by decide)]
    exact fun after same => absurd (List.cons.inj same).1 (by decide)
  have fits : (prettyFields (level + 1) ((key, value) :: fields)).toList.length ≤ fuel := by
    rw [List.length_cons, List.length_append] at fuelled
    omega
  rw [readValue?_object fuel depth brace more,
    later.fields legible inside fits (skipSpace_skipSpace _)]
  rfl

/-- A document is read with one step more than its items or fields. -/
theorem value_succ (later : Rereads fuel) {j : Json} (legible : j.Legible)
    (shallow : j.depth ≤ depth) (fuelled : (j.prettyAt level).toList.length ≤ fuel + 1)
    (ends : Ends rest) (start : skipSpace text = (j.prettyAt level).toList ++ rest) :
    readValue? (fuel + 1) depth text = some (j.reread, rest) := by
  cases j with
  | unreadable => cases legible
  | null =>
      rw [toList_prettyAt_null] at start
      exact readValue?_null fuel depth start
  | bool b =>
      cases b with
      | true =>
          rw [toList_prettyAt_true] at start
          exact readValue?_true fuel depth start
      | false =>
          rw [toList_prettyAt_false] at start
          exact readValue?_false fuel depth start
  | number n => exact readValue?_number legible fuel depth ends start
  | string s =>
      have quoted : skipSpace text = '"' :: (s.toList.flatMap quoteChar ++ '"' :: rest) := by
        rw [start]
        simp [prettyAt, toList_quote]
      exact readValue?_quote fuel depth quoted
  | array items =>
      cases items with
      | nil =>
          obtain ⟨depth, rfl⟩ : ∃ n, depth = n + 1 := Nat.exists_eq_add_of_le' shallow
          rw [toList_prettyAt_emptyArray] at start
          exact readValue?_emptyArray fuel depth start
      | cons item items => exact later.array_succ legible shallow fuelled start
  | object fields =>
      cases fields with
      | nil =>
          obtain ⟨depth, rfl⟩ : ∃ n, depth = n + 1 := Nat.exists_eq_add_of_le' shallow
          rw [toList_prettyAt_emptyObject] at start
          exact readValue?_emptyObject fuel depth start
      | cons field fields => exact later.object_succ legible shallow fuelled start

/-- Items are read with one step more than the first of them, and than the others. -/
theorem items_succ (later : Rereads fuel) {item : Json} {items : List Json}
    (legible : ItemsLegible (item :: items)) (shallow : itemsDepth (item :: items) ≤ depth)
    (fuelled : (prettyItems level (item :: items)).toList.length ≤ fuel + 1)
    (start : skipSpace text = skipSpace ((prettyItems level (item :: items)).toList ++
      ((newLine below).toList ++ ']' :: rest))) :
    readItems? (fuel + 1) depth text = some (rereadItems (item :: items), rest) := by
  obtain ⟨first, others⟩ := Nat.max_le.mp shallow
  cases items with
  | nil =>
      rw [toList_prettyItems_singleton] at start fuelled
      have fits := length_le_of_line fuelled
      rw [List.append_assoc, skipSpace_newLine, skipSpace_prettyAt _ legible.1] at start
      have value := later.value legible.1 first fits (ends_newLine below _) start
      exact readItems?_last fuel depth value (skipSpace_newLine below _)
  | cons next items =>
      rw [toList_prettyItems_cons] at start fuelled
      have fits := length_le_of_line fuelled
      rw [List.length_append, List.length_cons] at fits
      have fitsFirst : (item.prettyAt level).toList.length ≤ fuel := by omega
      have fitsOthers : (prettyItems level (next :: items)).toList.length ≤ fuel := by omega
      rw [List.append_assoc, skipSpace_newLine, List.append_assoc, List.cons_append,
        skipSpace_prettyAt _ legible.1] at start
      have value := later.value legible.1 first fitsFirst (ends_comma _) start
      rw [readItems?_more fuel depth value rfl, later.items legible.2 others fitsOthers rfl]
      rfl

/-- Fields are read with one step more than the value of the first of them, and than the others. -/
theorem fields_succ (later : Rereads fuel) {key : String} {value : Json}
    {fields : List (String × Json)} (legible : FieldsLegible ((key, value) :: fields))
    (shallow : fieldsDepth ((key, value) :: fields) ≤ depth)
    (fuelled : (prettyFields level ((key, value) :: fields)).toList.length ≤ fuel + 1)
    (start : skipSpace text = skipSpace ((prettyFields level ((key, value) :: fields)).toList ++
      ((newLine below).toList ++ '\x7d' :: rest))) :
    readFields? (fuel + 1) depth text = some (rereadFields ((key, value) :: fields), rest) := by
  obtain ⟨first, others⟩ := Nat.max_le.mp shallow
  cases fields with
  | nil =>
      rw [toList_prettyFields_singleton] at start fuelled
      have fits := length_le_of_line fuelled
      rw [List.length_append, List.length_cons, List.length_cons] at fits
      have fitsValue : (value.prettyAt level).toList.length ≤ fuel := by omega
      have quoted : skipSpace text = '"' :: (key.toList.flatMap quoteChar ++ '"' :: ':' ::
          (' ' :: ((value.prettyAt level).toList ++
            ((newLine below).toList ++ '\x7d' :: rest)))) := by
        rw [start, List.append_assoc, skipSpace_newLine, toList_quote, List.cons_append,
          List.cons_append, skipSpace_cons (by decide)]
        simp
      have read := later.value legible.1 first fitsValue (ends_newLine below ('\x7d' :: rest))
        (skipSpace_blank level legible.1 _)
      exact readFields?_last fuel depth quoted read (skipSpace_newLine below _)
  | cons next fields =>
      obtain ⟨nextKey, nextValue⟩ := next
      rw [toList_prettyFields_cons] at start fuelled
      have fits := length_le_of_line fuelled
      rw [List.length_append, List.length_cons, List.length_cons, List.length_append,
        List.length_cons] at fits
      have fitsValue : (value.prettyAt level).toList.length ≤ fuel := by omega
      have fitsOthers :
          (prettyFields level ((nextKey, nextValue) :: fields)).toList.length ≤ fuel := by omega
      have quoted : skipSpace text = '"' :: (key.toList.flatMap quoteChar ++ '"' :: ':' ::
          (' ' :: ((value.prettyAt level).toList ++
            (',' :: ((prettyFields level ((nextKey, nextValue) :: fields)).toList ++
              ((newLine below).toList ++ '\x7d' :: rest)))))) := by
        rw [start, List.append_assoc, skipSpace_newLine, toList_quote, List.cons_append,
          List.cons_append, skipSpace_cons (by decide)]
        simp
      have read (tail : List Char) := later.value legible.1 first fitsValue (ends_comma tail)
        (skipSpace_blank level legible.1 _)
      rw [readFields?_more fuel depth quoted (read _) rfl,
        later.fields legible.2 others fitsOthers rfl]
      rfl

end Rereads

theorem rereads (fuel : Nat) : Rereads fuel := by
  induction fuel with
  | zero =>
      refine ⟨?value, ?items, ?fields⟩
      case value =>
        intro j level _ _ _ legible _ fuelled
        obtain ⟨c, others, begins, -⟩ := exists_cons_prettyAt level legible
        rw [begins] at fuelled
        cases fuelled
      case items =>
        intro item items level _ _ _ _ _ _ fuelled
        obtain ⟨tail, line⟩ := exists_append_prettyItems level item items
        rw [line] at fuelled
        simp [newLine] at fuelled
      case fields =>
        intro key value fields level _ _ _ _ _ _ fuelled
        obtain ⟨tail, line⟩ := exists_append_prettyFields level (key, value) fields
        rw [line] at fuelled
        simp [newLine] at fuelled
  | succ fuel later => exact ⟨later.value_succ, later.items_succ, later.fields_succ⟩

/-- **The text of a legible document is read as the document with its numbers reread**, unless it is
nested too deeply. -/
theorem parse?_pretty {j : Json} (legible : j.Legible) (shallow : j.depth ≤ depthLimit) :
    parse? j.pretty = some j.reread := by
  have start : skipSpace j.pretty.toList = (j.prettyAt 0).toList ++ [] := by
    have alone := skipSpace_prettyAt 0 legible []
    rw [List.append_nil] at alone ⊢
    exact alone
  have fits : (j.prettyAt 0).toList.length ≤ 2 * j.pretty.toList.length + 2 := by
    rw [pretty]
    omega
  exact parse?_of_readValue? ((rereads _).value legible shallow fits nofun start)

end StrategyDesk.Json
