import Mathlib.Data.List.Basic
import StrategyDesk.Url.Basic

/-!
# Encoded segments

A text that is written as a segment of a path is read back from it, so that different texts have
different segments, and it brings no punctuation of its own into the address.

## Main Definitions

* `utf8Bytes` — the bytes of the characters of a text
* `WebUrl.keptChars` — the characters of a given text that are written

## Main Statements

* `percentDecode_percentEncode` — the bytes of an encoded text
* `WebUrl.encodeSegment_eq_iff` — which texts have the same segment
* `WebUrl.of?_encodeSegment_eq_here_iff`, `WebUrl.of?_encodeSegment_eq_up_iff` — which texts are
  taken for dots
-/

namespace StrategyDesk

/-! ## Bytes -/

/-- The bytes of the UTF-8 form of characters. -/
def utf8Bytes (text : List Char) : List UInt8 := text.flatMap String.utf8EncodeChar

/-- Characters are determined by their bytes. -/
theorem utf8Bytes_inj {a b : List Char} (same : utf8Bytes a = utf8Bytes b) : a = b := by
  have bytes : (String.ofList a).toByteArray = (String.ofList b).toByteArray := by
    rw [String.toByteArray_ofList, String.toByteArray_ofList]
    exact congrArg List.toByteArray same
  exact String.ofList_injective (String.toByteArray_inj.mp bytes)

theorem digitInBase?_upperHexDigit : ∀ n < 16, digitInBase? 16 (upperHexDigit n) = some n := by
  decide

theorem isAlphanum_upperHexDigit : ∀ n < 16, (upperHexDigit n).isAlphanum = true := by decide

theorem digitsInBase?_upperHexDigits (b : UInt8) :
    digitsInBase? 16 [upperHexDigit (b.toNat / 16), upperHexDigit (b.toNat % 16)] =
      some b.toNat := by
  have bound : b.toNat < 256 := b.toNat_lt
  have high := digitInBase?_upperHexDigit (b.toNat / 16) (by omega)
  have low := digitInBase?_upperHexDigit (b.toNat % 16) (by omega)
  have total : 16 * (b.toNat / 16) + b.toNat % 16 = b.toNat := by omega
  simp [digitsInBase?, high, low, total]

/-- An encoded byte is read back. -/
theorem percentDecode_percentByte_append (b : UInt8) (rest : List Char) :
    percentDecode (percentByte b ++ rest) = b :: percentDecode rest := by
  have value := digitsInBase?_upperHexDigits b
  simp only [percentByte, List.cons_append, List.nil_append, percentDecode, value,
    UInt8.ofNat_toNat]

theorem percentDecode_flatMap_percentByte_append (bytes : List UInt8) (rest : List Char) :
    percentDecode (bytes.flatMap percentByte ++ rest) = bytes ++ percentDecode rest := by
  induction bytes with
  | nil => rfl
  | cons b bytes ih =>
      rw [List.flatMap_cons, List.append_assoc, percentDecode_percentByte_append, ih,
        List.cons_append]

theorem percentDecode_cons_of_ne {c : Char} (plain : c ≠ '%') (rest : List Char) :
    percentDecode (c :: rest) = String.utf8EncodeChar c ++ percentDecode rest := by
  rw [percentDecode]
  exact fun _ _ _ percent _ => plain percent

variable {set : EncodeSet}

/-- **An encoded text has the bytes of the text**, if percent signs are encoded. -/
theorem percentDecode_percentEncode (escapes : set '%' = true) (text : List Char) :
    percentDecode (percentEncode set text) = utf8Bytes text := by
  induction text with
  | nil => rfl
  | cons c rest ih =>
      have encode : percentEncode set (c :: rest) =
          (if set c then (String.utf8EncodeChar c).flatMap percentByte else [c]) ++
            percentEncode set rest := List.flatMap_cons
      have bytes : utf8Bytes (c :: rest) = String.utf8EncodeChar c ++ utf8Bytes rest :=
        List.flatMap_cons
      rw [encode, bytes, ← ih]
      split
      case isTrue => exact percentDecode_flatMap_percentByte_append _ _
      case isFalse notEncoded =>
        have plain : c ≠ '%' := fun percent => notEncoded (percent ▸ escapes)
        exact percentDecode_cons_of_ne plain _

/-- A character of the set is not written, unless it is one of those that bytes are written with. -/
theorem notMem_percentEncode {c : Char} (encoded : set c = true) (noPercent : c ≠ '%')
    (noDigit : c.isAlphanum = false) (text : List Char) : c ∉ percentEncode set text := by
  intro member
  obtain ⟨d, -, written⟩ := List.mem_flatMap.mp member
  split at written
  case isTrue =>
    obtain ⟨b, -, digit⟩ := List.mem_flatMap.mp written
    have bound : b.toNat < 256 := b.toNat_lt
    rcases List.mem_cons.mp digit with percent | digit
    · exact noPercent percent
    · rcases List.mem_cons.mp digit with high | low
      · rw [high, isAlphanum_upperHexDigit _ (by omega)] at noDigit
        cases noDigit
      · rw [List.mem_singleton.mp low, isAlphanum_upperHexDigit _ (by omega)] at noDigit
        cases noDigit
  case isFalse notEncoded =>
    exact notEncoded (List.mem_singleton.mp written ▸ encoded)

namespace WebUrl

/-! ## Segments -/

/-- The characters of a given text that are written in its segment. Tabs and line ends are
dropped. -/
def keptChars (text : String) : List Char :=
  text.toList.filter fun c => c != '\t' && c != '\n' && c != '\r'

theorem toList_encodeSegment (text : String) :
    (encodeSegment text).toList = percentEncode .segment (keptChars text) := String.toList_ofList

/-- **The segment of a text has the bytes of the text** but for tabs and line ends. -/
theorem percentDecode_encodeSegment (text : String) :
    percentDecode (encodeSegment text).toList = utf8Bytes (keptChars text) := by
  rw [toList_encodeSegment, percentDecode_percentEncode (by decide)]

/-- **Texts have the same segment if they differ in tabs and line ends alone.** -/
theorem encodeSegment_eq_iff {a b : String} :
    encodeSegment a = encodeSegment b ↔ keptChars a = keptChars b := by
  constructor
  · intro same
    apply utf8Bytes_inj
    rw [← percentDecode_encodeSegment, ← percentDecode_encodeSegment, same]
  · intro same
    rw [← String.toList_inj, toList_encodeSegment, toList_encodeSegment, same]

/-- No punctuation of an address. -/
def IsInert (written : String) : Prop := ∀ c ∈ ['/', '?', '#'], c ∉ written.toList

theorem isInert_encodeSegment (text : String) : IsInert (encodeSegment text) := by
  have marks : ∀ c ∈ ['/', '?', '#'], EncodeSet.segment c = true ∧ c ≠ '%' ∧
      c.isAlphanum = false := by
    rw [List.forall_mem_cons, List.forall_mem_cons, List.forall_mem_singleton]
    decide
  intro c mark
  obtain ⟨encoded, noPercent, noDigit⟩ := marks c mark
  rw [toList_encodeSegment]
  exact notMem_percentEncode encoded noPercent noDigit _

/-! ## Dots -/

theorem toUpper_toLower_of_upper :
    ∀ n < 26, (Char.ofNat (n + 65)).toLower.toUpper = Char.ofNat (n + 65) := by
  decide

/-- A character is its lower case or the upper case of that. -/
theorem eq_or_eq_toUpper_of_toLower {c d : Char} (lower : c.toLower = d) :
    c = d ∨ c = d.toUpper := by
  by_cases upper : c.val ≥ 'A'.val ∧ c.val ≤ 'Z'.val
  · have bounds : 65 ≤ c.toNat ∧ c.toNat ≤ 90 := by
      simpa [UInt32.le_iff_toNat_le] using upper
    have letter : c = Char.ofNat (c.toNat - 65 + 65) := by
      rw [Nat.sub_add_cancel bounds.1, Char.ofNat_toNat]
    have back := toUpper_toLower_of_upper (c.toNat - 65) (by omega)
    rw [← letter, lower] at back
    exact Or.inr back.symm
  · have same : c.toLower = c := dif_neg upper
    exact Or.inl (same.symm.trans lower)

/-- The spellings of a point, in lower case. -/
def pointSpellings : List (List Char) := [['.'], ['%', '2', 'e']]

/-- A text that begins with a point in some spelling has the byte of the point first. -/
theorem percentDecode_point {text spelling rest : List Char} (point : spelling ∈ pointSpellings)
    (lower : text.map Char.toLower = spelling ++ rest) :
    ∃ tail, percentDecode text = String.utf8EncodeChar '.' ++ percentDecode tail ∧
      tail.map Char.toLower = rest := by
  simp only [pointSpellings, List.mem_cons, List.not_mem_nil, or_false] at point
  rcases point with rfl | rfl
  · obtain ⟨c, tail, rfl, first, others⟩ := List.map_eq_cons_iff.mp lower
    have plain : c = '.' := by simpa using eq_or_eq_toUpper_of_toLower first
    subst plain
    exact ⟨tail, percentDecode_cons_of_ne (by decide) tail, others⟩
  · obtain ⟨c, text, rfl, first, lower⟩ := List.map_eq_cons_iff.mp lower
    obtain ⟨c', text, rfl, second, lower⟩ := List.map_eq_cons_iff.mp lower
    obtain ⟨c'', tail, rfl, third, others⟩ := List.map_eq_cons_iff.mp lower
    have percent : c = '%' := by simpa using eq_or_eq_toUpper_of_toLower first
    have two : c' = '2' := by simpa using eq_or_eq_toUpper_of_toLower second
    subst percent two
    refine ⟨tail, ?_, others⟩
    rcases eq_or_eq_toUpper_of_toLower third with rfl | rfl <;> rfl

theorem of?_eq_here_iff {segment : String} : DotSegment.of? segment = some .here ↔
    ∃ spelling ∈ pointSpellings, segment.toList.map Char.toLower = spelling := by
  have spelled : DotSegment.of? segment = some .here ↔ lowerAscii segment ∈ [".", "%2e"] := by
    unfold DotSegment.of?
    grind
  rw [spelled]
  simp [pointSpellings, lowerAscii, ← String.toList_inj]

theorem of?_eq_up_iff {segment : String} : DotSegment.of? segment = some .up ↔
    ∃ spelling ∈ pointSpellings, ∃ spelling' ∈ pointSpellings,
      segment.toList.map Char.toLower = spelling ++ spelling' := by
  have spelled : DotSegment.of? segment = some .up ↔
      lowerAscii segment ∈ ["..", ".%2e", "%2e.", "%2e%2e"] := by
    unfold DotSegment.of?
    grind
  rw [spelled]
  simp [pointSpellings, lowerAscii, ← String.toList_inj, or_assoc]

/-- **A written segment says that the path goes on where it is if its text is one point** but for
tabs and line ends: no other text has an encoding that could be taken for it. -/
theorem of?_encodeSegment_eq_here_iff {text : String} :
    DotSegment.of? (encodeSegment text) = some .here ↔ keptChars text = ['.'] := by
  constructor
  · intro here
    obtain ⟨spelling, point, lower⟩ := of?_eq_here_iff.mp here
    rw [← List.append_nil spelling] at lower
    obtain ⟨tail, bytes, none⟩ := percentDecode_point point lower
    rw [percentDecode_encodeSegment, List.map_eq_nil_iff.mp none] at bytes
    exact utf8Bytes_inj bytes
  · intro kept
    rw [of?_eq_here_iff, toList_encodeSegment, kept]
    exact ⟨['.'], by decide, rfl⟩

/-- **A written segment leads one level up if its text is two points** but for tabs and line
ends. -/
theorem of?_encodeSegment_eq_up_iff {text : String} :
    DotSegment.of? (encodeSegment text) = some .up ↔ keptChars text = ['.', '.'] := by
  constructor
  · intro up
    obtain ⟨spelling, point, spelling', point', lower⟩ := of?_eq_up_iff.mp up
    obtain ⟨tail, bytes, lower'⟩ := percentDecode_point point lower
    rw [← List.append_nil spelling'] at lower'
    obtain ⟨tail', bytes', none⟩ := percentDecode_point point' lower'
    rw [percentDecode_encodeSegment, bytes', List.map_eq_nil_iff.mp none] at bytes
    exact utf8Bytes_inj bytes
  · intro kept
    rw [of?_eq_up_iff, toList_encodeSegment, kept]
    exact ⟨['.'], by decide, ['.'], by decide, rfl⟩

end WebUrl

end StrategyDesk
