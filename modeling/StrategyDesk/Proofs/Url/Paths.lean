import Mathlib.Data.List.Forall2
import StrategyDesk.Proofs.Url.Encoding

/-!
# Paths below a base

What becomes of a path that is given more segments: which texts get a segment of their own, from
which they are read back, and which are passed over, shortened, or lead elsewhere.

## Main Definitions

* `WebUrl.Writes` — a segment from which a text is read back
* `WebUrl.IsWrittenWhole` — the texts of which nothing is lost
* `WebUrl.Adds` — the segment by which a text may make a path longer
* `WebUrl.rooted` — a path, or that of the root in place of none

## Main Statements

* `WebUrl.length_foldl_extendPath_le` — a path grows by no more segments than it is given
* `WebUrl.foldl_extendPath_of_whole` — by those of texts that are written whole
* `WebUrl.exists_written_of_length_le` — how it grows if it grows by that many
* `WebUrl.joinPath_exact_iff` — when a path gets exactly the segments that it is given
-/

namespace StrategyDesk.WebUrl

/-! ## Texts -/

/-- The segment holds no punctuation and has the bytes of the text. -/
def Writes (text written : String) : Prop :=
  percentDecode written.toList = utf8Bytes text.toList ∧ IsInert written

/-- Neither one or two points nor a text with a tab or a line end. -/
def IsWrittenWhole (text : String) : Prop :=
  text ∉ [".", ".."] ∧ ∀ c ∈ ['\t', '\n', '\r'], c ∉ text.toList

instance (text : String) : Decidable (IsWrittenWhole text) :=
  -- Not by a search through all characters.
  haveI : Decidable (∀ c ∈ ['\t', '\n', '\r'], c ∉ text.toList) := List.decidableBAll _ _
  inferInstanceAs (Decidable (_ ∧ _))

variable {text written : String}

theorem keptChars_eq_toList_iff :
    keptChars text = text.toList ↔ ∀ c ∈ ['\t', '\n', '\r'], c ∉ text.toList := by
  simp only [keptChars, List.filter_eq_self, Bool.and_eq_true, bne_iff_ne, List.forall_mem_cons,
    List.not_mem_nil, false_imp_iff, implies_true, and_true]
  constructor
  · intro kept
    exact ⟨fun tab => (kept _ tab).1.1 rfl, fun line => (kept _ line).1.2 rfl,
      fun line => (kept _ line).2 rfl⟩
  · rintro ⟨noTab, noLine, noReturn⟩ c member
    exact ⟨⟨fun tab => noTab (tab ▸ member), fun line => noLine (line ▸ member)⟩,
      fun line => noReturn (line ▸ member)⟩

theorem writes_encodeSegment (whole : IsWrittenWhole text) : Writes text (encodeSegment text) := by
  refine ⟨?_, isInert_encodeSegment text⟩
  rw [percentDecode_encodeSegment, keptChars_eq_toList_iff.mpr whole.2]

/-- Only a text without characters is read back from an empty segment. -/
theorem Writes.eq_empty (writes : Writes text "") : text = "" := by
  have none : text.toList = [] := utf8Bytes_inj writes.1.symm
  exact String.toList_eq_nil_iff.mp none

/-- A text that is written whole is not taken for dots. -/
theorem of?_encodeSegment_of_whole (whole : IsWrittenWhole text) :
    DotSegment.of? (encodeSegment text) = none := by
  have kept := keptChars_eq_toList_iff.mpr whole.2
  cases dots : DotSegment.of? (encodeSegment text) with
  | none => rfl
  | some dot =>
      refine absurd ?_ whole.1
      cases dot with
      | here =>
          rw [of?_encodeSegment_eq_here_iff, kept] at dots
          have point : text = "." := String.toList_inj.mp dots
          simp [point]
      | up =>
          rw [of?_encodeSegment_eq_up_iff, kept] at dots
          have points : text = ".." := String.toList_inj.mp dots
          simp [points]

/-! ## One more segment -/

variable {path : List String}

/-- A path grows by one segment at most. -/
theorem length_extendPath_le (path : List String) (text : String) :
    (extendPath path text).length ≤ path.length + 1 := by
  have level : (if path = [""] then [] else path).length ≤ path.length := by
    split <;> simp
  unfold extendPath
  split
  · omega
  · unfold addSegment
    split <;> simp only [List.length_append, List.length_dropLast, List.length_singleton] <;> omega

/-- The segment by which a text may make a path longer: an empty one, or that of the text. -/
def Adds (text written : String) : Prop :=
  written = "" ∨ text ∉ [".", ".."] ∧ written = encodeSegment text

/-- How a path grows by one segment. -/
theorem exists_written_of_length_lt (grows : path.length < (extendPath path text).length) :
    path ≠ [""] ∧ ∃ written, extendPath path text = path ++ [written] ∧ Adds text written := by
  unfold extendPath at grows ⊢
  split at grows
  case isTrue => exact absurd grows (Nat.lt_irrefl _)
  case isFalse notDots =>
    have notDots' : text ∉ [".", ".."] := by simpa using notDots
    rw [if_neg notDots]
    by_cases root : path = [""]
    · -- At the root the segment takes the place of the empty one.
      have one : (addSegment [] (encodeSegment text)).length = 1 := by
        unfold addSegment
        split <;> rfl
      rw [if_pos root, one, root] at grows
      exact absurd grows (Nat.lt_irrefl _)
    · rw [if_neg root] at grows ⊢
      refine ⟨root, ?_⟩
      unfold addSegment at grows ⊢
      split at grows
      · exact ⟨_, rfl, Or.inr ⟨notDots', rfl⟩⟩
      · exact ⟨_, rfl, Or.inl rfl⟩
      · cases path with
        | nil => exact ⟨_, rfl, Or.inl rfl⟩
        | cons first others =>
            have level : ((first :: others).dropLast ++ [""]).length =
                (first :: others).length := by simp
            exact absurd (level ▸ grows) (Nat.lt_irrefl _)

/-- A text that is written whole adds its segment; at the root it takes the place of the empty
one. -/
theorem extendPath_of_whole (whole : IsWrittenWhole text) (path : List String) :
    extendPath path text = (if path = [""] then [] else path) ++ [encodeSegment text] := by
  have notDots : ¬(text = "." ∨ text = "..") := by simpa using whole.1
  rw [extendPath, if_neg notDots, addSegment, of?_encodeSegment_of_whole whole]

/-! ## More segments -/

/-- A path that ends in a segment that is not empty has more than an empty segment. -/
theorem append_ne_root (path : List String) {segment : String} (some : segment ≠ "") :
    path ++ [segment] ≠ [""] := by
  intro root
  have last := congrArg List.getLast? root
  rw [List.getLast?_concat] at last
  exact some (Option.some.inj last)

/-- **A path grows by no more segments than it is given.** -/
theorem length_foldl_extendPath_le (path texts : List String) :
    (texts.foldl extendPath path).length ≤ path.length + texts.length := by
  induction texts generalizing path with
  | nil => exact Nat.le_refl _
  | cons text texts ih =>
      have step := length_extendPath_le path text
      have run := ih (extendPath path text)
      rw [List.foldl_cons, List.length_cons]
      omega

/-- **Texts that are written whole add their segments**, unless they begin at a path with an empty
segment alone. -/
theorem foldl_extendPath_of_whole {texts : List String}
    (whole : ∀ text ∈ texts, text ≠ "" ∧ IsWrittenWhole text) (level : texts = [] ∨ path ≠ [""]) :
    texts.foldl extendPath path = path ++ texts.map encodeSegment := by
  induction texts generalizing path with
  | nil => exact (List.append_nil path).symm
  | cons text texts ih =>
      obtain ⟨⟨nonempty, first⟩, others⟩ := List.forall_mem_cons.mp whole
      have level' : path ++ [encodeSegment text] ≠ [""] :=
        append_ne_root path fun empty => nonempty (empty ▸ writes_encodeSegment first).eq_empty
      rw [List.foldl_cons, extendPath_of_whole first,
        if_neg (level.resolve_left (List.cons_ne_nil _ _)), ih others (Or.inr level'),
        List.append_assoc, List.map_cons, List.singleton_append]

/-- **How a path grows by as many segments as it is given**: each text adds one, which is empty or
that of the text. -/
theorem exists_written_of_length_le {texts : List String}
    (full : path.length + texts.length ≤ (texts.foldl extendPath path).length) :
    (texts = [] ∨ path ≠ [""]) ∧ ∃ written, texts.foldl extendPath path = path ++ written ∧
      List.Forall₂ Adds texts written := by
  induction texts generalizing path with
  | nil => exact ⟨Or.inl rfl, [], (List.append_nil path).symm, List.Forall₂.nil⟩
  | cons text texts ih =>
      rw [List.foldl_cons, List.length_cons] at full
      have run := length_foldl_extendPath_le (extendPath path text) texts
      have grows : path.length < (extendPath path text).length := by omega
      obtain ⟨level, segment, step, added⟩ := exists_written_of_length_lt grows
      rw [step] at full
      have full' : (path ++ [segment]).length + texts.length ≤
          (texts.foldl extendPath (path ++ [segment])).length := by
        rw [List.length_append, List.length_singleton]
        omega
      obtain ⟨-, written, others, addedOthers⟩ := ih full'
      refine ⟨Or.inr level, segment :: written, ?_, List.Forall₂.cons added addedOthers⟩
      rw [List.foldl_cons, step, others, List.append_assoc, List.singleton_append]

/-! ## Paths below a base -/

/-- A path, which at the root has one empty segment. -/
def rooted (path : List String) : List String := if path.isEmpty then [""] else path

theorem rooted_of_ne_nil (some : path ≠ []) : rooted path = path := by
  rw [rooted, if_neg (by simpa using some)]

theorem joinPath_eq_rooted (path texts : List String) :
    joinPath path texts = rooted (texts.foldl extendPath (openPath path)) := rfl

/-- A text that is read back from the segment that it adds is written whole. -/
theorem isWrittenWhole_of_writes (nonempty : text ≠ "") (writes : Writes text written)
    (adds : Adds text written) : IsWrittenWhole text := by
  rcases adds with rfl | ⟨notDots, rfl⟩
  · exact absurd writes.eq_empty nonempty
  · refine ⟨notDots, keptChars_eq_toList_iff.mp (utf8Bytes_inj ?_)⟩
    rw [← percentDecode_encodeSegment, writes.1]

theorem forall_isWrittenWhole {texts written : List String} (nonempty : ∀ text ∈ texts, text ≠ "")
    (writes : List.Forall₂ Writes texts written)
    (adds : List.Forall₂ Adds texts written) : ∀ text ∈ texts, IsWrittenWhole text := by
  induction writes with
  | nil => exact fun _ member => absurd member List.not_mem_nil
  | cons first _ ih =>
      obtain ⟨nonempty', others⟩ := List.forall_mem_cons.mp nonempty
      cases adds with
      | cons adds' addsOthers =>
          exact List.forall_mem_cons.mpr
            ⟨isWrittenWhole_of_writes nonempty' first adds', ih others addsOthers⟩

/-- **A path gets exactly one segment for each text, from which it is read back, if all texts are
written whole** and the path is not that of two slashes. -/
theorem joinPath_exact_iff {texts : List String} (nonempty : ∀ text ∈ texts, text ≠ "") :
    (∃ written, List.Forall₂ Writes texts written ∧
      joinPath path texts = rooted (openPath path ++ written)) ↔
      (∀ text ∈ texts, IsWrittenWhole text) ∧ (texts = [] ∨ openPath path ≠ [""]) := by
  constructor
  · rintro ⟨written, writes, joined⟩
    rcases eq_or_ne texts [] with rfl | some
    · exact ⟨fun _ member => absurd member List.not_mem_nil, Or.inl rfl⟩
    have written_ne : written ≠ [] := by
      rintro rfl
      exact some (List.forall₂_nil_right_iff.mp writes)
    rw [joinPath_eq_rooted, rooted_of_ne_nil (List.append_ne_nil_of_right_ne_nil _ written_ne)]
      at joined
    have reached : texts.foldl extendPath (openPath path) ≠ [] := by
      intro none
      -- Then the one segment would be that of the root, from which no text of these is read back.
      rw [none] at joined
      rcases List.append_eq_singleton_iff.mp joined.symm with ⟨-, root⟩ | ⟨-, nothing⟩
      · rw [root] at writes
        obtain ⟨text, others, only, _, rfl⟩ := List.forall₂_cons_right_iff.mp writes
        exact nonempty text List.mem_cons_self only.eq_empty
      · exact written_ne nothing
    rw [rooted_of_ne_nil reached] at joined
    have full : (openPath path).length + texts.length ≤
        (texts.foldl extendPath (openPath path)).length := by
      have length := congrArg List.length joined
      rw [List.length_append, ← writes.length_eq] at length
      exact Nat.le_of_eq length.symm
    obtain ⟨level, written', grown, added⟩ := exists_written_of_length_le full
    have same : written = written' := List.append_cancel_left (joined.symm.trans grown)
    subst same
    exact ⟨forall_isWrittenWhole nonempty writes added, level⟩
  · rintro ⟨whole, level⟩
    refine ⟨texts.map encodeSegment, ?_, ?_⟩
    · rw [List.forall₂_map_right_iff]
      exact List.forall₂_same.mpr fun text member => writes_encodeSegment (whole text member)
    · rw [joinPath_eq_rooted, foldl_extendPath_of_whole
        (fun text member => ⟨nonempty text member, whole text member⟩) level]

end StrategyDesk.WebUrl
