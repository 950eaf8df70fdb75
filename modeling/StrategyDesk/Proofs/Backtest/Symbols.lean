import StrategyDesk.Backtest.Form
import StrategyDesk.Proofs.Text.Blanks
import StrategyDesk.Proofs.Text.Pieces
import StrategyDesk.Proofs.Text.Uppercases

/-!
# Lists of symbols

What is typed as a list of symbols is read piece by piece, so that lists may be put together with a
comma. All symbols that are read have a normal form, in which they read back from any list that
spells them out.

## Main Definitions

* `IsSymbol` — the normal form of a symbol
* `Spells` — pieces that spell symbols out, between blanks and with empty pieces anywhere

## Main Statements

* `parseSymbols_append` — the symbols of two lists with a comma between them
* `isSymbol_of_mem_parseSymbols` — symbols that are read are in normal form
* `parseSymbols_intercalate` — symbols in normal form read back from what spells them out
* `symbol_lists_reread` — all of this
-/

namespace StrategyDesk

/-! ## Symbols -/

/-- The normal form of a symbol. -/
structure IsSymbol (symbol : String) : Prop where
  nonempty : symbol ≠ ""
  noComma : ',' ∉ symbol.toList
  visibleEnds : HasVisibleEnds symbol.toList
  uppercase : upper symbol = symbol

/-- The uppercase of a text has blanks at its ends only if the text has. -/
theorem HasVisibleEnds.flatMap_upperChar {text : List Char} (visible : HasVisibleEnds text) :
    HasVisibleEnds (text.flatMap upperChar) := by
  have visible' {c d : Char} (member : d ∈ upperChar c) (visible : isBlank c = false) :
      isBlank d = false := by
    refine Bool.eq_false_iff.mpr fun blank => ?_
    rw [isBlank_of_mem_upperChar member blank] at visible
    cases visible
  constructor
  · intro d first
    cases text with
    | nil => cases first
    | cons c rest =>
        rw [List.flatMap_cons, List.head?_append_of_ne_nil _ (upperChar_ne_nil c)] at first
        exact visible' (List.mem_of_mem_head? first) (visible.first c rfl)
  · intro d last
    rcases List.eq_nil_or_concat text with none | ⟨front, c, split⟩
    · rw [none] at last
      cases last
    · rw [split, List.concat_eq_append, List.flatMap_append, List.flatMap_singleton,
        List.getLast?_append_of_ne_nil _ (upperChar_ne_nil c)] at last
      exact visible' (List.mem_of_mem_getLast? last) (visible.last c (by simp [split]))

/-- The uppercase of a trimmed text without commas is a symbol. -/
theorem isSymbol_upper_trim {piece : String} (noComma : ',' ∉ piece.toList)
    (nonempty : upper (trim piece) ≠ "") : IsSymbol (upper (trim piece)) where
  nonempty := nonempty
  noComma comma := by
    rw [toList_upper, List.mem_flatMap] at comma
    obtain ⟨c, member, inside⟩ := comma
    rw [eq_comma_of_mem_upperChar inside, trim, String.toList_ofList] at member
    exact noComma ((trimChars_sublist piece.toList).mem member)
  visibleEnds := by
    rw [toList_upper, trim, String.toList_ofList]
    exact (hasVisibleEnds_trimChars piece.toList).flatMap_upperChar
  uppercase := upper_upper (trim piece)

/-! ## Lists -/

/-- **The symbols of two lists with a comma between them** are those of the one and the other. -/
theorem parseSymbols_append (a b : String) :
    parseSymbols (a ++ "," ++ b) = parseSymbols a ++ parseSymbols b := by
  have comma : "," = String.singleton ',' := rfl
  rw [parseSymbols, comma, splitText_append, List.map_append, List.filter_append]
  rfl

/-- **Symbols that are read are in normal form.** -/
theorem isSymbol_of_mem_parseSymbols {text symbol : String} (member : symbol ∈ parseSymbols text) :
    IsSymbol symbol := by
  obtain ⟨read, nonempty⟩ := List.mem_filter.mp member
  obtain ⟨piece, listed, rfl⟩ := List.mem_map.mp read
  obtain ⟨chars, split, rfl⟩ := List.mem_map.mp listed
  refine isSymbol_upper_trim (fun comma => ?_) (bne_iff_ne.mp nonempty)
  rw [String.toList_ofList] at comma
  exact (exists_mem_splitChars.mp ⟨chars, split, comma⟩).2 rfl

/-- A text without commas stands for one symbol at most. -/
theorem parseSymbols_of_noComma {piece : String} (noComma : ',' ∉ piece.toList) :
    parseSymbols piece = [upper (trim piece)].filter (· != "") := by
  rw [parseSymbols, splitText_of_notMem noComma, List.map_singleton]

/-! ## Spelling symbols out -/

/-- Pieces that spell symbols out, in this order: each symbol may stand between blanks, and pieces
of nothing but blanks may stand anywhere. -/
inductive Spells : List String → List String → Prop where
  | nil : Spells [] []
  | blank {pieces symbols : List String} {piece : String} (blank : isBlankText piece = true)
      (rest : Spells pieces symbols) : Spells (piece :: pieces) symbols
  | symbol {pieces symbols : List String} {before symbol after : String}
      (blank : isBlankText before = true) (blank' : isBlankText after = true)
      (rest : Spells pieces symbols) :
      Spells ((before ++ symbol ++ after) :: pieces) (symbol :: symbols)

theorem notMem_of_isBlankText {text : String} (blank : isBlankText text = true) :
    ',' ∉ text.toList := by
  intro comma
  have blank' : isBlank ',' = true := List.all_eq_true.mp blank ',' comma
  cases blank'

/-- A text of blanks stands for no symbol. -/
theorem parseSymbols_of_isBlankText {text : String} (blank : isBlankText text = true) :
    parseSymbols text = [] := by
  have none : upper (trim text) = "" := by
    rw [upper_eq_empty, trim, trimChars_eq_nil.mpr (List.all_eq_true.mp blank)]
  rw [parseSymbols_of_noComma (notMem_of_isBlankText blank), none]
  rfl

/-- A symbol between blanks stands for itself. -/
theorem IsSymbol.parseSymbols_padded {before symbol after : String} (normal : IsSymbol symbol)
    (blank : isBlankText before = true) (blank' : isBlankText after = true) :
    parseSymbols (before ++ symbol ++ after) = [symbol] := by
  have chars : (before ++ symbol ++ after).toList =
      before.toList ++ symbol.toList ++ after.toList := by
    rw [String.toList_append, String.toList_append]
  have noComma : ',' ∉ (before ++ symbol ++ after).toList := by
    rw [chars, List.mem_append, List.mem_append]
    rintro ((before | symbol) | after)
    · exact notMem_of_isBlankText blank before
    · exact normal.noComma symbol
    · exact notMem_of_isBlankText blank' after
  have nonempty : symbol.toList ≠ [] := fun none =>
    normal.nonempty (String.toList_inj.mp none)
  have trimmed : trim (before ++ symbol ++ after) = symbol := by
    rw [trim, chars, trimChars_padded nonempty normal.visibleEnds (List.all_eq_true.mp blank)
      (List.all_eq_true.mp blank'), String.ofList_toList]
  rw [parseSymbols_of_noComma noComma, trimmed, normal.uppercase]
  exact List.filter_cons_of_pos (bne_iff_ne.mpr normal.nonempty)

theorem parseSymbols_intercalate_cons (piece : String) (pieces : List String) :
    parseSymbols (",".intercalate (piece :: pieces)) =
      parseSymbols piece ++ parseSymbols (",".intercalate pieces) := by
  cases pieces with
  | nil =>
      rw [String.intercalate_singleton, String.intercalate_nil,
        @parseSymbols_of_isBlankText "" rfl, List.append_nil]
  | cons next rest => rw [String.intercalate_cons_cons, parseSymbols_append]

/-- **Symbols in normal form read back from what spells them out.** -/
theorem parseSymbols_intercalate {pieces symbols : List String} (spelt : Spells pieces symbols)
    (normal : ∀ symbol ∈ symbols, IsSymbol symbol) :
    parseSymbols (",".intercalate pieces) = symbols := by
  induction spelt with
  | nil => exact parseSymbols_of_isBlankText rfl
  | blank blank rest ih =>
      rw [parseSymbols_intercalate_cons, parseSymbols_of_isBlankText blank, ih normal,
        List.nil_append]
  | symbol blank blank' rest ih =>
      rw [List.forall_mem_cons] at normal
      rw [parseSymbols_intercalate_cons, normal.1.parseSymbols_padded blank blank', ih normal.2,
        List.singleton_append]

/-- **Lists of symbols.** They may be put together with a comma, all symbols that are read from one
are in normal form, and whatever spells these out with commas between its pieces is read as the same
symbols again. -/
theorem symbol_lists_reread :
    (∀ a b, parseSymbols (a ++ "," ++ b) = parseSymbols a ++ parseSymbols b) ∧
      ∀ text, (∀ symbol ∈ parseSymbols text, IsSymbol symbol) ∧
        ∀ pieces, Spells pieces (parseSymbols text) →
          parseSymbols (",".intercalate pieces) = parseSymbols text := by
  refine ⟨parseSymbols_append, fun text => ⟨fun symbol => isSymbol_of_mem_parseSymbols, ?_⟩⟩
  intro pieces spelt
  exact parseSymbols_intercalate spelt fun symbol => isSymbol_of_mem_parseSymbols

/-- Symbols of which one grows in uppercase, spelt out with more commas and blanks than needed. -/
theorem symbol_lists_reread_extraCommas :
    "SSE" ∈ parseSymbols " aapl, msft ,,ße" ∧ IsSymbol "SSE" ∧
      Spells ["", " AAPL", "MSFT\t", " ", "SSE"] (parseSymbols " aapl, msft ,,ße") ∧
      parseSymbols (",".intercalate ["", " AAPL", "MSFT\t", " ", "SSE"]) =
        parseSymbols " aapl, msft ,,ße" := by
  have read : parseSymbols " aapl, msft ,,ße" = ["AAPL", "MSFT", "SSE"] := by decide +kernel
  have member : "SSE" ∈ parseSymbols " aapl, msft ,,ße" := by
    rw [read]
    decide
  have spelt : Spells ["", " AAPL", "MSFT\t", " ", "SSE"] (parseSymbols " aapl, msft ,,ße") := by
    have pieces : ["", " AAPL", "MSFT\t", " ", "SSE"] =
        ["", " " ++ "AAPL" ++ "", "" ++ "MSFT" ++ "\t", " ", "" ++ "SSE" ++ ""] := by decide
    rw [read, pieces]
    exact .blank rfl (.symbol rfl rfl (.symbol rfl rfl (.blank rfl (.symbol rfl rfl .nil))))
  obtain ⟨normal, again⟩ := symbol_lists_reread.2 " aapl, msft ,,ße"
  exact ⟨member, normal "SSE" member, spelt, again _ spelt⟩

end StrategyDesk
