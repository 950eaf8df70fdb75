import StrategyDesk.Proofs.Client.Checks
import StrategyDesk.Proofs.Number.Digits
import StrategyDesk.Proofs.Text.Pieces
import StrategyDesk.Proofs.Text.Uppercases
import StrategyDesk.Settings.Validate

/-!
# Forms that are filled in from settings

The backtest form starts with texts of the settings.  The years of settings that are in order read
back, and so do the two numbers if they are finite.  But settings are in order also with numbers
that are not, and with symbols of which none is left, and then the form stands for nothing.

## Main Definitions

* `Binary64.IsShownBack` — a number reads back from the text that people are shown
* `BacktestDefaults.IsStartable` — what settings do not make sure of

## Main Statements

* `parseSymbols_ne_nil_iff` — some symbol is left of a text unless it is made of blanks and commas
* `Settings.form_parses_iff` — when the form of settings that are in order stands for something,
  and for what
* `Settings.valid_form_may_fail` — it need not
-/

namespace StrategyDesk

/-! ## Symbols -/

/-- A symbol is left of a piece unless the piece is made of blanks. -/
theorem upper_trim_ne_empty_iff {piece : List Char} :
    upper (trim (String.ofList piece)) ≠ "" ↔ ∃ c ∈ piece, isBlank c = false := by
  rw [Ne, upper_eq_empty, trim, String.toList_ofList, ← String.toList_inj, String.toList_ofList]
  show ¬trimChars piece = [] ↔ _
  rw [trimChars_eq_nil]
  push Not
  simp only [ne_eq, Bool.not_eq_true]

/-- The pieces of which symbols are left. -/
theorem parseSymbols_ne_nil_iff_pieces {text : String} :
    parseSymbols text ≠ [] ↔
      ∃ piece ∈ splitChars ',' text.toList, ∃ c ∈ piece, isBlank c = false := by
  unfold parseSymbols splitText
  rw [Ne, List.filter_eq_nil_iff]
  push Not
  simp only [List.map_map, List.mem_map, Function.comp_apply, bne_iff_ne,
    ← upper_trim_ne_empty_iff]
  constructor
  · rintro ⟨-, ⟨piece, member, rfl⟩, some⟩
    exact ⟨piece, member, some⟩
  · rintro ⟨piece, member, some⟩
    exact ⟨_, ⟨piece, member, rfl⟩, some⟩

/-- **Some symbol is left of a text** unless the text is made of blanks and commas. -/
theorem parseSymbols_ne_nil_iff {text : String} :
    parseSymbols text ≠ [] ↔ ∃ c ∈ text.toList, c ≠ ',' ∧ isBlank c = false := by
  rw [parseSymbols_ne_nil_iff_pieces]
  constructor
  · rintro ⟨piece, member, c, inside, visible⟩
    obtain ⟨there, apart⟩ := exists_mem_splitChars.mp ⟨piece, member, inside⟩
    exact ⟨c, there, apart, visible⟩
  · rintro ⟨c, there, apart, visible⟩
    obtain ⟨piece, member, inside⟩ := exists_mem_splitChars.mpr ⟨there, apart⟩
    exact ⟨piece, member, c, inside, visible⟩

/-! ## Numbers -/

/-- Whether characters are no blanks can be computed. -/
theorem visible_of_all {text : List Char} (all : text.all (fun c => !isBlank c) = true) :
    ∀ c ∈ text, isBlank c = false :=
  fun c member => by simpa using List.all_eq_true.mp all c member

/-- A decimal number written out in positions has digits and a point. -/
theorem Decimal.positional_visible (d : Decimal) (wholeWithPoint : Bool) :
    ∀ c ∈ d.positional wholeWithPoint, isBlank c = false := by
  have digits : ∀ c ∈ decimalDigits d.digits, isBlank c = false :=
    fun c member => isBlank_of_isDigit (isDigit_toDigits _ c member)
  have zeros (n : Nat) : ∀ c ∈ List.replicate n '0', isBlank c = false := by
    intro c member
    rw [List.eq_of_mem_replicate member]
    rfl
  unfold positional
  extract_lets written places padded whole
  have padding : ∀ c ∈ padded, isBlank c = false :=
    List.forall_mem_append.mpr ⟨zeros _, digits⟩
  split
  · refine List.forall_mem_append.mpr ⟨List.forall_mem_append.mpr ⟨digits, zeros _⟩, ?_⟩
    split
    · exact visible_of_all (by decide)
    · exact nofun
  · refine List.forall_mem_append.mpr ⟨fun c member => padding c (List.mem_of_mem_take member), ?_⟩
    exact List.forall_mem_cons.mpr ⟨rfl, fun c member => padding c (List.mem_of_mem_drop member)⟩

namespace Binary64

/-- The text that people are shown has no blanks. -/
theorem plain_visible (x : Binary64) : ∀ c ∈ x.plain.toList, isBlank c = false := by
  cases x with
  | nan => exact visible_of_all (by decide)
  | infinite negative => cases negative <;> exact visible_of_all (by decide)
  | finite negative mantissa exponent fits =>
      unfold plain format plainLayout
      dsimp only
      rw [String.toList_ofList]
      refine List.forall_mem_append.mpr ⟨?_, Decimal.positional_visible _ _⟩
      cases negative <;> exact visible_of_all (by decide)

/-- A number reads back from the text that people are shown. -/
def IsShownBack (x : Binary64) : Prop := parse? x.plain.toList = some x

instance (x : Binary64) : Decidable x.IsShownBack := inferInstanceAs (Decidable (_ = _))

end Binary64

/-- A whole number reads back. -/
theorem parseWord?_toDigits {bound n : Nat} (below : n < bound) :
    parseWord? bound (Nat.toDigits 10 n) = some n := by
  have all := isDigit_toDigits n
  unfold parseWord?
  extract_lets digits value
  have same : digits = Nat.toDigits 10 n := by
    simp only [digits]
    split
    · next rest signed =>
      have digit : '+'.isDigit := all _ (signed ▸ List.mem_cons_self)
      exact absurd digit (by decide)
    · rfl
  have read : value = n := by simp only [value, same, digitsValue_toDigits]
  have digitsOnly : digits ≠ [] ∧ digits.all Char.isDigit = true := by
    rw [same]
    exact ⟨Nat.toDigits_ne_nil, List.all_eq_true.mpr all⟩
  rw [if_pos digitsOnly, read, if_pos below]

namespace BacktestForm

/-- A number that reads back is a number of the form. -/
theorem parseNumber_plain {x : Binary64} (finite : x.isFinite = true) (shown : x.IsShownBack)
    (field : String) : parseNumber field x.plain = .ok x := by
  unfold parseNumber
  rw [trimChars_of_visible x.plain_visible, shown]
  exact if_pos finite

/-- The words for numbers that are not finite are none of the form. -/
theorem parseNumber_plain_of_not_isFinite {x : Binary64} (endless : x.isFinite = false)
    (field : String) :
    parseNumber field x.plain = .error (.refused (.notANumber field x.plain)) := by
  cases x with
  | finite negative mantissa exponent fits => cases endless
  | nan => rfl
  | infinite negative => cases negative <;> rfl

/-- A positive number of years reads back. -/
theorem parseYears_toString {years : UInt32} (positive : years ≠ 0) :
    parseYears (toString years) = .ok years := by
  have text : (toString years).toList = Nat.toDigits 10 years.toNat := Nat.toList_repr
  have visible : ∀ c ∈ Nat.toDigits 10 years.toNat, isBlank c = false :=
    fun c member => isBlank_of_isDigit (isDigit_toDigits _ c member)
  have below : years.toNat < wordSize 32 := years.toNat_lt
  have above : 0 < years.toNat := Nat.pos_of_ne_zero fun none => positive (UInt32.toNat_inj.mp none)
  unfold parseYears
  rw [text, trimChars_of_visible visible, parseWord?_toDigits below]
  dsimp only
  rw [if_pos above, UInt32.ofNat_toNat]

end BacktestForm

/-! ## Settings that are in order -/

/-- What settings do not make sure of: a symbol, and numbers that are finite. -/
structure BacktestDefaults.IsStartable (d : BacktestDefaults) : Prop where
  symbol : ∃ c ∈ d.symbols.toList, c ≠ ',' ∧ isBlank c = false
  cash : d.startingCash.isFinite = true
  slippage : d.slippageBps.isFinite = true

namespace BacktestDefaults

variable {d : BacktestDefaults}

/-- A form that stands for something was filled in from a symbol and finite numbers. -/
theorem isStartable_of_parse {params : BacktestParams}
    (parsed : (BacktestForm.ofDefaults d).parse = .ok params) : d.IsStartable := by
  obtain ⟨symbols, -, -, cash, slippage⟩ := BacktestForm.parse_eq_ok parsed
  have finite {field : String} {x y : Binary64}
      (read : BacktestForm.parseNumber field x.plain = .ok y) : x.isFinite = true := by
    by_contra endless
    rw [BacktestForm.parseNumber_plain_of_not_isFinite (Bool.not_eq_true _ ▸ endless)] at read
    cases read
  exact ⟨parseSymbols_ne_nil_iff.mp symbols, finite cash, finite slippage⟩

/-- The form stands for what it was filled in from. -/
theorem parse_ofDefaults (positive : d.years ≠ 0) (startable : d.IsStartable)
    (shown : d.startingCash.IsShownBack) (shown' : d.slippageBps.IsShownBack) :
    (BacktestForm.ofDefaults d).parse =
      .ok ⟨parseSymbols d.symbols, d.years, d.startingCash, d.slippageBps⟩ := by
  have named : ¬(parseSymbols d.symbols).isEmpty = true :=
    fun none => parseSymbols_ne_nil_iff.mpr startable.symbol (List.isEmpty_iff.mp none)
  unfold BacktestForm.parse BacktestForm.ofDefaults
  dsimp only
  rw [if_neg named, BacktestForm.parseYears_toString positive,
    BacktestForm.parseNumber_plain startable.cash shown,
    BacktestForm.parseNumber_plain startable.slippage shown']
  rfl

end BacktestDefaults

namespace Settings

/-- Settings that are in order have some years. -/
theorem years_ne_zero {s : Settings} (valid : s.validate = .ok ()) : s.backtest.years ≠ 0 := by
  intro none
  -- The years come after the addresses, the intervals, the number of lines and the timeouts.
  unfold validate at valid
  obtain ⟨_, _, valid⟩ := BacktestForm.bind_eq_ok.mp valid
  obtain ⟨_, _, valid⟩ := BacktestForm.bind_eq_ok.mp valid
  obtain ⟨_, _, valid⟩ := BacktestForm.bind_eq_ok.mp valid
  obtain ⟨_, _, valid⟩ := BacktestForm.bind_eq_ok.mp valid
  obtain ⟨_, years, _⟩ := BacktestForm.bind_eq_ok.mp valid
  rw [none] at years
  cases years

/-- **The form of settings that are in order** stands for something exactly if they name a symbol
and their numbers are finite.  It stands for the symbols, the years and the numbers of the settings
then. -/
theorem form_parses_iff {s : Settings} (valid : s.validate = .ok ())
    (shown : ∀ x ∈ [s.backtest.startingCash, s.backtest.slippageBps],
      x.isFinite = true → x.IsShownBack) :
    ((∃ params, (BacktestForm.ofDefaults s.backtest).parse = .ok params) ↔
        s.backtest.IsStartable) ∧
      ∀ params, (BacktestForm.ofDefaults s.backtest).parse = .ok params →
        params.years = s.backtest.years ∧ params.startingCash = s.backtest.startingCash ∧
          params.slippageBps = s.backtest.slippageBps ∧
          params.symbols = parseSymbols s.backtest.symbols ∧ params.symbols ≠ [] := by
  have parses (startable : s.backtest.IsStartable) := BacktestDefaults.parse_ofDefaults
    (years_ne_zero valid) startable (shown _ (by simp) startable.cash)
    (shown _ (by simp) startable.slippage)
  constructor
  · constructor
    · rintro ⟨params, parsed⟩
      exact BacktestDefaults.isStartable_of_parse parsed
    · intro startable
      exact ⟨_, parses startable⟩
  · intro params parsed
    have startable := BacktestDefaults.isStartable_of_parse parsed
    obtain rfl := Except.ok.inj ((parses startable).symm.trans parsed)
    exact ⟨rfl, rfl, rfl, rfl, parseSymbols_ne_nil_iff.mpr startable.symbol⟩

/-- The settings that a client has without a file are in order, and its form starts a backtest. -/
theorem form_parses_iff_default :
    let s : Settings := {}
    s.validate = .ok () ∧ ∃ params, (BacktestForm.ofDefaults s.backtest).parse = .ok params ∧
      params.years = 2 ∧ params.symbols ≠ [] := by
  intro s
  have valid : s.validate = .ok () := by decide +kernel
  have shown : ∀ x ∈ [s.backtest.startingCash, s.backtest.slippageBps],
      x.isFinite = true → x.IsShownBack := by decide +kernel
  obtain ⟨parses, meaning⟩ := form_parses_iff valid shown
  have startable : s.backtest.IsStartable :=
    ⟨⟨'A', by decide, by decide, by decide⟩, by decide, by decide⟩
  obtain ⟨params, parsed⟩ := parses.mpr startable
  obtain ⟨years, -, -, -, symbols⟩ := meaning params parsed
  exact ⟨valid, params, parsed, years, symbols⟩

/-- **Settings that are in order need not fill in a usable form**: not-a-number is not refused as
the starting cash. -/
theorem valid_form_may_fail :
    ¬∀ s : Settings, s.validate = .ok () →
      ∃ params, (BacktestForm.ofDefaults s.backtest).parse = .ok params := by
  intro usable
  have valid : Settings.validate { backtest := { startingCash := .nan } } = .ok () := by
    decide +kernel
  obtain ⟨params, parsed⟩ := usable _ valid
  exact absurd (BacktestDefaults.isStartable_of_parse parsed).cash (by decide)

end Settings

end StrategyDesk
