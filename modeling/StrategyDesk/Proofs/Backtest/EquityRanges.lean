import StrategyDesk.Proofs.Backtest.Curves
import StrategyDesk.Proofs.Number.Digits
import StrategyDesk.Proofs.Number.Ranges
import StrategyDesk.Terminal.Lines

/-!
# The range of an equity curve

The report on a backtest has one line with the range of the equity.  It tells the lowest and the
highest equity of the points that are kept of the curve, each to the nearest hundredth.  A curve
with few points is kept as it is, so that this is its own range; a longer one may have its lowest or
its highest point among those that are left out.

## Main Definitions

* `Spans` — the lowest and the highest of some numbers
* `Shows` — a text with two decimals for the hundredths nearest to a number
* `rangeLine`, `isRangeLine` — the line of the range, and how it begins

## Main Statements

* `foldl_pick` — what is picked from items one after the other comes before all of them
* `Binary64.shows_fixed` — the text of a number with two decimals
* `Palette.filter_backtestLines` — the only line of the report that tells a range
* `equity_range_of_kept` — which range it tells, and when it is that of the whole curve
* `equity_range_may_miss` — it is not always
-/

namespace StrategyDesk

/-! ## The lowest and the highest number -/

/-- What is picked from items, one against the next, is one of them and comes before all of them, if
each pick is one of two and comes before both. -/
theorem foldl_pick {α : Type} {pick : α → α → α} {before : α → α → Prop} {good : α → Prop}
    (refl : ∀ a, before a a) (trans : ∀ a b c, before a b → before b c → before a c)
    (choice : ∀ a b, pick a b = a ∨ pick a b = b)
    (both : ∀ a b, good a → good b → before (pick a b) a ∧ before (pick a b) b)
    (rest : List α) : ∀ first, (∀ a ∈ first :: rest, good a) →
      rest.foldl pick first ∈ first :: rest ∧
        ∀ a ∈ first :: rest, before (rest.foldl pick first) a := by
  induction rest with
  | nil =>
      intro first _
      exact ⟨List.mem_cons_self, fun a member => List.mem_singleton.mp member ▸ refl first⟩
  | cons second rest ih =>
      intro first all
      obtain ⟨good, others⟩ := List.forall_mem_cons.mp all
      obtain ⟨good', later⟩ := List.forall_mem_cons.mp others
      obtain ⟨before, before'⟩ := both first second good good'
      have picked := choice first second
      have fine : ∀ a ∈ pick first second :: rest, _ := List.forall_mem_cons.mpr
        ⟨by rcases picked with same | same <;> rw [same] <;> assumption, later⟩
      obtain ⟨member, ahead⟩ := ih (pick first second) fine
      obtain ⟨ahead, behind⟩ := List.forall_mem_cons.mp ahead
      rw [List.foldl_cons]
      refine ⟨?_, List.forall_mem_cons.mpr
        ⟨trans _ _ _ ahead before, List.forall_mem_cons.mpr ⟨trans _ _ _ ahead before', behind⟩⟩⟩
      rcases List.mem_cons.mp member with here | there
      · rw [here]
        rcases picked with same | same <;> rw [same] <;> simp
      · exact List.mem_cons_of_mem _ (List.mem_cons_of_mem _ there)

/-- The lowest and the highest of some numbers. -/
structure Spans (numbers : List Binary64) (low high : Binary64) : Prop where
  low_mem : low ∈ numbers
  high_mem : high ∈ numbers
  low_le : ∀ x ∈ numbers, low.toRat ≤ x.toRat
  le_high : ∀ x ∈ numbers, x.toRat ≤ high.toRat

namespace Binary64

variable {x y : Binary64}

theorem isNaN_of_isFinite (finite : x.isFinite = true) : x.isNaN = false := by
  cases x with
  | infinite _ | nan => cases finite
  | finite _ _ _ _ => rfl

theorem min_eq_or (x y : Binary64) : x.min y = x ∨ x.min y = y := by
  unfold min
  split
  · exact .inr rfl
  · split
    · exact .inr rfl
    · exact .inl rfl

theorem max_eq_or (x y : Binary64) : x.max y = x ∨ x.max y = y := by
  unfold max
  split
  · exact .inr rfl
  · split
    · exact .inr rfl
    · exact .inl rfl

/-- The smaller of two finite numbers is not above either of them. -/
theorem toRat_min_le (finite : x.isFinite = true) (finite' : y.isFinite = true) :
    (x.min y).toRat ≤ x.toRat ∧ (x.min y).toRat ≤ y.toRat := by
  unfold min
  rw [isNaN_of_isFinite finite, if_neg Bool.false_ne_true]
  split
  · next below => exact ⟨((lt_iff finite' finite).mp below).le, le_rfl⟩
  · next notBelow =>
    rw [lt_iff finite' finite, not_lt] at notBelow
    exact ⟨le_rfl, notBelow⟩

/-- The larger of two finite numbers is not below either of them. -/
theorem le_toRat_max (finite : x.isFinite = true) (finite' : y.isFinite = true) :
    x.toRat ≤ (x.max y).toRat ∧ y.toRat ≤ (x.max y).toRat := by
  unfold max
  rw [isNaN_of_isFinite finite, if_neg Bool.false_ne_true]
  split
  · next below => exact ⟨((lt_iff finite finite').mp below).le, le_rfl⟩
  · next notBelow =>
    rw [lt_iff finite finite', not_lt] at notBelow
    exact ⟨le_rfl, notBelow⟩

end Binary64

/-- **The range of a curve** is that of its equities. -/
theorem spans_equityRange? {curve : List EquityPoint} (nonempty : curve ≠ [])
    (finite : ∀ point ∈ curve, point.equity.isFinite = true) :
    ∃ low high, Palette.equityRange? curve = some (low, high) ∧
      Spans (curve.map (·.equity)) low high := by
  obtain ⟨point, others, rfl⟩ := List.exists_cons_of_ne_nil nonempty
  have all : ∀ x ∈ point.equity :: others.map (·.equity), x.isFinite = true := by
    simpa using finite
  obtain ⟨low_mem, low_le⟩ := @foldl_pick _ Binary64.min (fun x y => x.toRat ≤ y.toRat) _
    (fun _ => le_rfl) (fun _ _ _ => le_trans) Binary64.min_eq_or
    (fun _ _ => Binary64.toRat_min_le) _ _ all
  obtain ⟨high_mem, le_high⟩ := @foldl_pick _ Binary64.max (fun x y => y.toRat ≤ x.toRat) _
    (fun _ => le_rfl) (fun _ _ _ below below' => below'.trans below) Binary64.max_eq_or
    (fun _ _ => Binary64.le_toRat_max) _ _ all
  exact ⟨_, _, rfl, low_mem, high_mem, low_le, le_high⟩

/-! ## Two decimals -/

/-- A text of digits with a point before the last two stands for a number of hundredths. -/
def ReadsHundredths (text : String) (hundredths : ℤ) : Prop :=
  ∃ (negative : Bool) (whole decimals : List Char),
    text = String.ofList ((if negative then ['-'] else []) ++ whole ++ '.' :: decimals) ∧
    whole ≠ [] ∧ decimals.length = 2 ∧ (∀ c ∈ whole ++ decimals, c.isDigit = true) ∧
    hundredths = if negative then -(digitsValue 0 (whole ++ decimals) : ℤ)
      else (digitsValue 0 (whole ++ decimals) : ℤ)

/-- A text stands for the hundredths nearest to a number. -/
def Shows (text : String) (number : ℚ) : Prop :=
  ∃ hundredths : ℤ, ReadsHundredths text hundredths ∧ |(hundredths : ℚ) / 100 - number| ≤ 1 / 200

namespace Binary64

variable {x : Binary64}

/-- The text of a number with two decimals is that of its quotient, rounded to hundredths. -/
theorem readsHundredths_fixed {negative : Bool} {num den : ℕ}
    (ratio : x.ratio? = some (negative, num, den)) :
    ReadsHundredths (x.fixed 2)
      (if negative then -(roundQuotient .toEven (num * 100) den : ℤ)
        else (roundQuotient .toEven (num * 100) den : ℤ)) := by
  let scaled := Nat.toDigits 10 (roundQuotient .toEven (num * 100) den)
  let padded := List.replicate (3 - scaled.length) '0' ++ scaled
  have size : 3 ≤ padded.length := by
    rw [List.length_append, List.length_replicate]
    omega
  have text : x.fixed 2 = String.ofList ((if negative then ['-'] else []) ++
      padded.take (padded.length - 2) ++ '.' :: padded.drop (padded.length - 2)) := by
    cases x with
    | infinite _ | nan => cases ratio
    | finite _ _ _ _ =>
        dsimp only [fixed]
        rw [ratio]
        rfl
  have digits : ∀ c ∈ padded, c.isDigit = true := by
    refine List.forall_mem_append.mpr ⟨?_, isDigit_toDigits _⟩
    intro c member
    rw [(List.mem_replicate.mp member).2]
    rfl
  refine ⟨negative, _, _, text, ?_, ?_, ?_, ?_⟩
  · rw [ne_eq, ← List.length_eq_zero_iff, List.length_take]
    omega
  · rw [List.length_drop]
    omega
  · rwa [List.take_append_drop]
  · rw [List.take_append_drop, digitsValue_zeros_toDigits]

/-- **The text of a number with two decimals** shows the number to the nearest hundredth. -/
theorem shows_fixed (finite : x.isFinite = true) : Shows (x.fixed 2) x.toRat := by
  obtain ⟨num, den, ratio, positive, -⟩ := ratio?_of_isFinite finite
  refine ⟨_, readsHundredths_fixed ratio, ?_⟩
  have nearest := abs_roundQuotient_sub_le .toEven (num * 100) positive
  rw [Nat.cast_mul, Nat.cast_ofNat, mul_div_right_comm] at nearest
  rw [toRat_of_ratio? ratio]
  generalize (num : ℚ) / den = quotient at nearest ⊢
  obtain ⟨above, below⟩ := abs_le.mp nearest
  rw [abs_le]
  split <;> push_cast <;> constructor <;> linarith

end Binary64

/-! ## The line of the range -/

/-- How the line of the range begins. -/
def rangeStart : String := "Equity range "

/-- The line begins as that of the range does. -/
def isRangeLine (line : String) : Bool := rangeStart.toList.isPrefixOf line.toList

/-- The line of a range, and of how many points it is that. -/
def rangeLine (low high : Binary64) (points : ℕ) : String :=
  rangeStart ++ low.fixed 2 ++ " .. " ++ high.fixed 2 ++ s!" over {points} points"

theorem isRangeLine_rangeLine (low high : Binary64) (points : ℕ) :
    isRangeLine (rangeLine low high points) = true := by
  rw [isRangeLine, List.isPrefixOf_iff_prefix]
  simp [rangeLine, String.toList_append]

/-- Both values come before what the line tells of the points. -/
theorem prefix_rangeLine (low high : Binary64) (points : ℕ) :
    (rangeStart ++ low.fixed 2 ++ " .. " ++ high.fixed 2).toList <+:
      (rangeLine low high points).toList :=
  ⟨_, String.toList_append.symm⟩

/-- A line that begins with another text is not that of the range. -/
theorem isRangeLine_append (start rest : String)
    (apart : ¬rangeStart.toList <+: start.toList ∧ ¬start.toList <+: rangeStart.toList) :
    isRangeLine (start ++ rest) = false := by
  rw [isRangeLine, Bool.eq_false_iff, ne_eq, List.isPrefixOf_iff_prefix, String.toList_append]
  intro begins
  rcases List.prefix_or_prefix_of_prefix begins (List.prefix_append _ _) with longer | shorter
  · exact apart.1 longer
  · exact apart.2 shorter

namespace Palette

variable {job : BacktestJob} {result : BacktestResult} {low high : Binary64}

/-- **The only line of the report that tells a range.** -/
theorem filter_backtestLines (palette : Palette) (finished : job.result = some result)
    (range : equityRange? (downsample result.equityCurve maxChartPoints) = some (low, high)) :
    (palette.backtestLines job).filter isRangeLine =
      [rangeLine low high (downsample result.equityCurve maxChartPoints).length] := by
  have fallback : isRangeLine
      (palette.paint .yellow "Engine fell back to its default strategy") = false := by
    cases palette with
    | plain => exact isRangeLine_append _ _ (by decide)
    | colored =>
        simp only [paint, paintColumn, Style.opening, String.append_assoc]
        exact isRangeLine_append _ _ (by decide)
  have trades : ((result.trades.take 10).map tradeLine).filter isRangeLine = [] := by
    refine List.filter_eq_nil_iff.mpr (List.forall_mem_map.mpr fun trade _ => ?_)
    simp only [tradeLine, String.append_assoc, Bool.not_eq_true]
    exact isRangeLine_append _ _ (by decide)
  unfold backtestLines
  rw [finished]
  simp only [range, List.filter_append, trades, Option.map_some, Option.toList_some]
  change _ ++ _ ++ List.filter isRangeLine [rangeLine low high _] ++ [] = _
  rw [List.filter_cons_of_pos (isRangeLine_rangeLine _ _ _), List.filter_nil, List.append_nil,
    List.append_left_eq_self, List.append_eq_nil_iff]
  constructor
  · -- the key figures
    simp (disch := decide) only [String.append_assoc, List.filter_cons, isRangeLine_append]
    rfl
  · split
    · exact List.filter_cons_of_neg (Bool.not_eq_true _ ▸ fallback)
    · rfl

end Palette

/-! ## What is kept of a curve -/

section Kept

variable {α : Type} {curve : List α} {limit : ℕ}

/-- No points are made up. -/
theorem downsample_subset (several : 2 ≤ limit) : downsample curve limit ⊆ curve := by
  rcases Nat.lt_or_ge limit curve.length with long | short
  · intro point member
    have place : some point ∈ (downsample curve limit).map some := List.mem_map_of_mem member
    rw [map_some_downsample several long] at place
    obtain ⟨i, -, found⟩ := List.mem_map.mp place
    exact List.mem_of_getElem? found
  · rw [downsample_of_short short]
    exact List.Subset.refl curve

/-- Something is kept of a curve with a point. -/
theorem downsample_ne_nil (several : 2 ≤ limit) (nonempty : curve ≠ []) :
    downsample curve limit ≠ [] := by
  rcases Nat.lt_or_ge limit curve.length with long | short
  · intro none
    have places := map_some_downsample several long
    rw [none, List.map_append] at places
    exact List.append_ne_nil_of_right_ne_nil _ (List.cons_ne_nil _ _) places.symm
  · rwa [downsample_of_short short]

end Kept

/-- Some of the numbers is the lowest of all, and some the highest. -/
def HoldsEnds (numbers all : List Binary64) : Prop :=
  (∃ x ∈ numbers, ∀ y ∈ all, x.toRat ≤ y.toRat) ∧ ∃ x ∈ numbers, ∀ y ∈ all, y.toRat ≤ x.toRat

/-- The lowest and the highest of some numbers are those of all exactly if the lowest and the
highest of all are among them. -/
theorem Spans.all_iff {numbers all : List Binary64} {low high : Binary64}
    (spans : Spans numbers low high) (subset : numbers ⊆ all) :
    Spans all low high ↔ HoldsEnds numbers all := by
  constructor
  · intro whole
    exact ⟨⟨low, spans.low_mem, whole.low_le⟩, high, spans.high_mem, whole.le_high⟩
  · rintro ⟨⟨lowest, lowest_mem, lowest_le⟩, highest, highest_mem, le_highest⟩
    exact
      { low_mem := subset spans.low_mem
        high_mem := subset spans.high_mem
        low_le := fun x member => (spans.low_le lowest lowest_mem).trans (lowest_le x member)
        le_high := fun x member => (le_highest x member).trans (spans.le_high highest highest_mem) }

/-! ## The range that is told -/

/-- **The range that a report tells.** Of each finished backtest whose curve has a point, one line
of the report tells a range. It shows the lowest and the highest equity of the points that are kept
of the curve, each to the nearest hundredth. Before they are rounded, these two are the lowest and
the highest of the whole curve exactly if both of its ends are among the points that are kept, and
so for each curve with few points. -/
theorem equity_range_of_kept (palette : Palette) {job : BacktestJob} {result : BacktestResult}
    (finished : job.result = some result) (nonempty : result.equityCurve ≠ [])
    (finite : ∀ point ∈ result.equityCurve, point.equity.isFinite = true) :
    let kept := downsample result.equityCurve maxChartPoints
    let equities := result.equityCurve.map (·.equity)
    ∃ low high,
      (palette.backtestLines job).filter isRangeLine = [rangeLine low high kept.length] ∧
      Shows (low.fixed 2) low.toRat ∧ Shows (high.fixed 2) high.toRat ∧
      Spans (kept.map (·.equity)) low high ∧
      (Spans equities low high ↔ HoldsEnds (kept.map (·.equity)) equities) ∧
      (result.equityCurve.length ≤ maxChartPoints → Spans equities low high) := by
  intro kept equities
  have several : 2 ≤ maxChartPoints := by decide
  have subset : kept ⊆ result.equityCurve := downsample_subset several
  obtain ⟨low, high, range, spans⟩ := spans_equityRange? (downsample_ne_nil several nonempty)
    fun point member => finite point (subset member)
  have shows_of_mem : ∀ x ∈ kept.map (·.equity), Shows (x.fixed 2) x.toRat :=
    List.forall_mem_map.mpr fun point member => Binary64.shows_fixed (finite point (subset member))
  refine ⟨low, high, palette.filter_backtestLines finished range, shows_of_mem low spans.low_mem,
    shows_of_mem high spans.high_mem, spans, spans.all_iff (List.map_subset _ subset), ?_⟩
  intro short
  rwa [downsample_of_short short] at spans

/-- A point of a curve. -/
def pointAt (equity : ℕ) : EquityPoint := ⟨none, .ofNat equity⟩

/-- A finished backtest with a curve. -/
def finishedWith (curve : List EquityPoint) : BacktestJob :=
  { BacktestJob.submitted "bt-1" with
    status := .completed
    result := some ⟨.none, curve, [], none, none⟩ }

/-- Of a late rise, 102 points are kept, and with them the last two, which are the ends. -/
theorem equity_range_of_kept_lateRise :
    let curve := List.replicate 200 (pointAt 3) ++ [pointAt 1, pointAt 5]
    let kept := downsample curve maxChartPoints
    (∀ point ∈ curve, point.equity.isFinite = true) ∧
      (Palette.plain.backtestLines (finishedWith curve)).filter isRangeLine =
        ["Equity range 1.00 .. 5.00 over 102 points"] ∧
      ∃ low high,
        (Palette.plain.backtestLines (finishedWith curve)).filter isRangeLine =
          [rangeLine low high kept.length] ∧
        Spans (curve.map (·.equity)) low high ∧ Shows (high.fixed 2) high.toRat := by
  intro curve kept
  have finite : ∀ point ∈ curve, point.equity.isFinite = true := by decide +kernel
  have text : (Palette.plain.backtestLines (finishedWith curve)).filter isRangeLine =
      ["Equity range 1.00 .. 5.00 over 102 points"] := by decide +kernel
  obtain ⟨low, high, line, -, shown, -, ends, -⟩ :=
    @equity_range_of_kept .plain (finishedWith curve) _ rfl (by decide) finite
  have held : HoldsEnds (kept.map (·.equity)) (curve.map (·.equity)) :=
    ⟨⟨.ofNat 1, by decide +kernel, by decide +kernel⟩,
      .ofNat 5, by decide +kernel, by decide +kernel⟩
  exact ⟨finite, text, low, high, line, ends.mpr held, shown⟩

/-- Of 201 points, each second one is kept from the first on.  A rise at the second point is not
told: no line tells the range of the whole curve. -/
theorem equity_range_may_miss :
    let curve := pointAt 1 :: pointAt 5 :: List.replicate 199 (pointAt 1)
    let equities := curve.map (·.equity)
    let ranges := (Palette.plain.backtestLines (finishedWith curve)).filter isRangeLine
    (∀ point ∈ curve, point.equity.isFinite = true) ∧
      ranges = ["Equity range 1.00 .. 1.00 over 101 points"] ∧
      Spans equities (.ofNat 1) (.ofNat 5) ∧
      ¬∃ low high points, Spans equities low high ∧ rangeLine low high points ∈ ranges := by
  intro curve equities ranges
  have text : ranges = ["Equity range 1.00 .. 1.00 over 101 points"] := by decide +kernel
  have whole : Spans equities (.ofNat 1) (.ofNat 5) := by
    constructor <;> decide +kernel
  refine ⟨by decide +kernel, text, whole, ?_⟩
  rintro ⟨low, high, points, spans, member⟩
  have five : high = .ofNat 5 := by
    have top := spans.le_high _ whole.high_mem
    have others : ∀ x ∈ equities, x = .ofNat 5 ∨ x.toRat < (Binary64.ofNat 5).toRat := by
      decide +kernel
    exact (others high spans.high_mem).resolve_right top.not_gt
  have one : low = .ofNat 1 := by
    have bottom := spans.low_le _ whole.low_mem
    have others : ∀ x ∈ equities, x = .ofNat 1 ∨ (Binary64.ofNat 1).toRat < x.toRat := by
      decide +kernel
    exact (others low spans.low_mem).resolve_right bottom.not_gt
  have begins := prefix_rangeLine low high points
  rw [text, List.mem_singleton] at member
  rw [member, one, five] at begins
  exact absurd begins (by decide +kernel)

end StrategyDesk
