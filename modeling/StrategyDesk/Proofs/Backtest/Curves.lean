import Mathlib.Algebra.Order.Floor.Div
import Mathlib.Data.List.Chain
import Mathlib.Data.List.Nodup
import Mathlib.Data.List.Range
import StrategyDesk.Backtest.Summary

/-!
# Thinned curves

Which points of a curve are kept when there are too many to be shown: those at multiples of a
stride, and the last one. The stride is the least one with which there are not too many of them.

## Main Definitions

* `strides` — the multiples of a stride below an index
* `IsSpread` — places that go from the first to the last one, with no wide gap between them
* `downsample?` — a curve thinned with all operations checked

## Main Statements

* `strides_eq_map` — how many multiples there are, and which
* `everyNth_eq_strides` — the items at multiples of a stride, by their places
* `isSpread_strides` — the places of the points that are kept
* `downsample?_eq_some` — nothing that a thinning does is out of range
* `downsample_spread` — what is kept of a curve
-/

namespace StrategyDesk

variable {α : Type}

/-! ## Multiples of a stride -/

/-- The multiples of a stride below an index. -/
def strides (stride stop : Nat) : List Nat := (List.range stop).filter (· % stride = 0)

/-- There is one more multiple below the next index if this one is a multiple. -/
theorem ceilDiv_succ (stop : Nat) {stride : Nat} (positive : 0 < stride) :
    (stop + 1) ⌈/⌉ stride = stop ⌈/⌉ stride + if stop % stride = 0 then 1 else 0 := by
  rw [Nat.ceilDiv_eq_add_pred_div, Nat.ceilDiv_eq_add_pred_div]
  have step : stop + 1 + stride - 1 = stop + stride - 1 + 1 := by omega
  have whole : stop + stride - 1 + 1 = stop + stride := by omega
  rw [step, Nat.succ_div, whole]
  simp only [Nat.dvd_iff_mod_eq_zero, Nat.add_mod_right]

/-- A multiple is the stride as many times as there are multiples below it. -/
theorem mul_ceilDiv_of_mod_eq_zero {stop stride : Nat} (positive : 0 < stride)
    (multiple : stop % stride = 0) : stride * (stop ⌈/⌉ stride) = stop := by
  obtain ⟨times, rfl⟩ := Nat.dvd_of_mod_eq_zero multiple
  have same : stride * times + stride - 1 = stride - 1 + stride * times := by omega
  rw [Nat.ceilDiv_eq_add_pred_div, same, Nat.add_mul_div_left _ _ positive,
    Nat.div_eq_of_lt (Nat.sub_lt positive Nat.one_pos), Nat.zero_add]

/-- **The multiples of a stride** are the first ones, as many as fit. -/
theorem strides_eq_map (stop : Nat) {stride : Nat} (positive : 0 < stride) :
    strides stride stop = (List.range (stop ⌈/⌉ stride)).map (stride * ·) := by
  induction stop with
  | zero =>
      have none : 0 ⌈/⌉ stride = 0 := by
        rw [Nat.ceilDiv_eq_add_pred_div, Nat.div_eq_of_lt (by omega)]
      rw [none]
      rfl
  | succ stop ih =>
      have next : strides stride (stop + 1) =
          strides stride stop ++ [stop].filter (· % stride = 0) := by
        unfold strides
        rw [List.range_succ, List.filter_append]
      rw [next, ih, ceilDiv_succ stop positive]
      by_cases multiple : stop % stride = 0
      · rw [if_pos multiple, List.range_succ, List.map_append, List.map_singleton,
          mul_ceilDiv_of_mod_eq_zero positive multiple]
        simp [multiple]
      · simp [multiple]

theorem mem_strides_lt {stride stop i : Nat} (member : i ∈ strides stride stop) : i < stop :=
  List.mem_range.mp (List.mem_of_mem_filter member)

/-- **The items at multiples of a stride**, by their places. -/
theorem everyNth_eq_strides (stride : Nat) (items : List α) :
    (everyNth stride items).map some = (strides stride items.length).map (items[·]?) := by
  have places : strides stride items.length =
      (items.zipIdx.filter fun e => e.2 % stride = 0).map (·.2) := by
    unfold strides
    rw [List.range_eq_range', ← List.zipIdx_map_snd 0 items, List.filter_map]
    rfl
  rw [places]
  unfold everyNth
  rw [List.map_map, List.map_map]
  refine List.map_congr_left fun e member => ?_
  exact (List.mem_zipIdx_iff_getElem?.mp (List.mem_of_mem_filter member)).symm

/-! ## The places that are kept -/

/-- Places from the first to the last one of a list, in order and each only once, with gaps no wider
than they have to be for a limit. -/
structure IsSpread (length limit : Nat) (kept : List Nat) : Prop where
  increasing : kept.Pairwise (· < ·)
  inside : ∀ i ∈ kept, i < length
  head? : kept.head? = some 0
  getLast? : kept.getLast? = some (length - 1)
  count_first : kept.count 0 = 1
  count_last : kept.count (length - 1) = 1
  gaps : kept.IsChain fun i j => j ≤ i + (length - 1) ⌈/⌉ (limit - 1)

section Stride

variable {last parts : Nat}

theorem ceilDiv_pos (some : 0 < last) (several : 0 < parts) : 0 < last ⌈/⌉ parts := by
  rw [Nat.pos_iff_ne_zero]
  intro zero
  have none := (ceilDiv_le_iff_le_mul several).mp zero.le
  omega

/-- With the stride for some parts, there are no more multiples than parts. -/
theorem length_strides_le (some : 0 < last) (several : 0 < parts) :
    (strides (last ⌈/⌉ parts) last).length ≤ parts := by
  have positive := ceilDiv_pos some several
  rw [strides_eq_map last positive, List.length_map, List.length_range,
    ceilDiv_le_iff_le_mul positive, Nat.mul_comm, ← ceilDiv_le_iff_le_mul several]

/-- From each multiple it is one stride to the next one, and no more than that to the end. -/
theorem isChain_strides {stride : Nat} (positive : 0 < stride) :
    (strides stride last ++ [last]).IsChain fun i j => j ≤ i + stride := by
  rw [strides_eq_map last positive, List.isChain_append]
  refine ⟨?_, .singleton _, ?_⟩
  · rw [List.isChain_map, List.isChain_range]
    intro i _
    exact (Nat.mul_succ stride i).le
  · intro i final j next
    obtain rfl := Option.some.inj next
    have reaches : last ≤ stride * (last ⌈/⌉ stride) := (ceilDiv_le_iff_le_mul positive).mp le_rfl
    rw [List.getLast?_map, List.getLast?_range, Option.mem_def] at final
    split at final
    case isTrue => cases final
    case isFalse several =>
      obtain rfl := Option.some.inj final
      have split : last ⌈/⌉ stride = last ⌈/⌉ stride - 1 + 1 := by omega
      rw [split, Nat.mul_succ] at reaches
      exact reaches

/-- **The places of the points that are kept.** -/
theorem isSpread_strides {length limit : Nat} (several : 2 ≤ limit) (long : limit < length) :
    IsSpread length limit
      (strides ((length - 1) ⌈/⌉ (limit - 1)) (length - 1) ++ [length - 1]) := by
  let last := length - 1
  let stride := last ⌈/⌉ (limit - 1)
  have positive : 0 < stride := ceilDiv_pos (by omega) (by omega)
  have increasing : (strides stride last ++ [last]).Pairwise (· < ·) := by
    rw [List.pairwise_append]
    refine ⟨List.pairwise_lt_range.filter _, List.pairwise_singleton _ _, ?_⟩
    intro i multiple j single
    rw [List.mem_singleton.mp single]
    exact mem_strides_lt multiple
  have head? : (strides stride last ++ [last]).head? = some 0 := by
    have some : last ⌈/⌉ stride ≠ 0 := (ceilDiv_pos (by omega) positive).ne'
    rw [List.head?_append, strides_eq_map last positive, List.head?_map, List.head?_range,
      if_neg some]
    rfl
  have nodup : (strides stride last ++ [last]).Nodup := increasing.imp fun below => below.ne
  exact
    { increasing
      inside := by
        intro i member
        rcases List.mem_append.mp member with multiple | single
        · exact (mem_strides_lt multiple).trans (by omega)
        · rw [List.mem_singleton.mp single]
          omega
      head?
      getLast? := List.getLast?_concat
      count_first := List.count_eq_one_of_mem nodup (List.mem_of_head? head?)
      count_last := List.count_eq_one_of_mem nodup (List.mem_append_right _ List.mem_cons_self)
      gaps := isChain_strides positive }

end Stride

/-! ## Thinning -/

/-- The last item of a list stands alone after all others. -/
theorem exists_drop_last {items : List α} (nonempty : 0 < items.length) :
    ∃ final, items[items.length - 1]? = some final ∧
      items.drop (items.length - 1) = [final] := by
  have last : items.length - 1 < items.length := Nat.sub_lt nonempty Nat.one_pos
  have none : items.drop (items.length - 1 + 1) = [] := List.drop_eq_nil_of_le (by omega)
  refine ⟨items[items.length - 1], List.getElem?_eq_getElem last, ?_⟩
  rw [List.drop_eq_getElem_cons last, none]

/-- The items at multiples of a stride below a place, by their places. -/
theorem everyNth_take_eq_strides (stride : Nat) {items : List α} {stop : Nat}
    (inside : stop ≤ items.length) :
    (everyNth stride (items.take stop)).map some = (strides stride stop).map (items[·]?) := by
  rw [everyNth_eq_strides, List.length_take, Nat.min_eq_left inside]
  refine List.map_congr_left fun i member => ?_
  exact List.getElem?_take_of_lt (mem_strides_lt member)

section Downsample

variable {curve : List α} {limit : Nat}

theorem downsample_of_short (short : curve.length ≤ limit) : downsample curve limit = curve := by
  unfold downsample
  exact if_pos short

/-- At most one point is kept as the last one, if at all. -/
theorem downsample_of_few (few : limit < 2) (long : limit < curve.length) :
    downsample curve limit = (curve.drop (curve.length - 1)).take limit := by
  unfold downsample
  rw [if_neg long.not_ge]
  obtain rfl | rfl : limit = 0 ∨ limit = 1 := by omega
  · rfl
  · have alone : (curve.drop (curve.length - 1)).length ≤ 1 := by
      rw [List.length_drop]
      omega
    exact (List.take_of_length_le alone).symm

/-- The stride is the way to the last point, in equal parts one fewer than points, rounded up. -/
theorem stride_eq_ceilDiv (several : 2 ≤ limit) (last : Nat) :
    (last + limit - 2) / (limit - 1) = last ⌈/⌉ (limit - 1) := by
  have room : last + limit - 2 = last + (limit - 1) - 1 := by omega
  rw [Nat.ceilDiv_eq_add_pred_div, room]

theorem downsample_of_several (several : 2 ≤ limit) (long : limit < curve.length) :
    downsample curve limit =
      everyNth ((curve.length - 1) ⌈/⌉ (limit - 1)) (curve.take (curve.length - 1)) ++
        curve.drop (curve.length - 1) := by
  unfold downsample
  rw [if_neg long.not_ge]
  split
  · omega
  · omega
  · rw [← stride_eq_ceilDiv several]

/-- The points that are kept of a curve with too many of them, by their places. -/
theorem map_some_downsample (several : 2 ≤ limit) (long : limit < curve.length) :
    (downsample curve limit).map some =
      (strides ((curve.length - 1) ⌈/⌉ (limit - 1)) (curve.length - 1) ++
        [curve.length - 1]).map (curve[·]?) := by
  obtain ⟨final, found, alone⟩ := exists_drop_last (Nat.zero_lt_of_lt long)
  rw [downsample_of_several several long, List.map_append, List.map_append,
    everyNth_take_eq_strides _ (Nat.sub_le _ _), alone, List.map_singleton, List.map_singleton,
    found]

end Downsample

/-! ## Checked operations -/

/-- A difference that is not below zero. -/
def minus? (a b : Nat) : Option Nat := if b ≤ a then some (a - b) else none

/-- A quotient by something other than zero. -/
def over? (a b : Nat) : Option Nat := if b = 0 then none else some (a / b)

/-- The places from 0 on at steps other than zero. -/
def strides? (stride stop : Nat) : Option (List Nat) :=
  if stride = 0 then none else some (strides stride stop)

/-- The items from a place on that is not beyond the end. -/
def from? (items : List α) (start : Nat) : Option (List α) :=
  if start ≤ items.length then some (items.drop start) else none

/-- A curve of at most `limit` points, with all operations checked. -/
def downsample? (curve : List α) (limit : Nat) : Option (List α) := do
  if curve.length ≤ limit then return curve
  let last ← minus? curve.length 1
  if limit < 2 then return (← from? curve last).take limit
  let stride ← over? (← minus? (last + limit) 2) (← minus? limit 1)
  let kept ← (← strides? stride last).mapM (curve[·]?)
  return kept ++ [← curve[last]?]

/-- Items that are all there are found one after the other. -/
theorem mapM_eq_some {β : Type} {f : α → Option β} {items : List α} {found : List β}
    (each : items.map f = found.map some) : items.mapM f = some found := by
  induction items generalizing found with
  | nil =>
      obtain rfl := List.map_eq_nil_iff.mp each.symm
      rfl
  | cons a items ih =>
      cases found with
      | nil => cases each
      | cons b found =>
          obtain ⟨first, rest⟩ := List.cons.inj each
          rw [List.mapM_cons, first, ih rest]
          rfl

/-- **Nothing that a thinning does is out of range.** -/
theorem downsample?_eq_some (curve : List α) (limit : Nat) :
    downsample? curve limit = some (downsample curve limit) := by
  unfold downsample?
  by_cases short : curve.length ≤ limit
  · rw [if_pos short, downsample_of_short short]
    rfl
  have long : limit < curve.length := Nat.lt_of_not_ge short
  have last : minus? curve.length 1 = some (curve.length - 1) := if_pos (by omega)
  rw [if_neg short, last]
  by_cases few : limit < 2
  · have rest : from? curve (curve.length - 1) = some (curve.drop (curve.length - 1)) :=
      if_pos (Nat.sub_le _ _)
    rw [downsample_of_few few long]
    simp only [Option.bind_eq_bind, Option.bind_some, if_pos few, rest]
    rfl
  · have several : 2 ≤ limit := Nat.le_of_not_lt few
    have room : minus? (curve.length - 1 + limit) 2 = some (curve.length - 1 + limit - 2) :=
      if_pos (by omega)
    have parts : minus? limit 1 = some (limit - 1) := if_pos (by omega)
    have stride : over? (curve.length - 1 + limit - 2) (limit - 1) =
        some ((curve.length - 1) ⌈/⌉ (limit - 1)) := by
      rw [over?, if_neg (by omega), stride_eq_ceilDiv several]
    have places : strides? ((curve.length - 1) ⌈/⌉ (limit - 1)) (curve.length - 1) =
        some (strides ((curve.length - 1) ⌈/⌉ (limit - 1)) (curve.length - 1)) :=
      if_neg (ceilDiv_pos (by omega) (by omega)).ne'
    have kept := mapM_eq_some (everyNth_take_eq_strides ((curve.length - 1) ⌈/⌉ (limit - 1))
      (Nat.sub_le curve.length 1)).symm
    obtain ⟨final, found, alone⟩ := exists_drop_last (Nat.zero_lt_of_lt long)
    rw [downsample_of_several several long, alone]
    simp only [Option.bind_eq_bind, Option.bind_some, if_neg few, room, parts, stride, places, kept,
      found]
    rfl

/-! ## What is kept -/

/-- **What is kept of a curve.** There are never too many points. A short curve stays as it is. Of
one that is too long, nothing is kept for a limit of 0, the last point for a limit of 1, and for
each other limit the points at places that go from the first to the last one. All operations on the
way there are in range. -/
theorem downsample_spread (curve : List α) (limit : Nat) :
    (downsample curve limit).length ≤ limit ∧
      (curve.length ≤ limit → downsample curve limit = curve) ∧
      (limit < curve.length →
        (limit = 0 → downsample curve limit = []) ∧
        (limit = 1 → downsample curve limit = curve.getLast?.toList) ∧
        (2 ≤ limit → ∃ kept, IsSpread curve.length limit kept ∧
          (downsample curve limit).map some = kept.map (curve[·]?))) ∧
      downsample? curve limit = some (downsample curve limit) := by
  refine ⟨?_, downsample_of_short, fun long => ⟨?_, ?_, ?_⟩, downsample?_eq_some curve limit⟩
  · by_cases short : curve.length ≤ limit
    · rwa [downsample_of_short short]
    have long : limit < curve.length := Nat.lt_of_not_ge short
    by_cases few : limit < 2
    · rw [downsample_of_few few long]
      exact List.length_take_le _ _
    · have several : 2 ≤ limit := Nat.le_of_not_lt few
      have length := congrArg List.length (map_some_downsample several long)
      have strides_le := @length_strides_le (curve.length - 1) (limit - 1) (by omega) (by omega)
      rw [List.length_map, List.length_map, List.length_append, List.length_singleton] at length
      omega
  · rintro rfl
    exact downsample_of_few (by omega) long
  · rintro rfl
    obtain ⟨final, found, alone⟩ := exists_drop_last (Nat.zero_lt_of_lt long)
    rw [downsample_of_few (by omega) long, alone, List.getLast?_eq_getElem?, found]
    rfl
  · intro several
    exact ⟨_, isSpread_strides several long, map_some_downsample several long⟩

/-- Of six points, three are kept: the last gap is shorter than the others. -/
theorem downsample_spread_six :
    downsample (List.range 6) 3 = [0, 3, 5] ∧ (downsample (List.range 6) 3).length ≤ 3 ∧
      ∃ kept, IsSpread 6 3 kept ∧
        (downsample (List.range 6) 3).map some = kept.map ((List.range 6)[·]?) := by
  obtain ⟨few, -, long, -⟩ := downsample_spread (List.range 6) 3
  exact ⟨by decide, few, (long (by decide)).2.2 (by decide)⟩

end StrategyDesk
