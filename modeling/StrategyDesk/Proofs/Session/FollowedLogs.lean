import Mathlib.Data.List.Chain
import Mathlib.Data.List.TakeWhile
import StrategyDesk.Proofs.Session.Polls
import StrategyDesk.Proofs.Session.RequestBodies

/-!
# Followed logs

A log only grows, and its last lines are read again and again. Of each tail the lines are printed
that come after the last line shown, which is looked for by what stands in it. As long as that line
does not come again among the lines that are new, all of these are printed; where it does, those up
to its last copy are lost.

## Main Definitions

* `shownOver` — what is shown of tails that are read one after the other
* `LogWindow` — the part of a log that is read at one time
* `Sliding` — windows that follow the growing log without leaving a gap
* `LogWindow.Recurs` — the last line of a window comes again among those that the next one adds
* `spanOf` — from the beginning of the first window to the end of the last one

## Main Statements

* `afterLast_append` — what comes after the last copy of a line is found among what was added
* `shownOver_slides` — what is shown of windows that slide along a log
* `Desk.followed_log_iff` — what is printed when a log is followed
-/

namespace StrategyDesk

/-! ## After the last copy -/

section AfterLast

variable {α : Type} [DecidableEq α] {last : α}

theorem afterLast_sublist (last : α) (items : List α) : (afterLast last items).Sublist items := by
  unfold afterLast
  conv_rhs => rw [← items.reverse_reverse]
  exact (List.takeWhile_sublist _).reverse

/-- Nothing is left out exactly if there is no copy. -/
theorem afterLast_eq_self_iff {items : List α} : afterLast last items = items ↔ last ∉ items := by
  unfold afterLast
  rw [List.reverse_eq_iff, List.takeWhile_eq_self_iff]
  constructor
  · intro others member
    simpa using others last (List.mem_reverse.mpr member)
  · intro absent item member
    have different : item ≠ last := fun same => absent (same ▸ List.mem_reverse.mp member)
    simpa using different

/-- **What comes after the last copy of a line is found among what was added** to a list that ends
with this line. -/
theorem afterLast_append {items : List α} (ends : items.getLast? = some last) (added : List α) :
    afterLast last (items ++ added) = afterLast last added := by
  obtain ⟨earlier, rfl⟩ := List.getLast?_eq_some_iff.mp ends
  unfold afterLast
  rw [List.reverse_append, List.reverse_append, List.takeWhile_append]
  split
  case isTrue none =>
    have all := (List.takeWhile_sublist _).eq_of_length none
    rw [all]
    simp
  case isFalse => rfl

end AfterLast

/-! ## Tails one after the other -/

/-- The lines that are shown of tails which are read one after the other. -/
def shownOver (lastShown : Option LogLine) : List (List LogLine) → List LogLine
  | [] => []
  | tail :: rest => unseenLines tail lastShown ++ shownOver (tail.getLast?.or lastShown) rest

/-- An empty tail shows nothing and changes nothing. -/
theorem shownOver_nil_cons (lastShown : Option LogLine) (rest : List (List LogLine)) :
    shownOver lastShown ([] :: rest) = shownOver lastShown rest := by
  cases lastShown <;> rfl

theorem shownOver_filter_ne_nil (lastShown : Option LogLine) (tails : List (List LogLine)) :
    shownOver lastShown (tails.filter (· ≠ [])) = shownOver lastShown tails := by
  induction tails generalizing lastShown with
  | nil => rfl
  | cons tail rest ih =>
      cases tail with
      | nil => exact (ih lastShown).trans (shownOver_nil_cons lastShown rest).symm
      | cons line lines =>
          rw [List.filter_cons_of_pos (by simp)]
          exact congrArg (unseenLines (line :: lines) lastShown ++ ·) (ih _)

/-- Following a log prints what is shown of the tails; a read that fails changes nothing. -/
theorem Desk.course_logFollow (desk : Desk) (source : LogSource) (count : Nat)
    (replies : List (Timestamp × Except Error (List LogLine))) (lastShown : Option LogLine) :
    ((desk.logFollow source count).course lastShown replies).lines =
      (shownOver lastShown (replies.filterMap (·.2.toOption))).map desk.palette.logLine := by
  induction replies generalizing lastShown with
  | nil => rfl
  | cons reply rest ih =>
      obtain ⟨now, answer⟩ := reply
      cases answer with
      | error why =>
          have turn := congrArg Turn.lines (@Poll.course_cons_of_goesOn
            (desk.logFollow source count) lastShown lastShown now (.error why) rfl rest)
          exact turn.trans (ih lastShown)
      | ok tail =>
          let next := tail.getLast?.or lastShown
          have turn := congrArg Turn.lines (@Poll.course_cons_of_goesOn
            (desk.logFollow source count) lastShown next now (.ok tail) rfl rest)
          refine turn.trans ?_
          change (unseenLines tail lastShown).map desk.palette.logLine ++
              ((desk.logFollow source count).course next rest).lines =
            (unseenLines tail lastShown ++
              shownOver next (rest.filterMap (·.2.toOption))).map desk.palette.logLine
          rw [ih next, List.map_append]

/-! ## Windows of a log -/

/-- The part of a log that is read at one time: its lines from one on, and up to the end that it
has at that time. -/
structure LogWindow where
  start : Nat
  stop : Nat

namespace LogWindow

/-- The lines of a log that are in a window. -/
def lines (log : List LogLine) (w : LogWindow) : List LogLine := (log.take w.stop).drop w.start

/-- A later window reaches at least as far, and holds the last line of the one before. -/
def Slides (w next : LogWindow) : Prop := w.stop ≤ next.stop ∧ next.start < w.stop

instance : DecidableRel Slides := fun w next =>
  inferInstanceAs (Decidable (w.stop ≤ next.stop ∧ next.start < w.stop))

/-- The last line of a window comes again among the lines that the next one adds. -/
def Recurs (log : List LogLine) (w next : LogWindow) : Prop :=
  ∃ last ∈ (w.lines log).getLast?, last ∈ lines log ⟨w.stop, next.stop⟩

instance (log : List LogLine) : DecidableRel (Recurs log) := fun w next =>
  inferInstanceAs
    (Decidable (∃ last ∈ (w.lines log).getLast?, last ∈ lines log ⟨w.stop, next.stop⟩))

variable {log : List LogLine} {w next : LogWindow}

theorem lines_ne_nil_iff (within : w.stop ≤ log.length) : w.lines log ≠ [] ↔ w.start < w.stop := by
  rw [ne_eq, lines, List.drop_eq_nil_iff, List.length_take, Nat.min_eq_left within, Nat.not_le]

/-- A window with a line in it has a last line. -/
theorem exists_getLast?_lines (filled : w.start < w.stop) (within : w.stop ≤ log.length) :
    ∃ last, (w.lines log).getLast? = some last :=
  Option.ne_none_iff_exists'.mp
    (mt List.getLast?_eq_none_iff.mp ((lines_ne_nil_iff within).mpr filled))

/-- Two windows that meet make one. -/
theorem lines_append {start between stop : Nat} (first : start ≤ between) (second : between ≤ stop)
    (within : between ≤ log.length) :
    lines log ⟨start, between⟩ ++ lines log ⟨between, stop⟩ = lines log ⟨start, stop⟩ := by
  unfold lines
  dsimp only
  have cut := List.take_append_drop between (log.take stop)
  rw [List.take_take, Nat.min_eq_left second] at cut
  conv_rhs => rw [← cut]
  rw [List.drop_append_of_le_length]
  rwa [List.length_take, Nat.min_eq_left within]

/-- The last line of a window is that of the log up to its end. -/
theorem getLast?_lines (filled : w.start < w.stop) (within : w.stop ≤ log.length) :
    (w.lines log).getLast? = (log.take w.stop).getLast? := by
  rw [lines, List.getLast?_drop, List.length_take, Nat.min_eq_left within,
    if_neg (Nat.not_le.mpr filled)]

/-- **What is shown of the next window** comes from what it adds, and is all of it unless the last
line shown comes again there. -/
theorem unseenLines_slides (slides : w.Slides next) (filled : w.start < w.stop)
    (within : next.stop ≤ log.length) :
    let shown := unseenLines (next.lines log) (w.lines log).getLast?
    let added := lines log ⟨w.stop, next.stop⟩
    shown.Sublist added ∧ (shown = added ↔ ¬w.Recurs log next) := by
  intro shown added
  obtain ⟨reaches, holds⟩ := slides
  have reached : w.stop ≤ log.length := reaches.trans within
  obtain ⟨last, ends⟩ := exists_getLast?_lines filled reached
  have kept : (lines log ⟨next.start, w.stop⟩).getLast? = some last :=
    (@getLast?_lines log ⟨next.start, w.stop⟩ holds reached).trans
      ((getLast?_lines filled reached).symm.trans ends)
  have shown_eq : shown = afterLast last added := by
    have cut : next.lines log = lines log ⟨next.start, w.stop⟩ ++ added :=
      (lines_append holds.le reaches reached).symm
    change unseenLines (next.lines log) (w.lines log).getLast? = _
    rw [ends, cut]
    exact afterLast_append kept added
  have recurs : w.Recurs log next ↔ last ∈ added := by
    simp only [Recurs, ends, Option.mem_some, exists_eq_left']
    rfl
  rw [shown_eq, recurs]
  exact ⟨afterLast_sublist last added, afterLast_eq_self_iff⟩

/-- The windows that hold a line. -/
def filled (windows : List LogWindow) : List LogWindow := windows.filter fun w => w.start < w.stop

end LogWindow

/-! ## Windows that slide along a log -/

/-- The part of a log from the beginning of the first window that holds a line to the end of the
last one. -/
def spanOf (windows : List LogWindow) : LogWindow :=
  match LogWindow.filled windows with
  | [] => ⟨0, 0⟩
  | first :: rest => ⟨first.start, (rest.getLastD first).stop⟩

/-- Windows of a log that follow it while it grows: each one that holds a line holds the last line
of the one before. -/
structure Sliding (log : List LogLine) (windows : List LogWindow) : Prop where
  within : ∀ w ∈ windows, w.stop ≤ log.length
  slides : (LogWindow.filled windows).IsChain LogWindow.Slides

section Slides

open LogWindow

variable {log : List LogLine}

/-- Two parts that are left of two lists are all of both exactly if each is. -/
theorem append_eq_append_iff_of_sublist {α : Type} {first second part later : List α}
    (left : part.Sublist first) (right : later.Sublist second) :
    part ++ later = first ++ second ↔ part = first ∧ later = second := by
  constructor
  · intro same
    have lengths := congrArg List.length same
    rw [List.length_append, List.length_append] at lengths
    have leftLength := left.length_le
    have rightLength := right.length_le
    exact List.append_inj same (by omega)
  · rintro ⟨rfl, rfl⟩
    rfl

/-- Windows that slide do not go back. -/
theorem stop_le_stop_getLastD {w : LogWindow} {rest : List LogWindow}
    (slides : (w :: rest).IsChain Slides) : w.stop ≤ (rest.getLastD w).stop := by
  induction rest generalizing w with
  | nil => exact le_rfl
  | cons next rest ih =>
      rw [List.isChain_cons_cons] at slides
      rw [List.getLastD_cons]
      exact slides.1.1.trans (ih slides.2)

/-- **What is shown of windows that slide along a log** after the first of them comes from what they
add, and is all of it exactly if no last line comes again in the window after it. -/
theorem shownOver_slides {w : LogWindow} {rest : List LogWindow}
    (within : ∀ v ∈ w :: rest, v.stop ≤ log.length) (filled : ∀ v ∈ w :: rest, v.start < v.stop)
    (slides : (w :: rest).IsChain Slides) :
    let shown := shownOver (w.lines log).getLast? (rest.map (lines log))
    let added := lines log ⟨w.stop, (rest.getLastD w).stop⟩
    shown.Sublist added ∧
      (shown = added ↔ (w :: rest).IsChain fun v next => ¬v.Recurs log next) := by
  induction rest generalizing w with
  | nil =>
      have none : lines log ⟨w.stop, w.stop⟩ = [] :=
        List.drop_eq_nil_of_le (List.length_take_le _ _)
      simp [shownOver, none]
  | cons next rest ih =>
      rw [List.isChain_cons_cons] at slides
      rw [List.forall_mem_cons] at within filled
      have nextFilled := (List.forall_mem_cons.mp filled.2).1
      have nextWithin := (List.forall_mem_cons.mp within.2).1
      obtain ⟨first, first_iff⟩ := unseenLines_slides slides.1 filled.1 nextWithin
      obtain ⟨later, later_iff⟩ := ih within.2 filled.2 slides.2
      have shown : shownOver (w.lines log).getLast? ((next :: rest).map (lines log)) =
          unseenLines (next.lines log) (w.lines log).getLast? ++
            shownOver (next.lines log).getLast? (rest.map (lines log)) := by
        obtain ⟨last, ends⟩ := exists_getLast?_lines nextFilled nextWithin
        rw [List.map_cons, shownOver, ends, Option.some_or]
      have added :
          lines log ⟨w.stop, next.stop⟩ ++ lines log ⟨next.stop, (rest.getLastD next).stop⟩ =
            lines log ⟨w.stop, (rest.getLastD next).stop⟩ :=
        lines_append slides.1.1 (stop_le_stop_getLastD slides.2) nextWithin
      rw [List.getLastD_cons, shown, ← added]
      exact ⟨first.append later, by
        rw [append_eq_append_iff_of_sublist first later, first_iff, later_iff,
          List.isChain_cons_cons]⟩

/-- What is shown of all windows that slide along a log, those without a line among them. -/
theorem Sliding.shown_eq_span_iff {windows : List LogWindow} (sliding : Sliding log windows) :
    let shown := shownOver none (windows.map (lines log))
    let span := (spanOf windows).lines log
    shown.Sublist span ∧
      (shown = span ↔ (filled windows).IsChain fun v next => ¬v.Recurs log next) := by
  have tails : (windows.map (lines log)).filter (· ≠ []) = (filled windows).map (lines log) := by
    rw [List.filter_map]
    refine congrArg (List.map (lines log)) (List.filter_congr fun v member => ?_)
    exact decide_eq_decide.mpr (lines_ne_nil_iff (sliding.within v member))
  rw [← shownOver_filter_ne_nil, tails]
  unfold spanOf
  cases windowsFilled : filled windows with
  | nil => exact ⟨.refl _, iff_of_true rfl .nil⟩
  | cons w rest =>
      have member (v : LogWindow) (among : v ∈ w :: rest) : v ∈ windows ∧ v.start < v.stop := by
        simpa [← windowsFilled, filled] using among
      have within (v : LogWindow) (among : v ∈ w :: rest) : v.stop ≤ log.length :=
        sliding.within v (member v among).1
      have slides := windowsFilled ▸ sliding.slides
      obtain ⟨later, later_iff⟩ :=
        shownOver_slides within (fun v among => (member v among).2) slides
      have shown : shownOver none ((w :: rest).map (lines log)) =
          w.lines log ++ shownOver (w.lines log).getLast? (rest.map (lines log)) := by
        rw [List.map_cons, shownOver, Option.or_none]
        rfl
      have span : w.lines log ++ lines log ⟨w.stop, (rest.getLastD w).stop⟩ =
          lines log ⟨w.start, (rest.getLastD w).stop⟩ :=
        lines_append (member w List.mem_cons_self).2.le (stop_le_stop_getLastD slides)
          (within w List.mem_cons_self)
      dsimp only
      rw [shown, ← span]
      exact ⟨later.append_left _, (List.append_cancel_left_eq _ _ _).to_iff.trans later_iff⟩

end Slides

/-! ## Following a log -/

/-- The windows that are read at some times, where reading does not fail. -/
def windowsOf (readings : List (Timestamp × Except Error LogWindow)) : List LogWindow :=
  readings.filterMap (·.2.toOption)

/-- What the service answers when it reads windows of a log. -/
def tailsOf (log : List LogLine) (readings : List (Timestamp × Except Error LogWindow)) :
    List (Timestamp × Except Error (List LogLine)) :=
  readings.map fun (now, answer) => (now, answer.map (LogWindow.lines log))

/-- **What is printed when a log is followed** comes from the lines between the beginning of the
first window and the end of the last one, none of them printed twice. It is all of them exactly if
no last line of a window comes again among the lines that the next one adds. -/
theorem Desk.followed_log_iff (desk : Desk) (source : LogSource) (count : Nat) (log : List LogLine)
    (readings : List (Timestamp × Except Error LogWindow))
    (sliding : Sliding log (windowsOf readings)) :
    let printed := ((desk.logFollow source count).course none (tailsOf log readings)).lines
    let span := ((spanOf (windowsOf readings)).lines log).map desk.palette.logLine
    printed.Sublist span ∧ (printed = span ↔
      (LogWindow.filled (windowsOf readings)).IsChain fun w next => ¬w.Recurs log next) := by
  have tails : (tailsOf log readings).filterMap (·.2.toOption) =
      (windowsOf readings).map (LogWindow.lines log) := by
    unfold tailsOf windowsOf
    rw [List.filterMap_map, List.map_filterMap]
    congr 1
    funext ⟨now, answer⟩
    cases answer <;> rfl
  obtain ⟨some, all_iff⟩ := sliding.shown_eq_span_iff
  rw [desk.course_logFollow, tails, ← all_iff]
  refine ⟨some.map _, ?_, congrArg _⟩
  -- Two lines may look the same, but what is left out is missing in number.
  intro same
  have lengths := congrArg List.length same
  rw [List.length_map, List.length_map] at lengths
  exact some.eq_of_length lengths

/-- A log of five lines, of which the second one comes again as the fourth. -/
def stutter : List LogLine := ["a", "b", "c", "b", "d"].map (⟨·, .info⟩)

/-- Nothing is lost of it in windows that move on past its third line before its fourth one is
there. -/
theorem followed_log_stutter :
    let answers : List (Except Error LogWindow) :=
      [.ok ⟨0, 0⟩, .ok ⟨0, 2⟩, .error (.transport "connection refused"), .ok ⟨1, 3⟩, .ok ⟨2, 5⟩]
    let readings := answers.map (Prod.mk (⟨0, 0⟩ : Timestamp))
    Sliding stutter (windowsOf readings) ∧
      ((Desk.standard.logFollow .pipeline 3).course none (tailsOf stutter readings)).lines =
        ((spanOf (windowsOf readings)).lines stutter).map Desk.standard.palette.logLine := by
  intro answers readings
  have sliding : Sliding stutter (windowsOf readings) := ⟨by decide, by decide⟩
  exact ⟨sliding,
    (Desk.standard.followed_log_iff .pipeline 3 stutter readings sliding).2.mpr (by decide)⟩

/-- Two lines are lost of it in windows of which the second one has the last line shown twice. -/
theorem followed_log_loses_lines :
    let answers : List (Except Error LogWindow) := [.ok ⟨0, 2⟩, .ok ⟨0, 4⟩]
    let readings := answers.map (Prod.mk (⟨0, 0⟩ : Timestamp))
    Sliding stutter (windowsOf readings) ∧
      ((spanOf (windowsOf readings)).lines stutter).map Desk.standard.palette.logLine =
        ["a", "b", "c", "b"] ∧
      ((Desk.standard.logFollow .pipeline 200).course none (tailsOf stutter readings)).lines =
        ["a", "b"] :=
  ⟨⟨by decide, by decide⟩, by decide, by decide⟩

end StrategyDesk
