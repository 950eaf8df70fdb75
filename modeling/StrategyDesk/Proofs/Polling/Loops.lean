import StrategyDesk.Polling.Loop

/-!
# What happens to polling loops

Whoever owns polling loops lets the held one go, starts a new one, or lets one of them take a step.
What holds of the loops whatever their owner does is proved here once.

## Main Definitions

* `Caller` — what the owner of loops is about
* `LoopEvent` — what happens next to a loop, with `LoopEvent.fits`
* `PollLoops.Evolves` — what an owner may do to its loops
* `PollLoops.Tidy` — a loop is held exactly when it was not cancelled
* `PollLoops.Cancelled` — the loop at a place was cancelled
* `PollLoops.Follow` — there is one loop for each of some names, and the last one is held

## Main Statements

* `PollLoops.Evolves.tidy` — loops stay tidy
* `PollLoops.Evolves.cancelled` — a cancelled loop stays cancelled
* `PollLoops.Tidy.live_unique` — of tidy loops at most one is live
-/

namespace StrategyDesk

variable {Subject Report : Type}

/-- What an owner of loops is about, who makes one call after the other. -/
inductive Caller (Call : Type) where
  | free
  /-- Waiting for a call to be carried out. -/
  | waiting (call : Call)
  /-- It let go of what it owned. -/
  | gone

/-- What happens next to a loop. -/
inductive LoopEvent (Report : Type) where
  /-- Its wait for a tick ends. -/
  | serve (now : Nat)
  | ask
  /-- Its wait for a reply ends. -/
  | receive (answer : Except Error Report)
  | publish

/-- The event can happen to a loop at this stage. -/
def LoopEvent.fits : LoopEvent Report → LoopStage Report → Bool
  | serve _, .waiting | ask, .ticked | receive _, .asking | publish, .holding _ => true
  | _, _ => false

/-- Nothing happens to a loop that has returned. -/
theorem LoopEvent.hasReturned_of_fits {event : LoopEvent Report} {stage : LoopStage Report}
    (fits : event.fits stage = true) : stage.hasReturned = false := by
  cases stage with
  | returned => cases event <;> cases fits
  | waiting | ticked | asking | holding _ => rfl

/-- The reply that an event brings to a loop, if it brings one. -/
def LoopEvent.replies : LoopEvent Report → List (Except Error Report)
  | receive answer => [answer]
  | serve _ | ask | publish => []

/-- The report that an event brings to a loop, if it brings one. -/
def LoopEvent.reports : LoopEvent Report → List Report
  | receive (.ok report) => [report]
  | serve _ | ask | receive (.error _) | publish => []

/-! ## One loop -/

namespace PollLoop

/-- The reports that a loop holds: one, or none. -/
def inHand (l : PollLoop Subject Report) : List Report :=
  match l.stage with
  | .holding report => [report]
  | .waiting | .ticked | .asking | .returned => []

/-- The loop after an event, when entering a report is done by a function. -/
def advance (enter : PollLoop Subject Report → PollLoop Subject Report)
    (l : PollLoop Subject Report) : LoopEvent Report → PollLoop Subject Report
  | .serve now => l.serve now
  | .ask => l.ask.1
  | .receive answer => l.receive answer
  | .publish => enter l

variable (l : PollLoop Subject Report)

/-- A loop that was just started holds no report. -/
theorem inHand_of_first {period : Nat} (fresh : l.stage = .first period) : l.inHand = [] := by
  unfold inHand
  rw [fresh, LoopStage.first]
  cases period <;> rfl

@[simp] theorem serve_cancelled (now : Nat) : (l.serve now).cancelled = l.cancelled := by
  unfold serve
  split
  · split <;> rfl
  all_goals rfl

@[simp] theorem serve_subject (now : Nat) : (l.serve now).subject = l.subject := by
  unfold serve
  split
  · split <;> rfl
  all_goals rfl

@[simp] theorem ask_cancelled : l.ask.1.cancelled = l.cancelled := by
  unfold ask
  split
  · split <;> rfl
  all_goals rfl

@[simp] theorem ask_subject : l.ask.1.subject = l.subject := by
  unfold ask
  split
  · split <;> rfl
  all_goals rfl

@[simp] theorem receive_cancelled (answer : Except Error Report) :
    (l.receive answer).cancelled = l.cancelled := by
  unfold receive
  split
  · split
    · rfl
    · split <;> rfl
  all_goals rfl

@[simp] theorem receive_subject (answer : Except Error Report) :
    (l.receive answer).subject = l.subject := by
  unfold receive
  split
  · split
    · rfl
    · split <;> rfl
  all_goals rfl

/-- A cancelled loop does not ask. -/
theorem ask_eq_false_of_cancelled (cancelled : l.cancelled = true) : l.ask.2 = false := by
  unfold ask
  split
  · simp [cancelled]
  all_goals rfl

/-- A loop keeps its mark when entering a report keeps it. -/
theorem advance_cancelled {enter : PollLoop Subject Report → PollLoop Subject Report}
    (keeps : ∀ l, (enter l).cancelled = l.cancelled) (event : LoopEvent Report) :
    (l.advance enter event).cancelled = l.cancelled := by
  cases event with
  | serve now => exact serve_cancelled l now
  | ask => exact ask_cancelled l
  | receive answer => exact receive_cancelled l answer
  | publish => exact keeps l

/-- As long as a loop that was not cancelled does not publish, it goes on. -/
theorem advance_hasReturned_of_ne_publish
    {enter : PollLoop Subject Report → PollLoop Subject Report} {event : LoopEvent Report}
    (notCancelled : l.cancelled = false) (fits : event.fits l.stage = true)
    (notPublish : event ≠ .publish) : (l.advance enter event).stage.hasReturned = false := by
  cases event with
  | publish => exact absurd rfl notPublish
  | serve now =>
      cases stage : l.stage with
      | waiting => simp [advance, serve, stage, notCancelled, LoopStage.hasReturned]
      | ticked | asking | holding _ | returned => simp [LoopEvent.fits, stage] at fits
  | ask =>
      cases stage : l.stage with
      | ticked => simp [advance, ask, stage, notCancelled, LoopStage.hasReturned]
      | waiting | asking | holding _ | returned => simp [LoopEvent.fits, stage] at fits
  | receive answer =>
      cases stage : l.stage with
      | asking =>
          cases answer <;> simp [advance, receive, stage, notCancelled, LoopStage.hasReturned]
      | waiting | ticked | holding _ | returned => simp [LoopEvent.fits, stage] at fits

/-- Only publishing touches the subject of a loop. -/
theorem advance_subject_of_ne_publish
    {enter : PollLoop Subject Report → PollLoop Subject Report} {event : LoopEvent Report}
    (notPublish : event ≠ .publish) : (l.advance enter event).subject = l.subject := by
  cases event with
  | publish => exact absurd rfl notPublish
  | serve now => exact serve_subject l now
  | ask => exact ask_subject l
  | receive answer => exact receive_subject l answer

/-- A loop that was not cancelled takes every report that comes to it. -/
theorem advance_inHand_of_ne_publish
    {enter : PollLoop Subject Report → PollLoop Subject Report} {event : LoopEvent Report}
    (notCancelled : l.cancelled = false) (fits : event.fits l.stage = true)
    (notPublish : event ≠ .publish) :
    (l.advance enter event).inHand = l.inHand ++ event.reports := by
  cases event with
  | publish => exact absurd rfl notPublish
  | serve now =>
      cases stage : l.stage with
      | waiting => simp [advance, serve, inHand, stage, notCancelled, LoopEvent.reports]
      | ticked | asking | holding _ | returned => simp [LoopEvent.fits, stage] at fits
  | ask =>
      cases stage : l.stage with
      | ticked => simp [advance, ask, inHand, stage, notCancelled, LoopEvent.reports]
      | waiting | asking | holding _ | returned => simp [LoopEvent.fits, stage] at fits
  | receive answer =>
      cases stage : l.stage with
      | asking =>
          cases answer <;>
            simp [advance, receive, inHand, stage, notCancelled, LoopEvent.reports]
      | waiting | ticked | holding _ | returned => simp [LoopEvent.fits, stage] at fits

theorem isLive_iff :
    l.isLive = true ↔ l.cancelled = false ∧ l.stage.hasReturned = false := by
  simp [isLive]

theorem cancelled_of_isLive (live : l.isLive = true) : l.cancelled = false :=
  (isLive_iff l).mp live |>.1

end PollLoop

/-! ## All loops of an owner -/

namespace PollLoops

variable {p q : PollLoops Subject Report}

section Places

variable (p) {i j : Nat} {l : PollLoop Subject Report}

@[simp] theorem update_held (f : PollLoop Subject Report → PollLoop Subject Report) :
    (p.update i f).held = p.held := rfl

@[simp] theorem length_update (f : PollLoop Subject Report → PollLoop Subject Report) :
    (p.update i f).loops.length = p.loops.length := by
  simp [update]

theorem getElem?_update_self (f : PollLoop Subject Report → PollLoop Subject Report)
    (found : p.loops[i]? = some l) : (p.update i f).loops[i]? = some (f l) := by
  simp [update, found]

theorem getElem?_update_ne (f : PollLoop Subject Report → PollLoop Subject Report)
    (different : i ≠ j) : (p.update i f).loops[j]? = p.loops[j]? := by
  simp [update, different]

/-- Whatever stands at a place after a loop was changed is the changed loop or what stood there. -/
theorem getElem?_update_eq_some {f : PollLoop Subject Report → PollLoop Subject Report}
    (found : (p.update i f).loops[j]? = some l) :
    (i = j ∧ ∃ old, p.loops[j]? = some old ∧ l = f old) ∨ (i ≠ j ∧ p.loops[j]? = some l) := by
  by_cases same : i = j
  · subst same
    simp only [update, List.getElem?_modify_eq, Option.map_eq_map, Option.map_eq_some_iff] at found
    obtain ⟨old, there, rfl⟩ := found
    exact Or.inl ⟨rfl, old, there, rfl⟩
  · rw [getElem?_update_ne p f same] at found
    exact Or.inr ⟨same, found⟩

/-- A change to a loop shows in nothing that it keeps. -/
theorem map_update {α : Type} {f : PollLoop Subject Report → PollLoop Subject Report}
    {g : PollLoop Subject Report → α} (keeps : ∀ l, g (f l) = g l) :
    (p.update i f).loops.map g = p.loops.map g := by
  refine List.ext_getElem? fun j => ?_
  rw [List.getElem?_map, List.getElem?_map]
  by_cases same : i = j
  · subst same
    simp [update, Function.comp_def, keeps]
  · rw [getElem?_update_ne p f same]

@[simp] theorem release_held : p.release.held = .none := by
  unfold release
  split
  · assumption
  · rfl

@[simp] theorem length_release : p.release.loops.length = p.loops.length := by
  unfold release
  split
  · rfl
  · exact length_update p _

@[simp] theorem start_held (l : PollLoop Subject Report) :
    (p.start l).held = some p.loops.length := rfl

@[simp] theorem length_start (l : PollLoop Subject Report) :
    (p.start l).loops.length = p.loops.length + 1 := by
  simp [start]

theorem getElem?_start_last (l : PollLoop Subject Report) :
    (p.start l).loops[p.loops.length]? = some l := by
  simp [start]

theorem getElem?_start_lt (l : PollLoop Subject Report) (before : j < p.loops.length) :
    (p.start l).loops[j]? = p.release.loops[j]? := by
  have inside : j < p.release.loops.length := by simpa using before
  simp [start, List.getElem?_append_left inside]

/-- Letting a loop go keeps what the loops poll. -/
theorem map_subject_release {α : Type} (f : Subject → α) :
    p.release.loops.map (fun l => f l.subject) = p.loops.map fun l => f l.subject := by
  unfold release
  split
  · rfl
  · exact map_update p fun l => rfl

/-- Whatever stands at a place after a loop was let go stood there, as it is or not cancelled. -/
theorem getElem?_release_eq_some (found : p.release.loops[j]? = some l) :
    ∃ old, p.loops[j]? = some old ∧ (l = old ∨ l = old.cancel) := by
  unfold release at found
  split at found
  · exact ⟨l, found, Or.inl rfl⟩
  · rcases getElem?_update_eq_some p found with ⟨_, old, there, rfl⟩ | ⟨_, there⟩
    · exact ⟨old, there, Or.inr rfl⟩
    · exact ⟨l, there, Or.inl rfl⟩

/-- Letting a loop go keeps all loops in their places, as they are or cancelled. -/
theorem exists_getElem?_release (found : p.loops[j]? = some l) :
    ∃ later, p.release.loops[j]? = some later ∧ (later = l ∨ later = l.cancel) := by
  have inside : j < p.release.loops.length := by
    rw [length_release]
    exact (List.getElem?_eq_some_iff.mp found).1
  obtain ⟨old, there, same⟩ := getElem?_release_eq_some p (List.getElem?_eq_getElem inside)
  obtain rfl := Option.some.inj (found.symm.trans there)
  exact ⟨_, List.getElem?_eq_getElem inside, same⟩

end Places

/-- The loop at a place was cancelled. -/
def Cancelled (p : PollLoops Subject Report) (i : Nat) : Prop :=
  ∃ l, p.loops[i]? = some l ∧ l.cancelled = true

/-- A loop is held exactly when it was not cancelled. -/
def Tidy (p : PollLoops Subject Report) : Prop :=
  ∀ i, p.held = some i ↔ ∃ l, p.loops[i]? = some l ∧ l.cancelled = false

/-- What an owner may do to its loops. -/
inductive Evolves : PollLoops Subject Report → PollLoops Subject Report → Prop
  | stay {p : PollLoops Subject Report} : Evolves p p
  | update {p : PollLoops Subject Report} (i : Nat) {f}
      (keeps : ∀ l, (f l).cancelled = l.cancelled) : Evolves p (p.update i f)
  | release {p : PollLoops Subject Report} : Evolves p p.release
  | start {p : PollLoops Subject Report} {l} (fresh : l.cancelled = false) : Evolves p (p.start l)

theorem tidy_none : (none : PollLoops Subject Report).Tidy := by
  intro i
  simp [none]

/-- Of tidy loops at most one is live. -/
theorem Tidy.live_unique (tidy : p.Tidy) {i j : Nat} {l m : PollLoop Subject Report}
    (first : p.loops[i]? = some l) (second : p.loops[j]? = some m)
    (live : l.isLive = true) (alsoLive : m.isLive = true) : i = j := by
  have heldFirst := (tidy i).mpr ⟨l, first, l.cancelled_of_isLive live⟩
  have heldSecond := (tidy j).mpr ⟨m, second, m.cancelled_of_isLive alsoLive⟩
  rw [heldFirst] at heldSecond
  exact Option.some.inj heldSecond

/-- When no tidy loop is held, all were cancelled. -/
theorem Tidy.cancelled_of_held_eq_none (tidy : p.Tidy) (free : p.held = .none) {i : Nat}
    {l : PollLoop Subject Report} (found : p.loops[i]? = some l) : l.cancelled = true := by
  cases mark : l.cancelled with
  | true => rfl
  | false =>
      have held := (tidy i).mpr ⟨l, found, mark⟩
      rw [free] at held
      cases held

theorem Tidy.update (tidy : p.Tidy) (i : Nat)
    {f : PollLoop Subject Report → PollLoop Subject Report}
    (keeps : ∀ l, (f l).cancelled = l.cancelled) : (p.update i f).Tidy := by
  intro j
  rw [update_held, tidy j]
  constructor
  · rintro ⟨l, found, notCancelled⟩
    by_cases same : i = j
    · subst same
      exact ⟨f l, getElem?_update_self p f found, by rw [keeps, notCancelled]⟩
    · exact ⟨l, by rw [getElem?_update_ne p f same, found], notCancelled⟩
  · rintro ⟨l, found, notCancelled⟩
    rcases getElem?_update_eq_some p found with ⟨-, old, there, rfl⟩ | ⟨-, there⟩
    · exact ⟨old, there, by rw [← keeps, notCancelled]⟩
    · exact ⟨l, there, notCancelled⟩

theorem Tidy.release (tidy : p.Tidy) : p.release.Tidy := by
  intro j
  rw [release_held]
  refine ⟨fun held => absurd held (by simp), ?_⟩
  rintro ⟨l, found, notCancelled⟩
  unfold PollLoops.release at found
  split at found
  case h_1 free =>
      have cancelled := tidy.cancelled_of_held_eq_none free found
      rw [notCancelled] at cancelled
      cases cancelled
  case h_2 i held =>
      rcases getElem?_update_eq_some p found with ⟨-, old, -, rfl⟩ | ⟨different, there⟩
      · cases notCancelled
      · -- A second loop that was not cancelled would be held as well.
        have alsoHeld := (tidy j).mpr ⟨l, there, notCancelled⟩
        rw [held] at alsoHeld
        exact absurd (Option.some.inj alsoHeld) different

/-- Once the held loop was let go, all tidy loops are cancelled. -/
theorem Tidy.cancelled_of_release (tidy : p.Tidy) {i : Nat} {l : PollLoop Subject Report}
    (found : p.release.loops[i]? = some l) : l.cancelled = true :=
  tidy.release.cancelled_of_held_eq_none (release_held p) found

theorem Tidy.start (tidy : p.Tidy) {l : PollLoop Subject Report} (fresh : l.cancelled = false) :
    (p.start l).Tidy := by
  intro j
  rw [start_held]
  constructor
  · intro held
    obtain rfl := Option.some.inj held
    exact ⟨l, getElem?_start_last p l, fresh⟩
  · -- All loops but the new one were let go before it was started.
    rintro ⟨m, found, notCancelled⟩
    have inside : j < (p.start l).loops.length := (List.getElem?_eq_some_iff.mp found).1
    rw [length_start] at inside
    by_cases before : j < p.loops.length
    · rw [getElem?_start_lt p l before] at found
      have cancelled := tidy.cancelled_of_release found
      rw [notCancelled] at cancelled
      cases cancelled
    · have last : j = p.loops.length := by omega
      rw [last]

/-- **Loops stay tidy**, whatever their owner does. -/
theorem Evolves.tidy (step : Evolves p q) (tidy : p.Tidy) : q.Tidy := by
  cases step with
  | stay => exact tidy
  | update i keeps => exact tidy.update i keeps
  | release => exact tidy.release
  | start fresh => exact tidy.start fresh

/-- No loop is ever forgotten. -/
theorem Evolves.length_le (step : Evolves p q) : p.loops.length ≤ q.loops.length := by
  cases step with
  | stay => exact Nat.le_refl _
  | update i keeps => exact Nat.le_of_eq (length_update p _).symm
  | release => exact Nat.le_of_eq (length_release p).symm
  | start fresh =>
      rw [length_start]
      exact Nat.le_succ _

theorem Cancelled.release {i : Nat} (cancelled : p.Cancelled i) : p.release.Cancelled i := by
  obtain ⟨l, found, mark⟩ := cancelled
  unfold PollLoops.release
  split
  · exact ⟨l, found, mark⟩
  case h_2 k held =>
      by_cases same : k = i
      · subst same
        exact ⟨l.cancel, getElem?_update_self p _ found, rfl⟩
      · exact ⟨l, (getElem?_update_ne p _ same).trans found, mark⟩

/-- **A cancelled loop stays cancelled**, whatever its owner does. -/
theorem Evolves.cancelled (step : Evolves p q) {i : Nat} (cancelled : p.Cancelled i) :
    q.Cancelled i := by
  cases step with
  | stay => exact cancelled
  | release => exact cancelled.release
  | @update k f keeps =>
      obtain ⟨l, found, mark⟩ := cancelled
      by_cases same : k = i
      · subst same
        exact ⟨f l, getElem?_update_self p f found, by rw [keeps, mark]⟩
      · exact ⟨l, (getElem?_update_ne p f same).trans found, mark⟩
  | @start m fresh =>
      obtain ⟨l, found, mark⟩ := cancelled.release
      have inside : i < p.release.loops.length := (List.getElem?_eq_some_iff.mp found).1
      rw [length_release] at inside
      exact ⟨l, (getElem?_start_lt p m inside).trans found, mark⟩

/-! ## Loops and what they were started for -/

/-- There is one loop for each name in a list, in order, which polls the subject with that name; the
loop that is held is the last. -/
structure Follow {α : Type} (p : PollLoops Subject Report) (name : Subject → α)
    (names : List α) : Prop where
  tidy : p.Tidy
  named : p.loops.map (fun l => name l.subject) = names
  held_last : ∀ i, p.held = some i → i + 1 = p.loops.length

section Follow

variable {α : Type} {name : Subject → α} {names : List α} {i : Nat} {l : PollLoop Subject Report}

theorem follow_none (name : Subject → α) : (none : PollLoops Subject Report).Follow name [] where
  tidy := tidy_none
  named := rfl
  held_last i held := by cases held

namespace Follow

theorem length_loops (follow : p.Follow name names) : p.loops.length = names.length := by
  rw [← follow.named, List.length_map]

theorem getElem?_names (follow : p.Follow name names) (found : p.loops[i]? = some l) :
    names[i]? = some (name l.subject) := by
  rw [← follow.named, List.getElem?_map, found]
  rfl

/-- A loop that was not cancelled is the last one. -/
theorem getLast?_names (follow : p.Follow name names) (found : p.loops[i]? = some l)
    (notCancelled : l.cancelled = false) :
    names.getLast? = some (name l.subject) ∧ i = names.length - 1 := by
  have held := (follow.tidy i).mpr ⟨l, found, notCancelled⟩
  have last := follow.held_last i held
  rw [follow.length_loops] at last
  have place : i = names.length - 1 := by omega
  rw [List.getLast?_eq_getElem?, ← place]
  exact ⟨follow.getElem?_names found, rfl⟩

theorem update (follow : p.Follow name names) (i : Nat)
    {f : PollLoop Subject Report → PollLoop Subject Report}
    (keeps : ∀ l, (f l).cancelled = l.cancelled)
    (keepsName : ∀ l, name (f l).subject = name l.subject) :
    (p.update i f).Follow name names := by
  refine ⟨follow.tidy.update i keeps, ?_, ?_⟩
  · rw [map_update p keepsName]
    exact follow.named
  · intro j held
    rw [length_update]
    exact follow.held_last j held

theorem release (follow : p.Follow name names) : p.release.Follow name names := by
  refine ⟨follow.tidy.release, ?_, ?_⟩
  · rw [map_subject_release p name]
    exact follow.named
  · intro j held
    rw [release_held] at held
    cases held

theorem start (follow : p.Follow name names) (fresh : l.cancelled = false) :
    (p.start l).Follow name (names ++ [name l.subject]) := by
  refine ⟨follow.tidy.start fresh, ?_, ?_⟩
  · rw [PollLoops.start, List.map_append, map_subject_release p name, follow.named]
    rfl
  · intro j held
    obtain rfl := Option.some.inj held
    rw [length_start]

end Follow

end Follow

end PollLoops

end StrategyDesk
