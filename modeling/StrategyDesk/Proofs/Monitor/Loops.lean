import StrategyDesk.Monitor.Refresh

/-!
# What happens to a refresh loop

A refresh loop is asked for refreshes and told to stop by others, gets its turn now and then, and
waits for its refreshes to end, each of which may take any time. It looks at its mark when a wait
ends, and then goes on with the refresh to its end.

## Main Definitions

* `RefreshEvent`, `RefreshLoop.after` — what happens to a loop, and the loop after it
* `RefreshLoop.begins`, `RefreshLoop.begunOnRequest`, `RefreshLoop.ends` — what an event does to
  refreshes, and `RefreshLoop.count` of it in a history
* `RefreshLoop.IsResting` — the loop is parked, and nothing has woken it
* `RefreshLoop.Sound` — the invariant

## Main Statements

* `RefreshLoop.looks` — what a loop does when it gets its turn, case by case
* `RefreshLoop.count_begins` — refreshes do not overlap
* `RefreshLoop.Sound.not_isPending` — a loop at rest has no request pending
* `RefreshLoop.Sound.answered` — each request of a live loop is answered
* `RefreshLoop.Sound.coalesced` — requests during one refresh are answered by one
-/

namespace StrategyDesk

/-- What happens next to a refresh loop. -/
inductive RefreshEvent where
  | fire
  | cancel
  /-- It gets its turn. -/
  | look (now : Nat)
  /-- Its wait for an answer ends. -/
  | receive
  /-- Its refresh ends. -/
  | finish
deriving DecidableEq, Repr

namespace RefreshLoop

/-- The loop after an event. -/
def advance (l : RefreshLoop) : RefreshEvent → RefreshLoop
  | .fire => l.fire
  | .cancel => l.cancel
  | .look now => l.look now
  | .receive => l.receive
  | .finish => l.finish

/-- The loop after events that happen one after the other. -/
def after (l : RefreshLoop) (history : List RefreshEvent) : RefreshLoop := history.foldl advance l

/-- A refresh is in flight. -/
def isBusy (l : RefreshLoop) : Bool := l.stage == .refreshing

/-- The event begins a refresh. -/
def begins (l : RefreshLoop) : RefreshEvent → Bool
  | .look now => !l.isBusy && (l.look now).isBusy
  | .fire | .cancel | .receive | .finish => false

/-- The event begins a refresh for a request: no tick is due. -/
def begunOnRequest (l : RefreshLoop) : RefreshEvent → Bool
  | .look now => l.begins (.look now) && decide (now < l.ticker.due)
  | .fire | .cancel | .receive | .finish => false

/-- The event ends a refresh: one that is told to stop ends with its wait. -/
def ends (l : RefreshLoop) : RefreshEvent → Bool
  | .finish => l.isBusy
  | .receive => l.isBusy && l.cancelled
  | .fire | .cancel | .look _ => false

/-- How many events of a history do something. -/
def count (does : RefreshLoop → RefreshEvent → Bool) : RefreshLoop → List RefreshEvent → Nat
  | _, [] => 0
  | l, event :: rest => (does l event).toNat + count does (l.advance event) rest

/-- The loop is parked, and nothing has woken it. A loop that was woken is about to get its turn. -/
def IsResting (l : RefreshLoop) : Prop := l.stage = .parked ∧ l.woken = false

/-- The loop may look for a reason to refresh. -/
def HasTurn (l : RefreshLoop) : Prop := l.stage = .ready ∨ l.stage = .parked

variable {l m : RefreshLoop} {event : RefreshEvent} {history rest : List RefreshEvent} {now : Nat}

theorem after_append (l : RefreshLoop) (history rest : List RefreshEvent) :
    l.after (history ++ rest) = (l.after history).after rest := by
  simp [after]

/-! ## Turns -/

/-- What a loop may do when it gets its turn. -/
inductive Looks (l : RefreshLoop) (now : Nat) : RefreshLoop → Prop
  | passes (noTurn : ¬ l.HasTurn) : Looks l now l
  | returns (turn : l.HasTurn) (cancelled : l.cancelled = true) :
      Looks l now { l with stage := .returned }
  | serves (turn : l.HasTurn) (notCancelled : l.cancelled = false) (due : l.ticker.due ≤ now) :
      Looks l now { l with
        ticker := l.ticker.serve now, stage := .refreshing, woken := false, kept := l.isPending }
  | wakes (turn : l.HasTurn) (notCancelled : l.cancelled = false) (early : now < l.ticker.due)
      (woken : l.woken = true) : Looks l now { l with stage := .refreshing, woken := false }
  | recalls (turn : l.HasTurn) (notCancelled : l.cancelled = false) (early : now < l.ticker.due)
      (unwoken : l.woken = false) (kept : l.kept = true) :
      Looks l now { l with stage := .refreshing, kept := false }
  | parks (turn : l.HasTurn) (notCancelled : l.cancelled = false) (early : now < l.ticker.due)
      (unwoken : l.woken = false) (unkept : l.kept = false) :
      Looks l now { l with stage := .parked }

/-- A loop that gets its turn does one of the things that `Looks` lists. -/
theorem looks (l : RefreshLoop) (now : Nat) : l.Looks now (l.look now) := by
  unfold look
  split
  · next noTurn =>
    exact .passes fun turn => turn.elim (absurd · noTurn.1) (absurd · noTurn.2)
  · next other =>
    have turn : l.HasTurn := by
      rcases Decidable.not_and_iff_not_or_not.mp other with ready | parked
      · exact Or.inl (Decidable.not_not.mp ready)
      · exact Or.inr (Decidable.not_not.mp parked)
    split
    · next cancelled => exact .returns turn cancelled
    · next uncancelled =>
      have notCancelled : l.cancelled = false := by simpa using uncancelled
      split
      · next due => exact .serves turn notCancelled due
      · next later =>
        have early : now < l.ticker.due := by omega
        split
        · next woken => exact .wakes turn notCancelled early woken
        · next asleep =>
          have unwoken : l.woken = false := by simpa using asleep
          split
          · next kept => exact .recalls turn notCancelled early unwoken kept
          · next unasked => exact .parks turn notCancelled early unwoken (by simpa using unasked)

theorem HasTurn.not_isBusy (turn : l.HasTurn) : l.isBusy = false := by
  rcases turn with ready | parked
  · simp [isBusy, ready]
  · simp [isBusy, parked]

theorem look_of_not_hasTurn (noTurn : ¬ l.HasTurn) (now : Nat) : l.look now = l := by
  have both : l.stage ≠ .ready ∧ l.stage ≠ .parked := not_or.mp noTurn
  simp [look, both]

theorem look_of_isBusy (busy : l.isBusy = true) (now : Nat) : l.look now = l := by
  refine look_of_not_hasTurn (fun turn => ?_) now
  rw [turn.not_isBusy] at busy
  cases busy

/-- A loop that was not told to stop goes on after its wait. -/
theorem receive_of_not_cancelled (uncancelled : l.cancelled = false) : l.receive = l := by
  simp [receive, uncancelled]

@[simp] theorem fire_stage (l : RefreshLoop) : l.fire.stage = l.stage := by
  unfold fire
  split <;> rfl

@[simp] theorem fire_cancelled (l : RefreshLoop) : l.fire.cancelled = l.cancelled := by
  unfold fire
  split <;> rfl

@[simp] theorem isPending_fire (l : RefreshLoop) : l.fire.isPending = true := by
  unfold fire
  split <;> simp [isPending]

/-! ## Refreshes do not overlap -/

/-- A refresh begins when none is in flight, and ends when one is. -/
theorem begins_balance (l : RefreshLoop) (event : RefreshEvent) :
    l.isBusy.toNat + (l.begins event).toNat =
      (l.ends event).toNat + (l.advance event).isBusy.toNat := by
  cases event with
  | cancel => simp [begins, ends, advance, cancel, isBusy]
  | fire => simp [begins, ends, advance, isBusy]
  | receive =>
      simp only [begins, ends, advance, receive]
      split
      · next returns => simp [isBusy, returns]
      · next goesOn => cases busy : l.isBusy <;> simp_all [isBusy]
  | finish =>
      cases busy : l.isBusy with
      | false =>
          have idle : l.finish = l := by simp_all [finish, isBusy]
          simp [begins, ends, advance, busy, idle]
      | true =>
          have done : l.finish.isBusy = false := by
            unfold finish isBusy at *
            cases l.cancelled <;> simp_all
          simp [begins, ends, advance, busy, done]
  | look now =>
      cases busy : l.isBusy with
      | false => simp [begins, ends, advance, busy]
      | true =>
          simp [begins, ends, advance, busy, look_of_isBusy]

/-- **Refreshes do not overlap**: in every history as many have begun as have ended, but for the
one that was in flight before and the one that is in flight after it. -/
theorem count_begins (l : RefreshLoop) (history : List RefreshEvent) :
    l.isBusy.toNat + l.count begins history =
      l.count ends history + (l.after history).isBusy.toNat := by
  induction history generalizing l with
  | nil => simp [count, after]
  | cons event rest ih =>
      have first := l.begins_balance event
      have others := ih (l.advance event)
      simp only [count, after, List.foldl_cons] at *
      omega

/-! ## A loop at rest has no request pending -/

/-- What holds of a loop at all times. -/
structure Sound (l : RefreshLoop) : Prop where
  /-- A loop that is about to look, or refreshes, was not woken. -/
  unwoken : l.stage = .ready ∨ l.stage = .refreshing → l.woken = false
  /-- A loop does not park while a request is kept. -/
  unkept : l.stage = .parked → l.woken = false → l.kept = false

theorem sound_start (period now : Nat) : (start period now).Sound :=
  ⟨fun _ => rfl, fun _ _ => rfl⟩

namespace Sound

theorem fire (sound : l.Sound) : l.fire.Sound := by
  unfold RefreshLoop.fire
  split
  · next asleep =>
    refine ⟨fun other => ?_, fun _ unwoken => nomatch unwoken⟩
    rcases other with ready | refreshing
    · exact absurd (asleep.1.symm.trans ready) nofun
    · exact absurd (asleep.1.symm.trans refreshing) nofun
  · next other =>
    refine ⟨sound.unwoken, fun parked unwoken => ?_⟩
    exact absurd ⟨parked, by simpa using unwoken⟩ other

theorem look (sound : l.Sound) (now : Nat) : (l.look now).Sound := by
  have looked := l.looks now
  generalize l.look now = next at looked
  cases looked with
  | passes _ => exact sound
  | returns _ _ => exact ⟨fun other => by simp at other, fun parked => nomatch parked⟩
  | serves _ _ _ | wakes _ _ _ _ => exact ⟨fun _ => rfl, fun parked => nomatch parked⟩
  | recalls _ _ _ unwoken _ => exact ⟨fun _ => unwoken, fun parked => nomatch parked⟩
  | parks _ _ _ unwoken unkept => exact ⟨fun _ => unwoken, fun _ _ => unkept⟩

theorem receive (sound : l.Sound) : l.receive.Sound := by
  unfold RefreshLoop.receive
  split
  · exact ⟨fun other => by simp at other, fun parked => nomatch parked⟩
  · exact sound

theorem finish (sound : l.Sound) : l.finish.Sound := by
  unfold RefreshLoop.finish
  split
  · exact sound
  · next busy =>
    have unwoken := sound.unwoken (Or.inr (Decidable.not_not.mp busy))
    refine ⟨fun _ => unwoken, fun parked => ?_⟩
    dsimp only at parked
    split at parked <;> cases parked

theorem advance (sound : l.Sound) (event : RefreshEvent) : (l.advance event).Sound := by
  cases event with
  | fire => exact sound.fire
  | cancel => exact ⟨sound.unwoken, sound.unkept⟩
  | look now => exact sound.look now
  | receive => exact sound.receive
  | finish => exact sound.finish

/-- The invariant holds after every history. -/
theorem after (sound : l.Sound) (history : List RefreshEvent) : (l.after history).Sound := by
  induction history generalizing l with
  | nil => exact sound
  | cons event rest ih => exact ih (sound.advance event)

/-- **A loop at rest has no request pending.** -/
theorem not_isPending (sound : l.Sound) (resting : l.IsResting) : l.isPending = false := by
  simp [isPending, resting.2, sound.unkept resting.1 resting.2]

end Sound

/-! ## Live loops -/

theorem isLive_iff : l.isLive = true ↔ l.cancelled = false ∧ l.stage ≠ .returned := by
  simp [isLive]

/-- A loop returns only after it was told to stop. -/
theorem isLive_advance (live : l.isLive = true) (goesOn : event ≠ .cancel) :
    (l.advance event).isLive = true := by
  obtain ⟨uncancelled, notReturned⟩ := isLive_iff.mp live
  cases event with
  | cancel => exact absurd rfl goesOn
  | fire => exact isLive_iff.mpr ⟨by simp [advance, uncancelled], by simp [advance, notReturned]⟩
  | receive => simpa only [advance, receive_of_not_cancelled uncancelled] using live
  | finish =>
      simp only [advance, finish]
      split
      · exact live
      · simp [isLive, uncancelled]
  | look now =>
      have looked := l.looks now
      simp only [advance]
      generalize l.look now = next at looked
      cases looked with
      | passes _ => exact live
      | returns _ cancelled =>
          rw [uncancelled] at cancelled
          cases cancelled
      | serves _ _ _ | wakes _ _ _ _ | recalls _ _ _ _ _ | parks _ _ _ _ _ =>
          simp [isLive, uncancelled]

theorem isLive_after (live : l.isLive = true) (goesOn : .cancel ∉ history) :
    (l.after history).isLive = true := by
  induction history generalizing l with
  | nil => exact live
  | cons event rest ih =>
      rw [List.mem_cons, not_or] at goesOn
      exact ih (isLive_advance live (Ne.symm goesOn.1)) goesOn.2

/-! ## Requests are answered -/

/-- The loop is live, and a request is pending. -/
structure Awaits (l : RefreshLoop) : Prop where
  live : l.isLive = true
  pending : l.isPending = true

namespace Awaits

/-- A request that is made of a live loop is pending. -/
theorem of_isLive (live : l.isLive = true) : l.fire.Awaits := by
  have stays : (l.advance .fire).isLive = true := isLive_advance live nofun
  exact ⟨stays, isPending_fire l⟩

/-- When the loop gets its turn it begins a refresh. -/
theorem isBusy_look (awaits : l.Awaits) (turn : l.HasTurn) (now : Nat) :
    (l.look now).isBusy = true := by
  have looked := l.looks now
  generalize l.look now = next at looked
  cases looked with
  | passes noTurn => exact absurd turn noTurn
  | returns _ cancelled =>
      rw [(isLive_iff.mp awaits.live).1] at cancelled
      cases cancelled
  | serves _ _ _ | wakes _ _ _ _ | recalls _ _ _ _ _ => rfl
  | parks _ _ _ unwoken unkept =>
      have pending := awaits.pending
      simp [isPending, unwoken, unkept] at pending

theorem finish (awaits : l.Awaits) : l.finish.Awaits := by
  have stays : (l.advance .finish).isLive = true := isLive_advance awaits.live nofun
  refine ⟨stays, ?_⟩
  unfold RefreshLoop.finish
  split <;> exact awaits.pending

/-- **The next turn of the loop begins a refresh**, once a refresh in flight has ended. -/
theorem next_turn (awaits : l.Awaits) (now : Nat) : (l.finish.look now).isBusy = true := by
  refine awaits.finish.isBusy_look ?_ now
  have notReturned := (isLive_iff.mp awaits.finish.live).2
  have notBusy : l.finish.stage ≠ .refreshing := by
    unfold RefreshLoop.finish
    split
    · assumption
    · dsimp only
      split <;> nofun
  cases stage : l.finish.stage with
  | ready => exact Or.inl stage
  | parked => exact Or.inr stage
  | refreshing => exact absurd stage notBusy
  | returned => exact absurd stage notReturned

/-- A request stays pending until a refresh begins, unless the loop is told to stop. -/
theorem advance (awaits : l.Awaits) (goesOn : event ≠ .cancel) :
    l.begins event = true ∨ (l.advance event).Awaits := by
  have live := isLive_advance awaits.live goesOn
  cases event with
  | cancel => exact absurd rfl goesOn
  | fire => exact Or.inr ⟨live, isPending_fire l⟩
  | receive =>
      have goes : l.advance .receive = l :=
        receive_of_not_cancelled (isLive_iff.mp awaits.live).1
      exact Or.inr (by rw [goes]; exact awaits)
  | finish => exact Or.inr awaits.finish
  | look now =>
      by_cases turn : l.HasTurn
      · exact Or.inl (by simp [begins, turn.not_isBusy, awaits.isBusy_look turn])
      · exact Or.inr (by rw [RefreshLoop.advance, look_of_not_hasTurn turn]; exact awaits)

/-- **A request is answered by a refresh that begins after it**, or is still pending. -/
theorem after (awaits : l.Awaits) (goesOn : .cancel ∉ history) :
    0 < l.count begins history ∨ (l.after history).Awaits := by
  induction history generalizing l with
  | nil => exact Or.inr awaits
  | cons event rest ih =>
      rw [List.mem_cons, not_or] at goesOn
      rcases awaits.advance (Ne.symm goesOn.1) with begins | stays
      · exact Or.inl (by simp only [count, begins, Bool.toNat_true]; omega)
      · rcases ih stays goesOn.2 with later | still
        · exact Or.inl (by simp only [count]; omega)
        · exact Or.inr still

end Awaits

/-- **Each request of a live loop is answered** by a refresh that begins after it: it has begun, or
begins when the loop gets its next turn, and has begun when the loop is at rest. -/
theorem Sound.answered {before : List RefreshEvent} (sound : l.Sound) (live : l.isLive = true)
    (goesOn : .cancel ∉ before ++ .fire :: rest) :
    (0 < (l.after (before ++ [.fire])).count begins rest ∨
      ∀ now, ((l.after (before ++ .fire :: rest)).finish.look now).isBusy = true) ∧
    ((l.after (before ++ .fire :: rest)).IsResting →
      0 < (l.after (before ++ [.fire])).count begins rest) := by
  simp only [List.mem_append, List.mem_cons, not_or] at goesOn
  have fired : l.after (before ++ [.fire]) = (l.after before).fire := after_append ..
  have whole : l.after (before ++ .fire :: rest) = (l.after before).fire.after rest :=
    after_append ..
  have awaits : (l.after before).fire.Awaits := .of_isLive (isLive_after live goesOn.1)
  have answered := awaits.after goesOn.2.2
  have atRest := (sound.after (before ++ .fire :: rest)).not_isPending
  rw [whole] at atRest
  rw [fired, whole]
  refine ⟨answered.imp_right fun still now => still.next_turn now, fun resting => ?_⟩
  rcases answered with begun | still
  · exact begun
  · -- A request that still waits is pending, and nothing is pending at rest.
    have unasked := atRest resting
    rw [still.pending] at unasked
    cases unasked

/-! ## Requests during one refresh are answered by one -/

/-- How many requests are pending. -/
def pending (l : RefreshLoop) : Nat := l.woken.toNat + l.kept.toNat

/-- While a refresh is in flight one request at most is kept, and none is lost. -/
theorem after_of_isBusy (uncancelled : l.cancelled = false) (busy : l.isBusy = true)
    (inFlight : .finish ∉ history) (goesOn : .cancel ∉ history) :
    (l.after history) = { l with kept := l.kept || history.contains .fire } := by
  induction history generalizing l with
  | nil => simp [after]
  | cons event rest ih =>
      rw [List.mem_cons, not_or] at inFlight goesOn
      cases event with
      | finish => exact absurd rfl inFlight.1
      | cancel => exact absurd rfl goesOn.1
      | look now =>
          have same := ih uncancelled busy inFlight.2 goesOn.2
          simpa [after, advance, look_of_isBusy busy] using same
      | receive =>
          have same := ih uncancelled busy inFlight.2 goesOn.2
          simpa [after, advance, receive_of_not_cancelled uncancelled] using same
      | fire =>
          have refreshing : l.stage = .refreshing := by simpa [isBusy] using busy
          have kept : l.advance .fire = { l with kept := true } := by
            simp [advance, fire, refreshing]
          have stillBusy : (l.advance .fire).isBusy = true := by rw [kept]; exact busy
          have same := ih (by rw [kept]; exact uncancelled) stillBusy inFlight.2 goesOn.2
          rw [kept] at same
          simpa [after, kept] using same

/-- A turn on which no tick is due answers one pending request, if there is one; a tick answers
none. -/
theorem begunOnRequest_look (live : l.isLive = true) (single : l.pending ≤ 1) (now : Nat) :
    (l.begunOnRequest (.look now)).toNat + (l.look now).pending = l.pending := by
  have looked := l.looks now
  have uncancelled := (isLive_iff.mp live).1
  simp only [begunOnRequest, begins]
  generalize l.look now = next at looked
  cases looked with
  | passes _ => simp
  | returns _ cancelled =>
      rw [uncancelled] at cancelled
      cases cancelled
  | serves turn _ due =>
      have late : ¬ now < l.ticker.due := by omega
      unfold pending at *
      cases woken : l.woken <;> cases kept : l.kept <;> simp_all [isPending]
  | wakes turn _ early woken =>
      have idle : l.stage ≠ .refreshing := by simpa [isBusy] using turn.not_isBusy
      simp [isBusy, idle, early, pending, woken]
  | recalls turn _ early unwoken kept =>
      have idle : l.stage ≠ .refreshing := by simpa [isBusy] using turn.not_isBusy
      simp [isBusy, idle, early, pending, unwoken, kept]
  | parks turn _ early unwoken unkept => simp [isBusy, pending, unwoken, unkept]

/-- Without new requests a live loop begins one refresh for each pending one. -/
theorem begunOnRequest_balance (live : l.isLive = true) (single : l.pending ≤ 1)
    (quiet : event ≠ .fire) (goesOn : event ≠ .cancel) :
    (l.begunOnRequest event).toNat + (l.advance event).pending = l.pending := by
  cases event with
  | fire => exact absurd rfl quiet
  | cancel => exact absurd rfl goesOn
  | look now => exact begunOnRequest_look live single now
  | receive =>
      have goes := receive_of_not_cancelled (isLive_iff.mp live).1
      simp [begunOnRequest, advance, goes]
  | finish =>
      simp only [begunOnRequest, advance, finish]
      split <;> simp [pending]

/-- One pending request is answered by one refresh, as long as there is no new one. -/
theorem count_begunOnRequest_add (live : l.isLive = true) (single : l.pending ≤ 1)
    (quiet : .fire ∉ history) (goesOn : .cancel ∉ history) :
    l.count begunOnRequest history + (l.after history).pending = l.pending := by
  induction history generalizing l with
  | nil => simp [count, after]
  | cons event rest ih =>
      rw [List.mem_cons, not_or] at quiet goesOn
      have balance := begunOnRequest_balance live single (Ne.symm quiet.1) (Ne.symm goesOn.1)
      have stays := isLive_advance live (Ne.symm goesOn.1)
      have later := ih stays (by omega) quiet.2 goesOn.2
      simp only [count, after, List.foldl_cons] at *
      omega

/-- If there was a request at least while a refresh was in flight, and none since, then one refresh
for all of them has begun since, or is still pending. -/
theorem Sound.count_begunOnRequest {during : List RefreshEvent} (sound : l.Sound)
    (live : l.isLive = true) (busy : l.isBusy = true) (inFlight : .finish ∉ during)
    (asked : .fire ∈ during) (quiet : .fire ∉ rest) (goesOn : .cancel ∉ during ++ rest) :
    (l.after (during ++ [.finish])).count begunOnRequest rest +
      (l.after (during ++ .finish :: rest)).pending = 1 := by
  have refreshing : l.stage = .refreshing := by simpa [isBusy] using busy
  have uncancelled := (isLive_iff.mp live).1
  rw [List.mem_append, not_or] at goesOn
  have ended : l.after (during ++ [.finish]) = { l with stage := .ready, kept := true } := by
    rw [after_append, after_of_isBusy uncancelled busy inFlight goesOn.1]
    simp [RefreshLoop.after, RefreshLoop.advance, RefreshLoop.finish, refreshing, uncancelled,
      asked]
  have one : (l.after (during ++ [.finish])).pending = 1 := by
    simp [ended, pending, sound.unwoken (Or.inr refreshing)]
  have stillLive : (l.after (during ++ [.finish])).isLive = true := by
    simp [ended, isLive, uncancelled]
  have answered := count_begunOnRequest_add stillLive (by omega) quiet goesOn.2
  rwa [one, ← after_append, List.append_assoc] at answered

theorem pending_eq_zero (unasked : l.isPending = false) : l.pending = 0 := by
  simp only [isPending, Bool.or_eq_false_iff] at unasked
  simp [pending, unasked.1, unasked.2]

/-- **Requests during one refresh are answered by exactly one**, which has begun or is still
pending, and has begun when the loop is at rest. -/
theorem Sound.coalesced {before during : List RefreshEvent} (sound : l.Sound)
    (live : l.isLive = true) (goesOn : .cancel ∉ before ++ during ++ .finish :: rest)
    (busy : (l.after before).isBusy = true) (inFlight : .finish ∉ during)
    (asked : .fire ∈ during) (quiet : .fire ∉ rest) :
    (l.after (before ++ during ++ [.finish])).count begunOnRequest rest +
      (l.after (before ++ during ++ .finish :: rest)).pending = 1 ∧
    ((l.after (before ++ during ++ .finish :: rest)).IsResting →
      (l.after (before ++ during ++ [.finish])).count begunOnRequest rest = 1) := by
  have atRest := (sound.after (before ++ during ++ .finish :: rest)).not_isPending
  simp only [List.mem_append, List.mem_cons, not_or] at goesOn
  obtain ⟨⟨earlier, meanwhile⟩, -, since⟩ := goesOn
  have balance := (sound.after before).count_begunOnRequest (isLive_after live earlier) busy
    inFlight asked quiet (by simp [meanwhile, since])
  rw [← after_append, ← after_append, ← List.append_assoc, ← List.append_assoc] at balance
  refine ⟨balance, fun resting => ?_⟩
  have answered := pending_eq_zero (atRest resting)
  omega

end RefreshLoop

end StrategyDesk
