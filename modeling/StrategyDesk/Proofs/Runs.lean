/-!
# Runs

A run is a sequence of events that can happen one after the other from a state.

## Main Definitions

* `runFrom?` — the state after a run, if its events can happen

## Main Statements

* `runFrom?_induction` — what each event preserves holds after every run, with the history of the
  run as a part of what is preserved
-/

namespace StrategyDesk

variable {State Event : Type}

/-- The state after events, if they can happen one after the other. -/
def runFrom? (step? : State → Event → Option State) (start : State) (events : List Event) :
    Option State :=
  events.foldlM step? start

section Runs

variable {step? : State → Event → Option State} {start middle finish : State}

@[simp] theorem runFrom?_nil : runFrom? step? start [] = some start := rfl

theorem runFrom?_cons {event : Event} {events : List Event} :
    runFrom? step? start (event :: events) =
      (step? start event).bind fun next => runFrom? step? next events := by
  simp [runFrom?, List.foldlM_cons]

theorem runFrom?_append {first later : List Event} :
    runFrom? step? start (first ++ later) =
      (runFrom? step? start first).bind fun next => runFrom? step? next later := by
  simp [runFrom?, List.foldlM_append]

/-- A run is followed by a run from the state that it led to. -/
theorem runFrom?_trans {first later : List Event}
    (run : runFrom? step? start first = some middle)
    (goesOn : runFrom? step? middle later = some finish) :
    runFrom? step? start (first ++ later) = some finish := by
  rw [runFrom?_append, run]
  exact goesOn

/-- A run is followed by one more event. -/
theorem runFrom?_concat {events : List Event} {event : Event}
    (run : runFrom? step? start events = some middle)
    (step : step? middle event = some finish) :
    runFrom? step? start (events ++ [event]) = some finish := by
  refine runFrom?_trans run ?_
  rw [runFrom?_cons, step]
  rfl

/-- **What each event preserves holds after every run.** The property may speak of the events that
have happened so far. -/
theorem runFrom?_induction (holds : List Event → State → Prop) (base : holds [] start)
    (keep : ∀ events middle event next, runFrom? step? start events = some middle →
      holds events middle → step? middle event = some next → holds (events ++ [event]) next)
    {events : List Event} (run : runFrom? step? start events = some finish) :
    holds events finish := by
  -- The induction is on the events before some rest, which the run still has to go through.
  suffices goal : ∀ later earlier middle, runFrom? step? start earlier = some middle →
      holds earlier middle → runFrom? step? middle later = some finish →
      holds (earlier ++ later) finish by
    simpa using goal events [] start rfl base run
  intro later
  induction later with
  | nil =>
      intro earlier middle _ holdsMiddle rest
      rw [runFrom?_nil, Option.some.injEq] at rest
      subst rest
      simpa using holdsMiddle
  | cons event later ih =>
      intro earlier middle before holdsMiddle rest
      rw [runFrom?_cons, Option.bind_eq_some_iff] at rest
      obtain ⟨next, step, rest⟩ := rest
      have after := runFrom?_concat before step
      have holdsNext := keep earlier middle event next before holdsMiddle step
      simpa using ih (earlier ++ [event]) next after holdsNext rest

/-- What each event of a kind preserves holds after every run of such events. -/
theorem runFrom?_invariant (kind : Event → Prop) (holds : State → Prop) (base : holds start)
    (keep : ∀ middle event next, kind event → holds middle → step? middle event = some next →
      holds next)
    {events : List Event} (run : runFrom? step? start events = some finish)
    (ofKind : ∀ event ∈ events, kind event) : holds finish := by
  -- No history is needed: the induction follows the run from its start.
  induction events generalizing start with
  | nil =>
      rw [runFrom?_nil, Option.some.injEq] at run
      exact run ▸ base
  | cons event events ih =>
      rw [runFrom?_cons, Option.bind_eq_some_iff] at run
      obtain ⟨next, step, rest⟩ := run
      have first := ofKind event List.mem_cons_self
      have others := fun e mem => ofKind e (List.mem_cons_of_mem event mem)
      exact ih (keep start event next first base step) rest others

end Runs

end StrategyDesk
