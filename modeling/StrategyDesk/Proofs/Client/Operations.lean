import StrategyDesk.Proofs.Backtest.Execution
import StrategyDesk.Proofs.Client.Checks
import StrategyDesk.Proofs.Gateway.Actions

/-!
# Runs of the client

The client fills in forms, submits backtests, has control actions carried out and talks about stored
configs, all at a time.  The submissions and the actions wait for their replies while polling loops
go on.  Whatever happens, an operation that is refused has asked for nothing and changed nothing,
and whatever is sent was checked before.

## Main Definitions

* `Client`, `ClientEvent` — the client, and what may happen next
* `Client.Entry` — an event with what was before and after it, what it asked for, and the error that
  an operation returned with it
* `Client.step?`, `Client.record?` — one event, and the record of a run
* `ClientEvent.Unrefused` — what the services reply is no refusal
* `Client.Entry.Sound` — a refusal asks for nothing and changes nothing, and calls are checked

## Main Statements

* `Client.sound_step?` — every event of a client is sound
* `Client.nothing_unchecked_is_sent` — every event of a run is

## Design Notes

A conversation about stored configs depends on nothing but the replies to its calls, so that it is
one event, with all its replies.
-/

namespace StrategyDesk

/-! ## The client -/

/-- The error that the caller's operation returns with an event, if it does. -/
def BacktestExecution.failure? (x : BacktestExecution) : BacktestEvent → Option Error
  | .run _ => StrategyDesk.failure? x.runner.begin
  | .answered reply _ => StrategyDesk.failure? reply
  | .abandon | .cancel | .drop | .loop .. => none

/-- The error that the caller's action returns with an event, if it does. -/
def GatewayExecution.failure? (x : GatewayExecution) : GatewayEvent → Option Error
  | .execute action => StrategyDesk.failure? (x.controller.begin action)
  | .answered action reply now => StrategyDesk.failure? (x.controller.conclude action reply now).2.1
  | .abandon | .drop | .loop .. => none

/-- All that a client keeps. -/
structure Client where
  backtest : BacktestExecution
  gateway : GatewayExecution

/-- What may happen next. -/
inductive ClientEvent where
  /-- A form is read. -/
  | parse (form : BacktestForm)
  | backtest (event : BacktestEvent)
  | gateway (event : GatewayEvent)
  /-- A conversation about stored configs takes place, with a reply to each of its calls. -/
  | config (task : ConfigTask) (reply : (call : Call) → Reply call)

namespace ClientEvent

/-- An operation that was begun before goes on with the reply to its call. -/
def isReply : ClientEvent → Bool
  | backtest (.answered ..) | gateway (.answered ..) => true
  | parse _ | backtest _ | gateway _ | config .. => false

/-- What the services reply with the event is no refusal. -/
def Unrefused : ClientEvent → Prop
  | backtest (.answered reply _) => StrategyDesk.Unrefused reply
  | gateway (.answered _ reply _) => StrategyDesk.Unrefused reply
  | config _ reply => ∀ call, StrategyDesk.Unrefused (reply call)
  | parse _ | backtest _ | gateway _ => True

end ClientEvent

namespace Client

/-- What is told of an event. -/
structure Entry where
  before : Client
  event : ClientEvent
  after : Client
  effects : Effects
  /-- The error that an operation returned with the event. -/
  error : Option Error

/-- The entry of an event, if it can happen. -/
def step? (client : Client) : ClientEvent → Option Entry
  | .parse form => some ⟨client, .parse form, client, .none, failure? form.parse⟩
  | .backtest event =>
    (client.backtest.step? event).map fun (x, calls) =>
      ⟨client, .backtest event, { client with backtest := x }, ⟨calls, .never⟩,
        client.backtest.failure? event⟩
  | .gateway event =>
    (client.gateway.step? event).map fun (x, effects) =>
      ⟨client, .gateway event, { client with gateway := x }, effects,
        client.gateway.failure? event⟩
  | .config task reply =>
    let talk := task.talk reply
    some ⟨client, .config task reply, client, ⟨talk.calls, .never⟩, talk.error⟩

/-- The entries of events that happen one after the other, if they can. -/
def record? (client : Client) : List ClientEvent → Option (List Entry)
  | [] => some []
  | event :: rest => do
    let entry ← client.step? event
    let entries ← entry.after.record? rest
    return entry :: entries

/-- An operation that is refused has asked for nothing, now or before, and leaves the client as it
is.  All calls were checked, and a stored config is loaded only after it was created. -/
structure Entry.Sound (entry : Entry) : Prop where
  refused : ∀ why, entry.error = some (.refused why) →
    entry.event.isReply = false ∧ entry.effects = .none ∧ entry.after = entry.before
  checked : ∀ call ∈ entry.effects.calls, call.IsChecked
  loaded : ∀ name, .getConfig name ∈ entry.effects.calls →
    ∃ yaml, entry.effects.calls = [.createConfig ⟨name, yaml⟩, .getConfig name]

/-! ## Steps -/

/-- An action returns a refusal with its reply only if the reply is one. -/
theorem unrefused_conclude {c : Controller} {action : ControlAction}
    {reply : Except Error ControlReply} {now : Nat} (unrefused : Unrefused reply) :
    Unrefused (c.conclude action reply now).2.1 := by
  intro why refused
  cases reply with
  | error e =>
      obtain rfl := Except.error.inj refused
      exact unrefused why rfl
  | ok answer => cases action <;> cases refused

section Step

variable {client : Client} {entry : Entry}

/-- An event that asks for nothing, at which an operation returns with no refusal, is sound. -/
theorem Entry.sound_of_calls (unrefused : ∀ why, entry.error ≠ some (.refused why))
    (checked : ∀ call ∈ entry.effects.calls, call.IsChecked)
    (loadsNone : ∀ name, .getConfig name ∉ entry.effects.calls) : entry.Sound where
  refused why refused := absurd refused (unrefused why)
  checked := checked
  loaded name member := absurd member (loadsNone name)

theorem sound_backtest {event : BacktestEvent} {x : BacktestExecution} {calls : List Call}
    (unrefused : (ClientEvent.backtest event).Unrefused)
    (step : BacktestExecution.Step client.backtest event x calls) :
    Entry.Sound ⟨client, .backtest event, { client with backtest := x }, ⟨calls, .never⟩,
      client.backtest.failure? event⟩ := by
  cases step with
  | refused free refusal => exact ⟨fun _ _ => ⟨rfl, rfl, rfl⟩, by simp, by simp⟩
  | @begun request runner free ready =>
      refine Entry.sound_of_calls ?_ ?_ ?_
      · simp [BacktestExecution.failure?, ready, failure?]
      · simp only [List.mem_singleton, forall_eq]
        rintro ⟨form, params, graph, parsed, rfl⟩
        exact BacktestForm.isUsable_of_parse parsed graph
      · simp
  | answered reply now waiting =>
      exact Entry.sound_of_calls (failure?_ne_refused unrefused) (by simp) (by simp)
  | abandoned _ | cancelled _ | dropped _ =>
      exact Entry.sound_of_calls (by simp [BacktestExecution.failure?]) (by simp) (by simp)
  | @loop i event loop found fits =>
      refine Entry.sound_of_calls (by simp [BacktestExecution.failure?]) ?_ ?_
      · intro call member
        obtain ⟨id, -, rfl⟩ := List.mem_map.mp member
        trivial
      · intro name member
        obtain ⟨id, -, same⟩ := List.mem_map.mp member
        cases same

/-- What an action asks for was checked when it was begun. -/
theorem isChecked_call_of_begin {c begun : Controller} {action : ControlAction}
    (begins : c.begin action = .ok begun) : action.call.IsChecked := by
  cases action with
  | gatewayStart | gatewayStop | gatewayLogin | pipelineStop => trivial
  | pipelineStart config dryRun =>
      unfold Controller.begin at begins
      dsimp only at begins
      split at begins
      · cases begins
      · next named => exact Bool.eq_false_iff.mpr named

/-- Actions load no stored config. -/
theorem call_ne_getConfig (action : ControlAction) (name : String) :
    action.call ≠ .getConfig name := by
  cases action <;> exact nofun

/-- All that launch polls ask for is how their launch is getting on. -/
theorem mem_advance_calls {c : Controller} {i : Nat} {event : LoopEvent GatewayReport} {call : Call}
    (member : call ∈ (c.advance i event).2.calls) : ∃ id, call = .gatewayJob id := by
  cases event with
  | serve now | receive answer | publish => simp [Controller.advance, Effects.none] at member
  | ask =>
      obtain ⟨id, -, rfl⟩ := List.mem_map.mp member
      exact ⟨id, rfl⟩

theorem sound_execute {action : ControlAction} {x : GatewayExecution} {effects : Effects}
    (step : client.gateway.step? (.execute action) = some (x, effects)) :
    Entry.Sound ⟨client, .gateway (.execute action), { client with gateway := x }, effects,
      client.gateway.failure? (.execute action)⟩ := by
  unfold GatewayExecution.step? at step
  dsimp only at step
  split at step
  · split at step
    · obtain ⟨rfl, rfl⟩ := Prod.mk.inj (Option.some.inj step)
      exact ⟨fun _ _ => ⟨rfl, rfl, rfl⟩, by simp [Effects.none], by simp [Effects.none]⟩
    · next begun begins =>
      obtain ⟨rfl, rfl⟩ := Prod.mk.inj (Option.some.inj step)
      refine Entry.sound_of_calls ?_ ?_ ?_
      · simp [GatewayExecution.failure?, begins, failure?]
      · simpa using isChecked_call_of_begin begins
      · simpa [eq_comm] using call_ne_getConfig action
  · cases step
  · cases step

/-- Only at its beginning does an action return a refusal. -/
theorem failure?_ne_refused_of_ne_execute (x : GatewayExecution) {event : GatewayEvent}
    (unrefused : (ClientEvent.gateway event).Unrefused) (begun : ∀ action, event ≠ .execute action)
    (why : Refusal) : x.failure? event ≠ some (.refused why) := by
  cases event with
  | execute action => exact absurd rfl (begun action)
  | answered action reply now => exact failure?_ne_refused (unrefused_conclude unrefused) why
  | abandon | drop | loop _ _ => exact nofun

theorem sound_gateway {event : GatewayEvent} {x : GatewayExecution} {effects : Effects}
    (unrefused : (ClientEvent.gateway event).Unrefused)
    (step : client.gateway.step? event = some (x, effects)) :
    Entry.Sound ⟨client, .gateway event, { client with gateway := x }, effects,
      client.gateway.failure? event⟩ := by
  cases GatewayExecution.step_of_step? step with
  | refused _ _ | asked _ _ | stopped _ => exact sound_execute step
  | launched _ _ _ | alreadyRunning _ _ _ | concluded _ _ _ _ _ | abandoned _ | dropped _
  | announced _ =>
      refine Entry.sound_of_calls ?_ (by simp [Effects.none]) (by simp [Effects.none])
      exact failure?_ne_refused_of_ne_execute client.gateway unrefused (by simp)
  | loop found fits =>
      refine Entry.sound_of_calls ?_ ?_ ?_
      · exact failure?_ne_refused_of_ne_execute client.gateway unrefused (by simp)
      · intro call member
        obtain ⟨id, rfl⟩ := mem_advance_calls member
        trivial
      · intro name member
        obtain ⟨id, same⟩ := mem_advance_calls member
        cases same

/-- **Every event of a client is sound.** -/
theorem sound_step? {event : ClientEvent} (unrefused : event.Unrefused)
    (step : client.step? event = some entry) : entry.Sound := by
  cases event with
  | parse form =>
      obtain rfl := Option.some.inj step
      exact ⟨fun _ _ => ⟨rfl, rfl, rfl⟩, by simp [Effects.none], by simp [Effects.none]⟩
  | backtest event =>
      obtain ⟨⟨x, calls⟩, stepped, rfl⟩ := Option.map_eq_some_iff.mp step
      exact sound_backtest unrefused (BacktestExecution.step_of_step? stepped)
  | gateway event =>
      obtain ⟨⟨x, effects⟩, stepped, rfl⟩ := Option.map_eq_some_iff.mp step
      exact sound_gateway unrefused stepped
  | config task reply =>
      obtain rfl := Option.some.inj step
      have sound := task.sound_talk unrefused
      refine ⟨fun why refused => ⟨rfl, ?_, rfl⟩, sound.checked, sound.loaded⟩
      show Effects.mk (task.talk reply).calls .never = .none
      rw [sound.refused why refused]
      rfl

end Step

/-! ## Runs -/

/-- An entry of a record is that of one of the events. -/
theorem step?_of_mem_record? {events : List ClientEvent} :
    ∀ {client : Client} {entries : List Entry}, client.record? events = some entries →
      ∀ entry ∈ entries, ∃ before, ∃ event ∈ events, Client.step? before event = some entry := by
  induction events with
  | nil =>
      intro client entries run entry member
      obtain rfl := Option.some.inj run
      cases member
  | cons event rest ih =>
      intro client entries run entry member
      unfold record? at run
      obtain ⟨first, step, run⟩ := Option.bind_eq_some_iff.mp run
      obtain ⟨later, goesOn, run⟩ := Option.bind_eq_some_iff.mp run
      obtain rfl := Option.some.inj run
      rcases List.mem_cons.mp member with rfl | member
      · exact ⟨client, event, List.mem_cons_self, step⟩
      · obtain ⟨before, event, among, step⟩ := ih goesOn entry member
        exact ⟨before, event, List.mem_cons_of_mem _ among, step⟩

/-- **Nothing is sent unchecked.**  This holds in every run of a client, whatever was going on at
its beginning, as long as the services refuse nothing: an operation that returns a refusal has asked
for nothing and left the client as it was, and every call was checked. -/
theorem nothing_unchecked_is_sent {client : Client} {events : List ClientEvent}
    {entries : List Entry} (run : client.record? events = some entries)
    (unrefused : ∀ event ∈ events, event.Unrefused) : ∀ entry ∈ entries, entry.Sound := by
  intro entry member
  obtain ⟨before, event, among, step⟩ := step?_of_mem_record? run entry member
  exact sound_step? (unrefused event among) step

/-- A fresh client refuses to start the pipeline without a config and to create a config without a
name; it then creates one that cannot be stored, as the service is not to be reached. -/
theorem nothing_unchecked_is_sent_atFirst :
    let client : Client := ⟨.start 1000, .start ⟨1000, 1000, 1000⟩⟩
    let reply : (call : Call) → Reply call := fun _ => .error .unreachable
    let events : List ClientEvent := [.gateway (.execute (.pipelineStart " " true)),
      .config (.create " " none) reply, .config (.create " a " (some "b")) reply]
    ∃ entries, client.record? events = some entries ∧
      entries.map (fun entry => (entry.effects.calls, entry.error)) =
        [([], some (.refused .noConfigSelected)), ([], some (.refused .unnamedConfig)),
          ([.createConfig ⟨"a", "b"⟩], some .unreachable)] ∧
      ∀ entry ∈ entries, entry.Sound := by
  intro client reply events
  have unrefused : ∀ event ∈ events, event.Unrefused := by
    intro event member
    simp only [events, List.mem_cons, List.not_mem_nil, or_false] at member
    rcases member with rfl | rfl | rfl
    · trivial
    · exact fun call why => nofun
    · exact fun call why => nofun
  obtain ⟨entries, run⟩ : ∃ entries, client.record? events = some entries := ⟨_, rfl⟩
  refine ⟨entries, run, ?_, nothing_unchecked_is_sent run unrefused⟩
  have told : (client.record? events).map
      (·.map fun entry => (entry.effects.calls, entry.error)) =
        some [([], some (.refused .noConfigSelected)), ([], some (.refused .unnamedConfig)),
          ([.createConfig ⟨"a", "b"⟩], some .unreachable)] := by decide
  rw [run] at told
  exact Option.some.inj told

end Client

end StrategyDesk
