import StrategyDesk.Proofs.Session.Trials
import StrategyDesk.Session.Desk

/-!
# What a program asks

The questions that a program can come to ask and the results that it can come to, whatever it is
answered, put together from its parts.

## Main Definitions

* `Program.Ensures` — all questions of a program have one property, and its result has another
* `Session.Ensures`, `Session.AsksOnly` — the same of a session that does not fail, and of its
  questions alone
* `Dialogue.AsksOnly` — the same of the questions of a dialogue

## Main Statements

* `Program.ensures_bind` — what is ensured of a part holds where the program goes on
* `Program.Ensures.carryOut` — every request of a trial is that of such a question
* `Session.ensures_readGraph` — a strategy that was read from a file is that of some document

## Design Notes

The answers are arbitrary here, also those that no trial gives.  A poll may ask its question any
number of times and give any result.
-/

namespace StrategyDesk

variable {α β : Type} {P : Call → Prop} {Q : α → Prop} {R : β → Prop}

/-- The question that an effect is, if it is one. -/
def Effect.question? : Effect → Option Call
  | ask _ call => some call
  | readFile _ | fileExists _ | makeParents _ | writeFile .. | say _ | warn _ | clock | rest _ =>
    none

/-! ## Programs -/

namespace Program

/-- Whatever the program is answered, all its questions have one property and its result has
another. -/
inductive Ensures (P : Call → Prop) (Q : α → Prop) : Program α → Prop
  | done {a : α} (holds : Q a) : Ensures P Q (.done a)
  | act {effect : Effect} {next : effect.Answer → Program α}
      (asks : ∀ call ∈ effect.question?, P call)
      (later : ∀ answer, Ensures P Q (next answer)) : Ensures P Q (.act effect next)
  | poll {p : Poll} {next : p.Result → Program α} (asks : P p.question)
      (later : ∀ result, Ensures P Q (next result)) : Ensures P Q (.poll p next)

/-- **What is ensured of a part holds where the program goes on.** -/
theorem ensures_bind {p : Program α} {next : α → Program β} :
    (p.bind next).Ensures P R ↔ p.Ensures P fun a => (next a).Ensures P R := by
  -- Both directions follow the tree of the first part, at whose ends the second part begins.
  constructor
  · intro ensures
    induction p with
    | done a => exact .done ensures
    | act effect k ih =>
        cases ensures with
        | act asks later => exact .act asks fun answer => ih answer (later answer)
    | poll p k ih =>
        cases ensures with
        | poll asks later => exact .poll asks fun result => ih result (later result)
  · intro ensures
    induction ensures with
    | done holds => exact holds
    | act asks _ ih => exact .act asks ih
    | poll asks _ ih => exact .poll asks ih

theorem Ensures.imp {Q' : α → Prop} {p : Program α} (ensures : p.Ensures P Q)
    (weaker : ∀ a, Q a → Q' a) : p.Ensures P Q' := by
  induction ensures with
  | done holds => exact .done (weaker _ holds)
  | act asks _ ih => exact .act asks ih
  | poll asks _ ih => exact .poll asks ih

/-! ### In trials -/

/-- The requests of a trial are those that there were, and requests of questions with a property. -/
def RequestsFrom (P : Call → Prop) (before after : Trial) : Prop :=
  ∀ request ∈ after.requests,
    request ∈ before.requests ∨ ∃ urls call, P call ∧ request = Call.request urls call

theorem RequestsFrom.of_eq {before after : Trial} (same : after.requests = before.requests) :
    RequestsFrom P before after :=
  fun _ member => .inl (same ▸ member)

theorem RequestsFrom.trans {first second third : Trial} (before : RequestsFrom P first second)
    (later : RequestsFrom P second third) : RequestsFrom P first third := by
  intro request member
  rcases later request member with there | asked
  · exact before request there
  · exact .inr asked

theorem requests_next (trial : Trial) (route : String) :
    (trial.next route).1.requests = trial.requests := by
  unfold Trial.next
  split <;> rfl

/-- A question is the only request that is made for it. -/
theorem requestsFrom_ask (trial : Trial) (urls : ServiceUrls) {call : Call} (holds : P call) :
    RequestsFrom P trial (trial.ask urls call).1 := by
  unfold Trial.ask
  dsimp only
  cases trial.route (call.request urls) with
  | none => exact .of_eq rfl
  | some route =>
      intro request member
      dsimp only at member
      rw [requests_next] at member
      rcases List.mem_append.mp member with there | asked
      · exact .inl there
      · exact .inr ⟨urls, call, holds, List.mem_singleton.mp asked⟩

theorem requestsFrom_answer (trial : Trial) {effect : Effect}
    (holds : ∀ call ∈ effect.question?, P call) :
    RequestsFrom P trial (trial.answer effect).1 := by
  have changed (result : Except FileFault FileTree) :
      RequestsFrom P trial (trial.change result).1 := by
    cases result <;> exact .of_eq rfl
  cases effect with
  | ask urls call => exact requestsFrom_ask trial urls (holds call rfl)
  | makeParents _ | writeFile _ _ => exact changed _
  | readFile _ | fileExists _ | say _ | warn _ | clock | rest _ => exact .of_eq rfl

/-- A poll makes no other requests than those of its question, however often it asks. -/
theorem requestsFrom_pollFrom {p : Poll} (holds : P p.question) (fuel : Nat) :
    ∀ (state : p.State) (trial : Trial),
      RequestsFrom P trial (Trial.pollFrom p fuel state trial).1 := by
  induction fuel with
  | zero => exact fun _ _ => .of_eq rfl
  | succ fuel ih =>
      intro state trial
      have asked := requestsFrom_ask trial p.urls holds
      unfold Trial.pollFrom
      dsimp only
      -- A round asks once.  What it prints, and whether it is the last one, makes no request.
      split
      · exact asked.trans (.of_eq rfl)
      · split
        · exact asked.trans (.of_eq rfl)
        · exact asked.trans (.trans (.of_eq rfl) (ih _ _))

/-- **Every request of a trial is that of such a question**, and the result in a trial is such a
result. -/
theorem Ensures.carryOut {p : Program α} (ensures : p.Ensures P Q) (trial : Trial) :
    RequestsFrom P trial (trial.carryOut p).1 ∧ ∀ a ∈ (trial.carryOut p).2, Q a := by
  induction ensures generalizing trial with
  | done holds => exact ⟨.of_eq rfl, fun _ same => Option.some.inj same ▸ holds⟩
  | @act effect next asks _ ih =>
      obtain ⟨later, result⟩ := ih (trial.answer effect).2 (trial.answer effect).1
      exact ⟨(requestsFrom_answer trial asks).trans later, result⟩
  | @poll p next asks _ ih =>
      have polled := requestsFrom_pollFrom asks
        (trial.replies.foldl (fun n route => n + route.2.length) 1) p.start trial
      rw [Trial.carryOut]
      split
      · next result ended =>
        obtain ⟨later, outcome⟩ := ih result _
        rw [Trial.poll] at ended
        rw [ended] at polled
        exact ⟨polled.trans later, outcome⟩
      · next ended =>
        rw [Trial.poll] at ended
        rw [ended] at polled
        refine ⟨polled, fun a member => ?_⟩
        cases member

end Program

/-! ## Dialogues -/

namespace Dialogue

/-- Whatever the replies are, all questions of the dialogue have a property. -/
inductive AsksOnly (P : Call → Prop) : Dialogue α → Prop
  | done {a : α} : AsksOnly P (.done a)
  | ask {call : Call} {next : Reply call → Dialogue α} (holds : P call)
      (later : ∀ reply, AsksOnly P (next reply)) : AsksOnly P (.ask call next)

theorem asksOnly_question {call : Call} (holds : P call) : (question call).AsksOnly P :=
  .ask holds fun _ => .done

theorem AsksOnly.ensures_ofDialogue {d : Dialogue α} (asks : d.AsksOnly P) (urls : ServiceUrls) :
    (Program.ofDialogue urls d).Ensures P fun _ => True := by
  induction asks with
  | done => exact .done trivial
  | ask holds _ ih => exact .act (fun _ same => Option.some.inj same ▸ holds) ih

end Dialogue

/-! ## Sessions -/

namespace Session

/-- Whatever the session is answered, all its questions have one property, and its result has
another unless it fails. -/
def Ensures (P : Call → Prop) (Q : α → Prop) (s : Session α) : Prop :=
  ∀ notices : Notices, (s.run.run notices).Ensures P fun outcome => ∀ a, outcome.1 = .ok a → Q a

/-- Whatever the session is answered, all its questions have a property. -/
def AsksOnly (P : Call → Prop) (s : Session α) : Prop := s.Ensures P fun _ => True

/-- A session goes on with results that its first part can come to. -/
theorem Ensures.bind {s : Session α} {next : α → Session β} (first : s.Ensures P Q)
    (rest : ∀ a, Q a → (next a).Ensures P R) : (s >>= next).Ensures P R := by
  intro notices
  rw [Trial.run_bind, Program.ensures_bind]
  refine (first notices).imp ?_
  rintro ⟨why | a, later⟩ holds
  · exact .done nofun
  · exact rest a (holds a rfl) later

theorem ensures_orFail {outcome : Except Failure α} (holds : ∀ a, outcome = .ok a → Q a) :
    (orFail outcome).Ensures P Q :=
  fun _ => .done holds

theorem ensures_require {result : Except Error α} (holds : ∀ a, result = .ok a → Q a) :
    (require result).Ensures P Q := by
  refine ensures_orFail fun a same => ?_
  cases result with
  | error why => cases same
  | ok b => exact holds a (congrArg Except.ok (Except.ok.inj same))

theorem ensures_pure {a : α} (holds : Q a) : (pure a : Session α).Ensures P Q :=
  ensures_orFail fun _ same => Except.ok.inj same ▸ holds

theorem ensures_throw (why : Failure) : (throw why : Session α).Ensures P Q :=
  ensures_orFail nofun

theorem ensures_ofProgram {p : Program α} (ensures : p.Ensures P Q) :
    (ofProgram p).Ensures P Q := by
  intro notices
  have run : (ofProgram p).run.run notices =
      (p.bind fun a => .done (a, notices)).bind fun (a, notices) =>
        .done ((.ok a : Except Failure α), notices) := rfl
  rw [run, Program.ensures_bind, Program.ensures_bind]
  exact ensures.imp fun a holds => .done (.done fun _ same => Except.ok.inj same ▸ holds)

/-- What is no question can be done. -/
theorem asksOnly_perform {effect : Effect} (none : effect.question? = none) :
    (perform effect).AsksOnly P := by
  refine ensures_ofProgram (.act (fun call asked => ?_) fun _ => .done trivial)
  rw [none] at asked
  cases asked

theorem asksOnly_say (text : String) : (perform (.say text)).AsksOnly P := asksOnly_perform rfl

theorem asksOnly_sayLines (lines : List String) : (sayLines lines).AsksOnly P := by
  cases lines with
  | nil => exact ensures_pure trivial
  | cons line lines => exact asksOnly_say _

theorem asksOnly_notify (kind : NoticeKind) (text : String) : (notify kind text).AsksOnly P :=
  (asksOnly_perform rfl).bind fun _ _ _ => .done fun _ _ => trivial

theorem asksOnly_poll {p : Poll} (holds : P p.question) : (poll p).AsksOnly P :=
  ensures_ofProgram (.poll holds fun _ => .done trivial)

/-- **A strategy that was read from a file** is that of some document. -/
theorem ensures_readGraph (path : String) :
    (readGraph path).Ensures P fun graph => ∃ text, Graph.parse text = .ok graph := by
  refine (asksOnly_perform rfl).bind fun read _ => ?_
  refine (ensures_require fun _ _ => trivial).bind fun text _ => ?_
  exact ensures_require fun graph parsed => ⟨text, parsed⟩

/-- What is ensured of a session that reads a strategy holds for that of every document. -/
theorem Ensures.of_readGraph {path : String} {next : Graph → Session β}
    (ensures : (readGraph path >>= next).Ensures P R) {text : String} {graph : Graph}
    (parsed : Graph.parse text = .ok graph) : (next graph).Ensures P R := by
  intro notices
  cases ensures notices with
  | act _ later =>
      -- The file may hold any text, and so this one.
      have read : ((require (Graph.parse text) >>= next).run.run notices).Ensures P _ :=
        later (.ok text)
      rw [Trial.run_bind, Program.ensures_bind, parsed] at read
      cases read with
      | done holds => exact holds

end Session

namespace Desk

variable {desk : Desk}

theorem asksOnly_converse {d : Dialogue α} (asks : d.AsksOnly P) : (desk.converse d).AsksOnly P :=
  Session.ensures_ofProgram (asks.ensures_ofDialogue desk.urls)

theorem asksOnly_obtain {d : Dialogue (Except Error α)} (asks : d.AsksOnly P) :
    (desk.obtain d).AsksOnly P :=
  (asksOnly_converse asks).bind fun _ _ => Session.ensures_require fun _ _ => trivial

theorem asksOnly_ask {call : Call} (holds : P call) : (desk.ask call).AsksOnly P :=
  asksOnly_obtain (Dialogue.asksOnly_question holds)

end Desk

end StrategyDesk
