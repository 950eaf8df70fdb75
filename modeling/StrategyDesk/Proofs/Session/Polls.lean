import StrategyDesk.Proofs.Session.Trials

/-!
# Polls over replies

What a poll makes of the replies to its question as they come one after the other. A trial carries a
poll out in this way, and so does anyone else who answers the question.

## Main Definitions

* `Poll.course` — all that a poll prints over some replies, and where it is after them

## Main Statements

* `Poll.course_append` — replies before the end of a poll come first
* `Trial.said_pollFrom` — what a trial prints in the course of a poll
-/

namespace StrategyDesk

namespace Poll

variable {p : Poll} {state next : p.State}

/-- All lines that a poll prints over replies with their times, and the state in which it goes on or
the result with which it ends. What comes after its end is not taken. -/
def course (p : Poll) : p.State → List (Timestamp × Reply p.question) → Turn p.State p.Result
  | state, [] => ⟨[], .inl state⟩
  | state, (now, reply) :: rest =>
    let turn := p.enter state now reply
    match turn.next with
    | .inr _ => turn
    | .inl next =>
      let later := p.course next rest
      ⟨turn.lines ++ later.lines, later.next⟩

theorem course_cons_of_goesOn {now : Timestamp} {reply : Reply p.question}
    (goesOn : (p.enter state now reply).next = .inl next)
    (rest : List (Timestamp × Reply p.question)) :
    p.course state ((now, reply) :: rest) =
      ⟨(p.enter state now reply).lines ++ (p.course next rest).lines,
        (p.course next rest).next⟩ := by
  simp only [course, goesOn]

theorem course_cons_of_ends {now : Timestamp} {reply : Reply p.question} {result : p.Result}
    (ends : (p.enter state now reply).next = .inr result)
    (rest : List (Timestamp × Reply p.question)) :
    p.course state ((now, reply) :: rest) = p.enter state now reply := by
  simp only [course, ends]

/-- Replies before the end of a poll come first. -/
theorem course_append {first : List (Timestamp × Reply p.question)}
    (goesOn : (p.course state first).next = .inl next)
    (later : List (Timestamp × Reply p.question)) :
    p.course state (first ++ later) =
      ⟨(p.course state first).lines ++ (p.course next later).lines,
        (p.course next later).next⟩ := by
  induction first generalizing state with
  | nil =>
      obtain rfl := Sum.inl.inj goesOn
      rfl
  | cons reply rest ih =>
      obtain ⟨now, reply⟩ := reply
      rw [List.cons_append]
      cases turn : (p.enter state now reply).next with
      | inr result =>
          rw [course_cons_of_ends turn, turn] at goesOn
          cases goesOn
      | inl between =>
          rw [course_cons_of_goesOn turn] at goesOn ⊢
          rw [course_cons_of_goesOn turn, ih goesOn, List.append_assoc]

end Poll

/-! ## In trials -/

theorem Program.lineText_append (lines later : List String) :
    lineText (lines ++ later) = lineText lines ++ lineText later := by
  simp [lineText, String.join_append]

namespace Trial

theorem said_next (trial : Trial) (route : String) : (trial.next route).1.said = trial.said := by
  unfold Trial.next
  split <;> rfl

/-- A question prints nothing. -/
theorem said_ask (trial : Trial) (urls : ServiceUrls) (call : Call) :
    (trial.ask urls call).1.said = trial.said := by
  unfold ask
  dsimp only
  cases trial.route (call.request urls) with
  | none => rfl
  | some route => exact said_next _ route

/-- **What a trial prints in the course of a poll** is what the poll prints over some replies. -/
theorem said_pollFrom (p : Poll) (fuel : Nat) (state : p.State) (trial : Trial) :
    ∃ replies : List (Reply p.question), (pollFrom p fuel state trial).1.said =
      trial.said ++ Program.lineText (p.course state (replies.map (trial.time, ·))).lines := by
  induction fuel generalizing state trial with
  | zero => exact ⟨[], by simp [pollFrom, Poll.course, Program.lineText, String.join]⟩
  | succ fuel ih =>
      let asked := trial.ask p.urls p.question
      let turn := p.enter state asked.1.time asked.2
      let told : Trial := { asked.1 with said := asked.1.said ++ Program.lineText turn.lines }
      have round : pollFrom p (fuel + 1) state trial =
          match turn.next with
          | .inr result => (told, some result)
          | .inl next =>
            if told.isBroken then (told, p.brokenOff.map (· next)) else pollFrom p fuel next told :=
        rfl
      have time : asked.1.time = trial.time := (ask_frame trial p.urls p.question).2
      have said : told.said = trial.said ++ Program.lineText turn.lines :=
        congrArg (· ++ Program.lineText turn.lines) (said_ask trial p.urls p.question)
      rw [round]
      cases ends : turn.next with
      | inr result =>
          refine ⟨[asked.2], ?_⟩
          rw [List.map_singleton, ← time, Poll.course_cons_of_ends ends]
          exact said
      | inl next =>
          dsimp only
          split
          case isTrue =>
            -- People break off, and nothing more is printed.
            refine ⟨[asked.2], ?_⟩
            rw [List.map_singleton, ← time, Poll.course_cons_of_goesOn ends]
            exact said.trans (congrArg (trial.said ++ Program.lineText ·) (List.append_nil _).symm)
          case isFalse =>
            obtain ⟨replies, later⟩ := ih next told
            refine ⟨asked.2 :: replies, ?_⟩
            rw [later, said, List.map_cons, ← time, Poll.course_cons_of_goesOn ends,
              Program.lineText_append, String.append_assoc]

end Trial

end StrategyDesk
