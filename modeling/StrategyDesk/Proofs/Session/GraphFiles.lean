import StrategyDesk.Proofs.Session.GraphEdits
import StrategyDesk.Proofs.Session.Trials
import StrategyDesk.Session.Run

/-!
# Commands on a document in a file

How a session goes that carries out a command on the strategy document in a file: it comes to the
result that the command has for the text of the file, and the file holds the document of that result
then, if it has one.

## Main Definitions

* `Trial.left` — the files that a result leaves
* `Trial.ComesTo` — a session comes to a result

## Main Statements

* `Trial.comesTo_graphFile` — a command comes to its result
* `Trial.ComesTo.carryOut_session` — the exit code of the whole session
-/

namespace StrategyDesk

namespace Trial

variable {trial : Trial} {path : String} {place : List String}

/-- The indicators that a session finds. -/
def catalog (trial : Trial) (urls : ServiceUrls) : List Indicator :=
  match (trial.ask urls .indicators).2 with
  | .ok indicators => indicators
  | .error _ => builtInCatalog

theorem ends_loadCatalog (urls : ServiceUrls) :
    trial.Ends (Session.ofProgram (.ofDialogue urls loadCatalog)) (.ok (trial.catalog urls))
      (trial.ask urls .indicators).1 := by
  intro notices
  refine ⟨notices, ?_⟩
  have asked : trial.carryOut ((Session.ofProgram (.ofDialogue urls loadCatalog)).run.run notices) =
      (trial.ask urls .indicators).1.carryOut ((Session.ofProgram (.ofDialogue urls
        (match (trial.ask urls .indicators).2 with
          | .ok indicators => .done indicators
          | .error _ => .done builtInCatalog))).run.run notices) := rfl
  rw [asked]
  unfold catalog
  -- Without an answer the session goes on with its own catalog.
  cases (trial.ask urls .indicators).2 with
  | ok indicators => rfl
  | error why => rfl

theorem ends_readGraph (reaches : trial.files.Reaches path place) :
    trial.Ends (Session.readGraph path) (Graph.ofFile (trial.files.text? place)) trial := by
  refine .bind (ends_perform (.readFile path)) ?_
  have read : (trial.answer (.readFile path)).2 = trial.files.read path := rfl
  rw [read, reaches.read]
  cases trial.files.text? place with
  | none => exact .bind_error (ends_orFail _)
  | some text => exact .bind (ends_orFail _) (ends_orFail _)

theorem ends_writeDocument (reaches : trial.files.Reaches path place) (text : String) :
    trial.Ends (Session.writeDocument path text) (.ok ())
      { trial with files := trial.files.put place text } := by
  have written : trial.answer (.writeFile path text) =
      ({ trial with files := trial.files.put place text }, .ok ()) := by
    show trial.change (trial.files.write path text) = _
    rw [reaches.write]
    rfl
  have first := @ends_perform trial (.writeFile path text)
  rw [written] at first
  exact .bind first (ends_orFail _)

/-- The files that a result leaves: the document of the strategy is written if there is one. -/
def left (trial : Trial) (place : List String) (result : Except Failure (Option Graph)) :
    FileTree :=
  match result with
  | .ok (some graph) => trial.files.put place (Document.ofGraph graph trial.time).text
  | .ok none | .error _ => trial.files

/-- A session comes to a result: it ends well or fails as the result says, and leaves the files that
the result leaves. -/
def ComesTo (trial : Trial) (place : List String) (session : Session Unit)
    (result : Except Failure (Option Graph)) : Prop :=
  ∃ later, trial.Ends session (result.map fun _ => ()) later ∧
    later.files = trial.left place result

/-- What is shown of the strategy in a file is printed if there is one. -/
theorem comesTo_show (reaches : trial.files.Reaches path place) (lines : Graph → List String) :
    trial.ComesTo place (do Session.sayLines (lines (← Session.readGraph path)))
      ((Graph.ofFile (trial.files.text? place)).map fun _ => none) := by
  have read := ends_readGraph reaches
  cases found : Graph.ofFile (trial.files.text? place) with
  | error why =>
      rw [found] at read
      exact ⟨trial, .bind_error read, rfl⟩
  | ok graph =>
      rw [found] at read
      obtain ⟨later, said, same⟩ : ∃ later,
          trial.Ends (Session.sayLines (lines graph)) (.ok ()) later ∧
            later.files = trial.files := by
        by_cases silent : (lines graph).isEmpty = true
        · have said : Session.sayLines (lines graph) = Session.orFail (.ok ()) := if_pos silent
          rw [said]
          exact ⟨trial, ends_orFail _, rfl⟩
        · have said : Session.sayLines (lines graph) =
              Session.perform (.say (Program.lineText (lines graph))) := if_neg silent
          rw [said]
          exact ⟨_, ends_perform _, rfl⟩
      exact ⟨later, .bind read said, same⟩

/-- The document of an edited strategy is written if the edit can be made. -/
theorem comesTo_write (reaches : trial.files.Reaches path place) (catalog : List Indicator)
    (change : GraphEdit) (graph : Graph) :
    trial.ComesTo place (do
        let now : Timestamp ← Session.perform .clock
        let (text, remark) ← Session.orFail (change.textAfter catalog now graph)
        Session.writeDocument path text
        match remark with
        | some text => Session.notify .success text
        | none => pure ())
      (((change.apply catalog graph).map Prod.fst).map some) := by
  have made := @ends_orFail _ trial (change.textAfter catalog trial.time graph)
  unfold GraphEdit.textAfter at made ⊢
  cases applied : change.apply catalog graph with
  | error why =>
      rw [applied] at made
      exact ⟨trial, .bind (ends_perform .clock) (.bind_error made), rfl⟩
  | ok result =>
      rw [applied] at made
      obtain ⟨after, remark⟩ := result
      let text := (Document.ofGraph after trial.time).text
      refine ⟨{ trial with files := trial.files.put place text }, .bind (ends_perform .clock)
        (.bind made (.bind (ends_writeDocument reaches text) ?_)), rfl⟩
      cases remark with
      | none => exact ends_orFail (.ok ())
      | some text => exact ends_notify .success text

/-- An edit of the file at a path comes to its result. -/
theorem comesTo_editFile (reaches : trial.files.Reaches path place) (urls : ServiceUrls)
    (change : GraphEdit) :
    trial.ComesTo place (Session.editFile urls path change)
      ((change.result (trial.catalog urls) (trial.files.text? place)).map some) := by
  have read := ends_readGraph reaches
  cases check : change.check with
  | error why =>
      have checked : trial.Ends (Session.orFail change.check) (.error why) trial :=
        check ▸ ends_orFail _
      rw [GraphEdit.result_of_refused check]
      exact ⟨trial, .bind_error checked, rfl⟩
  | ok _ =>
      have checked : trial.Ends (Session.orFail change.check) (.ok ()) trial :=
        check ▸ ends_orFail _
      cases found : Graph.ofFile (trial.files.text? place) with
      | error why =>
          rw [found] at read
          rw [GraphEdit.result_of_unread check found]
          exact ⟨trial, .bind checked (.bind_error read), rfl⟩
      | ok graph =>
          rw [found] at read
          rw [GraphEdit.result_of_found check found]
          cases change with
          | addIndicator name =>
              -- The catalog is asked for on the way; that changes neither the files nor the time.
              obtain ⟨files, time⟩ := ask_frame trial urls .indicators
              obtain ⟨later, ends, leaves⟩ :=
                comesTo_write (files ▸ reaches) (trial.catalog urls) (.addIndicator name) graph
              refine ⟨later, .bind checked (.bind read (.bind (ends_loadCatalog urls) ends)), ?_⟩
              rw [leaves]
              unfold left
              rw [files, time]
          | addLogic | addAction _ | connect _ _ _ | set _ | removeNode _ | removeEdge _ | layout =>
              obtain ⟨later, ends, leaves⟩ := comesTo_write reaches [] _ graph
              exact ⟨later, .bind checked (.bind read (.bind (ends_orFail (.ok [])) ends)), leaves⟩

/-- **A command on the file at a path comes to its result.** -/
theorem comesTo_graphFile (reaches : trial.files.Reaches path place) (palette : Palette)
    (urls : ServiceUrls) (command : GraphCommand) :
    trial.ComesTo place (Session.graphFile palette urls path command)
      (command.result (trial.catalog urls) path (trial.files.text? place)) := by
  cases command with
  | create name =>
      have asked := @ends_perform trial (.fileExists path)
      have answer : (trial.answer (.fileExists path)).2 = (trial.files.text? place).isSome :=
        reaches.holds
      rw [answer] at asked
      cases there : trial.files.text? place with
      | some text =>
          rw [there] at asked
          exact ⟨trial, .bind asked (.bind_error (ends_orFail _)), rfl⟩
      | none =>
          rw [there] at asked
          exact ⟨_, .bind asked (.bind (ends_perform .clock)
            (.bind (ends_writeDocument reaches _) (ends_notify _ _))), rfl⟩
  | view => exact comesTo_show reaches palette.graphLines
  | normalize =>
      exact comesTo_show reaches fun graph =>
        [(toJson (graph.normalize graph.displayName none)).pretty]
  | edit change => exact comesTo_editFile reaches urls change

/-- A session ends with exit code 0 unless its command fails; then it ends with 1. -/
theorem ComesTo.carryOut_session {desk : Desk} {command : Command}
    {result : Except Failure (Option Graph)}
    (comesTo : trial.ComesTo place (desk.carryOut command) result) :
    ∃ later, trial.carryOut (desk.session command) =
        (later, some (if result.isOk then 0 else 1)) ∧
      later.files = trial.left place result := by
  obtain ⟨later, ends, leaves⟩ := comesTo
  obtain ⟨notices, carried⟩ := ends .empty
  have whole : trial.carryOut (desk.session command) = _ :=
    carryOut_bind ((desk.carryOut command).run.run .empty) _ trial
  rw [carried] at whole
  cases result with
  | ok written => exact ⟨_, whole, leaves⟩
  | error why => exact ⟨_, whole, leaves⟩

end Trial

end StrategyDesk
