import StrategyDesk.Rehearsal.Trial

/-!
# Sessions in trials

How a session goes in a trial, put together from how its parts go, and what it finds and leaves in
a file that its path leads to.

## Main Definitions

* `FileTree.Reaches` — a path leads to a place where a file stands or could stand
* `FileTree.put` — the tree with a text in the file at a place
* `Trial.Ends` — a session comes to an outcome, and to a later trial

## Main Statements

* `FileTree.Reaches.read`, `FileTree.Reaches.write` — reading and writing at a place
* `Trial.Ends.bind`, `Trial.Ends.bind_error` — a session goes on after its first part, unless that
  fails
-/

namespace StrategyDesk

/-! ## Files at a place -/

namespace FileTree

/-- A path leads to a place in a directory, where a file stands or could stand. -/
structure Reaches (tree : FileTree) (path : String) (place : List String) : Prop where
  located : tree.locate path = .ok place
  noDirectory : tree.isDirectory place = false
  noSlash : endsInSlash path = false

/-- The tree with a text in the file at a place. -/
def put (tree : FileTree) (place : List String) (text : String) : FileTree :=
  { tree with files := (place, text) :: tree.files.filter (·.1 ≠ place) }

variable {tree : FileTree} {path : String} {place : List String}

theorem text?_put (text : String) : (tree.put place text).text? place = some text := by
  simp [put, text?]

/-- A file can be read unless there is none. -/
theorem Reaches.read (reaches : tree.Reaches path place) :
    tree.read path = (tree.text? place).elim (.error .notFound) .ok := by
  unfold FileTree.read
  rw [reaches.located]
  show (if tree.isDirectory place = true then _ else _) = _
  rw [reaches.noDirectory]
  cases tree.text? place with
  | none => rfl
  | some text =>
      show (if endsInSlash path = true then _ else _) = _
      rw [reaches.noSlash]
      rfl

theorem Reaches.holds (reaches : tree.Reaches path place) :
    tree.holds path = (tree.text? place).isSome := by
  unfold FileTree.holds
  rw [reaches.read]
  cases tree.text? place with
  | none => rfl
  | some text => rfl

/-- A file can always be written. -/
theorem Reaches.write (reaches : tree.Reaches path place) (text : String) :
    tree.write path text = .ok (tree.put place text) := by
  unfold FileTree.write
  rw [reaches.located]
  show (if tree.isDirectory place = true then _ else if endsInSlash path = true then _ else _) = _
  rw [reaches.noDirectory, reaches.noSlash]
  rfl

/-- Where a path leads depends on the directories alone, as long as it leads somewhere. -/
theorem walk_put (text : String) (parts : List String) : ∀ {start goal : List String},
    tree.walk start parts = .ok goal → (tree.put place text).walk start parts = .ok goal := by
  -- A walk that fails may fail in another way once the file is there.
  induction parts with
  | nil => exact fun walked => walked
  | cons part rest ih =>
      intro start goal walked
      unfold walk at walked ⊢
      by_cases directory : tree.isDirectory start = true
      · have directory' : (tree.put place text).isDirectory start = true := directory
        rw [if_pos directory] at walked
        rw [if_pos directory']
        by_cases up : part = ".."
        · rw [if_pos up] at walked ⊢
          cases start with
          | nil => cases walked
          | cons first others => exact ih walked
        · rw [if_neg up] at walked ⊢
          exact ih walked
      · rw [if_neg directory] at walked
        split at walked <;> cases walked

/-- A path still leads to a place after the file there was written. -/
theorem Reaches.put (reaches : tree.Reaches path place) (text : String) :
    (tree.put place text).Reaches path place where
  located := by
    have located := reaches.located
    unfold locate at located ⊢
    split at located
    · cases located
    · next relative =>
        rw [if_neg relative]
        exact walk_put text _ located
  noDirectory := reaches.noDirectory
  noSlash := reaches.noSlash

end FileTree

/-! ## Sessions -/

namespace Trial

variable {α β : Type} {trial middle later : Trial}

/-- A program goes on with what its first part comes to. -/
theorem carryOut_bind (p : Program α) (next : α → Program β) (trial : Trial) :
    trial.carryOut (p.bind next) =
      match trial.carryOut p with
      | (later, some a) => later.carryOut (next a)
      | (later, none) => (later, none) := by
  induction p generalizing trial with
  | done a => rfl
  | act effect k ih => exact ih _ _
  | poll p k ih =>
      rw [Program.bind, carryOut, carryOut]
      rcases trial.poll p with ⟨later, _ | result⟩
      · rfl
      · exact ih result later

/-- A session comes to an outcome, whatever notices there were before it, and the trial is a later
one then. -/
def Ends (trial : Trial) (session : Session α) (outcome : Except Failure α) (later : Trial) :
    Prop :=
  ∀ notices : Notices, ∃ notices' : Notices,
    trial.carryOut (session.run.run notices) = (later, some (outcome, notices'))

theorem ends_perform (effect : Effect) :
    trial.Ends (Session.perform effect) (.ok (trial.answer effect).2) (trial.answer effect).1 :=
  fun notices => ⟨notices, rfl⟩

theorem ends_orFail (outcome : Except Failure α) :
    trial.Ends (Session.orFail outcome) outcome trial :=
  fun notices => ⟨notices, rfl⟩

theorem ends_notify (kind : NoticeKind) (text : String) :
    trial.Ends (Session.notify kind text) (.ok ()) trial :=
  fun _ => ⟨_, rfl⟩

theorem run_bind (session : Session α) (next : α → Session β) (notices : Notices) :
    (session >>= next).run.run notices =
      (session.run.run notices).bind fun (outcome, notices) =>
        (ExceptT.bindCont next outcome).run notices :=
  rfl

/-- A session goes on with what its first part comes to. -/
theorem Ends.bind {session : Session α} {next : α → Session β} {a : α} {outcome : Except Failure β}
    (first : trial.Ends session (.ok a) middle) (rest : middle.Ends (next a) outcome later) :
    trial.Ends (session >>= next) outcome later := by
  intro notices
  obtain ⟨between, first⟩ := first notices
  obtain ⟨notices', rest⟩ := rest between
  refine ⟨notices', ?_⟩
  rw [run_bind, carryOut_bind, first]
  exact rest

/-- A session ends where its first part fails. -/
theorem Ends.bind_error {session : Session α} {next : α → Session β} {why : Failure}
    (first : trial.Ends session (.error why) later) :
    trial.Ends (session >>= next) (.error why) later := by
  intro notices
  obtain ⟨notices', first⟩ := first notices
  refine ⟨notices', ?_⟩
  rw [run_bind, carryOut_bind, first]
  rfl

/-! ## What stays as it is -/

theorem next_frame (trial : Trial) (route : String) :
    (trial.next route).1.files = trial.files ∧ (trial.next route).1.time = trial.time := by
  unfold Trial.next
  split <;> exact ⟨rfl, rfl⟩

/-- A question changes neither the files nor the time. -/
theorem ask_frame (trial : Trial) (urls : ServiceUrls) (call : Call) :
    (trial.ask urls call).1.files = trial.files ∧ (trial.ask urls call).1.time = trial.time := by
  unfold ask
  dsimp only
  cases trial.route (call.request urls) with
  | none => exact ⟨rfl, rfl⟩
  | some route => exact next_frame _ route

end Trial

end StrategyDesk
