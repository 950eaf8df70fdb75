import Mathlib.Data.List.Nodup
import StrategyDesk.Notice

/-!
# The notices on show

What becomes of the notices when some are added and some are dismissed, in any order.  What was done
to them tells what they are: each notice that was added and not dismissed since, in the order of the
additions.  Their ids are the numbers of the additions, so that no id is handed out a second time
until all words have been used up.

## Main Definitions

* `Notices.Act`, `Notices.perform` — what may be done to the notices, and the notices after it
* `Notices.after`, `Notices.issued` — the notices after acts, and the ids that these hand out
* `Notices.added`, `Notices.standing` — the notices that acts add, and those of them that no later
  act dismisses

## Main Statements

* `Notices.items_after` — the notices after acts
* `Notices.issued_eq` — the ids that are handed out
* `Notices.dismiss_of_mem` — a dismissal takes one notice away and leaves the others
* `Notices.notices_keep_history` — all of this
-/

namespace StrategyDesk

namespace Notices

/-! ## Acts -/

/-- What may be done to the notices on show. -/
inductive Act where
  | push (kind : NoticeKind) (text : String) (now : Timestamp)
  | pushError (error : Error) (now : Timestamp)
  | dismiss (id : UInt64)

/-- The notice that an act adds under an id, if it adds one. -/
def Act.notice? (id : UInt64) : Act → Option Notice
  | push kind text now => some ⟨id, kind, text, now⟩
  | pushError error now => some ⟨id, .error, error.message, now⟩
  | dismiss _ => none

/-- An act adds a notice. -/
def Act.adds : Act → Bool
  | push .. | pushError .. => true
  | dismiss _ => false

/-- An act dismisses the notice with an id. -/
def Act.dismisses (id : UInt64) : Act → Bool
  | push .. | pushError .. => false
  | dismiss other => other == id

/-- The notices after an act, and the id that it hands out, if it adds a notice. -/
def perform (notices : Notices) : Act → Notices × Option UInt64
  | .push kind text now => (notices.push kind text now).map id some
  | .pushError error now => (notices.pushError error now).map id some
  | .dismiss id => ((notices.dismiss id).1, none)

/-- The notices after acts. -/
def after (notices : Notices) (acts : List Act) : Notices :=
  acts.foldl (fun notices act => (notices.perform act).1) notices

/-- The ids that acts hand out, in order. -/
def issued (notices : Notices) : List Act → List UInt64
  | [] => []
  | act :: later => (notices.perform act).2.toList ++ (notices.perform act).1.issued later

variable {notices : Notices} {notice : Notice} {act : Act} {count : ℕ}

/-- What an act does: it adds a notice at the end, under the next id, or takes notices away. -/
theorem perform_cases (notices : Notices) (act : Act) :
    (∃ notice, act.notice? (notices.lastId + 1) = some notice ∧ notice.id = notices.lastId + 1 ∧
      act.adds = true ∧ (∀ id, act.dismisses id = false) ∧
      notices.perform act = (⟨notices.items ++ [notice], notice.id⟩, some notice.id)) ∨
    ∃ id, act = .dismiss id ∧
      notices.perform act =
        ({ notices with items := notices.items.filter (·.id != id) }, none) := by
  cases act with
  | push kind text now => exact .inl ⟨_, rfl, rfl, rfl, fun _ => rfl, rfl⟩
  | pushError error now => exact .inl ⟨_, rfl, rfl, rfl, fun _ => rfl, rfl⟩
  | dismiss id => exact .inr ⟨id, rfl, rfl⟩

/-! ## History -/

/-- The notices that acts add after some others were added, each with the acts that come after
it. The id of a notice is its number. -/
def added (count : ℕ) : List Act → List (Notice × List Act)
  | [] => []
  | act :: later =>
    match act.notice? (.ofNat (count + 1)) with
    | some notice => (notice, later) :: added (count + 1) later
    | none => added count later

/-- The notices that acts add and do not dismiss later on. -/
def standing (count : ℕ) (acts : List Act) : List Notice :=
  ((added count acts).filter fun e => !e.2.any (Act.dismisses e.1.id)).map Prod.fst

/-- The ids that are handed out are those of the notices that are added. -/
theorem issued_eq_map_added (acts : List Act) : ∀ {notices : Notices} {count : ℕ},
    notices.lastId = .ofNat count → notices.issued acts = (added count acts).map (·.1.id) := by
  induction acts with
  | nil => exact fun _ => rfl
  | cons act later ih =>
      intro notices count last
      have next : notices.lastId + 1 = .ofNat (count + 1) := by rw [last, UInt64.ofNat_add]; rfl
      unfold issued added
      rcases perform_cases notices act with ⟨notice, adds, id, -, -, done⟩ | ⟨id, rfl, done⟩
      · rw [done, ← next, adds]
        exact congrArg (notice.id :: ·) (ih (id.trans next))
      · rw [done]
        exact ih last

/-- **The ids that are handed out** are the numbers of the additions. -/
theorem map_id_added (acts : List Act) : ∀ count : ℕ,
    (added count acts).map (·.1.id) =
      (List.range' (count + 1) (acts.countP Act.adds)).map UInt64.ofNat := by
  induction acts with
  | nil => exact fun _ => rfl
  | cons act later ih =>
      intro count
      unfold added
      cases act with
      | push _ _ _ | pushError _ _ =>
          rw [List.countP_cons_of_pos rfl, List.range'_succ, List.map_cons, ← ih]
          rfl
      | dismiss _ =>
          rw [List.countP_cons_of_neg Bool.false_ne_true, ← ih]
          rfl

/-- **The notices after acts**: those that were there before and are not dismissed, and those that
are added and not dismissed later on. -/
theorem items_after (acts : List Act) : ∀ {notices : Notices} {count : ℕ},
    notices.lastId = .ofNat count →
      (notices.after acts).items =
        notices.items.filter (fun notice => !acts.any (Act.dismisses notice.id)) ++
          standing count acts := by
  induction acts with
  | nil =>
      intro notices count _
      simp [after, standing, added]
  | cons act later ih =>
      intro notices count last
      have next : notices.lastId + 1 = .ofNat (count + 1) := by rw [last, UInt64.ofNat_add]; rfl
      show ((notices.perform act).1.after later).items = _
      rcases perform_cases notices act with ⟨notice, adds, id, -, spares, done⟩ | ⟨id, rfl, done⟩
      · have kept : standing count (act :: later) =
            [notice].filter (fun notice => !later.any (Act.dismisses notice.id)) ++
              standing (count + 1) later := by
          unfold standing
          rw [added, ← next, adds, List.filter_cons]
          dsimp only
          split <;> simp_all
        rw [done, ih (id.trans next), List.filter_append, List.append_assoc, kept]
        simp only [List.any_cons, spares, Bool.false_or]
      · have passed :
            (fun notice : Notice => !(Act.dismiss id :: later).any (Act.dismisses notice.id)) =
              fun notice => !later.any (Act.dismisses notice.id) && notice.id != id := by
          funext notice
          rw [List.any_cons, Bool.not_or, Bool.and_comm, Act.dismisses, Bool.beq_comm]
          rfl
        rw [done, passed, ← List.filter_filter]
        exact ih last

/-! ## Ids -/

/-- Numbers below the size of a word are told apart, and keep their order, as words. -/
theorem ofNat_lt_ofNat {i j : ℕ} (below : i < j) (small : j < wordSize 64) :
    UInt64.ofNat i < UInt64.ofNat j := by
  have size : wordSize 64 = 2 ^ 64 := rfl
  rw [UInt64.lt_iff_toNat_lt, UInt64.toNat_ofNat', UInt64.toNat_ofNat']
  omega

/-- **Ids ascend** exactly until the words have been used up. -/
theorem pairwise_lt_ids (total : ℕ) :
    ((List.range' 1 total).map UInt64.ofNat).Pairwise (· < ·) ↔ total < wordSize 64 := by
  rw [List.pairwise_map]
  constructor
  · intro ascend
    by_contra many
    have size : wordSize 64 = 2 ^ 64 := rfl
    have first := List.pairwise_iff_getElem.mp ascend 0 (2 ^ 64 - 1)
      (by rw [List.length_range']; omega) (by rw [List.length_range']; omega) (by omega)
    rw [List.getElem_range', List.getElem_range'] at first
    exact absurd first (by decide)
  · intro few
    refine (List.pairwise_lt_range').imp_of_mem fun {i j} _ member below => ?_
    have last := (List.mem_range'_1.mp member).2
    exact ofNat_lt_ofNat below (by omega)

/-- **No id comes a second time** until each word has been used once. -/
theorem nodup_ids (total : ℕ) :
    ((List.range' 1 total).map UInt64.ofNat).Nodup ↔ total ≤ wordSize 64 := by
  have size : wordSize 64 = 2 ^ 64 := rfl
  unfold List.Nodup
  rw [List.pairwise_map]
  constructor
  · intro distinct
    by_contra many
    have first := List.pairwise_iff_getElem.mp distinct 0 (2 ^ 64)
      (by rw [List.length_range']; omega) (by rw [List.length_range']; omega) (by omega)
    rw [List.getElem_range', List.getElem_range'] at first
    exact first (by decide)
  · intro few
    refine (List.pairwise_lt_range').imp_of_mem fun {i j} member member' below same => ?_
    have numbers := congrArg UInt64.toNat same
    rw [UInt64.toNat_ofNat', UInt64.toNat_ofNat'] at numbers
    have bounds := List.mem_range'_1.mp member
    have bounds' := List.mem_range'_1.mp member'
    omega

/-! ## Dismissals -/

theorem dismiss_snd (notices : Notices) (id : UInt64) :
    (notices.dismiss id).2 = true ↔ ∃ notice ∈ notices.items, notice.id = id := by
  simp [dismiss]

/-- Where no notice has an id, its dismissal changes nothing. -/
theorem dismiss_of_absent {id : UInt64} (absent : ∀ notice ∈ notices.items, notice.id ≠ id) :
    (notices.dismiss id).1 = notices := by
  have all : notices.items.filter (·.id != id) = notices.items :=
    List.filter_eq_self.mpr fun notice member => bne_iff_ne.mpr (absent notice member)
  show { notices with items := notices.items.filter (·.id != id) } = notices
  rw [all]

/-- **A dismissal takes one notice away** and leaves the others in their order, if the ids are
distinct. -/
theorem dismiss_of_mem (distinct : (notices.items.map Notice.id).Nodup)
    (member : notice ∈ notices.items) :
    ∃ before later, notices.items = before ++ notice :: later ∧
      (∀ other ∈ before ++ later, other.id ≠ notice.id) ∧
      (notices.dismiss notice.id).1.items = before ++ later := by
  obtain ⟨before, later, split⟩ := List.append_of_mem member
  have others : ∀ other ∈ before ++ later, other.id ≠ notice.id := by
    intro other there same
    rw [split, (List.perm_middle.map Notice.id).nodup_iff, List.map_cons, List.nodup_cons]
      at distinct
    exact distinct.1 (List.mem_map.mpr ⟨other, there, same⟩)
  refine ⟨before, later, split, others, ?_⟩
  show notices.items.filter (·.id != notice.id) = before ++ later
  have kept : (before ++ later).filter (·.id != notice.id) = before ++ later :=
    List.filter_eq_self.mpr fun other there => bne_iff_ne.mpr (others other there)
  rw [split, List.filter_append, List.filter_cons_of_neg (by simp), ← List.filter_append, kept]

/-! ## All of it -/

/-- The notices are what acts have made of them: one more notice goes to their end, and a dismissal
tells whether there is one to dismiss. -/
structure Keeps (notices : Notices) (acts : List Act) : Prop where
  items : notices.items = standing 0 acts
  latest : notices.latest? = (standing 0 acts).getLast?
  appends : ∀ act notice, act.notice? (notices.lastId + 1) = some notice →
    notices.perform act = (⟨notices.items ++ [notice], notice.id⟩, some notice.id)
  told : ∀ id, (notices.dismiss id).2 = true ↔ ∃ notice ∈ notices.items, notice.id = id
  absent : ∀ id, (∀ notice ∈ notices.items, notice.id ≠ id) → (notices.dismiss id).1 = notices

/-- The ids of the notices ascend, and a dismissal takes just one notice away. -/
structure IsOrderly (notices : Notices) : Prop where
  ascend : (notices.items.map Notice.id).Pairwise (· < ·)
  takesOne : ∀ notice ∈ notices.items, ∃ before later, notices.items = before ++ notice :: later ∧
    (∀ other ∈ before ++ later, other.id ≠ notice.id) ∧
    (notices.dismiss notice.id).1.items = before ++ later

theorem keeps_after (acts : List Act) : (empty.after acts).Keeps acts := by
  have items : (empty.after acts).items = standing 0 acts := items_after acts rfl
  refine ⟨items, congrArg List.getLast? items, ?_, dismiss_snd _, fun _ => dismiss_of_absent⟩
  intro act notice adds
  rcases perform_cases (empty.after acts) act with ⟨other, same, -, -, -, done⟩ | ⟨id, rfl, -⟩
  · obtain rfl : other = notice := Option.some.inj (same.symm.trans adds)
    exact done
  · cases adds

theorem issued_eq (acts : List Act) :
    empty.issued acts = (List.range' 1 (acts.countP Act.adds)).map UInt64.ofNat :=
  (issued_eq_map_added acts rfl).trans (map_id_added acts 0)

/-- The ids on show are among those that were handed out, in the same order. -/
theorem map_id_sublist (acts : List Act) :
    ((empty.after acts).items.map Notice.id).Sublist (empty.issued acts) := by
  rw [@items_after acts empty 0 rfl, @issued_eq_map_added acts empty 0 rfl]
  have kept : ((added 0 acts).filter fun e => !e.2.any (Act.dismisses e.1.id)).Sublist
      (added 0 acts) := List.filter_sublist
  have kept := kept.map fun e => e.1.id
  simpa [empty, standing, List.map_map, Function.comp_def] using kept

/-- **The notices keep their history.**  Whatever is added and dismissed, they are the notices that
were added and not dismissed since, in the order of the additions, and the latest is the last of
these.  The ids that are handed out ascend exactly until the last word has been handed out, and none
is handed out a second time exactly until each one has been; until then the ids on show ascend, and
a dismissal takes no other notice away. -/
theorem notices_keep_history (acts : List Act) :
    (empty.after acts).Keeps acts ∧
    ((empty.issued acts).Pairwise (· < ·) ↔ acts.countP Act.adds < wordSize 64) ∧
    ((empty.issued acts).Nodup ↔ acts.countP Act.adds ≤ wordSize 64) ∧
    (acts.countP Act.adds < wordSize 64 → (empty.after acts).IsOrderly) := by
  refine ⟨keeps_after acts, ?_, ?_, fun few => ?_⟩
  · rw [issued_eq, pairwise_lt_ids]
  · rw [issued_eq, nodup_ids]
  · have ascend : (empty.issued acts).Pairwise (· < ·) := by
      rw [issued_eq]
      exact (pairwise_lt_ids _).mpr few
    have distinct : (empty.issued acts).Nodup := by
      rw [issued_eq]
      exact (nodup_ids _).mpr (Nat.le_of_lt few)
    exact ⟨ascend.sublist (map_id_sublist acts),
      fun _ => dismiss_of_mem (distinct.sublist (map_id_sublist acts))⟩

/-- The first of two notices is dismissed, then one is dismissed that has yet to come: the third
notice is shown under an id of its own. -/
theorem notices_keep_history_afterDismissal :
    let now : Timestamp := ⟨0, 0⟩
    let acts : List Act := [.push .success "Saved" now, .pushError (.remote 500 none) now,
      .dismiss 1, .dismiss 3, .push .info "Ready" now]
    acts.countP Act.adds < wordSize 64 ∧ empty.issued acts = [1, 2, 3] ∧
      (empty.issued acts).Nodup ∧
      (empty.after acts).items.map (·.text) = ["Request failed with status 500", "Ready"] ∧
      ((empty.after acts).items.map Notice.id).Pairwise (· < ·) ∧
      (empty.after acts).latest? = some ⟨3, .info, "Ready", now⟩ ∧
      ((empty.after acts).dismiss 1).2 = false := by
  intro now acts
  have few : acts.countP Act.adds < wordSize 64 := by decide
  obtain ⟨keeps, -, distinct, orderly⟩ := notices_keep_history acts
  have standing : standing 0 acts = [⟨2, .error, "Request failed with status 500", now⟩,
      ⟨3, .info, "Ready", now⟩] := by decide
  have items := keeps.items.trans standing
  refine ⟨few, by decide, distinct.mpr (Nat.le_of_lt few), ?_, (orderly few).ascend, ?_, ?_⟩
  · rw [items]
    rfl
  · rw [keeps.latest, standing]
    rfl
  · rw [Bool.eq_false_iff, ne_eq, keeps.told, items]
    decide

end Notices

end StrategyDesk
