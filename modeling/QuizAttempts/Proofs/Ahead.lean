/-
**One service ahead of another by deferred writes.**

A request that is decided may still have writes before it: rows that it has staged and is about to
commit, lessons to complete, events to announce.  Until it makes them they are deferred.  A service
in which all of them have been made already is ahead of it by the deferred writes, and each
operation by which a request makes some of them brings the two closer.

Main definitions:

* `Deferred` — how a decided request ends, and the writes that it has deferred;
* `RowsAhead`, `ToldAhead` — the attempts of one service ahead of another's, and what it was told;
* `Service.Ahead` — **one service is ahead of another by deferred writes**.

Main results:

* `RowsAhead.defer`, `RowsAhead.commit` — rows are deferred, and committed;
* `ToldAhead.defer`, `ToldAhead.tell` — lessons and events are deferred, and told;
* `Service.Ahead.defer` — a request is decided, and all its writes are deferred;
* `Service.Ahead.commit`, `Service.Ahead.tell` — **it makes its deferred writes**;
* `Service.Ahead.alike` — where no row of an enrollment is deferred, both look alike;
* `Service.Ahead.attempts_eq`, `Service.Ahead.completed_eq`, `Service.Ahead.events_perm` — with
  nothing deferred there is no difference.
-/
import QuizAttempts.Proofs.Conduct

set_option autoImplicit false

namespace QuizAttempts

/-! ### Rows ahead -/

/-- **The rows `upper` are ahead of the rows `lower`**: the deferred rows are in place there, all
others are the same, and every row of `lower` has one of its enrollment above it. -/
structure RowsAhead (lower upper : Table Attempt) (deferred : List (Table Attempt)) : Prop where
  inPlace : ∀ rows ∈ deferred, ∀ (id : Int) (a : Attempt), rows.get? id = some a →
    upper.get? id = some a
  rest : ∀ id : Int, (∀ rows ∈ deferred, rows.get? id = none) → upper.get? id = lower.get? id
  kept : ∀ (id : Int) (a : Attempt), lower.get? id = some a →
    ∃ b, upper.get? id = some b ∧ b.enrollmentId = a.enrollmentId

/-- The rows belong to an enrollment, and so does everything that they replace. -/
def Table.BelongTo (rows upper : Table Attempt) (e : Int) : Prop :=
  ∀ (id : Int) (b : Attempt), rows.get? id = some b →
    b.enrollmentId = e ∧ ∀ a, upper.get? id = some a → a.enrollmentId = e

namespace RowsAhead

variable {lower upper rows : Table Attempt} {deferred deferred' : List (Table Attempt)} {e : Int}

theorem nil (rows : Table Attempt) : RowsAhead rows rows [] where
  inPlace _ h := by simp at h
  rest _ _ := rfl
  kept _ a ha := ⟨a, ha, rfl⟩

theorem perm (h : RowsAhead lower upper deferred) (hperm : deferred.Perm deferred') :
    RowsAhead lower upper deferred' where
  inPlace rows hrows := h.inPlace rows (hperm.mem_iff.2 hrows)
  rest id hid := h.rest id fun rows hrows => hid rows (hperm.mem_iff.1 hrows)
  kept := h.kept

/-- **Rows of an enrollment are deferred**, of which nobody else has deferred any. -/
theorem defer (h : RowsAhead lower upper deferred) (hrows : rows.BelongTo upper e)
    (hothers : ∀ rows ∈ deferred, ∀ (id : Int) (a : Attempt), rows.get? id = some a →
      a.enrollmentId ≠ e) : RowsAhead lower (upper.overlay rows) (rows :: deferred) where
  inPlace rows' hmem id a ha := by
    rw [Table.get?_overlay]
    rcases List.mem_cons.1 hmem with rfl | hmem
    · rw [ha, Option.some_or]
    · -- what is deferred already is not replaced, for it belongs to others
      have hupper := h.inPlace rows' hmem id a ha
      cases hb : rows.get? id with
      | none => exact hupper
      | some b => exact absurd ((hrows id b hb).2 a hupper) (hothers rows' hmem id a ha)
  rest id hid := by
    rw [Table.get?_overlay, hid rows (List.mem_cons_self ..), Option.none_or]
    exact h.rest id fun rows' hmem => hid rows' (List.mem_cons_of_mem _ hmem)
  kept id a ha := by
    obtain ⟨c, hc, hce⟩ := h.kept id a ha
    rw [Table.get?_overlay]
    cases hb : rows.get? id with
    | none => exact ⟨c, hc, hce⟩
    | some b =>
        obtain ⟨hbe, hreplaced⟩ := hrows id b hb
        exact ⟨b, rfl, by rw [hbe, ← hce, hreplaced c hc]⟩

/-- **Deferred rows are committed.** -/
theorem commit (h : RowsAhead lower upper (rows :: deferred)) :
    RowsAhead (lower.overlay rows) upper deferred where
  inPlace rows' hmem := h.inPlace rows' (List.mem_cons_of_mem _ hmem)
  rest id hid := by
    rw [Table.get?_overlay]
    cases hb : rows.get? id with
    | some b =>
        -- what was deferred here is in place on both sides now
        exact h.inPlace rows (List.mem_cons_self ..) id b hb
    | none =>
        rw [Option.none_or]
        refine h.rest id fun rows' hmem => ?_
        rcases List.mem_cons.1 hmem with rfl | hmem
        · exact hb
        · exact hid rows' hmem
  kept id a ha := by
    rw [Table.get?_overlay, Option.or_eq_some_iff] at ha
    rcases ha with ha | ⟨-, ha⟩
    · exact ⟨a, h.inPlace rows (List.mem_cons_self ..) id a ha, rfl⟩
    · exact h.kept id a ha

/-- To defer nothing makes no difference. -/
theorem cons_empty (h : RowsAhead lower upper deferred) :
    RowsAhead lower upper (Table.empty :: deferred) where
  inPlace rows hmem id a ha := by
    rcases List.mem_cons.1 hmem with rfl | hmem
    · simp at ha
    · exact h.inPlace rows hmem id a ha
  rest id hid := h.rest id fun rows hmem => hid rows (List.mem_cons_of_mem _ hmem)
  kept := h.kept

/-- Rows that deferred ones will replace belong to the same enrollment. -/
theorem enrollmentId_eq (h : RowsAhead lower upper deferred) (hrows : rows ∈ deferred) {id : Int}
    {a b : Attempt} (hb : rows.get? id = some b) (ha : lower.get? id = some a) :
    a.enrollmentId = b.enrollmentId := by
  obtain ⟨c, hc, hce⟩ := h.kept id a ha
  rw [h.inPlace rows hrows id b hb] at hc
  rw [← hce, Option.some.inj hc]

/-- **Where no row of an enrollment is deferred, its rows are the same.** -/
theorem same (h : RowsAhead lower upper deferred)
    (hothers : ∀ rows ∈ deferred, ∀ (id : Int) (a : Attempt), rows.get? id = some a →
      a.enrollmentId ≠ e) {id : Int} {a : Attempt} (ha : a.enrollmentId = e) :
    upper.get? id = some a ↔ lower.get? id = some a := by
  by_cases hnone : ∀ rows ∈ deferred, rows.get? id = none
  · rw [h.rest id hnone]
  · -- a row is deferred here, so the row is of another enrollment on both sides
    obtain ⟨rows, hmem⟩ := Classical.not_forall.1 hnone
    obtain ⟨hmem, hsome⟩ := Classical.not_imp.1 hmem
    obtain ⟨b, hb⟩ := Option.ne_none_iff_exists'.1 hsome
    have hne := hothers rows hmem id b hb
    constructor
    · intro hupper
      rw [h.inPlace rows hmem id b hb] at hupper
      rw [Option.some.inj hupper] at hne
      exact absurd ha hne
    · intro hlower
      exact absurd ((h.enrollmentId_eq hmem hb hlower).symm.trans ha) hne

end RowsAhead

/-- What is ready belongs to the enrollment. -/
theorem Transaction.Ready.belongTo {tx : Transaction} {store : Store} {e q : Int}
    (h : tx.Ready store e q) : tx.staged.BelongTo store.attempts e := by
  intro id b hb
  obtain ⟨a, ha, hpair, hcont⟩ := h.continues hb
  have he := (Attempt.isOf_iff.1 hpair).1
  refine ⟨hcont.enrollmentId.trans he, fun a' ha' => ?_⟩
  rw [ha] at ha'
  rwa [← Option.some.inj ha']

/-- A row that replaces nothing may be staged, too. -/
theorem Table.BelongTo.insert {rows upper : Table Attempt} {e : Int} (h : rows.BelongTo upper e)
    {a : Attempt} (he : a.enrollmentId = e) (hfree : upper.get? a.id = none) :
    (rows.insert a.id a).BelongTo upper e := by
  intro id b hb
  rw [Table.get?_insert] at hb
  split at hb
  · rename_i hid
    rw [← Option.some.inj hb]
    refine ⟨he, fun a' ha' => ?_⟩
    rw [hid, hfree] at ha'
    simp at ha'
  · exact h id b hb

/-- Rows of one enrollment do not show in another. -/
theorem Service.Alike.write_of_belongTo {s : Service} {rows : Table Attempt} {e e' : Int}
    (h : rows.BelongTo s.store.attempts e) (hne : e' ≠ e) : s.Alike e' (s.write rows) :=
  .write (fun hb heq => hne (heq.symm.trans (h _ _ hb).1))
    (fun hb ha heq => hne (heq.symm.trans ((h _ _ hb).2 _ ha)))

/-! ### Told ahead -/

/-- **The service `t` was told what is still deferred at the service `s`**: the lessons are
completed there, and the events are announced there, in whichever order. -/
structure ToldAhead (s t : Service) (lessons : List (Int × Int)) (events : List SubmissionEvent) :
    Prop where
  progressBroken : t.progressBroken = s.progressBroken
  eventsBroken : t.eventsBroken = s.eventsBroken
  completed : ∀ pair, pair ∈ t.store.completed ↔
    pair ∈ s.store.completed ∨ s.progressBroken = false ∧ pair ∈ lessons
  events : t.events.Perm (s.events ++ if s.eventsBroken then [] else events)

namespace ToldAhead

variable {s s' t t' : Service} {lessons lessons' : List (Int × Int)}
  {events events' : List SubmissionEvent}

theorem nil (s : Service) : ToldAhead s s [] [] where
  progressBroken := rfl
  eventsBroken := rfl
  completed pair := by simp
  events := by simp

theorem perm (h : ToldAhead s t lessons events) (hlessons : lessons.Perm lessons')
    (hevents : events.Perm events') : ToldAhead s t lessons' events' where
  progressBroken := h.progressBroken
  eventsBroken := h.eventsBroken
  completed pair := by rw [h.completed pair, hlessons.mem_iff]
  events := by
    refine h.events.trans (List.Perm.append_left _ ?_)
    split
    · exact .refl _
    · exact hevents

/-- Completing lessons adds them to those that are completed. -/
theorem mem_completed_tell (s : Service) (lessons : List (Int × Int))
    (events : List SubmissionEvent) (pair : Int × Int) :
    pair ∈ (s.tell lessons events).store.completed ↔
      pair ∈ s.store.completed ∨ s.progressBroken = false ∧ pair ∈ lessons := by
  have hfold : ∀ (store : Store), pair ∈
      (lessons.foldl (fun store pair => store.complete pair.1 pair.2) store).completed ↔
        pair ∈ store.completed ∨ pair ∈ lessons := by
    intro store
    induction lessons generalizing store with
    | nil => simp
    | cons first lessons ih =>
        rw [List.foldl_cons, ih, List.mem_cons]
        simp only [Store.complete, Progress.mem_complete]
        exact ⟨fun h => h.elim (·.elim (fun h => .inr (.inl h)) .inl) (fun h => .inr (.inr h)),
          fun h => h.elim (fun h => .inl (.inr h)) (·.elim (fun h => .inl (.inl h)) .inr)⟩
  simp only [Service.tell]
  cases s.progressBroken with
  | true => simp
  | false => simp [hfold]

/-- **More is deferred**, and was told already. -/
theorem defer (h : ToldAhead s t lessons events) (lessons' : List (Int × Int))
    (events' : List SubmissionEvent) :
    ToldAhead s (t.tell lessons' events') (lessons' ++ lessons) (events' ++ events) where
  progressBroken := h.progressBroken
  eventsBroken := h.eventsBroken
  completed pair := by
    rw [mem_completed_tell, h.completed pair, h.progressBroken, List.mem_append]
    cases s.progressBroken with
    | true => simp
    | false =>
        simp only [true_and]
        rw [or_assoc, or_comm (a := pair ∈ lessons)]
  events := by
    simp only [Service.tell, h.eventsBroken]
    have hevents := h.events
    cases hbroken : s.eventsBroken with
    | true => simpa [hbroken] using hevents
    | false =>
        simp only [hbroken, Bool.false_eq_true, if_false] at hevents ⊢
        refine (hevents.append_right events').trans ?_
        rw [List.append_assoc]
        exact List.Perm.append_left _ List.perm_append_comm

/-- **What is deferred is told.** -/
theorem tell (h : ToldAhead s t (lessons' ++ lessons) (events' ++ events)) :
    ToldAhead (s.tell lessons' events') t lessons events where
  progressBroken := h.progressBroken
  eventsBroken := h.eventsBroken
  completed pair := by
    rw [h.completed pair, mem_completed_tell, List.mem_append]
    show _ ↔ _ ∨ s.progressBroken = false ∧ pair ∈ lessons
    cases s.progressBroken with
    | true => simp
    | false =>
        simp only [true_and]
        rw [or_assoc]
  events := by
    have hevents := h.events
    show t.events.Perm ((s.tell lessons' events').events ++ if s.eventsBroken then [] else events)
    simp only [Service.tell]
    cases hbroken : s.eventsBroken with
    | true => simpa [hbroken] using hevents
    | false =>
        simp only [hbroken, Bool.false_eq_true, if_false] at hevents ⊢
        rwa [List.append_assoc]

end ToldAhead

/-! ### A service ahead -/

/-- **How a decided request ends, and the writes that it has deferred** until then. -/
structure Deferred where
  outcome : Outcome Reply
  /-- Rows that are staged and will be committed. -/
  rows : Table Attempt
  lessons : List (Int × Int)
  events : List SubmissionEvent

/-- What is still deferred once the rows are committed. -/
def Deferred.withoutRows (d : Deferred) : Deferred := { d with rows := Table.empty }

/-- **The service `t` is ahead of the service `s` by deferred writes**: there they were made. -/
structure Service.Ahead (s t : Service) (deferred : List Deferred) : Prop where
  setting : s.SameSetting t
  pendingCollisions : t.pendingCollisions = s.pendingCollisions
  allocated : t.store.allocated = s.store.allocated
  rows : RowsAhead s.store.attempts t.store.attempts (deferred.map (·.rows))
  told : ToldAhead s t (deferred.flatMap (·.lessons)) (deferred.flatMap (·.events))

namespace Service.Ahead

variable {s t : Service} {d : Deferred} {deferred others : List Deferred} {e : Int}

/-- Nothing is deferred at first. -/
theorem nil (s : Service) : s.Ahead s [] :=
  ⟨.refl s, rfl, rfl, .nil _, .nil s⟩

/-- The order of the deferred writes does not matter. -/
theorem perm (h : s.Ahead t deferred) (hperm : deferred.Perm others) : s.Ahead t others :=
  ⟨h.setting, h.pendingCollisions, h.allocated, h.rows.perm (hperm.map _),
    h.told.perm (hperm.flatMap_right _) (hperm.flatMap_right _)⟩

/-- Giving out an identifier in both services defers nothing. -/
theorem allocate (h : s.Ahead t deferred) : s.allocate.Ahead t.allocate deferred where
  setting := ⟨h.setting.quizzes, h.setting.lessons, h.setting.enrollments, h.setting.clock⟩
  pendingCollisions := h.pendingCollisions
  allocated := congrArg (· + 1) h.allocated
  rows := h.rows
  told := ⟨h.told.progressBroken, h.told.eventsBroken, h.told.completed, h.told.events⟩

/-- Telling shows in the completed lessons and the events, and nowhere else. -/
theorem tell_store (s : Service) (lessons : List (Int × Int)) (events : List SubmissionEvent) :
    (s.tell lessons events).store =
      { s.store with completed := (s.tell lessons events).store.completed } := by
  have hfold : ∀ store : Store,
      (lessons.foldl (fun store pair => store.complete pair.1 pair.2) store) =
        { store with completed :=
          (lessons.foldl (fun store pair => store.complete pair.1 pair.2) store).completed } := by
    intro store
    induction lessons generalizing store with
    | nil => rfl
    | cons first lessons ih =>
        rw [List.foldl_cons, ih]
        rfl
  simp only [Service.tell]
  split
  · rfl
  · exact hfold s.store

theorem sameSetting_tell (s : Service) (lessons : List (Int × Int))
    (events : List SubmissionEvent) : s.SameSetting (s.tell lessons events) := by
  have hstore := tell_store s lessons events
  exact ⟨by rw [hstore], by rw [hstore], by rw [hstore], rfl⟩

/-- A request that ends as it is defers nothing. -/
theorem cons_ended (h : s.Ahead t others) (outcome : Outcome Reply) :
    s.Ahead t (⟨outcome, Table.empty, [], []⟩ :: others) :=
  ⟨h.setting, h.pendingCollisions, h.allocated, h.rows.cons_empty, h.told⟩

/-- **A request is decided**: all its writes are made in the service ahead, and deferred here. -/
theorem defer (h : s.Ahead t others) (hrows : d.rows.BelongTo t.store.attempts e)
    (hothers : ∀ d ∈ others, ∀ (id : Int) (a : Attempt), d.rows.get? id = some a →
      a.enrollmentId ≠ e) :
    s.Ahead ((t.write d.rows).tell d.lessons d.events) (d :: others) where
  setting := by
    have hwrite : s.SameSetting (t.write d.rows) :=
      ⟨h.setting.quizzes, h.setting.lessons, h.setting.enrollments, h.setting.clock⟩
    exact hwrite.trans (sameSetting_tell (t.write d.rows) _ _)
  pendingCollisions := h.pendingCollisions
  allocated := by
    rw [tell_store]
    exact h.allocated
  rows := by
    rw [tell_store]
    refine h.rows.defer hrows fun rows hmem => ?_
    obtain ⟨d', hd', rfl⟩ := List.mem_map.1 hmem
    exact hothers d' hd'
  told := by
    have htold : ToldAhead s (t.write d.rows) _ _ :=
      ⟨h.told.progressBroken, h.told.eventsBroken, h.told.completed, h.told.events⟩
    exact htold.defer d.lessons d.events

/-- **Deferred rows are committed.** -/
theorem commit (h : s.Ahead t (d :: others)) :
    (s.write d.rows).Ahead t (d.withoutRows :: others) where
  setting := ⟨h.setting.quizzes, h.setting.lessons, h.setting.enrollments, h.setting.clock⟩
  pendingCollisions := h.pendingCollisions
  allocated := h.allocated
  rows := h.rows.commit.cons_empty
  told := ⟨h.told.progressBroken, h.told.eventsBroken, h.told.completed, h.told.events⟩

/-- **What is deferred is told.** -/
theorem tell {outcome : Outcome Reply} {rows : Table Attempt}
    {lessons lessons' : List (Int × Int)} {events events' : List SubmissionEvent}
    (h : s.Ahead t (⟨outcome, rows, lessons' ++ lessons, events' ++ events⟩ :: others)) :
    (s.tell lessons' events').Ahead t (⟨outcome, rows, lessons, events⟩ :: others) where
  setting := by
    have hstore := tell_store s lessons' events'
    exact ⟨by rw [hstore]; exact h.setting.quizzes, by rw [hstore]; exact h.setting.lessons,
      by rw [hstore]; exact h.setting.enrollments, h.setting.clock⟩
  pendingCollisions := h.pendingCollisions
  allocated := by
    rw [tell_store]
    exact h.allocated
  rows := by
    rw [tell_store]
    exact h.rows
  told := by
    have htold := h.told
    rw [List.flatMap_cons, List.flatMap_cons, List.append_assoc, List.append_assoc] at htold
    exact htold.tell

/-- **Where no row of an enrollment is deferred, both look alike.** -/
theorem alike (h : s.Ahead t deferred)
    (hothers : ∀ d ∈ deferred, ∀ (id : Int) (a : Attempt), d.rows.get? id = some a →
      a.enrollmentId ≠ e) : s.Alike e t := by
  refine ⟨h.setting.clock, fun id a ha => h.rows.same (fun rows hmem => ?_) ha⟩
  obtain ⟨d, hd, rfl⟩ := List.mem_map.1 hmem
  exact hothers d hd

/-- With no rows deferred both have the same attempts. -/
theorem attempts_eq (h : s.Ahead t deferred) (hrows : ∀ d ∈ deferred, d.rows = Table.empty) :
    t.store.attempts = s.store.attempts := by
  refine Table.ext fun id => h.rows.rest id fun rows hmem => ?_
  obtain ⟨d, hd, rfl⟩ := List.mem_map.1 hmem
  rw [hrows d hd, Table.get?_empty]

/-- With no lessons deferred both have the same lessons completed. -/
theorem completed_eq (h : s.Ahead t deferred) (hlessons : ∀ d ∈ deferred, d.lessons = []) :
    t.store.completed = s.store.completed := by
  have hnone : deferred.flatMap (·.lessons) = [] := List.flatMap_eq_nil_iff.2 hlessons
  refine Progress.ext fun pair => ?_
  rw [h.told.completed pair, hnone]
  simp

/-- With no events deferred both have the same events, in whichever order. -/
theorem events_perm (h : s.Ahead t deferred) (hevents : ∀ d ∈ deferred, d.events = []) :
    t.events.Perm s.events := by
  have hnone : deferred.flatMap (·.events) = [] := List.flatMap_eq_nil_iff.2 hevents
  have htold := h.told.events
  rw [hnone] at htold
  simpa using htold

end Service.Ahead

end QuizAttempts
