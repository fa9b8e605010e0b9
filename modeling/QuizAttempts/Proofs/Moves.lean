/-
**What requests can do to the attempts, and how they do it.**

However many operations a request is made of, there are two things that it can do to the committed
attempts.  It can leave them standing with some of them closed, and it can open the next attempt of
a pair, of which nothing is open then, with the number after the highest.  Whatever holds of the
attempts at first and survives both is never lost.

The operations by which a request writes come last in it, when it has looked at what it needs.
There are three kinds of them: those that commit what is staged, those that open the next attempt,
and those that tell of a graded one.

Main definitions:

* `Store.Continues` — every attempt stands where it stood, perhaps closed;
* `Store.Opens` — one more attempt, the next of its pair;
* `Store.Moves` — **any number of the two**;
* `Service.tell` — completing lessons and announcing events.

Main results:

* `Session.perform_store` — what one operation can do to the store;
* `exec_afterGrading` — **what is told about a graded attempt**;
* `exec_commitOrRefuse` — what is ready is committed;
* `exec_openAfter`, `opens_nextAttempt` — **the next attempt is opened, in all cases**.
-/
import QuizAttempts.Proofs.Looks

set_option autoImplicit false

namespace QuizAttempts

open Program

/-! ### The two moves -/

/-- **Every attempt stands where it stood**, perhaps closed, and there are no others. -/
structure Store.Continues (after before : Store) : Prop where
  rows : ∀ {id : Int} {b : Attempt}, after.attempts.get? id = some b →
    ∃ a, before.attempts.get? id = some a ∧ b.Continues a
  kept : ∀ {id : Int} {a : Attempt}, before.attempts.get? id = some a →
    ∃ b, after.attempts.get? id = some b ∧ b.Continues a
  allocated : before.allocated ≤ after.allocated

/-- **One more attempt**, the next of its pair, of which nothing is open; its quiz allows it. -/
structure Store.Opens (quizzes : Table Quiz) (before after : Store) (a : Attempt) : Prop where
  attempts : after.attempts = before.attempts.insert a.id a
  id : a.id = before.allocated + 1
  allocated : after.allocated = before.allocated + 1
  pair : ∀ {i : Int} {b : Attempt}, before.attempts.get? i = some b →
    b.isOf a.enrollmentId a.quizId = true → b.number < a.number ∧ b.isOpen = false
  next : a.number = 1 ∧ (∀ {i : Int} {b : Attempt}, before.attempts.get? i = some b →
      b.isOf a.enrollmentId a.quizId = false) ∨
    ∃ i b, before.attempts.get? i = some b ∧ b.isOf a.enrollmentId a.quizId = true ∧
      a.number = b.number + 1
  inRange : isInt32 a.number = true
  allowed : ∃ quiz, quizzes.get? a.quizId = some quiz ∧
    ∀ most, quiz.maxAttempts = some most → a.number ≤ most

/-- **What requests do to the attempts**: they continue them, and open the next ones. -/
inductive Store.Moves (quizzes : Table Quiz) (before : Store) : Store → Prop
  | refl : Moves quizzes before before
  | continues {middle after : Store} (h : Moves quizzes before middle)
      (hstep : after.Continues middle) : Moves quizzes before after
  | opens {middle after : Store} {a : Attempt} (h : Moves quizzes before middle)
      (hstep : middle.Opens quizzes after a) : Moves quizzes before after

namespace Store

variable {quizzes : Table Quiz} {before middle after : Store}

theorem Continues.of_eq (hrows : after.attempts = before.attempts)
    (hids : after.allocated = before.allocated) : after.Continues before where
  rows hb := ⟨_, hrows ▸ hb, Attempt.Continues.refl _⟩
  kept ha := ⟨_, hrows ▸ ha, Attempt.Continues.refl _⟩
  allocated := Nat.le_of_eq hids.symm

theorem Moves.of_eq (hrows : after.attempts = before.attempts)
    (hids : after.allocated = before.allocated) : Moves quizzes before after :=
  .continues .refl (.of_eq hrows hids)

theorem Moves.allocated_le (h : Moves quizzes before after) :
    before.allocated ≤ after.allocated := by
  induction h with
  | refl => exact Nat.le_refl _
  | continues _ hstep ih => exact Nat.le_trans ih hstep.allocated
  | opens _ hstep ih =>
      rw [hstep.allocated]
      omega

/-- **An attempt that is closed stays closed**, whatever requests do. -/
theorem Moves.closed (h : Moves quizzes before after) (hs : before.Sound) {id : Int} {a : Attempt}
    (ha : before.attempts.get? id = some a) (hclosed : a.isOpen = false) :
    ∃ b, after.attempts.get? id = some b ∧ b.isOpen = false := by
  have hid := hs.allocated ha
  induction h with
  | refl => exact ⟨a, ha, hclosed⟩
  | continues _ hstep ih =>
      obtain ⟨b, hb, hbclosed⟩ := ih
      obtain ⟨c, hc, hcont⟩ := hstep.kept hb
      refine ⟨c, hc, ?_⟩
      rw [Bool.eq_false_iff]
      intro hopen
      simp [hcont.isOpen hopen] at hbclosed
  | opens h hstep ih =>
      obtain ⟨b, hb, hbclosed⟩ := ih
      -- the new row stands under an identifier that was not given out before
      have hle := h.allocated_le
      have hnew := hstep.id
      refine ⟨b, ?_, hbclosed⟩
      rw [hstep.attempts, Table.get?_insert_of_ne (by omega), hb]

end Store

/-- What is staged before the next attempt is opened continues the attempts. -/
theorem Transaction.Ready.continues_write {tx : Transaction} {s : Service} {e q : Int}
    (h : tx.Ready s.store e q) : (s.write tx.staged).store.Continues s.store where
  rows {id b} hb := by
    rw [Service.get?_write, Option.or_eq_some_iff] at hb
    rcases hb with hb | ⟨-, hb⟩
    · obtain ⟨a, ha, -, hcont⟩ := h.continues hb
      exact ⟨a, ha, hcont⟩
    · exact ⟨b, hb, Attempt.Continues.refl b⟩
  kept {id a} ha := by
    rw [Service.get?_write]
    cases hb : tx.staged.get? id with
    | none => exact ⟨a, ha, Attempt.Continues.refl a⟩
    | some b =>
        obtain ⟨a', ha', -, hcont⟩ := h.continues hb
        obtain rfl : a' = a := Option.some.inj (ha'.symm.trans ha)
        exact ⟨b, rfl, hcont⟩
  allocated := Nat.le_refl _

/-! ### One operation -/

/-- **What one operation can do to the store**: nothing, give out an identifier, commit, publish a
quiz or complete a lesson. -/
theorem Session.perform_store {others : List Int} {s s' : Session} {op : Op} {reply : op.Reply}
    (h : s.perform others op = some (s', reply)) :
    s'.service.store = s.service.store ∨
    (∃ new, op = .insert new ∧ s'.service.store = s.service.store.allocate) ∨
    (op = .commit ∧ s.tx.commit s.service.store = .ok s'.service.store) ∨
    (∃ quiz, op = .publish quiz ∧ s.service.store.publish? quiz = some s'.service.store) ∨
    (∃ enrollment lesson, op = .completeLesson enrollment lesson ∧
      s'.service.store = s.service.store.complete enrollment lesson) := by
  cases op with
  | insert new =>
      obtain rfl : (s.insert new).1 = s' := congrArg Prod.fst (Option.some.inj h)
      obtain ⟨hstore, -⟩ := Transaction.insert_eq s.tx s.service.store new
      unfold Session.insert
      split
      · exact Or.inl rfl
      · refine Or.inr (Or.inl ⟨new, rfl, ?_⟩)
        split <;> rename_i heq <;> rw [heq] at hstore <;> exact hstore
  | save final =>
      obtain rfl : (s.save final).1 = s' := congrArg Prod.fst (Option.some.inj h)
      unfold Session.save
      split <;> exact Or.inl rfl
  | commit =>
      obtain rfl : s.commit.1 = s' := congrArg Prod.fst (Option.some.inj h)
      unfold Session.commit
      split
      · rename_i heq
        exact Or.inr (Or.inr (Or.inl ⟨rfl, heq⟩))
      · exact Or.inl rfl
  | publish quiz =>
      obtain rfl : (s.publish quiz).1 = s' := congrArg Prod.fst (Option.some.inj h)
      unfold Session.publish
      split
      · rename_i heq
        exact Or.inr (Or.inr (Or.inr (Or.inl ⟨quiz, rfl, heq⟩)))
      · exact Or.inl rfl
  | lockEnrollment student course =>
      obtain ⟨⟨tx, enrollment⟩, -, heq⟩ := Option.map_eq_some_iff.1 h
      obtain ⟨rfl, -⟩ := Prod.mk.inj heq
      exact Or.inl rfl
  | completeLesson enrollment lesson =>
      obtain rfl : s.completeLesson enrollment lesson = s' :=
        congrArg Prod.fst (Option.some.inj h)
      unfold Session.completeLesson
      split
      · exact Or.inl rfl
      · exact Or.inr (Or.inr (Or.inr (Or.inr ⟨enrollment, lesson, rfl, rfl⟩)))
  | announce event =>
      obtain rfl : s.announce event = s' := congrArg Prod.fst (Option.some.inj h)
      unfold Session.announce
      split <;> exact Or.inl rfl
  | _ =>
      obtain ⟨rfl, -⟩ := Prod.mk.inj (Option.some.inj h)
      exact Or.inl rfl

/-! ### Telling of a result -/

/-- The service after lessons were completed and events announced. -/
def Service.tell (s : Service) (lessons : List (Int × Int)) (events : List SubmissionEvent) :
    Service :=
  { s with
    store := if s.progressBroken then s.store
      else lessons.foldl (fun store pair => store.complete pair.1 pair.2) s.store
    events := if s.eventsBroken then s.events else s.events ++ events }

theorem Service.tell_nil (s : Service) : s.tell [] [] = s := by
  cases s
  simp [tell]

/-- Lessons and events do not get into each other's way. -/
theorem Session.tell_completeLesson (s : Session) (e l : Int) (lessons : List (Int × Int))
    (events : List SubmissionEvent) :
    (s.completeLesson e l).service.tell lessons events =
      s.service.tell ((e, l) :: lessons) events := by
  unfold Session.completeLesson Service.tell
  cases hbroken : s.service.progressBroken <;> simp [Session.withStore, hbroken]

theorem Session.tell_announce (s : Session) (event : SubmissionEvent) (lessons : List (Int × Int))
    (events : List SubmissionEvent) :
    (s.announce event).service.tell lessons events =
      s.service.tell lessons (event :: events) := by
  unfold Session.announce Service.tell
  cases hbroken : s.service.eventsBroken <;> simp [hbroken]

theorem Session.tx_completeLesson (s : Session) (e l : Int) : (s.completeLesson e l).tx = s.tx := by
  unfold Session.completeLesson
  split <;> rfl

theorem Session.tx_announce (s : Session) (event : SubmissionEvent) :
    (s.announce event).tx = s.tx := by
  unfold Session.announce
  split <;> rfl

/-- Completing a lesson tells of it, and does nothing else. -/
theorem Session.completeLesson_eq_tell (s : Session) (e l : Int) :
    s.completeLesson e l = ⟨s.service.tell [(e, l)] [], s.tx⟩ := by
  rw [← Session.tell_completeLesson, Service.tell_nil, ← Session.tx_completeLesson s e l]

theorem Session.announce_eq_tell (s : Session) (event : SubmissionEvent) :
    s.announce event = ⟨s.service.tell [] [event], s.tx⟩ := by
  rw [← Session.tell_announce, Service.tell_nil, ← Session.tx_announce s event]

/-- The lesson that a grade completes, if it passes. -/
def Quiz.passedLessons (quiz : Quiz) (a : Attempt) (grade : Grade) : List (Int × Int) :=
  if grade.isPassed then [(a.enrollmentId, quiz.lessonId)] else []

/-- **What is told about a graded attempt**: the lesson that it completes, and one event. -/
theorem exec_afterGrading (quiz : Quiz) (a : Attempt) (grade : Grade) (present : Timestamp)
    (actor : Actor) (others : List Int) (s : Session) :
    (afterGrading quiz a grade present actor).exec others s =
      (⟨s.service.tell (quiz.passedLessons a grade) [a.submissionEvent grade present actor], s.tx⟩,
        .done ()) := by
  unfold afterGrading Quiz.passedLessons
  cases grade.isPassed with
  | true =>
      show ((s.completeLesson a.enrollmentId quiz.lessonId).announce _, _) = _
      rw [Session.announce_eq_tell, Session.tell_completeLesson, Session.tx_completeLesson]
      rfl
  | false =>
      show (s.announce _, _) = _
      rw [Session.announce_eq_tell]
      rfl

/-! ### Where a request writes -/

section Writing

variable {quizzes : Table Quiz} {s : Service} {tx : Transaction} {quiz : Quiz}
  {enrollment : Enrollment} {others : List Int}

/-- What is ready is committed. -/
theorem session_commit (hs : s.store.Sound) {e q : Int} (h : tx.Ready s.store e q) :
    Session.commit ⟨s, tx⟩ = (⟨s.write tx.staged, Transaction.fresh⟩, .ok ()) := by
  simp only [Session.commit, h.commit hs]
  rfl

theorem exec_commitOrRefuse (hs : s.store.Sound) {e q : Int} (h : tx.Ready s.store e q) :
    commitOrRefuse.exec others ⟨s, tx⟩ = (⟨s.write tx.staged, Transaction.fresh⟩, .done ()) := by
  simp only [commitOrRefuse, commit, step_bind, Program.exec, Session.perform,
    session_commit hs h]
  rfl

/-- What the attempt after the latest one is made from. -/
def Service.nextNew (s : Service) (quiz : Quiz) (enrollment : Enrollment) : NewAttempt :=
  ⟨enrollment.id, quiz.id, s.latest enrollment.id quiz.id + 1,
    quiz.maxScore.roundHundredths, s.clock⟩

/-- The attempt after the latest one, under the next identifier. -/
def Service.nextAttempt (s : Service) (quiz : Quiz) (enrollment : Enrollment) : Attempt :=
  (s.nextNew quiz enrollment).toAttempt (s.store.allocated + 1)

theorem Service.isOf_nextAttempt (s : Service) (quiz : Quiz) (enrollment : Enrollment) :
    (s.nextAttempt quiz enrollment).isOf enrollment.id quiz.id = true :=
  Attempt.isOf_iff.2 ⟨rfl, rfl⟩

/-- An attempt after the latest one is staged, unless a collision was asked for. -/
theorem session_insert (hpending : s.pendingCollisions = 0) {e q : Int} (h : tx.Ready s.store e q)
    {new : NewAttempt} (he : new.enrollmentId = e) (hq : new.quizId = q)
    (hnumber : s.latest e q < new.number) :
    Session.insert ⟨s, tx⟩ new =
      (⟨s.allocate, tx.stage (new.toAttempt (s.store.allocated + 1))⟩,
        .ok (new.toAttempt (s.store.allocated + 1))) := by
  simp only [Session.insert, hpending, h.insert he hq hnumber]
  rfl

/-- An attempt after the latest one is committed. -/
theorem session_commit_next (hs : s.store.Sound) {e q : Int} (h : tx.Ready s.store e q)
    {a : Attempt} (hpair : a.isOf e q = true) (hnumber : s.latest e q < a.number) :
    Session.commit ⟨s, tx.stage a⟩ =
      (⟨s.write (tx.stage a).staged, Transaction.fresh⟩, .ok ()) := by
  simp only [Session.commit, h.commit_next hs hpair hnumber]
  rfl

/-- **The next attempt is opened, in all cases**: when there is one left and no collision was asked
for.  A collision leaves nothing behind, and so does a number that is too large. -/
theorem exec_openAfter (hs : s.store.Sound) (h : tx.Ready s.store enrollment.id quiz.id) :
    (openAfter quiz enrollment s.clock (s.latest enrollment.id quiz.id)).exec others ⟨s, tx⟩ =
      if quiz.isExhausted (s.latest enrollment.id quiz.id) then
        (⟨s.write tx.staged, Transaction.fresh⟩, .refused .exhausted)
      else if isInt32 (s.latest enrollment.id quiz.id + 1) then
        match s.pendingCollisions with
        | n + 1 => (⟨{ s with pendingCollisions := n }, Transaction.fresh⟩, .done none)
        | 0 => (⟨s.allocate.write (tx.stage (s.nextAttempt quiz enrollment)).staged,
            Transaction.fresh⟩, .done (some (s.nextAttempt quiz enrollment)))
      else (⟨s, tx⟩, .overflow) := by
  unfold openAfter
  split
  · simp only [commit, step_bind, Program.exec, Session.perform, session_commit hs h]
    rfl
  · split
    · cases hpending : s.pendingCollisions with
      | succ n =>
          simp only [Program.insert, rollback, step_bind, Program.exec, Session.perform,
            Session.insert, hpending]
          rfl
      | zero =>
          have hlt : s.allocate.latest enrollment.id quiz.id <
              (s.nextAttempt quiz enrollment).number := by
            show s.latest enrollment.id quiz.id < s.latest enrollment.id quiz.id + 1
            omega
          have hinsert : Session.insert ⟨s, tx⟩ (s.nextNew quiz enrollment) =
              (⟨s.allocate, tx.stage (s.nextAttempt quiz enrollment)⟩,
                .ok (s.nextAttempt quiz enrollment)) := session_insert hpending h rfl rfl hlt
          have hcommit := session_commit_next (s := s.allocate) hs.allocate h.allocate
            (s.isOf_nextAttempt quiz enrollment) hlt
          simp only [Service.nextNew] at hinsert
          simp only [Program.insert, commit, step_bind, Program.exec, Session.perform, hinsert,
            done_bind, hcommit]
          rfl
    · rfl

/-- The quiz at hand is one of those in the store, with its number of attempts. -/
def Quiz.IsStored (quizzes : Table Quiz) (quiz : Quiz) : Prop :=
  ∃ stored, quizzes.get? quiz.id = some stored ∧ stored.maxAttempts = quiz.maxAttempts

/-- **Opening the next attempt is one move**, after what was staged before. -/
theorem opens_nextAttempt (hquiz : quiz.IsStored quizzes)
    (h : tx.Ready s.store enrollment.id quiz.id)
    (hleft : quiz.isExhausted (s.latest enrollment.id quiz.id) = false)
    (hrange : isInt32 (s.latest enrollment.id quiz.id + 1) = true) :
    (s.write tx.staged).store.Opens quizzes
      (s.allocate.write (tx.stage (s.nextAttempt quiz enrollment)).staged).store
      (s.nextAttempt quiz enrollment) where
  attempts := by
    have hmerged : (tx.stage (s.nextAttempt quiz enrollment)).merged s.store = _ :=
      Transaction.merged_stage (s.nextAttempt quiz enrollment)
    exact hmerged
  id := rfl
  allocated := rfl
  pair {i b} hb hpair := by
    have hle : b.number ≤ s.latest enrollment.id quiz.id := h.le_latest hb hpair
    have hnumber : (s.nextAttempt quiz enrollment).number =
      s.latest enrollment.id quiz.id + 1 := rfl
    exact ⟨by omega, h.closed hb hpair⟩
  next := by
    rcases s.latest_eq enrollment.id quiz.id with ⟨i, a, ha, hpair, hnumber⟩ | ⟨hzero, hnone⟩
    · obtain ⟨b, hb, hcont⟩ := h.continues_write.kept ha
      refine Or.inr ⟨i, b, hb, (hcont.isOf _ _).trans hpair, ?_⟩
      rw [hcont.number, hnumber]
      rfl
    · refine Or.inl ⟨congrArg (· + 1) hzero, fun {i b} hb => ?_⟩
      obtain ⟨a, ha, hcont⟩ := h.continues_write.rows hb
      exact (hcont.isOf _ _).trans (hnone i a ha)
  inRange := hrange
  allowed := by
    obtain ⟨stored, hstored, hmost⟩ := hquiz
    refine ⟨stored, hstored, fun most hmost' => ?_⟩
    rw [Quiz.isExhausted, ← hmost, hmost'] at hleft
    have hlt : ¬ most ≤ s.latest enrollment.id quiz.id := of_decide_eq_false hleft
    show s.latest enrollment.id quiz.id + 1 ≤ most
    omega

end Writing

end QuizAttempts
