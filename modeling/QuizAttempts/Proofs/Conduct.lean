/-
**How a start and a submission take the lock, write and commit.**

Both come by looking to the lock of an enrollment, or are refused before.  Once they hold it they
come by looking to their first write: they commit the closing of an attempt, or they insert the next
attempt and commit it at once.  Neither is refused as long as no collision is asked for.  After the
commit they complete lessons and announce events, and do nothing else.

None of this depends on anything but the setting and the attempts of the enrollment.  It is the same
in the service in which others are at work and in one in which the requests were made one after
another, and so it will carry over from the one to the other.

Main definitions:

* `AfterCommit` — **what is left of a request after the commit**;
* `Service.SameUnderLock` — the services that agree with one on the attempts of an enrollment;
* `AtWrite`, `ReachesWrite` — being at the first write under a lock, and coming there by looking;
* `AtLock`, `ReachesLock` — being at the lock, and coming there by looking.

Main results:

* `AfterCommit.exec` — what is done after the commit;
* `reachesLock_start`, `reachesLock_submit` — **starts and submissions go like this**.
-/
import QuizAttempts.Proofs.Moves
import QuizAttempts.Proofs.Race

set_option autoImplicit false

namespace QuizAttempts

open Program

/-! ### Ends -/

/-- The outcome tells of somebody else who was first, or who still is. -/
def Outcome.isOvertaken {α : Type} : Outcome α → Bool
  | .refused why => why.isOvertaken
  | .blocked => true
  | _ => false

/-- **A program is at its end**, and nobody else was first. -/
structure Program.Ends {α : Type} (p : Program α) (outcome : Outcome α) : Prop where
  verdict : p.verdict? = some outcome
  fair : outcome.isOvertaken = false

/-- A program at its end ends. -/
theorem Program.exec_of_verdict {α : Type} {p : Program α} {outcome : Outcome α}
    (h : p.verdict? = some outcome) (others : List Int) (s : Session) :
    p.exec others s = (s, outcome) := by
  cases p with
  | step op next => simp [verdict?] at h
  | _ =>
      obtain rfl := Option.some.inj h
      rfl

/-- A program at its end is where it comes to by looking. -/
theorem Looks.eq_of_verdict {α : Type} {C : Service → Prop} {p p' : Program α}
    {tx tx' : Transaction} {outcome : Outcome α} (h : Looks C p tx p' tx')
    (hverdict : p.verdict? = some outcome) : p' = p := by
  cases h with
  | here => rfl
  | look => simp [Program.verdict?] at hverdict

/-! ### After the commit -/

/-- **What is left of a request after the commit**: it completes lessons and announces events, and
ends. -/
inductive AfterCommit {α : Type} : Program α → List (Int × Int) → List SubmissionEvent →
    Outcome α → Prop
  | ends {p : Program α} {outcome : Outcome α} (h : p.Ends outcome) : AfterCommit p [] [] outcome
  | completesLesson {e l : Int} {next : Unit → Program α} {lessons : List (Int × Int)}
      {events : List SubmissionEvent} {outcome : Outcome α}
      (h : AfterCommit (next ()) lessons events outcome) :
      AfterCommit (.step (.completeLesson e l) next) ((e, l) :: lessons) events outcome
  | announces {event : SubmissionEvent} {next : Unit → Program α} {lessons : List (Int × Int)}
      {events : List SubmissionEvent} {outcome : Outcome α}
      (h : AfterCommit (next ()) lessons events outcome) :
      AfterCommit (.step (.announce event) next) lessons (event :: events) outcome

/-- **What is done after the commit**: lessons are completed and events announced. -/
theorem AfterCommit.exec {α : Type} {p : Program α} {lessons : List (Int × Int)}
    {events : List SubmissionEvent} {outcome : Outcome α} (h : AfterCommit p lessons events outcome)
    (others : List Int) (s : Session) :
    p.exec others s = (⟨s.service.tell lessons events, s.tx⟩, outcome) := by
  induction h generalizing s with
  | ends h => rw [Program.exec_of_verdict h.verdict, Service.tell_nil]
  | @completesLesson e l next lessons events outcome _ ih =>
      show (next ()).exec others (s.completeLesson e l) = _
      rw [ih, Session.tell_completeLesson, Session.tx_completeLesson]
  | @announces event next lessons events outcome _ ih =>
      show (next ()).exec others (s.announce event) = _
      rw [ih, Session.tell_announce, Session.tx_announce]

/-- What is left of a submission once the final state of its attempt is committed. -/
theorem Settles.afterCommit {β : Type} {quiz : Quiz} {a final : Attempt}
    {answers : List SubmittedAnswer} {actor : Actor} {present : Timestamp}
    {rest : Program AttemptView} (h : Settles quiz a answers actor present final rest)
    {f : AttemptView → Program β} {reply : AttemptView → β}
    (hf : ∀ view, f view = .done (reply view)) :
    ∃ lessons events outcome, AfterCommit (rest >>= f) lessons events outcome := by
  have hends : ∀ view, (f view).Ends (.done (reply view)) := by
    intro view
    rw [hf]
    exact ⟨rfl, rfl⟩
  cases h with
  | overdue => exact ⟨[], [], .refused .tooLate, .ends ⟨rfl, rfl⟩⟩
  | @graded index grade =>
      unfold afterGrading
      cases grade.isPassed with
      | true => exact ⟨_, _, _, .completesLesson (.announces (.ends (hends _)))⟩
      | false => exact ⟨_, _, _, .announces (.ends (hends _))⟩

/-! ### Under the lock -/

/-- **The services that agree with one on the attempts of an enrollment**, and are sound. -/
def Service.SameUnderLock (s : Service) (e : Int) (t : Service) : Prop :=
  s.Alike e t ∧ t.store.Sound

theorem Service.SameUnderLock.of_alike {s s' t : Service} {e : Int} (h : s.Alike e s')
    (ht : s'.SameUnderLock e t) : s.SameUnderLock e t := ⟨h.trans ht.1, ht.2⟩

/-- **A request is at its first write under the lock of an enrollment**: the commit of what it
closed, or the insert of the next attempt, which is committed at once.  Or else it ends without a
write. -/
inductive AtWrite {α : Type} (C : Service → Prop) (e : Int) : Program α → Transaction → Prop
  | ends {p : Program α} {tx : Transaction} {outcome : Outcome α} (h : p.Ends outcome) :
      AtWrite C e p tx
  | commits {next : Except Taken Unit → Program α} {tx : Transaction} {q : Int}
      {lessons : List (Int × Int)} {events : List SubmissionEvent} {outcome : Outcome α}
      (hready : ∀ t, C t → tx.Ready t.store e q)
      (hrest : AfterCommit (next (.ok ())) lessons events outcome) :
      AtWrite C e (.step .commit next) tx
  | inserts {new : NewAttempt} {next : Except Taken Attempt → Program α}
      {after : Attempt → Except Taken Unit → Program α} {tx : Transaction} {q : Int}
      (hready : ∀ t, C t → tx.Ready t.store e q)
      (hnew : new.enrollmentId = e ∧ new.quizId = q)
      (hnumber : ∀ t, C t → t.latest e q < new.number)
      (hnext : ∀ a, next (.ok a) = .step .commit (after a))
      (hrest : ∀ a, ∃ lessons events outcome,
        AfterCommit (after a (.ok ())) lessons events outcome) :
      AtWrite C e (.step (.insert new) next) tx

/-- **Coming to the first write by looking**, or to an end without one, in all services that agree
on the enrollment. -/
def ReachesWrite {α : Type} (s : Service) (e : Int) (p : Program α) (tx : Transaction) : Prop :=
  ∃ p' tx', Looks (s.SameUnderLock e) p tx p' tx' ∧ AtWrite (s.SameUnderLock e) e p' tx'

theorem Looks.mono {α : Type} {C C' : Service → Prop} {p p' : Program α} {tx tx' : Transaction}
    (h : Looks C p tx p' tx') (hsub : ∀ t, C' t → C t) : Looks C' p tx p' tx' := by
  induction h with
  | here => exact .here _ _
  | look hop hheld _ ih => exact .look (fun t ht => hop t (hsub t ht)) hheld ih

theorem AtWrite.mono {α : Type} {C C' : Service → Prop} {e : Int} {p : Program α} {tx : Transaction}
    (h : AtWrite C e p tx) (hsub : ∀ t, C' t → C t) : AtWrite C' e p tx := by
  cases h with
  | ends h => exact .ends h
  | commits hready hrest => exact .commits (fun t ht => hready t (hsub t ht)) hrest
  | inserts hready hnew hnumber hnext hrest =>
      exact .inserts (fun t ht => hready t (hsub t ht)) hnew (fun t ht => hnumber t (hsub t ht))
        hnext hrest

/-- What happens to other enrollments does not keep a request from its first write. -/
theorem ReachesWrite.of_alike {α : Type} {s s' : Service} {e : Int} {p : Program α}
    {tx : Transaction} (h : ReachesWrite s e p tx) (halike : s.Alike e s') :
    ReachesWrite s' e p tx := by
  obtain ⟨p', tx', hlooks, hwrite⟩ := h
  exact ⟨p', tx', hlooks.mono fun t ht => ht.of_alike halike,
    hwrite.mono fun t ht => ht.of_alike halike⟩

/-! ### To the lock -/

/-- **A request is at the lock of an enrollment**, under which it goes on to its first write.  Or
else it ends without the lock. -/
inductive AtLock {α : Type} (s : Service) : Program α → Transaction → Prop
  | ends {p : Program α} {tx : Transaction} {outcome : Outcome α} (h : p.Ends outcome) :
      AtLock s p tx
  | locks {student course : Int} {enrollment : Enrollment}
      {next : Option Enrollment → Program α}
      (h : s.store.enrollmentOf? student course = some enrollment)
      (hreaches : ∀ t, s.SameSetting t → t.store.Sound →
        ReachesWrite t enrollment.id (next (some enrollment)) ⟨[enrollment.id], Table.empty⟩) :
      AtLock s (.step (.lockEnrollment student course) next) Transaction.fresh

/-- **Coming to the lock of an enrollment by looking**, or to an end without it, in all services
that are set up alike. -/
def ReachesLock {α : Type} (s : Service) (p : Program α) (tx : Transaction) : Prop :=
  ∃ p' tx', Looks s.SameSetting p tx p' tx' ∧ AtLock s p' tx'

theorem ReachesLock.of_looks {α : Type} {s : Service} {p p' : Program α} {tx tx' : Transaction}
    (hlooks : Looks s.SameSetting p tx p' tx') (h : ReachesLock s p' tx') : ReachesLock s p tx := by
  obtain ⟨p'', tx'', hlooks', hlock⟩ := h
  exact ⟨p'', tx'', hlooks.trans hlooks', hlock⟩

/-! ### Starts and submissions -/

section Requests

variable {α : Type} {s : Service} {quiz : Quiz} {enrollment : Enrollment} {tx : Transaction}

/-- A request that comes to its first write under whichever lock it takes comes to the lock. -/
theorem reachesLock_lockAccess {actor : Actor} {lesson : Lesson} {f : Enrollment → Program α}
    (hf : ∀ enrollment t tx, t.store.Sound → tx.staged = Table.empty →
      ReachesWrite t enrollment.id (f enrollment) tx) :
    ReachesLock s (lockAccess actor lesson >>= f) Transaction.fresh := by
  cases henrollment : s.store.enrollmentOf? actor.userId lesson.courseId with
  | none =>
      -- without an enrollment there is no lock to wait for
      have hnone : ∀ t, s.SameSetting t → ∀ others,
          Session.perform others ⟨t, Transaction.fresh⟩
              (.lockEnrollment actor.userId lesson.courseId) =
            some (⟨t, Transaction.fresh⟩, none) := by
        intro t ht others
        simp only [Session.perform, Transaction.lock?, ht.enrollmentOf?, henrollment]
        rfl
      exact ⟨_, _, .once hnone rfl, .ends ⟨rfl, rfl⟩⟩
  | some enrollment =>
      refine ⟨_, _, .here _ _, .locks henrollment fun t _ hsound => ?_⟩
      show ReachesWrite t enrollment.id
        (found ((some enrollment).filter (·.grantsAccess)) .notEnrolled >>= f) _
      cases haccess : enrollment.grantsAccess with
      | true =>
          rw [Option.filter_some, haccess]
          exact hf enrollment t _ hsound rfl
      | false =>
          rw [Option.filter_some, haccess]
          exact ⟨_, _, .here _ _, .ends ⟨rfl, rfl⟩⟩

/-- A start that is about to open the next attempt is at its first write, or ends without one. -/
theorem atWrite_openAfter (hready : ∀ t, s.SameUnderLock enrollment.id t →
      tx.Ready t.store enrollment.id quiz.id)
    {f : Option Attempt → Program α} {reply : Attempt → α}
    (hf : ∀ a, f (some a) = .done (reply a)) :
    AtWrite (s.SameUnderLock enrollment.id) enrollment.id
      (openAfter quiz enrollment s.clock (s.latest enrollment.id quiz.id) >>= f) tx := by
  unfold openAfter
  split
  · -- no attempt is left, but the closing of the overdue one is committed all the same
    exact .commits hready (.ends ⟨rfl, rfl⟩)
  · split
    · refine .inserts hready ⟨rfl, rfl⟩ (fun t ht => ?_) (fun a => rfl) fun a => ?_
      · rw [ht.1.latest]
        show s.latest enrollment.id quiz.id < s.latest enrollment.id quiz.id + 1
        omega
      · refine ⟨[], [], .done (reply a), .ends ?_⟩
        show (f (some a)).Ends _
        rw [hf]
        exact ⟨rfl, rfl⟩
    · exact .ends ⟨rfl, rfl⟩

theorem reachesWrite_startLocked (hs : s.store.Sound) (htx : tx.staged = Table.empty)
    {f : Option Attempt → Program α} {reply : Attempt → α}
    (hf : ∀ a, f (some a) = .done (reply a)) :
    ReachesWrite s enrollment.id (startLocked quiz enrollment >>= f) tx := by
  rcases looks_startLocked hs (fun t ht => ht) htx quiz with
    ⟨a, -, -, hlooks⟩ | ⟨after, -, -, hready, hlooks⟩
  · exact ⟨_, _, hlooks.andRefuse f, .ends ⟨rfl, rfl⟩⟩
  · exact ⟨_, _, hlooks.bind f, atWrite_openAfter hready hf⟩

theorem reachesWrite_submitLocked (hs : s.store.Sound) (htx : tx.staged = Table.empty)
    (attemptId : Int) (answers : List SubmittedAnswer) (actor : Actor)
    {f : AttemptView → Program α} {reply : AttemptView → α}
    (hf : ∀ view, f view = .done (reply view)) :
    ReachesWrite s enrollment.id
      (submitLocked quiz enrollment attemptId answers actor >>= f) tx := by
  rcases looks_submitLocked hs (fun t ht => ht) htx quiz attemptId answers actor with
    ⟨why, hwhy, hlooks⟩ | ⟨a, final, rest, -, -, -, hsettles, hready, hlooks⟩
  · exact ⟨_, _, hlooks.andRefuse f, .ends ⟨rfl, hwhy⟩⟩
  · obtain ⟨lessons, events, outcome, hrest⟩ := hsettles.afterCommit hf
    exact ⟨_, _, hlooks.bind f, .commits hready hrest⟩

/-- **Starts go like this**: to the lock, and under it to the first write. -/
theorem reachesLock_start (s : Service) (quizId : Int) (actor : Actor) :
    ReachesLock s (Request.start quizId actor).program Transaction.fresh := by
  have hprogram : (Request.start quizId actor).program =
      enter quizId actor >>= fun entered =>
        startWithin entered.1 entered.2 actor mostTries >>= fun a => .done (.started a) := by
    simp only [Request.program, startAttempt, Program.bind_assoc]
    rfl
  have hwithin : ∀ quiz lesson, ReachesLock s
      (startWithin quiz lesson actor mostTries >>= fun a => .done (Reply.started a))
      Transaction.fresh := by
    intro quiz lesson
    -- the second try stands behind the writes of the first, which do not fail
    simp only [mostTries, startWithin, tryStart, Program.bind_assoc]
    exact reachesLock_lockAccess fun enrollment t tx hsound htx =>
      reachesWrite_startLocked hsound htx fun a => rfl
  rw [hprogram]
  rcases looks_enter (C := s.SameSetting) (fun t ht => ht) quizId actor Transaction.fresh with
    ⟨why, hwhy, hlooks⟩ | ⟨quiz, lesson, -, hlooks⟩
  · exact ⟨_, _, hlooks.andRefuse _, .ends ⟨rfl, hwhy⟩⟩
  · exact .of_looks (hlooks.bind _) (hwithin quiz lesson)

/-- **Submissions go like this**, too. -/
theorem reachesLock_submit (s : Service) (quizId attemptId : Int) (answers : List SubmittedAnswer)
    (actor : Actor) :
    ReachesLock s (Request.submit quizId attemptId answers actor).program Transaction.fresh := by
  have hprogram : (Request.submit quizId attemptId answers actor).program =
      enter quizId actor >>= fun entered => lockAccess actor entered.2 >>= fun enrollment =>
        submitLocked entered.1 enrollment attemptId answers actor >>= fun view =>
          .done (.view view) := by
    simp only [Request.program, submitAttempt, Program.bind_assoc]
    rfl
  have hlocked : ∀ (quiz : Quiz) (lesson : Lesson), ReachesLock s (lockAccess actor lesson >>=
      fun enrollment => submitLocked quiz enrollment attemptId answers actor >>= fun view =>
        .done (Reply.view view)) Transaction.fresh := by
    intro quiz lesson
    exact reachesLock_lockAccess fun enrollment t tx hsound htx =>
      reachesWrite_submitLocked hsound htx attemptId answers actor fun view => rfl
  rw [hprogram]
  rcases looks_enter (C := s.SameSetting) (fun t ht => ht) quizId actor Transaction.fresh with
    ⟨why, hwhy, hlooks⟩ | ⟨quiz, lesson, -, hlooks⟩
  · exact ⟨_, _, hlooks.andRefuse _, .ends ⟨rfl, hwhy⟩⟩
  · exact .of_looks (hlooks.bind _) (hlocked quiz lesson)

end Requests

end QuizAttempts
