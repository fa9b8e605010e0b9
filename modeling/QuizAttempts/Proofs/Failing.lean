/-
**What a request that fails leaves behind.**

A request that fails leaves everything as it was, with one exception that is meant: an attempt of
the caller that was found to be overdue is closed all the same when the request is refused for a
reason that was looked at after it.  There are three such refusals.  That somebody else was first is
none of them: the closing is dropped with everything else then, for it was decided on what is not so
any more.

Main definitions:

* `Request.FailsAfterClosing` — **the refusals that leave a closed attempt behind**.

Main results:

* `Service.unchanged_of_failed` — what every other failure leaves, and what these do.
-/
import QuizAttempts.Proofs.Numbering

set_option autoImplicit false

namespace QuizAttempts

/-- **The reports of those refusals that may leave a closed attempt behind.** -/
inductive Request.FailsAfterClosing : Request → Report → Prop
  | start (quiz : Int) (actor : Actor) :
      FailsAfterClosing (.start quiz actor) ⟨.forbidden, "Maximum attempts reached"⟩
  | submit (quiz attempt : Int) (answers : List SubmittedAnswer) (actor : Actor) :
      FailsAfterClosing (.submit quiz attempt answers actor) ⟨.forbidden, "Time limit exceeded"⟩
  | get (quiz attempt : Int) (actor : Actor) :
      FailsAfterClosing (.get quiz attempt actor) ⟨.missing, "Attempt not found"⟩

/-- What fails after a closing is refused for one of the three reasons. -/
theorem Request.Outlasts.failsAfterClosing {request : Request} {outcome : Outcome Reply}
    (h : request.Outlasts outcome) (hfails : outcome.result? = none) :
    ∃ why, outcome = .refused why ∧ request.FailsAfterClosing why.report := by
  cases h with
  | exhausted quiz actor => exact ⟨.exhausted, rfl, .start quiz actor⟩
  | tooLate quiz attempt answers actor => exact ⟨.tooLate, rfl, .submit quiz attempt answers actor⟩
  | noAttempt quiz attempt actor => exact ⟨.noAttempt, rfl, .get quiz attempt actor⟩
  | shown => simp [Outcome.result?] at hfails
  | listed => simp [Outcome.result?] at hfails

/-- None of the three tells of somebody else who was first. -/
theorem Request.FailsAfterClosing.kind_ne {request : Request} {report : Report}
    (h : request.FailsAfterClosing report) : report.kind ≠ .collision := by
  cases h <;> simp

/-- **What a failure leaves**: everything but the attempts as it was, and these too, unless it is
one of the three. -/
theorem Service.ComesTo.of_failed {s t : Service} {request : Request} {outcome : Outcome Reply}
    (h : s.ComesTo request outcome t) (hfails : outcome.result? = none) :
    s.SameSetting t ∧ t.store.completed = s.store.completed ∧ t.events = s.events ∧
      (t.store.attempts = s.store.attempts ∨
        ∃ why a, outcome = .refused why ∧ request.FailsAfterClosing why.report ∧
          s.OwnOverdue request.quizId request.actor a ∧
          t.store.attempts = s.store.attempts.insert a.id (a.expired s.clock)) := by
  cases h with
  | idle hsetting hrecords =>
      exact ⟨hsetting, hrecords.completed, hrecords.events, Or.inl hrecords.attempts⟩
  | @closed _ _ _ a hown hends hrows =>
      obtain ⟨why, hrefused, hlate⟩ := hends.failsAfterClosing hfails
      exact ⟨hrows.setting, hrows.completed, hrows.events,
        Or.inr ⟨why, a, hrefused, hlate, hown, hrows.attempts⟩⟩
  | _ => simp [Outcome.result?] at hfails

/-- **A request that fails** on a service that requests and edits have reached leaves the quizzes,
the lessons, the enrollments, the completed lessons and the events as they were.  It leaves the
attempts as they were too, or it is refused for one of three reasons and has closed one attempt,
which was in progress and overdue and is the caller's own at the quiz.  A start that is refused
because somebody else was first leaves an overdue attempt in progress. -/
theorem Service.unchanged_of_failed {service : Service} (hmanaged : service.Managed)
    {request : Request} (hfails : (service.run [] request.program).2.result? = none) :
    let outcome := (service.run [] request.program).2
    let after := (service.run [] request.program).1
    after.store.quizzes = service.store.quizzes ∧
    after.store.lessons = service.store.lessons ∧
    after.store.enrollments = service.store.enrollments ∧
    after.store.completed = service.store.completed ∧
    after.events = service.events ∧
    (after.store.attempts = service.store.attempts ∨
      ∃ why a, outcome = .refused why ∧ request.FailsAfterClosing why.report ∧
        service.OwnOverdue request.quizId request.actor a ∧ a.quizId = request.quizId ∧
        after.store.attempts = service.store.attempts.insert a.id
          { a with
            status := .graded
            gradedAt := some service.clock
            score := some Binary64.zero
            percentage := some Binary64.zero
            isPassed := some false
            timeTaken := some (service.clock.secondsSince a.startedAt) }) ∧
    ∀ quizId actor why, request = .start quizId actor → outcome = .refused why →
      why.report.kind = .collision → ∀ a, service.OwnOverdue quizId actor a →
        after.store.attempts.get? a.id = some a ∧ a.status = .inProgress := by
  intro outcome after
  obtain ⟨hsound, hfiled⟩ := Console.AtRest.of_managed hmanaged
  obtain ⟨hsetting, hcompleted, hevents, hattempts⟩ :=
    (Service.run_comesTo hsound hfiled request).of_failed hfails
  refine ⟨hsetting.quizzes, hsetting.lessons, hsetting.enrollments, hcompleted, hevents, ?_, ?_⟩
  · rcases hattempts with hsame | ⟨why, a, hrefused, hlate, hown, hclosed⟩
    · exact Or.inl hsame
    · exact Or.inr ⟨why, a, hrefused, hlate, hown, hown.quizId_eq hfiled, hclosed⟩
  · intro quizId actor why _ hrefused hkind a hown
    obtain ⟨quiz, -, hopen, -⟩ := hown
    have hsame : after.store.attempts = service.store.attempts := by
      rcases hattempts with hsame | ⟨why', b, hrefused', hlate, -⟩
      · exact hsame
      · obtain rfl : why' = why := Outcome.refused.inj (hrefused'.symm.trans hrefused)
        exact absurd hkind hlate.kind_ne
    rw [hsame]
    exact ⟨hopen.row, by simpa [Attempt.isOpen] using hopen.isOpen⟩

/-- A student starts an attempt, and the time runs out. -/
def overrun : List Command :=
  examination (some 1) ++ [.request (.start 1 learner), .advance 60000000001]

/-- The submission that comes a nanosecond late fails, and closes the attempt. -/
theorem Service.unchanged_of_failed_overrun :
    let service := ((Console.ofService Service.blank).after overrun).service
    let request := Request.submit 1 1 [⟨1, some "a", none⟩] learner
    let after := (service.run [] request.program).1
    service.Managed ∧ (service.run [] request.program).2 = .refused .tooLate ∧
      (service.run [] request.program).2.result? = none ∧
      after.store.completed = service.store.completed ∧ after.events = service.events ∧
      ∃ a, service.OwnOverdue 1 learner a ∧ after.store.attempts.get? a.id =
        some (a.expired service.clock) := by
  intro service request after
  have hmanaged : service.Managed := ⟨Service.blank, overrun, rfl, by decide +kernel, rfl⟩
  have hrefused : (service.run [] request.program).2 = .refused .tooLate := by decide +kernel
  have hfails : (service.run [] request.program).2.result? = none := by rw [hrefused]; rfl
  have hchanged : after.store.attempts ≠ service.store.attempts := by decide +kernel
  obtain ⟨-, -, -, hcompleted, hevents, hattempts, -⟩ :=
    Service.unchanged_of_failed hmanaged hfails
  rcases hattempts with hsame | ⟨why, a, -, -, hown, -, hclosed⟩
  · exact absurd hsame hchanged
  · refine ⟨hmanaged, hrefused, hfails, hcompleted, hevents, a, hown, ?_⟩
    have hrow := congrArg (·.get? a.id) hclosed
    rwa [Table.get?_insert_self] at hrow

end QuizAttempts
