/-
**Whoever listens is told once of what was accepted, and of nothing else.**

A submission that is accepted is announced, and completes the lesson of its quiz if it passes.  The
two that are told may be broken at the time; what they missed they are never told.  So the events
are those of the accepted submissions, in their order and each once, less the missed ones, and the
completed lessons are those of the passed ones, less the missed ones again.  Neither a closing as
overdue, nor a request that fails or is repeated, nor an edit leaves anything in either of them.

That no attempt is announced twice is due to the attempts: whoever had a submission accepted found
the attempt open and left it closed, and closed it stayed.

Main definitions:

* `AcceptedSubmission.event`, `AcceptedSubmission.Completes` — what is told about a submission;
* `SubmissionEvent.Matches` — an event says what the record of its attempt says;
* `Service.HasTold` — **those who listen were told of some submissions, each once**.

Main results:

* `Service.HasTold.advances` — one command tells of what it accepts;
* `Console.told_once_after` — **the events and the completed lessons after every history**.
-/
import QuizAttempts.Proofs.Accepted

set_option autoImplicit false

namespace QuizAttempts

/-! ### What is told about a submission -/

/-- The event by which an accepted submission is announced. -/
def AcceptedSubmission.event (x : AcceptedSubmission) : SubmissionEvent :=
  { attemptId := x.view.id
    quizId := x.view.quizId
    enrollmentId := x.view.enrollmentId
    studentId := x.actor.userId
    percentage := x.view.percentage.getD Binary64.zero
    isPassed := x.view.isPassed.getD false
    submittedAt := x.view.submittedAt.getD x.service.clock }

/-- Announcements were listened to when the submission was accepted. -/
def AcceptedSubmission.isHeard (x : AcceptedSubmission) : Bool := !x.service.eventsBroken

/-- **A submission completes a lesson for an enrollment**: it is one of the enrollment and has
passed, the lesson was the one of its quiz then, and somebody listened. -/
structure AcceptedSubmission.Completes (x : AcceptedSubmission) (enrollment lesson : Int) :
    Prop where
  works : x.service.progressBroken = false
  own : x.view.enrollmentId = enrollment
  passed : x.view.isPassed = some true
  placed : ∃ quiz, x.service.store.quizzes.get? x.quizId = some quiz ∧ quiz.lessonId = lesson

/-- **An event says what the record of its attempt says**, which is graded and was submitted. -/
structure SubmissionEvent.Matches (event : SubmissionEvent) (a : Attempt) : Prop where
  attemptId : event.attemptId = a.id
  quizId : event.quizId = a.quizId
  enrollmentId : event.enrollmentId = a.enrollmentId
  status : a.status = .graded
  percentage : a.percentage = some event.percentage
  isPassed : a.isPassed = some event.isPassed
  submittedAt : a.submittedAt = some event.submittedAt

theorem AcceptedSubmission.Leaves.matches {x : AcceptedSubmission} {b : Attempt}
    (h : x.Leaves b) : x.event.Matches b := by
  obtain ⟨quiz, a, grade, -, rfl, hview⟩ := h
  unfold event
  rw [hview]
  exact ⟨rfl, rfl, rfl, rfl, rfl, rfl, rfl⟩

section Credits

variable {x : AcceptedSubmission} {t : Service} {quiz : Quiz} {a : Attempt} {grade : Grade}

/-- The lesson that a grade completes is the one that its submission completes. -/
theorem Service.Accepts.completes_iff
    (h : x.service.Accepts x.quizId x.attemptId x.answers x.actor quiz a grade)
    (hview : x.view = (a.graded grade x.service.clock).view quiz.showCorrectAnswers) (e l : Int) :
    x.Completes e l ↔ x.service.progressBroken = false ∧ grade.isPassed = true ∧
      (e, l) = (a.enrollmentId, quiz.lessonId) := by
  have hown : x.view.enrollmentId = a.enrollmentId := by rw [hview]; rfl
  have hpassed : x.view.isPassed = some grade.isPassed := by rw [hview]; rfl
  obtain ⟨stored, hstored, rfl⟩ := Option.map_eq_some_iff.1 h.stored
  constructor
  · intro hcompletes
    obtain ⟨found, hfound, hlesson⟩ := hcompletes.placed
    obtain rfl : stored = found := Option.some.inj (hstored.symm.trans hfound)
    refine ⟨hcompletes.works, Option.some.inj (hpassed.symm.trans hcompletes.passed), ?_⟩
    rw [← hcompletes.own, hown, ← hlesson]
    rfl
  · rintro ⟨hworks, hgrade, hpair⟩
    obtain ⟨rfl, rfl⟩ := Prod.mk.inj hpair
    exact ⟨hworks, hown, hgrade ▸ hpassed, stored, hstored, rfl⟩

/-- Grading an attempt completes the lesson that its submission completes, and no other. -/
theorem Service.Credits.mem_completed (h : x.service.Credits t quiz a grade x.actor)
    (haccepts : x.service.Accepts x.quizId x.attemptId x.answers x.actor quiz a grade)
    (hview : x.view = (a.graded grade x.service.clock).view quiz.showCorrectAnswers) (e l : Int) :
    (e, l) ∈ t.store.completed ↔ (e, l) ∈ x.service.store.completed ∨ x.Completes e l := by
  rw [h.completed, haccepts.completes_iff hview]
  cases x.service.progressBroken <;> cases grade.isPassed <;> simp [or_comm]

/-- Grading an attempt announces its submission, and nothing else. -/
theorem Service.Credits.events_eq (h : x.service.Credits t quiz a grade x.actor)
    (hview : x.view = (a.graded grade x.service.clock).view quiz.showCorrectAnswers) :
    t.events = x.service.events ++ ([x].filter (·.isHeard)).map (·.event) := by
  have hevent : a.submissionEvent grade x.service.clock x.actor = x.event := by
    unfold AcceptedSubmission.event
    rw [hview]
    rfl
  rw [h.events, hevent]
  cases hbroken : x.service.eventsBroken <;> simp [AcceptedSubmission.isHeard, hbroken]

end Credits

/-! ### One command -/

/-- **Those who listen were told of some submissions, each once**: every one of these left an
attempt of its own, which is still as it was left. -/
structure Service.HasTold (s : Service) (past : List AcceptedSubmission) : Prop where
  left : ∀ x ∈ past, ∃ b, s.store.attempts.get? x.attemptId = some b ∧ x.Leaves b
  distinct : (past.map (·.attemptId)).Nodup
  events : s.events = (past.filter (·.isHeard)).map (·.event)
  completed : ∀ e l, (e, l) ∈ s.store.completed ↔ ∃ x ∈ past, x.Completes e l

section Step

variable {s t : Service} {accepted : Option AcceptedSubmission} {past : List AcceptedSubmission}

/-- Nothing is told when nothing is accepted. -/
theorem Service.Advances.quiet (h : s.Advances t none) :
    t.events = s.events ∧ t.store.completed = s.store.completed := by
  cases h with
  | same hrecords => exact ⟨hrecords.events, hrecords.completed⟩
  | closed _ hrows => exact ⟨hrows.events, hrows.completed⟩
  | opened _ hrows => exact ⟨hrows.events, hrows.completed⟩

/-- **No submission is accepted for an attempt for which one was accepted before**: that one left
the attempt closed. -/
theorem Service.HasTold.not_mem (h : s.HasTold past) {quizId attemptId : Int}
    {answers : List SubmittedAnswer} {actor : Actor} {quiz : Quiz} {a : Attempt} {grade : Grade}
    (haccepts : s.Accepts quizId attemptId answers actor quiz a grade) :
    attemptId ∉ past.map (·.attemptId) := by
  intro hmem
  obtain ⟨x, hx, hid⟩ := List.mem_map.1 hmem
  obtain ⟨b, hb, hleaves⟩ := h.left x hx
  have hrow := haccepts.own.row
  have hopen := haccepts.own.isOpen
  rw [haccepts.id, ← hid, hb] at hrow
  rw [← Option.some.inj hrow, hleaves.isOpen] at hopen
  simp at hopen

/-- **One command tells of what it accepts**, once, and of nothing else. -/
theorem Service.HasTold.advances (h : s.HasTold past) (hadvances : s.Advances t accepted)
    (hs : s.store.Sound) : t.HasTold (past ++ accepted.toList) := by
  have hleft : ∀ x ∈ past ++ accepted.toList, x.IsKept t := hadvances.isKept hs h.left
  cases accepted with
  | none =>
      obtain ⟨hevents, hcompleted⟩ := hadvances.quiet
      rw [Option.toList_none, List.append_nil] at hleft ⊢
      exact ⟨hleft, h.distinct, hevents.trans h.events, fun e l => by rw [hcompleted, h.completed]⟩
  | some x =>
      cases hadvances with
      | @graded _ quiz a grade hservice haccepts hview hcredits =>
          obtain rfl := hservice
          rw [Option.toList_some] at hleft ⊢
          refine ⟨hleft, ?_, ?_, ?_⟩
          · rw [List.map_append, List.map_singleton, ← List.concat_eq_append, List.nodup_concat]
            exact ⟨h.not_mem haccepts, h.distinct⟩
          · rw [hcredits.events_eq hview, List.filter_append, List.map_append, ← h.events]
          · intro e l
            rw [hcredits.mem_completed haccepts hview, h.completed]
            simp only [List.mem_append, List.mem_singleton, or_and_right, exists_or, exists_eq_left]

/-- The attempts that are announced are those of the submissions that were heard of. -/
theorem Service.HasTold.map_attemptId (h : s.HasTold past) :
    s.events.map (·.attemptId) = (past.filter (·.isHeard)).map (·.attemptId) := by
  rw [h.events, List.map_map]
  refine List.map_congr_left fun x hx => ?_
  obtain ⟨b, -, hleaves⟩ := h.left x (List.mem_of_mem_filter hx)
  exact hleaves.matches.attemptId.trans hleaves.id

/-- No attempt is announced twice. -/
theorem Service.HasTold.nodup_events (h : s.HasTold past) :
    (s.events.map (·.attemptId)).Nodup := by
  rw [h.map_attemptId]
  exact h.distinct.sublist ((List.filter_sublist).map _)

/-- What is announced is what the record says of an attempt that an accepted submission left. -/
theorem Service.HasTold.event_cases (h : s.HasTold past) {event : SubmissionEvent}
    (hevent : event ∈ s.events) : ∃ x ∈ past, ∃ a, x.service.eventsBroken = false ∧
      event.attemptId = x.attemptId ∧ event.studentId = x.actor.userId ∧
      s.store.attempts.get? event.attemptId = some a ∧ event.Matches a := by
  rw [h.events] at hevent
  obtain ⟨x, hx, rfl⟩ := List.mem_map.1 hevent
  obtain ⟨hpast, hheard⟩ := List.mem_filter.1 hx
  obtain ⟨b, hb, hleaves⟩ := h.left x hpast
  have hid : x.event.attemptId = x.attemptId := hleaves.matches.attemptId.trans hleaves.id
  exact ⟨x, hpast, b, by simpa [AcceptedSubmission.isHeard] using hheard, hid, rfl, hid ▸ hb,
    hleaves.matches⟩

end Step

namespace Console

/-! ### Histories -/

/-- **The events and the completed lessons after every history** of requests and edits that begins
with none of them and without attempts.  No attempt is announced twice.  Each event is the one of a
submission that was accepted, and says what the record of its attempt says; so nothing that ran out
of time is announced.  Each submission that was accepted while somebody listened is announced once.
And the completed lessons are those of the submissions that passed while somebody listened. -/
theorem told_once_after {start : Service} (hrows : start.store.attempts = Table.empty)
    (hfiled : start.store.Filed) (hevents : start.events = [])
    (hcompleted : start.store.completed = Progress.empty) (commands : List Command)
    (hmanaged : ∀ command ∈ commands, command.isManaged = true) :
    let final := ((ofService start).after commands).service
    let accepted := (ofService start).acceptedIn commands
    (final.events.map (·.attemptId)).Nodup ∧ (accepted.map (·.attemptId)).Nodup ∧
    (∀ event ∈ final.events, ∃ x ∈ accepted, ∃ a, x.service.eventsBroken = false ∧
      event.attemptId = x.attemptId ∧ event.studentId = x.actor.userId ∧
      final.store.attempts.get? event.attemptId = some a ∧ event.Matches a) ∧
    (∀ id a, final.store.attempts.get? id = some a → a.submittedAt = none →
      ∀ event ∈ final.events, event.attemptId ≠ id) ∧
    (∀ x ∈ accepted, x.service.eventsBroken = false →
      (final.events.map (·.attemptId)).count x.attemptId = 1) ∧
    ∀ e l, (e, l) ∈ final.store.completed ↔ ∃ x ∈ accepted, x.Completes e l := by
  have hbegins : start.HasTold [] :=
    ⟨fun x hx => by simp at hx, List.nodup_nil, hevents, fun e l => by simp [hcompleted]⟩
  have htold := ((AtRest.of_empty hrows hfiled).after_advances (fun _ => True)
    (fun past s => s.HasTold past) (fun hs _ _ hadvances hpast => hpast.advances hadvances hs)
    [] hbegins hmanaged fun _ _ => trivial).2
  rw [List.nil_append] at htold
  refine ⟨htold.nodup_events, htold.distinct, ?_, ?_, ?_, htold.completed⟩
  · intro event hevent
    exact htold.event_cases hevent
  · intro id a ha hnever event hevent hid
    obtain ⟨x, -, b, -, -, -, hb, hmatches⟩ := htold.event_cases hevent
    rw [hid, ha] at hb
    rw [Option.some.inj hb, hmatches.submittedAt] at hnever
    simp at hnever
  · intro x hx hworks
    refine List.count_eq_one_of_mem htold.nodup_events ?_
    rw [htold.map_attemptId]
    refine List.mem_map_of_mem (List.mem_filter.2 ⟨hx, ?_⟩)
    simp [AcceptedSubmission.isHeard, hworks]

/-- A student has a submission accepted and sends it again, has another one accepted while nobody
hears announcements, and runs out of time with a third attempt. -/
def mostlyHeard : List Command :=
  examination (some 1) ++
    [.request (.start 1 learner), .request (.submit 1 1 [⟨1, some "a", none⟩] learner),
      .request (.submit 1 1 [⟨1, some "a", none⟩] learner), .adjust none none (some true),
      .request (.start 1 learner), .request (.submit 1 2 [⟨1, some "b", none⟩] learner),
      .adjust none none (some false), .request (.start 1 learner), .advance 60000000001,
      .request (.list 1 learner)]

/-- Of the two submissions that were accepted one was heard of, and that one has completed the
lesson.
-/
theorem told_once_after_mostlyHeard :
    Service.blank.store.attempts = Table.empty ∧ Service.blank.store.Filed ∧
      Service.blank.events = [] ∧ Service.blank.store.completed = Progress.empty ∧
      (∀ command ∈ mostlyHeard, command.isManaged = true) ∧
      let final := ((ofService Service.blank).after mostlyHeard).service
      let accepted := (ofService Service.blank).acceptedIn mostlyHeard
      accepted.map (fun x => (x.attemptId, x.service.eventsBroken)) = [(1, false), (2, true)] ∧
      (final.events.map (·.attemptId)).count 1 = 1 ∧ ∃ x ∈ accepted, x.Completes 1 1 := by
  have hfiled := Service.filed_blank
  have hmanaged : ∀ command ∈ mostlyHeard, command.isManaged = true := by decide +kernel
  have haccepted : ((ofService Service.blank).acceptedIn mostlyHeard).map
      (fun x => (x.attemptId, x.service.eventsBroken)) = [(1, false), (2, true)] := by
    decide +kernel
  have hdone : (1, 1) ∈
      ((ofService Service.blank).after mostlyHeard).service.store.completed.pairs := by
    decide +kernel
  obtain ⟨-, -, -, -, hheard, hcompleted⟩ := told_once_after rfl hfiled rfl rfl mostlyHeard hmanaged
  have hfirst : (1, false) ∈ ((ofService Service.blank).acceptedIn mostlyHeard).map
      (fun x => (x.attemptId, x.service.eventsBroken)) := by simp [haccepted]
  obtain ⟨x, hx, hpair⟩ := List.mem_map.1 hfirst
  obtain ⟨hid, hworks⟩ := Prod.mk.inj hpair
  exact ⟨rfl, hfiled, rfl, rfl, hmanaged, haccepted, hid ▸ hheard x hx hworks,
    (hcompleted 1 1).1 (Progress.mem_pairs.1 hdone)⟩

end Console

end QuizAttempts
