/-
**The gate of publication.**

A quiz that is put in as a draft can be published through one request only, and that looks at the
questions first.  As long as every quiz comes in as a draft and nobody marks one as published by
hand, every published quiz in the store can be graded as it stands: an edit puts a draft in its
place, which has to be published again.  So the check that grading repeats never fails, and with it
the only refusal goes that could have told of a fault when an attempt is started or submitted.

The request reads the questions in their places and the store keeps them in another order; the check
comes to the same, for it asks for every question by itself.

Main definitions:

* `Command.isGated` — drafts are put in, and nothing is published by hand;
* `Store.Gated` — **every published quiz can be graded**;
* `Store.MayPublish` — what publishing a quiz takes;
* `Outcome.Faultless` — an outcome that tells of no fault.

Main results:

* `Quiz.checkPublishable_eq_ok`, `Quiz.grade_of_checked` — what is checked, and that it is enough;
* `gradeEach_eq_ok`, `Quiz.grade_eq` — the grade question by question;
* `Console.run_gated` — **every command keeps the gate**;
* `Service.run_faultless` — starts and submissions tell of no fault behind it;
* `Service.run_publish_draft` — **what publishing a draft takes, and what it does**;
* `Console.gated_after` — all of it after every history.
-/
import QuizAttempts.Proofs.Endings
import QuizAttempts.Proofs.Operations
import QuizAttempts.Proofs.Uniqueness

set_option autoImplicit false

namespace QuizAttempts

/-! ### What is checked -/

theorem Question.check_eq_ok {q : Question} :
    q.check = .ok () ↔ isPoints q.points = true ∧ q.kind.check = .ok () := by
  rw [Question.check]
  cases isPoints q.points <;> simp

theorem checkQuestions_eq_ok {questions : List Question} :
    checkQuestions questions = .ok () ↔ ∀ q ∈ questions, q.check = .ok () := by
  induction questions with
  | nil => simp [checkQuestions]
  | cons q questions ih =>
      rw [checkQuestions, List.forall_mem_cons, ← ih]
      cases q.check <;> simp

/-- **A quiz can be published** when it has questions and every one of them can be graded, and its
passing score is a percentage. -/
theorem Quiz.checkPublishable_eq_ok {quiz : Quiz} :
    quiz.checkPublishable = .ok () ↔ quiz.questions ≠ [] ∧ isPassingScore quiz.passingScore = true ∧
      ∀ q ∈ quiz.questions, q.check = .ok () := by
  rw [checkPublishable, ← checkQuestions_eq_ok, Ne, ← List.isEmpty_iff]
  cases quiz.questions.isEmpty <;> cases isPassingScore quiz.passingScore <;> simp

/-- The order of the questions does not matter. -/
theorem Quiz.checkPublishable_sorted {quiz : Quiz} :
    quiz.sorted.checkPublishable = .ok () ↔ quiz.checkPublishable = .ok () := by
  have hperm : quiz.sorted.questions.Perm quiz.questions := inPlace_perm _ _
  rw [checkPublishable_eq_ok, checkPublishable_eq_ok, Ne, Ne,
    ← List.isEmpty_iff, ← List.isEmpty_iff, hperm.isEmpty_eq]
  simp only [hperm.mem_iff]
  exact Iff.rfl

/-- **Questions are graded one by one**, if all of them can be. -/
theorem gradeEach_eq_ok {index : AnswerIndex} {questions : List Question}
    {records : List AnswerRecord} :
    gradeEach index questions = .ok records ↔ (∀ q ∈ questions, q.check = .ok ()) ∧
      records = questions.map fun q => q.record (index.get? q.id) := by
  induction questions generalizing records with
  | nil => simp [gradeEach, eq_comm]
  | cons q questions ih =>
      rw [gradeEach, Question.grade, List.forall_mem_cons, List.map_cons]
      cases hcheck : q.check with
      | error flaw => simp
      | ok =>
          cases hrest : gradeEach index questions with
          | error question =>
              constructor
              · intro h
                simp [Except.map] at h
              · rintro ⟨⟨-, hall⟩, -⟩
                have hok := ih.2 ⟨hall, rfl⟩
                simp [hrest] at hok
          | ok rest =>
              obtain ⟨hall, rfl⟩ := ih.1 hrest
              constructor
              · intro h
                exact ⟨⟨rfl, hall⟩, (Except.ok.inj h).symm⟩
              · rintro ⟨-, rfl⟩
                rfl

/-- **The grade of a quiz whose questions can be graded.** -/
theorem Quiz.grade_eq {quiz : Quiz} (hquestions : ∀ q ∈ quiz.questions, q.check = .ok ())
    (index : AnswerIndex) :
    quiz.grade index = .ok (quiz.gradeOf (quiz.sorted.questions.map fun q =>
      q.record (index.get? q.id))) := by
  have hplaced : ∀ q ∈ quiz.sorted.questions, q.check = .ok () := by
    intro q hq
    exact hquestions q (mem_inPlace.1 hq)
  have hgraded : gradeEach index quiz.sorted.questions =
      .ok (quiz.sorted.questions.map fun q => q.record (index.get? q.id)) :=
    gradeEach_eq_ok.2 ⟨hplaced, rfl⟩
  unfold Quiz.grade
  rw [show inPlace Question.place quiz.questions = quiz.sorted.questions from rfl, hgraded]
  rfl

/-- **What could be published can be graded**, whatever was answered. -/
theorem Quiz.grade_of_checked {quiz : Quiz} (h : quiz.checkPublishable = .ok ())
    (index : AnswerIndex) : ∃ grade, quiz.grade index = .ok grade := by
  obtain ⟨-, -, hquestions⟩ := checkPublishable_eq_ok.1 h
  exact ⟨_, Quiz.grade_eq hquestions index⟩

/-! ### The gate -/

/-- Quizzes are put in as drafts only, and none is marked as published by hand. -/
def Command.isGated : Command → Bool
  | .putQuiz quiz => !quiz.isPublished
  | .publish _ => false
  | _ => true

/-- **Every published quiz could be published as it stands.** -/
def Store.Gated (store : Store) : Prop :=
  ∀ (id : Int) (quiz : Quiz), store.quizzes.get? id = some quiz → quiz.isPublished = true →
    quiz.checkPublishable = .ok ()

theorem Store.Gated.of_eq {before after : Store} (h : before.Gated)
    (heq : after.quizzes = before.quizzes) : after.Gated := by
  intro id quiz hquiz
  exact h id quiz (heq ▸ hquiz)

theorem Store.Gated.insert {before after : Store} (h : before.Gated) {id : Int} {quiz : Quiz}
    (heq : after.quizzes = before.quizzes.insert id quiz)
    (hquiz : quiz.isPublished = true → quiz.checkPublishable = .ok ()) : after.Gated := by
  intro other stored hstored hpublished
  rw [heq, Table.get?_insert] at hstored
  split at hstored
  · obtain rfl := Option.some.inj hstored
    exact hquiz hpublished
  · exact h other stored hstored hpublished

/-- **What publishing a quiz takes**: it is there and so is its lesson, the caller manages the
course, and every question can be graded. -/
structure Store.MayPublish (store : Store) (quizId : Int) (actor : Actor) (quiz : Quiz) : Prop where
  stored : store.quizzes.get? quizId = some quiz
  managed : ∃ lesson, store.lesson? quiz.lessonId = some lesson ∧
    actor.manages lesson.instructorId = true
  checked : quiz.checkPublishable = .ok ()

/-- **Publishing a draft**: it takes what it takes, and then nothing changes but that quiz in the
store; or it is refused and nothing changes. -/
theorem Service.run_publish_draft {s : Service} {quizId : Int}
    (hdraft : ∀ quiz, s.store.quizzes.get? quizId = some quiz → quiz.isPublished = false)
    (others : List Int) (actor : Actor) :
    (∃ quiz, s.store.MayPublish quizId actor quiz ∧
      s.run others (Request.publish quizId actor).program =
        (s.flipped quizId quiz, .done (.published quizId))) ∨
    (∀ quiz, ¬ s.store.MayPublish quizId actor quiz) ∧
      ∃ why, s.run others (Request.publish quizId actor).program = (s, .refused why) := by
  rw [run_publish]
  cases hpublication : s.store.publication quizId actor with
  | error why =>
      refine Or.inr ⟨fun quiz hmay => ?_, why, rfl⟩
      have hok : s.store.publication quizId actor = .ok quiz.sorted := by
        rw [s.store.publication_eq_ok, Store.quiz?, hmay.stored]
        exact ⟨rfl, hmay.managed⟩
      simp [hpublication] at hok
  | ok quiz =>
      obtain ⟨hquiz, hmanaged⟩ := s.store.publication_eq_ok.1 hpublication
      obtain ⟨stored, hstored, rfl⟩ := Option.map_eq_some_iff.1 hquiz
      have hunpublished : stored.sorted.isPublished = false := hdraft stored hstored
      simp only [unlessRefused_ok, decidePublish, hunpublished, Bool.false_eq_true, if_false,
        hstored]
      cases hchecked : stored.sorted.checkPublishable with
      | ok =>
          exact Or.inl ⟨stored, ⟨hstored, hmanaged, Quiz.checkPublishable_sorted.1 hchecked⟩, rfl⟩
      | error flaw =>
          refine Or.inr ⟨fun quiz hmay => ?_, _, rfl⟩
          obtain rfl : stored = quiz := Option.some.inj (hstored.symm.trans hmay.stored)
          rw [Quiz.checkPublishable_sorted.2 hmay.checked] at hchecked
          simp at hchecked

/-- **Requests keep the gate**, whoever else is at work. -/
theorem Service.run_gated {s : Service} (h : s.store.Gated) (others : List Int)
    (request : Request) : (s.run others request.program).1.store.Gated := by
  cases request with
  | take quizId actor shuffle =>
      rw [run_take]
      cases s.store.sight quizId actor with
      | error why => exact h
      | ok quiz => exact h.of_eq (congrArg Store.quizzes (s.store_keeping quizId quiz))
  | publish quizId actor =>
      rcases s.run_publish_cases others quizId actor with heq | ⟨stored, -, -, hchecked, heq⟩
      · rw [heq]
        exact h
      · rw [heq]
        exact h.insert rfl fun _ => Quiz.checkPublishable_sorted.1 hchecked
  | _ => exact h.of_eq (run_sameOffer rfl s others).quizzes

/-- **Every command keeps the gate.** -/
theorem Console.run_gated {console : Console} (h : console.service.store.Gated) {command : Command}
    (hgated : command.isGated = true) : (console.run command).1.service.store.Gated := by
  cases hrequest : command.request? with
  | some request =>
      rw [run_request hrequest]
      exact Service.run_gated h console.locked request
  | none =>
      cases command with
      | putQuiz quiz =>
          refine h.insert rfl fun hpublished => ?_
          simp [Command.isGated, hpublished] at hgated
      | publish quiz => simp [Command.isGated] at hgated
      | putLesson lesson | putEnrollment enrollment => exact h
      | _ => exact h.of_eq (run_sameOffer hrequest rfl).quizzes

/-! ### Faults -/

/-- What was decided is no fault. -/
def Faultless {α : Type} (x : Except Refusal α) : Prop := ∀ why, x = .error why → why.kind ≠ .fault

theorem Faultless.demand {condition : Bool} {why : Refusal} (h : why.kind ≠ .fault) :
    Faultless (demand condition why) := by
  cases condition with
  | true => exact fun _ heq => by simp [QuizAttempts.demand] at heq
  | false => exact fun _ heq => Except.error.inj heq ▸ h

theorem Faultless.demandSome {α : Type} {a : Option α} {why : Refusal} (h : why.kind ≠ .fault) :
    Faultless (demandSome a why) := by
  cases a with
  | some a => exact fun _ heq => by simp [QuizAttempts.demandSome] at heq
  | none => exact fun _ heq => Except.error.inj heq ▸ h

theorem Faultless.bind {α β : Type} {x : Except Refusal α} {f : α → Except Refusal β}
    (hx : Faultless x) (hf : ∀ a, Faultless (f a)) : Faultless (x >>= f) := by
  cases x with
  | ok a => exact hf a
  | error why => exact fun _ heq => Except.error.inj heq ▸ hx why rfl

theorem Faultless.pure {α : Type} (a : α) : Faultless (pure a) := fun _ heq => by
  simp [Pure.pure, Except.pure] at heq

/-- Who is not admitted is not told of a fault. -/
theorem Store.faultless_admission (store : Store) (quizId : Int) (actor : Actor) :
    Faultless (store.admission quizId actor) := by
  refine .bind ?_ fun entered => (Faultless.demandSome (by decide)).bind fun _ => .pure _
  refine (Faultless.demand (by decide)).bind fun _ => ?_
  refine (Faultless.demandSome (by decide)).bind fun quiz => ?_
  refine (Faultless.demand (by decide)).bind fun _ => ?_
  exact (Faultless.demandSome (by decide)).bind fun _ => .pure _

/-- **The outcome tells of no fault.** -/
def Outcome.Faultless {α : Type} (outcome : Outcome α) : Prop :=
  ∀ why, outcome = .refused why → why.kind ≠ .fault

theorem Outcome.Faultless.refused {α : Type} {why : Refusal} (h : why.kind ≠ .fault) :
    (Outcome.refused why : Outcome α).Faultless := fun _ heq => Outcome.refused.inj heq ▸ h

theorem Outcome.Faultless.of_result {α : Type} {outcome : Outcome α}
    (h : ∀ why, outcome ≠ .refused why) : outcome.Faultless := fun why heq => absurd heq (h why)

theorem Service.faultless_decideStart (s : Service) (quiz : Quiz) (enrollment : Enrollment)
    (tries : Nat) : (s.decideStart quiz enrollment tries).2.Faultless := by
  unfold decideStart
  split
  · exact .refused (by decide)
  · split
    · exact .refused (by decide)
    · split
      · split
        · exact .of_result fun _ => by simp
        · exact .refused (by decide)
      · exact .of_result fun _ => by simp

/-- A submission to a quiz that can be graded tells of no fault. -/
theorem Service.faultless_decideSubmit (s : Service) {quiz : Quiz}
    (hchecked : quiz.checkPublishable = .ok ()) (enrollment : Enrollment) (attemptId : Int)
    (answers : List SubmittedAnswer) (actor : Actor) :
    (s.decideSubmit quiz enrollment attemptId answers actor).2.Faultless := by
  unfold decideSubmit
  split
  · exact .refused (by decide)
  · split
    · unfold decideGrading
      split
      · exact .refused (by simp [Refusal.kind])
      · rename_i index _
        split
        · exact .refused (by decide)
        · obtain ⟨grade, hgrade⟩ := Quiz.grade_of_checked hchecked index
          rw [hgrade]
          exact .of_result fun _ => by simp
    · exact .refused (by decide)

/-- **Starts and submissions tell of no fault** behind the gate, whoever else is at work. -/
theorem Service.run_faultless {s : Service} (hs : s.store.Sound) (hgated : s.store.Gated)
    {request : Request} (hwriting : request.isWriting = true) (others : List Int) :
    (s.run others request.program).2.Faultless := by
  by_cases hblocked : (s.run others request.program).2 = .blocked
  · rw [hblocked]
    exact .of_result fun _ => by simp
  · rw [run_of_not_blocked s others _ hblocked]
    cases request with
    | start quizId actor =>
        rw [run_start hs]
        cases hadmitted : s.store.admission quizId actor with
        | error why => exact .refused (s.store.faultless_admission quizId actor why hadmitted)
        | ok admitted => exact s.faultless_decideStart admitted.1 admitted.2 mostTries
    | submit quizId attemptId answers actor =>
        rw [run_submit hs]
        cases hadmitted : s.store.admission quizId actor with
        | error why => exact .refused (s.store.faultless_admission quizId actor why hadmitted)
        | ok admitted =>
            obtain ⟨lesson, henters, -⟩ := s.store.admission_eq_ok.1 hadmitted
            obtain ⟨stored, hstored, hsorted⟩ := Option.map_eq_some_iff.1 henters.stored
            have hpublished : stored.isPublished = true := by
              have := henters.published
              rwa [← hsorted] at this
            have hchecked : admitted.1.checkPublishable = .ok () := by
              rw [← hsorted, Quiz.checkPublishable_sorted]
              exact hgated quizId stored hstored hpublished
            exact s.faultless_decideSubmit hchecked admitted.2 attemptId answers actor
    | take | list | get | publish => simp [Request.isWriting] at hwriting

/-! ### Every history -/

namespace Console

/-- **The gate after every history** of requests, edits and transactions that begins without
published quizzes, puts in drafts only and marks none as published by hand.

Every published quiz in the store can be published as it stands, in the order in which it is stored
and in the order of places.  No start and no submission, whoever makes it, is refused because of a
fault.  And a quiz that is not published, if it is there, is published exactly when its lesson is
there, the caller manages the course and every question can be graded; then nothing changes in the
store but that it is published. -/
theorem gated_after {start : Service} (hsound : start.store.Sound)
    (hdrafts : ∀ id quiz, start.store.quizzes.get? id = some quiz → quiz.isPublished = false)
    {commands : List Command} (hgated : ∀ command ∈ commands, command.isGated = true) :
    let console := (ofService start).after commands
    let store := console.service.store
    (∀ id quiz, store.quizzes.get? id = some quiz → quiz.isPublished = true →
      quiz.checkPublishable = .ok () ∧ quiz.sorted.checkPublishable = .ok ()) ∧
    (∀ request : Request, request.isWriting = true → ∀ why,
      (console.service.run console.locked request.program).2 = .refused why →
        why.report.kind ≠ .fault) ∧
    ∀ quizId actor,
      (∀ quiz, store.quizzes.get? quizId = some quiz → quiz.isPublished = false) →
      let r := console.service.run console.locked (Request.publish quizId actor).program
      ((∃ reply, r.2 = .done reply) ↔ ∃ quiz, store.MayPublish quizId actor quiz) ∧
      ((∃ reply, r.2 = .done reply) → ∃ quiz, store.quizzes.get? quizId = some quiz ∧
        r.1.store = { store with
          quizzes := store.quizzes.insert quizId { quiz with isPublished := true } }) := by
  intro console store
  have hkept : store.Gated := after_keeps (·.isGated = true) (fun _ => True)
    (fun console => console.service.store.Gated) (fun hallowed _ _ h => run_gated h hallowed) hgated
    (fun _ _ => trivial) fun id quiz hquiz hpublished => by
      simp [hdrafts id quiz hquiz] at hpublished
  have hsoundHere : store.Sound := ((Sound.ofService hsound).after commands).1.store
  refine ⟨fun id quiz hquiz hpublished => ?_, fun request hwriting why hrefused => ?_,
    fun quizId actor hdraft => ?_⟩
  · have hchecked := hkept id quiz hquiz hpublished
    exact ⟨hchecked, Quiz.checkPublishable_sorted.2 hchecked⟩
  · exact Service.run_faultless hsoundHere hkept hwriting console.locked why hrefused
  · rcases Service.run_publish_draft hdraft console.locked actor with
      ⟨quiz, hmay, hrun⟩ | ⟨hnone, why, hrun⟩
    · intro r
      have hr : r = _ := hrun
      rw [hr]
      exact ⟨⟨fun _ => ⟨quiz, hmay⟩, fun _ => ⟨_, rfl⟩⟩, fun _ => ⟨quiz, hmay.stored, rfl⟩⟩
    · intro r
      have hr : r = _ := hrun
      rw [hr]
      refine ⟨⟨fun ⟨reply, h⟩ => by simp at h, fun ⟨quiz, hmay⟩ => absurd hmay (hnone quiz)⟩,
        fun ⟨reply, h⟩ => by simp at h⟩

/-- Sets up the examination, with the quiz as a draft. -/
def drafted : List Command :=
  (examination none).map fun
    | .putQuiz quiz => .putQuiz { quiz with isPublished := false }
    | command => command

/-- The instructor publishes the draft, and the student starts an attempt, whose submission is
graded. -/
theorem gated_after_drafted :
    let console := (ofService Service.blank).after drafted
    let publish := Request.publish 1 ⟨1, .instructor⟩
    let later := console.after [.request publish, .request (.start 1 learner)]
    let submitted := later.service.run later.locked (Request.submit 1 1 [] learner).program
    Service.blank.store.Sound ∧ (∀ command ∈ drafted, command.isGated = true) ∧
      (∃ quiz, console.service.store.MayPublish 1 ⟨1, .instructor⟩ quiz) ∧
      (∃ quiz, later.service.store.quizzes.get? 1 = some quiz ∧ quiz.isPublished = true ∧
        quiz.checkPublishable = .ok ()) ∧
      submitted.2.result?.isSome = true ∧
      ∀ why, submitted.2 = .refused why → why.report.kind ≠ .fault := by
  intro console publish later submitted
  have hsound : Service.blank.store.Sound := Store.Sound.empty
  have hnone : ∀ id quiz, Service.blank.store.quizzes.get? id = some quiz →
      quiz.isPublished = false := fun id quiz h => by simp [Service.blank, Store.empty] at h
  have hgated : ∀ command ∈ drafted, command.isGated = true := by decide +kernel
  have hlater : ∀ command ∈ drafted ++ [.request publish, .request (.start 1 learner)],
      command.isGated = true := by decide +kernel
  have hdraft : ∀ quiz, console.service.store.quizzes.get? 1 = some quiz →
      quiz.isPublished = false := by
    have hall : (console.service.store.quizzes.get? 1).all (·.isPublished = false) = true := by
      decide +kernel
    intro quiz hquiz
    simpa [hquiz] using hall
  have hdone : (console.service.run console.locked publish.program).2 = .done (.published 1) := by
    decide +kernel
  have hstored : (later.service.store.quizzes.get? 1).any (·.isPublished) = true := by
    decide +kernel
  obtain ⟨quiz, hquiz, hpublished⟩ := (Option.any_eq_true _ _).1 hstored
  obtain ⟨-, -, hpublish⟩ := gated_after hsound hnone hgated
  obtain ⟨hchecked, hfaultless, -⟩ := gated_after hsound hnone hlater
  rw [after_append] at hchecked hfaultless
  exact ⟨hsound, hgated, (hpublish 1 _ hdraft).1.1 ⟨_, hdone⟩,
    ⟨quiz, hquiz, hpublished, (hchecked 1 quiz hquiz hpublished).1⟩, by decide +kernel,
    hfaultless _ rfl⟩

end Console

end QuizAttempts
