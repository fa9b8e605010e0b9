/-
**What a request comes to.**

However many operations a request is made of, it comes to one of five ends.  It may leave everything
but the cache as it was, whether it is refused or has only read.  It may publish a quiz.  It may
close the attempt of its caller that is overdue; the closing outlasts the request when that goes on
to be refused, but only with few of the refusals.  It may open the next attempt of its caller.  And
it may grade an attempt of its caller, which is then told to those who keep the progress and pass
the announcements on.

Each end says in full what is written, whose it is, by which quiz it was decided, and how the
request is answered.  What holds of the attempts after every history is read off the ends, and so is
what a refused request leaves behind.

Main definitions:

* `Store.OwnOpen`, `Service.OwnOverdue` — the open attempt of a caller, and the overdue one;
* `Service.Accepts` — **a submission that is accepted**;
* `Service.Rewrites`, `Service.Credits` — what is written when attempts are, and when one is graded;
* `Request.Outlasts` — the endings that may come after a closing;
* `Service.ComesTo` — **the five ends**.

Main results:

* `Service.swept_swept` — what sweeping closes is an overdue attempt of the caller;
* `Service.run_comesTo` — **every request comes to one of the ends**;
* `Service.run_moves` — requests continue the attempts and open the next ones, and nothing else.
-/
import QuizAttempts.Proofs.Decisions
import QuizAttempts.Proofs.History

set_option autoImplicit false

namespace QuizAttempts

open Program

/-! ### Whose attempts -/

/-- Every quiz is kept under its own identifier. -/
def Store.Filed (store : Store) : Prop :=
  ∀ (id : Int) (quiz : Quiz), store.quizzes.get? id = some quiz → quiz.id = id

theorem Store.Filed.isStored {store : Store} (h : store.Filed) {id : Int} {quiz : Quiz}
    (hquiz : store.quiz? id = some quiz) : quiz.IsStored store.quizzes := by
  obtain ⟨stored, hstored, rfl⟩ := Option.map_eq_some_iff.1 hquiz
  exact ⟨stored, (congrArg store.quizzes.get? (h id stored hstored)).trans hstored, rfl⟩

/-- The enrollment of a caller in the course to which a quiz belongs. -/
def Store.Enrolls (store : Store) (quiz : Quiz) (actor : Actor) (enrollment : Enrollment) : Prop :=
  ∃ lesson, store.lesson? quiz.lessonId = some lesson ∧
    store.enrollmentOf? actor.userId lesson.courseId = some enrollment

/-- **An open attempt of a caller at a quiz.** -/
structure Store.OwnOpen (store : Store) (quiz : Quiz) (actor : Actor) (a : Attempt) : Prop where
  own : ∃ enrollment, store.Enrolls quiz actor enrollment ∧ a.isOf enrollment.id quiz.id = true
  row : store.attempts.get? a.id = some a
  isOpen : a.isOpen = true

theorem Store.OwnOpen.quizId_eq {store : Store} {quiz : Quiz} {actor : Actor} {a : Attempt}
    (h : store.OwnOpen quiz actor a) : a.quizId = quiz.id := by
  obtain ⟨enrollment, -, hpair⟩ := h.own
  exact (Attempt.isOf_iff.1 hpair).2

/-- **An open attempt of a caller that is overdue**, by the limit that its quiz has now. -/
def Service.OwnOverdue (s : Service) (quizId : Int) (actor : Actor) (a : Attempt) : Prop :=
  ∃ quiz, s.store.quizzes.get? quizId = some quiz ∧ s.store.OwnOpen quiz actor a ∧
    a.isOverdue quiz.timeLimit s.clock = true

/-- What is overdue is an attempt at the quiz in question. -/
theorem Service.OwnOverdue.quizId_eq {s : Service} {quizId : Int} {actor : Actor} {a : Attempt}
    (h : s.OwnOverdue quizId actor a) (hfiled : s.store.Filed) : a.quizId = quizId := by
  obtain ⟨quiz, hquiz, hopen, -⟩ := h
  rw [hopen.quizId_eq, hfiled quizId quiz hquiz]

/-- **A submission that is accepted**: it is for an open attempt of the caller that is not overdue,
and its answers can be graded. -/
structure Service.Accepts (s : Service) (quizId attemptId : Int) (answers : List SubmittedAnswer)
    (actor : Actor) (quiz : Quiz) (a : Attempt) (grade : Grade) : Prop where
  stored : s.store.quiz? quizId = some quiz
  id : a.id = attemptId
  own : s.store.OwnOpen quiz actor a
  inTime : a.isOverdue quiz.timeLimit s.clock = false
  graded : ∃ index, quiz.indexAnswers answers = .ok index ∧ quiz.grade index = .ok grade

theorem Service.Accepts.quizId_eq {s : Service} {quizId attemptId : Int}
    {answers : List SubmittedAnswer} {actor : Actor} {quiz : Quiz} {a : Attempt} {grade : Grade}
    (h : s.Accepts quizId attemptId answers actor quiz a grade) (hfiled : s.store.Filed) :
    a.quizId = quizId := by
  obtain ⟨stored, hstored, rfl⟩ := Option.map_eq_some_iff.1 h.stored
  rw [h.own.quizId_eq, ← hfiled quizId stored hstored]
  rfl

/-! ### What is written -/

/-- **Nothing but attempts is written.** -/
structure Service.Rewrites (s t : Service) (rows : Table Attempt) (ids : Nat) : Prop where
  setting : s.SameSetting t
  attempts : t.store.attempts = rows
  allocated : t.store.allocated = ids
  completed : t.store.completed = s.store.completed
  events : t.events = s.events

/-- **An attempt is graded**, and those who listen are told. -/
structure Service.Credits (s t : Service) (quiz : Quiz) (a : Attempt) (grade : Grade)
    (actor : Actor) : Prop where
  setting : s.SameSetting t
  attempts : t.store.attempts = s.store.attempts.insert a.id (a.graded grade s.clock)
  allocated : t.store.allocated = s.store.allocated
  completed : t.store.completed =
    if grade.isPassed && !s.progressBroken then
      s.store.completed.complete a.enrollmentId quiz.lessonId
    else s.store.completed
  events : t.events =
    if s.eventsBroken then s.events else s.events ++ [a.submissionEvent grade s.clock actor]

/-- **The attempts once a caller has come by**: as they were, or with the overdue one closed. -/
inductive Service.Swept (s : Service) (quizId : Int) (actor : Actor) : Table Attempt → Prop
  | same : Swept s quizId actor s.store.attempts
  | closed {a : Attempt} (h : s.OwnOverdue quizId actor a) :
      Swept s quizId actor (s.store.attempts.insert a.id (a.expired s.clock))

/-! ### The ends -/

/-- The quiz of a request. -/
def Request.quizId : Request → Int
  | .start quiz _ | .take quiz _ _ | .submit quiz _ _ _ | .list quiz _ | .get quiz _ _ => quiz
  | .publish quiz _ => quiz

/-- The caller of a request. -/
def Request.actor : Request → Actor
  | .start _ actor | .take _ actor _ | .submit _ _ _ actor | .list _ actor | .get _ _ actor => actor
  | .publish _ actor => actor

/-- Starts and submissions. -/
def Request.isWriting : Request → Bool
  | .start _ _ | .submit _ _ _ _ => true
  | _ => false

/-- **The endings that may come after an attempt was closed as overdue.** -/
inductive Request.Outlasts : Request → Outcome Reply → Prop
  | exhausted (quiz : Int) (actor : Actor) : Outlasts (.start quiz actor) (.refused .exhausted)
  | tooLate (quiz attempt : Int) (answers : List SubmittedAnswer) (actor : Actor) :
      Outlasts (.submit quiz attempt answers actor) (.refused .tooLate)
  | noAttempt (quiz attempt : Int) (actor : Actor) :
      Outlasts (.get quiz attempt actor) (.refused .noAttempt)
  | shown (quiz attempt : Int) (actor : Actor) (view : AttemptView) :
      Outlasts (.get quiz attempt actor) (.done (.view view))
  | listed (quiz : Int) (actor : Actor) (views : List AttemptView) :
      Outlasts (.list quiz actor) (.done (.views views))

/-- **What a request comes to**: how it ends, and what has become of the service. -/
inductive Service.ComesTo (s : Service) : Request → Outcome Reply → Service → Prop
  /-- Nothing is written; a start or a submission is refused. -/
  | idle {request : Request} {outcome : Outcome Reply} {t : Service} (hsetting : s.SameSetting t)
      (hrecords : s.SameRecords t) (hwork : request.isWriting = true → outcome.result? = none) :
      ComesTo s request outcome t
  | published {quizId : Int} {actor : Actor} {t : Service}
      (hpublish : s.store.publish? quizId = some t.store) (hevents : t.events = s.events) :
      ComesTo s (.publish quizId actor) (.done (.published quizId)) t
  | closed {request : Request} {outcome : Outcome Reply} {t : Service} {a : Attempt}
      (hown : s.OwnOverdue request.quizId request.actor a) (hends : request.Outlasts outcome)
      (hrows : s.Rewrites t (s.store.attempts.insert a.id (a.expired s.clock)) s.store.allocated) :
      ComesTo s request outcome t
  | opened {quizId : Int} {actor : Actor} {quiz : Quiz} {enrollment : Enrollment}
      {rows : Table Attempt} {t : Service} (hstored : s.store.quiz? quizId = some quiz)
      (henrolls : s.store.Enrolls quiz actor enrollment) (hswept : s.Swept quizId actor rows)
      (hopens : Store.Opens s.store.quizzes { s.store with attempts := rows } t.store
        (s.nextAttempt quiz enrollment))
      (hrows : s.Rewrites t (rows.insert (s.nextAttempt quiz enrollment).id
        (s.nextAttempt quiz enrollment)) (s.store.allocated + 1)) :
      ComesTo s (.start quizId actor) (.done (.started (s.nextAttempt quiz enrollment))) t
  | graded {quizId attemptId : Int} {answers : List SubmittedAnswer} {actor : Actor} {quiz : Quiz}
      {a : Attempt} {grade : Grade} {t : Service}
      (haccepts : s.Accepts quizId attemptId answers actor quiz a grade)
      (hcredits : s.Credits t quiz a grade actor) :
      ComesTo s (.submit quizId attemptId answers actor)
        (.done (.view ((a.graded grade s.clock).view quiz.showCorrectAnswers))) t

section Requests

variable {s t : Service} {request : Request} {outcome : Outcome Reply}

/-- Nothing has happened to the service. -/
theorem Service.ComesTo.here (hwork : request.isWriting = true → outcome.result? = none) :
    s.ComesTo request outcome s :=
  .idle (.refl s) (.refl s) hwork

/-- Collisions that were asked for do not show in what a request comes to. -/
theorem Service.ComesTo.of_pending {n : Nat}
    (h : (s.withPending n).ComesTo request outcome t) : s.ComesTo request outcome t := by
  have hsetting : ∀ {t : Service}, (s.withPending n).SameSetting t → s.SameSetting t :=
    fun h => ⟨h.quizzes, h.lessons, h.enrollments, h.clock⟩
  have hrewrites : ∀ {t : Service} {rows : Table Attempt} {ids : Nat},
      (s.withPending n).Rewrites t rows ids → s.Rewrites t rows ids :=
    fun h => ⟨hsetting h.setting, h.attempts, h.allocated, h.completed, h.events⟩
  cases h with
  | idle hsame hrecords hwork =>
      exact .idle (hsetting hsame)
        ⟨hrecords.attempts, hrecords.allocated, hrecords.completed, hrecords.events⟩ hwork
  | published hpublish hevents => exact .published hpublish hevents
  | closed hown hends hrows => exact .closed hown hends (hrewrites hrows)
  | opened hstored henrolls hswept hopens hrows =>
      refine .opened hstored henrolls ?_ hopens (hrewrites hrows)
      cases hswept with
      | same => exact .same
      | closed hown => exact .closed hown
  | graded haccepts hcredits =>
      exact .graded
        ⟨haccepts.stored, haccepts.id, haccepts.own, haccepts.inTime, haccepts.graded⟩
        ⟨hsetting hcredits.setting, hcredits.attempts, hcredits.allocated, hcredits.completed,
          hcredits.events⟩

/-- The running attempt of an enrollment is an open attempt of whoever is enrolled. -/
theorem ownOpen_of_running (hs : s.store.Sound) {quiz : Quiz} {actor : Actor}
    {enrollment : Enrollment} (henrolls : s.store.Enrolls quiz actor enrollment) {a : Attempt}
    (hrunning : s.running? enrollment.id quiz.id = some a) : s.store.OwnOpen quiz actor a := by
  obtain ⟨hrow, hpair, hopen⟩ := Service.running?_eq_some hs.orderly hrunning
  exact ⟨⟨enrollment, henrolls, hpair⟩, hrow, hopen⟩

/-- **What has been swept**: nothing, or the overdue attempt of the caller. -/
theorem Service.swept_swept (hs : s.store.Sound) {quizId : Int} {stored : Quiz}
    (hstored : s.store.quizzes.get? quizId = some stored) {actor : Actor} {enrollment : Enrollment}
    (henrolls : s.store.Enrolls stored actor enrollment) :
    s.Swept quizId actor (s.swept stored enrollment).store.attempts := by
  rcases s.swept_cases stored enrollment with heq | ⟨a, hrunning, hoverdue, heq⟩
  · rw [heq]
    exact .same
  · have hown : s.OwnOverdue quizId actor a :=
      ⟨stored, hstored, ownOpen_of_running hs henrolls hrunning, hoverdue⟩
    rw [heq]
    exact .closed (a := a) hown

/-- Sweeping writes attempts only. -/
theorem Service.rewrites_swept (s : Service) (quiz : Quiz) (enrollment : Enrollment) :
    s.Rewrites (s.swept quiz enrollment) (s.swept quiz enrollment).store.attempts
      s.store.allocated := by
  unfold swept
  split <;> exact ⟨⟨rfl, rfl, rfl, rfl⟩, rfl, rfl, rfl, rfl⟩

/-- Nothing has happened to the service but that it may have been swept. -/
theorem Service.ComesTo.of_swept (hs : s.store.Sound) (stored : Quiz) {enrollment : Enrollment}
    (hstored : s.store.quizzes.get? request.quizId = some stored)
    (henrolls : s.store.Enrolls stored request.actor enrollment) (hends : request.Outlasts outcome)
    (hwork : request.isWriting = true → outcome.result? = none) :
    s.ComesTo request outcome (s.swept stored enrollment) := by
  have hrows := s.rewrites_swept stored enrollment
  have hswept := Service.swept_swept hs hstored henrolls
  generalize (s.swept stored enrollment).store.attempts = rows at hrows hswept
  cases hswept with
  | same =>
      exact .idle hrows.setting
        ⟨hrows.attempts, hrows.allocated, hrows.completed, hrows.events⟩ hwork
  | closed hown => exact .closed hown hends hrows

/-! ### Writing -/

/-- Whoever is admitted is enrolled, and works on a quiz that is there. -/
theorem Store.Enters.of_admission {store : Store} {quizId : Int} {actor : Actor} {quiz : Quiz}
    {enrollment : Enrollment} (h : store.admission quizId actor = .ok (quiz, enrollment)) :
    ∃ stored, store.quizzes.get? quizId = some stored ∧ quiz = stored.sorted ∧
      store.Enrolls stored actor enrollment := by
  obtain ⟨lesson, henters, hfound, -⟩ := store.admission_eq_ok.1 h
  obtain ⟨stored, hstored, rfl⟩ := Option.map_eq_some_iff.1 henters.stored
  exact ⟨stored, hstored, rfl, lesson, henters.placed, hfound⟩

theorem comesTo_start (hs : s.store.Sound) (hfiled : s.store.Filed) (quizId : Int)
    (actor : Actor) :
    let r := s.run [] (Request.start quizId actor).program
    s.ComesTo (.start quizId actor) r.2 r.1 := by
  rw [Service.run_start hs]
  cases hadmitted : s.store.admission quizId actor with
  | error why => exact .here fun _ => rfl
  | ok admitted =>
      obtain ⟨quiz, enrollment⟩ := admitted
      obtain ⟨stored, hstored, rfl, henrolls⟩ := Store.Enters.of_admission hadmitted
      show s.ComesTo _ (s.decideStart stored.sorted enrollment mostTries).2
        (s.decideStart stored.sorted enrollment mostTries).1
      unfold Service.decideStart
      split
      · exact .here fun _ => rfl
      · rename_i hfree
        split
        · -- the closing, if there was one, is committed before the refusal
          exact .of_swept hs stored hstored henrolls (.exhausted quizId actor)
            fun _ => rfl
        · rename_i hleft
          split
          · rename_i hrange
            split
            · have hquiz : s.store.quiz? quizId = some stored.sorted := by
                rw [Store.quiz?, hstored, Option.map_some]
              have hopens := Service.opens_opened (s := s.withPending 0) hs
                (Bool.eq_false_iff.2 hfree) (hfiled.isStored hquiz) (Bool.eq_false_iff.2 hleft)
                hrange
              have hswept := Service.swept_swept (s := s.withPending 0) hs hstored henrolls
              have hrows := (s.withPending 0).rewrites_swept stored.sorted enrollment
              have hsame := hrows.setting
              rw [Service.store_swept] at hopens
              exact .of_pending (n := 0) (.opened hquiz henrolls hswept hopens
                ⟨⟨hsame.quizzes, hsame.lessons, hsame.enrollments, hsame.clock⟩, hopens.attempts,
                  hopens.allocated, hrows.completed, hrows.events⟩)
            · exact .of_pending (.here fun _ => rfl)
          · exact .here fun _ => rfl

/-- Telling of a grade completes the lesson if it passes and anybody listens, and writes nothing
else to the store. -/
theorem Service.store_tell (s : Service) (quiz : Quiz) (a : Attempt) (grade : Grade)
    (events : List SubmissionEvent) :
    (s.tell (quiz.passedLessons a grade) events).store =
      { s.store with
        completed := if grade.isPassed && !s.progressBroken then
            s.store.completed.complete a.enrollmentId quiz.lessonId
          else s.store.completed } := by
  unfold Service.tell Quiz.passedLessons
  cases grade.isPassed <;> cases s.progressBroken <;> rfl

/-- **What is left to do about a graded attempt is to tell of it.** -/
theorem Service.credits_credited (s : Service) (quiz : Quiz) (a : Attempt) (grade : Grade)
    (actor : Actor) : s.Credits (s.credited quiz a grade actor) quiz a grade actor := by
  have hstore := (s.puts (a.graded grade s.clock)).store_tell quiz a grade
    [a.submissionEvent grade s.clock actor]
  unfold Service.credited
  refine ⟨⟨?_, ?_, ?_, rfl⟩, ?_, ?_, ?_, rfl⟩ <;> rw [hstore] <;> rfl

theorem comesTo_submit (hs : s.store.Sound) (quizId attemptId : Int)
    (answers : List SubmittedAnswer) (actor : Actor) :
    let r := s.run [] (Request.submit quizId attemptId answers actor).program
    s.ComesTo (.submit quizId attemptId answers actor) r.2 r.1 := by
  rw [Service.run_submit hs]
  cases hadmitted : s.store.admission quizId actor with
  | error why => exact .here fun _ => rfl
  | ok admitted =>
      obtain ⟨quiz, enrollment⟩ := admitted
      obtain ⟨stored, hstored, rfl, henrolls⟩ := Store.Enters.of_admission hadmitted
      show s.ComesTo _ (s.decideSubmit stored.sorted enrollment attemptId answers actor).2
        (s.decideSubmit stored.sorted enrollment attemptId answers actor).1
      unfold Service.decideSubmit
      cases hfound : (s.store.attempts.get? attemptId).filter
          (·.isOf enrollment.id stored.sorted.id) with
      | none => exact .here fun _ => rfl
      | some a =>
          obtain ⟨ha, hpair⟩ := Option.filter_eq_some_iff.1 hfound
          have hid : a.id = attemptId := hs.orderly.own ha
          cases hopen : a.isOpen with
          | false =>
              simp only [hopen]
              exact .here fun _ => rfl
          | true =>
              simp only [hopen, if_true]
              have hown : s.store.OwnOpen stored actor a :=
                ⟨⟨enrollment, henrolls, hpair⟩, hid ▸ ha, hopen⟩
              unfold Service.decideGrading
              cases hindex : stored.sorted.indexAnswers answers with
              | error flaw => exact .here fun _ => rfl
              | ok index =>
                  cases hoverdue : a.isOverdue stored.sorted.timeLimit s.clock with
                  | true =>
                      exact .closed ⟨stored, hstored, hown, hoverdue⟩ (.tooLate ..)
                        ⟨⟨rfl, rfl, rfl, rfl⟩, rfl, rfl, rfl, rfl⟩
                  | false =>
                      simp only [Bool.false_eq_true, if_false]
                      cases hgrade : stored.sorted.grade index with
                      | error question => exact .here fun _ => rfl
                      | ok grade =>
                          have hquiz : s.store.quiz? quizId = some stored.sorted := by
                            rw [Store.quiz?, hstored, Option.map_some]
                          exact .graded ⟨hquiz, hid, ⟨hown.own, hown.row, hown.isOpen⟩, hoverdue,
                            index, hindex, hgrade⟩ (s.credits_credited _ a grade actor)

/-! ### Looking at attempts -/

/-- Whoever looks at attempts is enrolled, and asks about a quiz that is there. -/
theorem Store.enrolls_of_reviewing {store : Store} {quizId : Int} {actor : Actor} {quiz : Quiz}
    {enrollment : Enrollment} (h : store.reviewing quizId actor = .ok (quiz, enrollment)) :
    ∃ stored, store.quizzes.get? quizId = some stored ∧ quiz = stored.settings ∧
      store.Enrolls stored actor enrollment := by
  obtain ⟨-, hsettings, lesson, hplaced, hfound⟩ := store.reviewing_eq_ok.1 h
  obtain ⟨stored, hstored, rfl⟩ := Option.map_eq_some_iff.1 hsettings
  exact ⟨stored, hstored, rfl, lesson, hplaced, hfound⟩

theorem comesTo_list (hs : s.store.Sound) (quizId : Int) (actor : Actor) :
    let r := s.run [] (Request.list quizId actor).program
    s.ComesTo (.list quizId actor) r.2 r.1 := by
  rw [Service.run_list hs]
  cases hreviewing : s.store.reviewing quizId actor with
  | error why => exact .here fun _ => rfl
  | ok found =>
      obtain ⟨stored, hstored, hsettings, henrolls⟩ := Store.enrolls_of_reviewing hreviewing
      obtain ⟨quiz, enrollment⟩ := found
      obtain rfl : quiz = stored.settings := hsettings
      exact .of_swept hs stored hstored henrolls (.listed ..) fun hwork => by
        simp [Request.isWriting] at hwork

theorem comesTo_get (hs : s.store.Sound) (quizId attemptId : Int) (actor : Actor) :
    let r := s.run [] (Request.get quizId attemptId actor).program
    s.ComesTo (.get quizId attemptId actor) r.2 r.1 := by
  have hwork : (Request.get quizId attemptId actor).isWriting = true → ∀ outcome : Outcome Reply,
      outcome.result? = none := fun hwork => by simp [Request.isWriting] at hwork
  rw [Service.run_get hs]
  cases hreviewing : s.store.reviewing quizId actor with
  | error why => exact .here fun _ => rfl
  | ok found =>
      obtain ⟨stored, hstored, hsettings, henrolls⟩ := Store.enrolls_of_reviewing hreviewing
      obtain ⟨quiz, enrollment⟩ := found
      obtain rfl : quiz = stored.settings := hsettings
      show s.ComesTo _ (s.decideGet stored.settings enrollment attemptId).2
        (s.decideGet stored.settings enrollment attemptId).1
      unfold Service.decideGet
      dsimp only
      split
      · exact .of_swept hs stored hstored henrolls (.noAttempt ..) fun h => hwork h _
      · exact .of_swept hs stored hstored henrolls (.shown ..) fun h => hwork h _

/-! ### Taking and publishing -/

theorem comesTo_take (s : Service) (quizId : Int) (actor : Actor) (shuffle : Shuffle) :
    let r := s.run [] (Request.take quizId actor shuffle).program
    s.ComesTo (.take quizId actor shuffle) r.2 r.1 := by
  have hwork : (Request.take quizId actor shuffle).isWriting = true → ∀ outcome : Outcome Reply,
      outcome.result? = none := fun hwork => by simp [Request.isWriting] at hwork
  rw [Service.run_take]
  cases s.store.sight quizId actor with
  | error why => exact .here fun _ => rfl
  | ok quiz =>
      rw [unlessRefused_ok, Service.decideTake, Service.keeping]
      split
      · exact .here fun h => hwork h _
      · exact .idle ⟨rfl, rfl, rfl, rfl⟩ ⟨rfl, rfl, rfl, rfl⟩ fun h => hwork h _

theorem comesTo_publish (s : Service) (quizId : Int) (actor : Actor) :
    let r := s.run [] (Request.publish quizId actor).program
    s.ComesTo (.publish quizId actor) r.2 r.1 := by
  have hidle : ∀ outcome : Outcome Reply, s.ComesTo (.publish quizId actor) outcome s :=
    fun outcome => .here fun hwork => by simp [Request.isWriting] at hwork
  rw [Service.run_publish]
  cases s.store.publication quizId actor with
  | error why => exact hidle _
  | ok quiz =>
      rw [unlessRefused_ok, Service.decidePublish]
      split
      · exact hidle _
      · split
        · exact hidle _
        · exact hidle _
        · rename_i stored _ hstored
          exact .published (by rw [Store.publish?, hstored]; rfl) rfl

/-! ### All requests -/

/-- **Every request comes to one of the ends.** -/
theorem Service.run_comesTo (hs : s.store.Sound) (hfiled : s.store.Filed) (request : Request) :
    s.ComesTo request (s.run [] request.program).2 (s.run [] request.program).1 := by
  cases request with
  | start quiz actor => exact comesTo_start hs hfiled quiz actor
  | take quiz actor shuffle => exact comesTo_take s quiz actor shuffle
  | submit quiz attempt answers actor => exact comesTo_submit hs quiz attempt answers actor
  | list quiz actor => exact comesTo_list hs quiz actor
  | get quiz attempt actor => exact comesTo_get hs quiz attempt actor
  | publish quiz actor => exact comesTo_publish s quiz actor

/-- An open row is closed where it stands; all others are as they were. -/
theorem Table.kept_insert {rows : Table Attempt} {id : Int} {a final : Attempt}
    (ha : rows.get? a.id = some a) (hopen : a.isOpen = true) (hcloses : final.Closes a)
    {b : Attempt} (hb : rows.get? id = some b) :
    ∃ c, (rows.insert a.id final).get? id = some c ∧ c.Keeps b := by
  rw [Table.get?_insert]
  split
  · rename_i hid
    obtain rfl : a = b := Option.some.inj (ha.symm.trans (hid ▸ hb))
    exact ⟨final, rfl, Or.inr ⟨hopen, hcloses⟩⟩
  · exact ⟨b, hb, .refl b⟩

/-- An open attempt that is closed where it stands continues. -/
theorem Store.Continues.of_closes {before after : Store} {a final : Attempt}
    (ha : before.attempts.get? a.id = some a) (hopen : a.isOpen = true) (hcloses : final.Closes a)
    (hrows : after.attempts = before.attempts.insert a.id final)
    (hids : after.allocated = before.allocated) : after.Continues before where
  rows {id b} hb := by
    rw [hrows, ← hcloses.id] at hb
    exact Orderly.continues_of_insert ha hcloses hb
  kept {id b} hb := by
    obtain ⟨c, hc, hkeeps⟩ := Table.kept_insert ha hopen hcloses hb
    exact ⟨c, hrows ▸ hc, hkeeps.continues⟩
  allocated := Nat.le_of_eq hids.symm

/-- What has been swept continues what was there. -/
theorem Service.continues_swept (hs : s.store.Sound) (quiz : Quiz) (enrollment : Enrollment) :
    (s.swept quiz enrollment).store.Continues s.store := by
  rcases s.swept_cases quiz enrollment with heq | ⟨a, hrunning, -, heq⟩
  · rw [heq]
    exact .of_eq rfl rfl
  · obtain ⟨hrow, -, hopen⟩ := running?_eq_some hs.orderly hrunning
    rw [heq]
    exact .of_closes hrow hopen (Attempt.closes_expired a s.clock) rfl rfl

/-- **What requests do to the attempts**: they continue them and open the next ones, and nothing
else. -/
theorem Service.run_moves (hs : s.store.Sound) (hfiled : s.store.Filed) (request : Request) :
    Store.Moves s.store.quizzes s.store (s.run [] request.program).1.store := by
  have hcomes := Service.run_comesTo hs hfiled request
  generalize (s.run [] request.program).2 = outcome at hcomes
  generalize (s.run [] request.program).1 = t at hcomes ⊢
  cases hcomes with
  | idle _ hrecords => exact .of_eq hrecords.attempts hrecords.allocated
  | published hpublish =>
      obtain ⟨quiz, -, hstore⟩ := Option.map_eq_some_iff.1 hpublish
      rw [← hstore]
      exact .of_eq rfl rfl
  | closed hown _ hrows =>
      obtain ⟨quiz, -, hopen, -⟩ := hown
      exact .continues .refl (.of_closes hopen.row hopen.isOpen (Attempt.closes_expired _ _)
        hrows.attempts hrows.allocated)
  | opened _ _ hswept hopens =>
      refine .opens (.continues .refl ?_) hopens
      cases hswept with
      | same => exact .of_eq rfl rfl
      | closed hown =>
          obtain ⟨quiz, -, hopen, -⟩ := hown
          exact .of_closes hopen.row hopen.isOpen (Attempt.closes_expired _ _) rfl rfl
  | graded haccepts hcredits =>
      exact .continues .refl (.of_closes haccepts.own.row haccepts.own.isOpen
        (Attempt.closes_graded _ _ _) hcredits.attempts hcredits.allocated)

end Requests

end QuizAttempts
