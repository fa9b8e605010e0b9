/-
**The life of an attempt: what starting, taking, submitting, reading and publishing do.**

Everything that changes an attempt locks the enrollment first, reads, decides, stages and commits.
Nobody watches the time limits: an overdue attempt is closed, graded as nothing, by the next
request that touches it.  When such a request goes on to be refused, the closing is committed all
the same if it was decided before the refusal, and dropped with everything else if somebody else
was first.

Starting may find that somebody else has just used the number it was about to use.  It then begins
again from the lock, once.

Main definitions:

* `startAttempt`, `takeQuiz`, `submitAttempt`, `listAttempts`, `getAttempt`, `publishQuiz` — **the
  six requests**;
* `closeOverdue` — closing an attempt as overdue;
* `enter`, `review` — how those begin that write attempts, and those that read them;
* `startLocked`, `submitLocked`, `closeLocked` — what is done under the lock of an enrollment;
* `tryStart` — one try at starting, which fails only when somebody else was first;
* `Request`, `Request.program`, `Reply` — the requests as data.

Main results:

* `startAttempt_of_not_student`, `submitAttempt_of_not_student` — who is no student is refused
  before anything is read.
-/
import QuizAttempts.Program

set_option autoImplicit false

namespace QuizAttempts

open Program

/-! ### What the requests share -/

/-- Refuses who is no student. -/
def requireStudent (actor : Actor) : Program Unit := ensure actor.isStudent .studentsOnly

/-- A quiz with its questions, which has to be there. -/
def loadQuiz (id : Int) : Program Quiz := do
  found (← quiz id) .noQuiz

/-- A quiz without its questions, which has to be there. -/
def loadSettings (id : Int) : Program Quiz := do
  found (← quizSettings id) .noQuiz

/-- A quiz with its questions, which has to be published. -/
def loadPublished (id : Int) : Program Quiz := do
  let quiz ← loadQuiz id
  ensure quiz.isPublished .unpublished
  return quiz

/-- The lesson of a quiz, which has to be there. -/
def loadLesson (quiz : Quiz) : Program Lesson := do
  found (← lesson quiz.lessonId) .noLesson

/-- The published quiz that a student wants to work on, and its lesson. -/
def enter (quizId : Int) (actor : Actor) : Program (Quiz × Lesson) := do
  requireStudent actor
  let quiz ← loadPublished quizId
  let lesson ← loadLesson quiz
  return (quiz, lesson)

/-- The enrollment of a caller in the course of a lesson, whatever its status. -/
def loadEnrollment (actor : Actor) (lesson : Lesson) : Program Enrollment := do
  found (← enrollment actor.userId lesson.courseId) .notEnrolled

/-- Locks the enrollment of a caller in the course of a lesson, which has to grant access. -/
def lockAccess (actor : Actor) (lesson : Lesson) : Program Enrollment := do
  let enrollment ← lockEnrollment actor.userId lesson.courseId
  found (enrollment.filter (·.grantsAccess)) .notEnrolled

/-- Commits, or refuses because somebody else was first. -/
def commitOrRefuse : Program Unit := do
  orRefuse (← commit) fun taken => .taken taken.number

/-- **Closes an attempt as overdue.** -/
def closeOverdue (a : Attempt) (now : Timestamp) : Program Unit := do
  ensure (← save (a.expired now)) (.notInProgress a.id)

/-! ### Starting -/

/-- Opens the attempt after the latest of an enrollment at a quiz, if there is one left; no attempt
when somebody else was first. -/
def openAfter (quiz : Quiz) (enrollment : Enrollment) (present : Timestamp) (latest : Int) :
    Program (Option Attempt) := do
  if quiz.isExhausted latest then
    match ← commit with
    | .ok () => refuse .exhausted
    | .error _ => return none
  else if isInt32 (latest + 1) then
    match ← insert ⟨enrollment.id, quiz.id, latest + 1, quiz.maxScore.roundHundredths, present⟩ with
    | .ok a =>
        match ← commit with
        | .ok () => return some a
        | .error _ => return none
    | .error _ =>
        rollback
        return none
  else overflow

/-- Opens the next attempt of an enrollment at a quiz. -/
def openNext (quiz : Quiz) (enrollment : Enrollment) (present : Timestamp) :
    Program (Option Attempt) := do
  openAfter quiz enrollment present (← lockLatestNumber enrollment.id quiz.id)

/-- Starts an attempt under the lock of an enrollment: the open one has to be overdue, and is
closed. -/
def startLocked (quiz : Quiz) (enrollment : Enrollment) : Program (Option Attempt) := do
  let present ← now
  match ← lockOpenAttempt enrollment.id quiz.id with
  | some running =>
      ensure (running.isOverdue quiz.timeLimit present) .alreadyRunning
      closeOverdue running present
      openNext quiz enrollment present
  | none => openNext quiz enrollment present

/-- **One try at starting an attempt**; no attempt when somebody else was first. -/
def tryStart (quiz : Quiz) (lesson : Lesson) (actor : Actor) : Program (Option Attempt) := do
  let enrollment ← lockAccess actor lesson
  startLocked quiz enrollment

/-- Starts an attempt, giving up after some tries. -/
def startWithin (quiz : Quiz) (lesson : Lesson) (actor : Actor) : Nat → Program Attempt
  | 0 => refuse .outrun
  | tries + 1 => do
      match ← tryStart quiz lesson actor with
      | some a => return a
      | none => startWithin quiz lesson actor tries

/-- How often starting is tried. -/
def mostTries : Nat := 2

/-- **Starts the next attempt of a caller at a quiz.** -/
def startAttempt (quizId : Int) (actor : Actor) : Program Attempt := do
  let (quiz, lesson) ← enter quizId actor
  startWithin quiz lesson actor mostTries

/-! ### Taking -/

/-- Who does not manage the course has to be an enrolled student, and the quiz published. -/
def requireAccess (quiz : Quiz) (lesson : Lesson) (actor : Actor) : Program Unit :=
  if actor.manages lesson.instructorId then pure ()
  else do
    requireStudent actor
    ensure quiz.isPublished .unpublished
    let enrollment ← loadEnrollment actor lesson
    ensure enrollment.grantsAccess .notEnrolled

/-- The payload of a quiz: the one that is kept, or else a new one, which is then kept. -/
def loadPayload (quizId : Int) : Program TakePayload := do
  match ← cached quizId with
  | some payload => return payload
  | none =>
      let quiz ← loadQuiz quizId
      remember quizId quiz.takePayload
      return quiz.takePayload

/-- **Shows the questions of a quiz**, shuffled as the quiz says. -/
def takeQuiz (shuffle : Shuffle) (quizId : Int) (actor : Actor) : Program TakePayload := do
  let quiz ← loadSettings quizId
  let lesson ← loadLesson quiz
  requireAccess quiz lesson actor
  let payload ← loadPayload quizId
  return payload.render shuffle quiz.shuffleQuestions quiz.shuffleOptions

/-! ### Submitting -/

/-- What is announced about a graded attempt. -/
def Attempt.submissionEvent (a : Attempt) (grade : Grade) (now : Timestamp) (actor : Actor) :
    SubmissionEvent :=
  { attemptId := a.id
    quizId := a.quizId
    enrollmentId := a.enrollmentId
    studentId := actor.userId
    percentage := grade.percentage
    isPassed := grade.isPassed
    submittedAt := now }

/-- Tells the collaborators about a graded attempt: a passed quiz completes its lesson. -/
def afterGrading (quiz : Quiz) (a : Attempt) (grade : Grade) (now : Timestamp) (actor : Actor) :
    Program Unit := do
  if grade.isPassed then
    completeLesson a.enrollmentId quiz.lessonId
  announce (a.submissionEvent grade now actor)

/-- Grades an open attempt by the answers to it, or closes it as overdue. -/
def gradeOpen (quiz : Quiz) (attempt : Attempt) (answers : List SubmittedAnswer) (actor : Actor) :
    Program AttemptView := do
  let index ← orRefuse (quiz.indexAnswers answers) .submission
  let present ← now
  if attempt.isOverdue quiz.timeLimit present then
    closeOverdue attempt present
    commitOrRefuse
    refuse .tooLate
  else
    let grade ← orRefuse (quiz.grade index) .malformed
    let final := attempt.graded grade present
    ensure (← save final) (.notInProgress attempt.id)
    commitOrRefuse
    afterGrading quiz attempt grade present actor
    return final.view quiz.showCorrectAnswers

/-- Grades an attempt by the answers to it, under the lock of an enrollment. -/
def submitLocked (quiz : Quiz) (enrollment : Enrollment) (attemptId : Int)
    (answers : List SubmittedAnswer) (actor : Actor) : Program AttemptView := do
  let attempt ← lockAttempt attemptId
  let attempt ← found (attempt.filter (·.isOf enrollment.id quiz.id)) .noAttempt
  ensure attempt.isOpen .alreadySubmitted
  gradeOpen quiz attempt answers actor

/-- **Grades an attempt by the answers to it**, once. -/
def submitAttempt (quizId attemptId : Int) (answers : List SubmittedAnswer) (actor : Actor) :
    Program AttemptView := do
  let (quiz, lesson) ← enter quizId actor
  let enrollment ← lockAccess actor lesson
  submitLocked quiz enrollment attemptId answers actor

/-! ### Reading -/

/-- Closes the open attempt of an enrollment at a quiz, if it is overdue, and gives the lock
back. -/
def closeLocked (quiz : Quiz) (enrollment : Enrollment) : Program Unit := do
  let present ← now
  match ← lockOpenAttempt enrollment.id quiz.id with
  | some running =>
      if running.isOverdue quiz.timeLimit present then
        closeOverdue running present
        commitOrRefuse
      else rollback
  | none => rollback

/-- Closes the open attempt of a caller at a quiz, if it is overdue. -/
def closeIfOverdue (quiz : Quiz) (lesson : Lesson) (actor : Actor) : Program Unit :=
  if quiz.timeLimit.isNone then pure ()
  else do
    match ← lockEnrollment actor.userId lesson.courseId with
    | none => pure ()
    | some enrollment => closeLocked quiz enrollment

/-- The quiz and the enrollment of a caller who looks at attempts, once the open one is closed if it
is overdue. -/
def review (quizId : Int) (actor : Actor) : Program (Quiz × Enrollment) := do
  requireStudent actor
  let quiz ← loadSettings quizId
  let lesson ← loadLesson quiz
  let enrollment ← loadEnrollment actor lesson
  closeIfOverdue quiz lesson actor
  return (quiz, enrollment)

/-- **Lists the attempts of a caller at a quiz**, the oldest first. -/
def listAttempts (quizId : Int) (actor : Actor) : Program (List AttemptView) := do
  let (quiz, enrollment) ← review quizId actor
  let rows ← attempts enrollment.id quiz.id
  return rows.map (·.view quiz.showCorrectAnswers)

/-- **Shows an attempt of a caller at a quiz.** -/
def getAttempt (quizId attemptId : Int) (actor : Actor) : Program AttemptView := do
  let (quiz, enrollment) ← review quizId actor
  let row ← attempt attemptId
  let row ← found (row.filter (·.isOf enrollment.id quiz.id)) .noAttempt
  return row.view quiz.showCorrectAnswers

/-! ### Publishing -/

/-- **Publishes a quiz**, if its questions can all be graded; publishing it again changes nothing.
-/
def publishQuiz (quizId : Int) (actor : Actor) : Program Unit := do
  let quiz ← loadQuiz quizId
  let lesson ← loadLesson quiz
  ensure (actor.manages lesson.instructorId) .managersOnly
  if quiz.isPublished then pure ()
  else
    orRefuse quiz.checkPublishable .publishing
    ensure (← publish quizId) .noQuiz
    forget quizId

/-! ### Requests as data -/

/-- The requests; taking brings the shuffle that is drawn for it. -/
inductive Request where
  | start (quiz : Int) (actor : Actor)
  | take (quiz : Int) (actor : Actor) (shuffle : Shuffle)
  | submit (quiz attempt : Int) (answers : List SubmittedAnswer) (actor : Actor)
  | list (quiz : Int) (actor : Actor)
  | get (quiz attempt : Int) (actor : Actor)
  | publish (quiz : Int) (actor : Actor)

/-- What a request is answered with. -/
inductive Reply where
  | started (attempt : Attempt)
  | payload (payload : TakePayload)
  | view (view : AttemptView)
  | views (views : List AttemptView)
  | published (quiz : Int)
  deriving DecidableEq

/-- **What a request does.** -/
def Request.program : Request → Program Reply
  | start quiz actor => do return .started (← startAttempt quiz actor)
  | take quiz actor shuffle => do return .payload (← takeQuiz shuffle quiz actor)
  | submit quiz attempt answers actor => do
      return .view (← submitAttempt quiz attempt answers actor)
  | list quiz actor => do return .views (← listAttempts quiz actor)
  | get quiz attempt actor => do return .view (← getAttempt quiz attempt actor)
  | publish quiz actor => do
      publishQuiz quiz actor
      return .published quiz

/-! ### Who is no student -/

theorem startAttempt_of_not_student {actor : Actor} (h : actor.isStudent = false) (quizId : Int) :
    startAttempt quizId actor = refuse .studentsOnly := by
  simp [startAttempt, enter, requireStudent, h]

theorem submitAttempt_of_not_student {actor : Actor} (h : actor.isStudent = false)
    (quizId attemptId : Int) (answers : List SubmittedAnswer) :
    submitAttempt quizId attemptId answers actor = refuse .studentsOnly := by
  simp [submitAttempt, enter, requireStudent, h]

end QuizAttempts
