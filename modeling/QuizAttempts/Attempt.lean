/-
**Attempts at a quiz.**

An attempt is opened in progress and is graded once, either because its answers were submitted in
time or because it was found to be overdue.  An overdue attempt is graded as nothing: no score, no
answers counted, and no time of submission.  Which of the two happened can be read off the row
afterwards.

An attempt is overdue when more time has passed since its start than its quiz allows; exactly the
allowed time is still in time.

Main definitions:

* `AttemptStatus`, `Attempt`, `NewAttempt` — the row, and what a fresh row is made from;
* `Attempt.isOverdue`, `Attempt.elapsed` — time limits and the time taken;
* `Attempt.expired`, `Attempt.graded` — the two ways of closing an attempt;
* `AnswerView`, `Attempt.view` — what the learner sees.

Main results:

* `Attempt.isOpen_expired`, `Attempt.isOpen_graded`, `NewAttempt.isOpen_toAttempt` — fresh rows are
  open and closed rows are not.
-/
import QuizAttempts.Grading
import QuizAttempts.Timestamp

set_option autoImplicit false

namespace QuizAttempts

/-- The state of an attempt. -/
inductive AttemptStatus where
  | inProgress
  | graded
  deriving DecidableEq

/-- A row of the attempts. -/
structure Attempt where
  id : Int
  enrollmentId : Int
  quizId : Int
  number : Int
  status : AttemptStatus
  startedAt : Timestamp
  submittedAt : Option Timestamp
  gradedAt : Option Timestamp
  score : Option Binary64
  maxScore : Binary64
  percentage : Option Binary64
  isPassed : Option Bool
  /-- Seconds from the start to the grading. -/
  timeTaken : Option Int
  answers : List AnswerRecord
  deriving DecidableEq

/-- What a fresh attempt is made from. -/
structure NewAttempt where
  enrollmentId : Int
  quizId : Int
  number : Int
  maxScore : Binary64
  startedAt : Timestamp
  deriving DecidableEq

/-- The fresh row under an identifier. -/
def NewAttempt.toAttempt (new : NewAttempt) (id : Int) : Attempt :=
  { id := id
    enrollmentId := new.enrollmentId
    quizId := new.quizId
    number := new.number
    status := .inProgress
    startedAt := new.startedAt
    submittedAt := none
    gradedAt := none
    score := none
    maxScore := new.maxScore
    percentage := none
    isPassed := none
    timeTaken := none
    answers := [] }

namespace Attempt

/-- The attempt is in progress. -/
def isOpen (a : Attempt) : Bool := a.status = .inProgress

/-- The attempt is one of an enrollment at a quiz. -/
def isOf (a : Attempt) (enrollment quiz : Int) : Bool :=
  a.enrollmentId == enrollment && a.quizId == quiz

/-- **More time has passed than the limit allows**, to the nanosecond; without a limit, never. -/
def isOverdue (a : Attempt) (limit : Option Int) (now : Timestamp) : Bool :=
  match limit with
  | some minutes => minutes * 60 * nanosPerSecond < now.since a.startedAt
  | none => false

/-- The whole seconds since the start, none before it. -/
def elapsed (a : Attempt) (now : Timestamp) : Int := now.secondsSince a.startedAt

/-- **The attempt, closed as overdue**: graded as nothing, never submitted. -/
def expired (a : Attempt) (now : Timestamp) : Attempt :=
  { a with
    status := .graded
    gradedAt := some now
    score := some Binary64.zero
    percentage := some Binary64.zero
    isPassed := some false
    timeTaken := some (a.elapsed now) }

/-- **The attempt, closed by a submission** with a grade. -/
def graded (a : Attempt) (grade : Grade) (now : Timestamp) : Attempt :=
  { a with
    status := .graded
    submittedAt := some now
    gradedAt := some now
    score := some grade.score
    maxScore := grade.maxScore
    percentage := some grade.percentage
    isPassed := some grade.isPassed
    timeTaken := some (a.elapsed now)
    answers := grade.answers }

@[simp] theorem isOpen_expired (a : Attempt) (now : Timestamp) : (a.expired now).isOpen = false :=
  rfl

@[simp] theorem isOpen_graded (a : Attempt) (grade : Grade) (now : Timestamp) :
    (a.graded grade now).isOpen = false := rfl

@[simp] theorem isOf_expired (a : Attempt) (now : Timestamp) (e q : Int) :
    (a.expired now).isOf e q = a.isOf e q := rfl

@[simp] theorem isOf_graded (a : Attempt) (grade : Grade) (now : Timestamp) (e q : Int) :
    (a.graded grade now).isOf e q = a.isOf e q := rfl

end Attempt

@[simp] theorem NewAttempt.isOpen_toAttempt (new : NewAttempt) (id : Int) :
    (new.toAttempt id).isOpen = true := rfl

/-! ### What the learner sees -/

/-- A record as the learner sees it; whether it is right may be hidden. -/
structure AnswerView where
  questionId : Int
  selectedOptionId : Option String
  answerText : Option String
  isCorrect : Option Bool
  pointsEarned : Option Binary64
  deriving DecidableEq

/-- The view of a record. -/
def AnswerRecord.view (showCorrect : Bool) (record : AnswerRecord) : AnswerView :=
  { questionId := record.questionId
    selectedOptionId := record.selectedOptionId
    answerText := record.answerText
    isCorrect := if showCorrect then some record.isCorrect else none
    pointsEarned := if showCorrect then some record.pointsEarned else none }

/-- An attempt as the learner sees it. -/
structure AttemptView where
  id : Int
  quizId : Int
  enrollmentId : Int
  number : Int
  status : AttemptStatus
  startedAt : Timestamp
  submittedAt : Option Timestamp
  gradedAt : Option Timestamp
  score : Option Binary64
  maxScore : Binary64
  percentage : Option Binary64
  isPassed : Option Bool
  timeTaken : Option Int
  answers : List AnswerView
  deriving DecidableEq

/-- **The view of an attempt.**  Hiding what is right touches the view, never the row. -/
def Attempt.view (showCorrect : Bool) (a : Attempt) : AttemptView :=
  { id := a.id
    quizId := a.quizId
    enrollmentId := a.enrollmentId
    number := a.number
    status := a.status
    startedAt := a.startedAt
    submittedAt := a.submittedAt
    gradedAt := a.gradedAt
    score := a.score
    maxScore := a.maxScore
    percentage := a.percentage
    isPassed := a.isPassed
    timeTaken := a.timeTaken
    answers := a.answers.map (·.view showCorrect) }

/-- What is announced when an attempt has been graded through a submission. -/
structure SubmissionEvent where
  attemptId : Int
  quizId : Int
  enrollmentId : Int
  studentId : Int
  percentage : Binary64
  isPassed : Bool
  submittedAt : Timestamp
  deriving DecidableEq

end QuizAttempts
