/-
**Why a request is refused.**

A refusal is a cause.  Each cause has a kind, which decides how the refusal travels and whether
the same request may be sent again, and a text.  The texts of internal faults are for the log:
they are not told to the one who asked.

Main definitions:

* `Refusal` — the causes;
* `Refusal.kind`, `Refusal.message`, `Refusal.report` — kinds and texts;
* `Report.status`, `Report.isRetryable`, `Report.told` — how a refusal is answered.

Main results:

* `Report.told_fault` — **nothing is told about a fault**;
* `Report.isRetryable_iff` — only a collision is worth another try.
-/
import QuizAttempts.Actor
import QuizAttempts.Quiz.Publishing
import QuizAttempts.Row

set_option autoImplicit false

namespace QuizAttempts

/-! ### Kinds -/

/-- The kinds of refusals. -/
inductive RefusalKind where
  /-- Something inside is not as it has to be. -/
  | fault
  /-- The request makes no sense. -/
  | invalid
  /-- It is not known who asks. -/
  | unidentified
  /-- The one who asks may not. -/
  | forbidden
  /-- What is asked for is not there. -/
  | missing
  /-- Somebody else was first. -/
  | collision
  deriving DecidableEq

/-- A kind with a text. -/
structure Report where
  kind : RefusalKind
  message : String
  deriving DecidableEq

namespace Report

/-- What a log says in front of the text. -/
def heading : RefusalKind → String
  | .fault => "internal error"
  | .invalid => "validation failed"
  | .unidentified => "unauthorized"
  | .forbidden => "forbidden"
  | .missing => "not found"
  | .collision => "conflict"

/-- What a log says. -/
def display (report : Report) : String := heading report.kind ++ ": " ++ report.message

/-- The same request may be sent again unchanged. -/
def isRetryable (report : Report) : Bool := report.kind = .collision

/-- The number under which a kind is answered. -/
def status (report : Report) : Nat :=
  match report.kind with
  | .fault => 500
  | .invalid => 400
  | .unidentified => 401
  | .forbidden => 403
  | .missing => 404
  | .collision => 409

/-- What the one who asked is told. -/
def told (report : Report) : String :=
  match report.kind with
  | .fault => "Internal Server Error"
  | _ => report.message

theorem told_fault (message : String) : told ⟨.fault, message⟩ = "Internal Server Error" := rfl

theorem isRetryable_iff {report : Report} :
    report.isRetryable = true ↔ report.kind = .collision := by
  simp [isRetryable]

end Report

/-! ### Causes -/

/-- The causes of refusals. -/
inductive Refusal where
  -- who asks
  | invalidToken
  | claims (flaw : ClaimsFlaw)
  | studentsOnly
  | managersOnly
  | notEnrolled
  -- what is asked for
  | noQuiz
  | noLesson
  | noAttempt
  -- the state of it
  | unpublished
  | alreadyRunning
  | exhausted
  | alreadySubmitted
  | tooLate
  -- what was sent
  | tooManyAnswers
  | submission (flaw : SubmissionFlaw)
  | publishing (flaw : PublishingFlaw)
  | noDocument
  -- who else writes
  | taken (number : Int)
  | outrun
  | notInProgress (id : Int)
  -- what is stored
  | malformed (question : MalformedQuestion)
  | row (flaw : RowFlaw)
  | noRow
  | unset (name : String)
  deriving DecidableEq

namespace Refusal

/-- The kind of a refusal. -/
def kind : Refusal → RefusalKind
  | invalidToken | claims _ => .unidentified
  | studentsOnly | managersOnly | notEnrolled => .forbidden
  | noQuiz | noLesson | noAttempt => .missing
  | unpublished | alreadyRunning | exhausted | alreadySubmitted | tooLate => .forbidden
  | tooManyAnswers | submission _ | publishing _ | noDocument => .invalid
  | taken _ | outrun => .collision
  | notInProgress _ | malformed _ | row _ | noRow | unset _ => .fault

/-- The text of a refusal. -/
def message : Refusal → String
  | invalidToken => "Invalid token"
  | claims flaw => flaw.message
  | studentsOnly => "Only students can take quizzes"
  | managersOnly => "Only the course instructor or an admin can publish"
  | notEnrolled => "You are not enrolled in this course"
  | noQuiz => "Quiz not found"
  | noLesson => "Lesson not found"
  | noAttempt => "Attempt not found"
  | unpublished => "Quiz is not published"
  | alreadyRunning => "An attempt is already in progress"
  | exhausted => "Maximum attempts reached"
  | alreadySubmitted => "Attempt already submitted"
  | tooLate => "Time limit exceeded"
  | tooManyAnswers => "answers: Too many answers in one submission."
  | submission flaw => flaw.message
  | publishing flaw => flaw.message
  | noDocument => "EOF while parsing a value at line 1 column 0"
  | taken number => "Attempt " ++ showInt number ++ " for this quiz was created concurrently"
  | outrun => "Another attempt was started at the same time, please retry"
  | notInProgress id => "Attempt " ++ showInt id ++ " is no longer in progress"
  | malformed question =>
      "Question " ++ showInt question.id ++ " is malformed: " ++ question.flaw.message
  | row flaw => flaw.message
  | noRow => "no rows returned by a query that expected to return at least one row"
  | unset name => name ++ " must be set"

/-- **A refusal as it is reported.** -/
def report (why : Refusal) : Report := ⟨why.kind, why.message⟩

@[simp] theorem report_kind (why : Refusal) : why.report.kind = why.kind := rfl

@[simp] theorem report_message (why : Refusal) : why.report.message = why.message := rfl

end Refusal

end QuizAttempts
