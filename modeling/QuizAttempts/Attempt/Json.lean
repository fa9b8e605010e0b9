/-
**Attempts, answers and announcements as documents.**

Times are written and read as text in the one form that `Timestamp.write` fixes and the several
that `Timestamp.read?` takes.  Scores that are not finite are written as null, which is why an
attempt with such a score does not read back.

Main definitions:

* `Attempt.toJson`, `AnswerRecord.toJson`, `AttemptView.toJson`, `SubmissionEvent.toJson` — writing;
* `Attempt.ofJson`, `AnswerRecord.ofJson`, `SubmittedAnswer.ofJson`, `SubmissionEvent.ofJson`,
  `readSubmission` — reading.
-/
import QuizAttempts.Quiz.Json
import QuizAttempts.Refusal
import QuizAttempts.Timestamp.Written

set_option autoImplicit false

namespace QuizAttempts

open Json Json.RecordReader

/-! ### Times and statuses -/

/-- A moment. -/
def asTimestamp : Json → Reading Timestamp
  | .string s =>
      match Timestamp.read? s.toList with
      | some t => .ok t
      | none => .error .mismatched
  | j => .error j.fault

/-- A moment. -/
def Timestamp.toJson (t : Timestamp) : Json := .string (String.ofList t.write)

/-- The status of an attempt. -/
def AttemptStatus.ofJson : Json → Reading AttemptStatus :=
  asTag [("in_progress", .inProgress), ("graded", .graded)]

/-- The status of an attempt. -/
def AttemptStatus.toJson (s : AttemptStatus) : Json := .string s.name

/-! ### Answers -/

/-- The fields of an answer as sent. -/
def SubmittedAnswer.reader : RecordReader SubmittedAnswer :=
  SubmittedAnswer.mk <$> required "question_id" asInt64 <*>
    defaulted "selected_option_id" (asOption asString) none <*>
    defaulted "answer_text" (asOption asString) none

/-- An answer as sent. -/
def SubmittedAnswer.ofJson : Json → Reading SubmittedAnswer := SubmittedAnswer.reader.read

/-- An answer as sent. -/
def SubmittedAnswer.toJson (answer : SubmittedAnswer) : Json :=
  .record [("question_id", .int answer.questionId),
    ("selected_option_id", .ofOption .string answer.selectedOptionId),
    ("answer_text", .ofOption .string answer.answerText)]

/-- **The answers of a submission**, none if nothing is said about them. -/
def readSubmission : Json → Reading (List SubmittedAnswer) :=
  (defaulted "answers" (asList SubmittedAnswer.ofJson) []).read

/-- Refuses a submission of too many answers. -/
def limitAnswers (answers : List SubmittedAnswer) : Except Refusal (List SubmittedAnswer) :=
  if answers.length ≤ mostAnswers then .ok answers else .error .tooManyAnswers

/-- The fields of the record of a graded question. -/
def AnswerRecord.reader : RecordReader AnswerRecord :=
  AnswerRecord.mk <$> required "question_id" asInt64 <*> optional "selected_option_id" asString <*>
    optional "answer_text" asString <*> required "is_correct" asBool <*>
    required "points_earned" asFloat

/-- The record of a graded question. -/
def AnswerRecord.ofJson : Json → Reading AnswerRecord := AnswerRecord.reader.read

/-- The record of a graded question. -/
def AnswerRecord.toJson (record : AnswerRecord) : Json :=
  .record [("question_id", .int record.questionId),
    ("selected_option_id", .ofOption .string record.selectedOptionId),
    ("answer_text", .ofOption .string record.answerText),
    ("is_correct", .bool record.isCorrect), ("points_earned", .ofBinary64 record.pointsEarned)]

/-- The view of a graded question. -/
def AnswerView.toJson (view : AnswerView) : Json :=
  .record [("question_id", .int view.questionId),
    ("selected_option_id", .ofOption .string view.selectedOptionId),
    ("answer_text", .ofOption .string view.answerText),
    ("is_correct", .ofOption .bool view.isCorrect),
    ("points_earned", .ofOption .ofBinary64 view.pointsEarned)]

/-! ### Attempts -/

/-- The fields of an attempt, around the form that its status has. -/
def attemptReader {σ α : Type}
    (make : Int → Int → Int → Int → σ → Timestamp → Option Timestamp → Option Timestamp →
      Option Binary64 → Binary64 → Option Binary64 → Option Bool → Option Int →
      List AnswerRecord → α)
    (status : Json → Reading σ) : RecordReader α :=
  make <$> required "id" asInt64 <*> required "enrollment_id" asInt64 <*>
    required "quiz_id" asInt64 <*> required "attempt_number" asInt32 <*>
    required "status" status <*> required "started_at" asTimestamp <*>
    optional "submitted_at" asTimestamp <*> optional "graded_at" asTimestamp <*>
    optional "score" asFloat <*> required "max_score" asFloat <*> optional "percentage" asFloat <*>
    optional "is_passed" asBool <*> optional "time_taken_seconds" asInt64 <*>
    required "answers" (asList AnswerRecord.ofJson)

/-- The fields of an attempt. -/
def Attempt.reader : RecordReader Attempt := attemptReader Attempt.mk AttemptStatus.ofJson

/-- The columns of a row of the attempts. -/
def AttemptRow.reader : RecordReader AttemptRow := attemptReader AttemptRow.mk asString

/-- **An attempt.** -/
def Attempt.ofJson : Json → Reading Attempt := Attempt.reader.read

/-- An attempt. -/
def Attempt.toJson (a : Attempt) : Json :=
  .record [("id", .int a.id), ("enrollment_id", .int a.enrollmentId), ("quiz_id", .int a.quizId),
    ("attempt_number", .int a.number), ("status", a.status.toJson),
    ("started_at", a.startedAt.toJson), ("submitted_at", .ofOption Timestamp.toJson a.submittedAt),
    ("graded_at", .ofOption Timestamp.toJson a.gradedAt), ("score", .ofOption .ofBinary64 a.score),
    ("max_score", .ofBinary64 a.maxScore), ("percentage", .ofOption .ofBinary64 a.percentage),
    ("is_passed", .ofOption .bool a.isPassed), ("time_taken_seconds", .ofOption .int a.timeTaken),
    ("answers", .ofList AnswerRecord.toJson a.answers)]

/-- The view of an attempt. -/
def AttemptView.toJson (v : AttemptView) : Json :=
  .record [("id", .int v.id), ("quiz_id", .int v.quizId), ("enrollment_id", .int v.enrollmentId),
    ("attempt_number", .int v.number), ("status", v.status.toJson),
    ("started_at", v.startedAt.toJson), ("submitted_at", .ofOption Timestamp.toJson v.submittedAt),
    ("graded_at", .ofOption Timestamp.toJson v.gradedAt), ("score", .ofOption .ofBinary64 v.score),
    ("max_score", .ofBinary64 v.maxScore), ("percentage", .ofOption .ofBinary64 v.percentage),
    ("is_passed", .ofOption .bool v.isPassed), ("time_taken_seconds", .ofOption .int v.timeTaken),
    ("answers", .ofList AnswerView.toJson v.answers)]

/-! ### Announcements -/

/-- The fields of an announcement. -/
def SubmissionEvent.reader : RecordReader SubmissionEvent :=
  SubmissionEvent.mk <$> required "attempt_id" asInt64 <*> required "quiz_id" asInt64 <*>
    required "enrollment_id" asInt64 <*> required "student_id" asInt64 <*>
    required "percentage" asFloat <*> required "is_passed" asBool <*>
    required "submitted_at" asTimestamp

/-- An announcement. -/
def SubmissionEvent.ofJson : Json → Reading SubmissionEvent := SubmissionEvent.reader.read

/-- An announcement. -/
def SubmissionEvent.toJson (event : SubmissionEvent) : Json :=
  .record [("attempt_id", .int event.attemptId), ("quiz_id", .int event.quizId),
    ("enrollment_id", .int event.enrollmentId), ("student_id", .int event.studentId),
    ("percentage", .ofBinary64 event.percentage), ("is_passed", .bool event.isPassed),
    ("submitted_at", event.submittedAt.toJson)]

end QuizAttempts
