/-
**Take payloads as documents, and the order that is read off them.**

A shuffled payload can only be compared with another after both have been put into one order.
Choices are put in order by their identifiers and texts, and questions by their places and, where
these are equal, by the documents that they are written as.  Putting in order is itself a shuffle:
it loses and invents nothing.

Main definitions:

* `TakePayload.toJson`, `TakePayload.ofJson` — writing and reading;
* `Shuffle.ordered` — **the shuffle that puts everything in order**.

Main results:

* `PublicChoice.le_total`, `PublicQuestion.le_total` — both orders compare everything.
-/
import QuizAttempts.Json.Writer
import QuizAttempts.Quiz.Json
import QuizAttempts.TakePayload
import QuizAttempts.Text.Order

set_option autoImplicit false

namespace QuizAttempts

open Json Json.RecordReader

/-! ### Writing and reading -/

/-- The fields of a choice. -/
def PublicChoice.reader : RecordReader PublicChoice :=
  PublicChoice.mk <$> required "id" asString <*> required "text" asString

/-- A choice. -/
def PublicChoice.ofJson : Json → Reading PublicChoice := PublicChoice.reader.read

/-- A choice. -/
def PublicChoice.toJson (choice : PublicChoice) : Json :=
  .record [("id", .string choice.id), ("text", .string choice.text)]

/-- The fields of a question. -/
def PublicQuestion.reader : RecordReader PublicQuestion :=
  PublicQuestion.mk <$> required "id" asInt64 <*> required "question_type" asString <*>
    required "content" asString <*> required "points" asFloat <*> required "order_index" asInt32 <*>
    required "options" (asList PublicChoice.ofJson)

/-- A question. -/
def PublicQuestion.ofJson : Json → Reading PublicQuestion := PublicQuestion.reader.read

/-- A question, its members in the order in which they are read: questions are sorted by this
text. -/
def PublicQuestion.toJson (q : PublicQuestion) : Json :=
  .record [("id", .int q.id), ("question_type", .string q.typeName),
    ("content", .string q.content), ("points", .ofBinary64 q.points),
    ("order_index", .int q.orderIndex), ("options", .ofList PublicChoice.toJson q.choices)]

/-- The fields of a payload. -/
def TakePayload.reader : RecordReader TakePayload :=
  TakePayload.mk <$> required "quiz_id" asInt64 <*> required "title" asString <*>
    optional "time_limit_minutes" asInt32 <*> optional "max_attempts" asInt32 <*>
    required "questions" (asList PublicQuestion.ofJson)

/-- **A payload.** -/
def TakePayload.ofJson : Json → Reading TakePayload := TakePayload.reader.read

/-- A payload. -/
def TakePayload.toJson (payload : TakePayload) : Json :=
  .record [("quiz_id", .int payload.quizId), ("title", .string payload.title),
    ("time_limit_minutes", .ofOption .int payload.timeLimit),
    ("max_attempts", .ofOption .int payload.maxAttempts),
    ("questions", .ofList PublicQuestion.toJson payload.questions)]

/-! ### Putting in order -/

/-- A choice is not behind another: by identifiers and then by texts. -/
def PublicChoice.le (a b : PublicChoice) : Bool :=
  if a.id = b.id then textLe a.text.toList b.text.toList else textLe a.id.toList b.id.toList

/-- A question is not behind another: by places and then by documents. -/
def PublicQuestion.le (a b : PublicQuestion) : Bool :=
  if a.place = b.place then textLe (write a.toJson) (write b.toJson) else placeLe a.place b.place

/-- **The shuffle that puts everything in order.** -/
def Shuffle.ordered : Shuffle :=
  { choices := fun _ cs => cs.mergeSort PublicChoice.le
    questions := fun qs => qs.mergeSort PublicQuestion.le
    choices_perm := fun _ cs => List.mergeSort_perm cs _
    questions_perm := fun qs => List.mergeSort_perm qs _ }

theorem PublicChoice.le_total (a b : PublicChoice) : (a.le b || b.le a) = true := by
  by_cases h : a.id = b.id
  · simpa only [le, h, if_true] using textLe_total a.text.toList b.text.toList
  · have h' : ¬ b.id = a.id := fun hba => h hba.symm
    simpa only [le, h, h', if_false] using textLe_total a.id.toList b.id.toList

theorem PublicQuestion.le_total (a b : PublicQuestion) : (a.le b || b.le a) = true := by
  by_cases h : a.place = b.place
  · simpa only [le, h, if_true] using textLe_total (write a.toJson) (write b.toJson)
  · have h' : ¬ b.place = a.place := fun hba => h hba.symm
    simpa only [le, h, h', if_false] using placeLe_total a.place b.place

end QuizAttempts
