/-
**Quizzes as documents.**

A question is written as one object: its own members and those of its kind, with the name of the
kind under `question_type`.  Reading it back needs the name first, and the name may stand
anywhere, so all members that are not the question's own are taken whole before the kind is read
from them.  Members that belong to other kinds are passed over.

The kind of a question stands in a document of its own as an object of the same form, or as an
array of the name and the one thing that the kind needs.

Main definitions:

* `Choice.toJson`, `QuestionKind.toJson`, `Question.toJson`, `Quiz.toJson`, `Lesson.toJson` —
  writing;
* `Choice.ofJson`, `QuestionKind.ofJson`, `Question.ofJson`, `Quiz.ofJson`, `Lesson.ofJson`,
  `QuizType.ofJson` — reading.

Main results:

* `QuestionKind.kindReader?_typeName` — every kind has a reader under its name.
-/
import QuizAttempts.Json.Record
import QuizAttempts.Row

set_option autoImplicit false

namespace QuizAttempts

open Json Json.RecordReader

/-! ### Small records -/

/-- A 64-bit integer. -/
def asInt64 : Json → Reading Int := asInt isInt64

/-- A 32-bit integer. -/
def asInt32 : Json → Reading Int := asInt isInt32

/-- A type of quizzes. -/
def QuizType.ofJson : Json → Reading QuizType :=
  asTag [("practice", .practice), ("graded", .graded)]

/-- A type of quizzes. -/
def QuizType.toJson (t : QuizType) : Json := .string t.name

/-- The fields of a lesson. -/
def Lesson.reader : RecordReader Lesson :=
  Lesson.mk <$> required "id" asInt64 <*> required "course_id" asInt64 <*>
    required "instructor_id" asInt64

/-- A lesson. -/
def Lesson.ofJson : Json → Reading Lesson := Lesson.reader.read

/-- A lesson. -/
def Lesson.toJson (lesson : Lesson) : Json :=
  .record [("id", .int lesson.id), ("course_id", .int lesson.courseId),
    ("instructor_id", .int lesson.instructorId)]

/-- The fields of a choice. -/
def Choice.reader : RecordReader Choice :=
  Choice.mk <$> required "id" asString <*> required "text" asString <*>
    defaulted "is_correct" asBool false

/-- A choice. -/
def Choice.ofJson : Json → Reading Choice := Choice.reader.read

/-- A choice. -/
def Choice.toJson (choice : Choice) : Json :=
  .record [("id", .string choice.id), ("text", .string choice.text),
    ("is_correct", .bool choice.isCorrect)]

/-! ### Kinds -/

namespace QuestionKind

/-- The name under which the name of a kind stands. -/
def tagName : String := "question_type"

/-- What each kind needs, by the names of the kinds. -/
def kindReaders : List (String × RecordReader QuestionKind) :=
  [("multiple_choice", multipleChoice <$> required "options" (asList Choice.ofJson)),
   ("true_false", trueFalse <$> optional "correct_answer" asString),
   ("short_answer", shortAnswer <$> optional "correct_answer" asString),
   ("essay", pure essay)]

/-- What a kind needs, by its name. -/
def kindReader? (name : String) : Option (RecordReader QuestionKind) := kindReaders.lookup name

theorem kindReader?_typeName (kind : QuestionKind) : (kindReader? kind.typeName).isSome = true := by
  cases kind <;> rfl

/-- A kind by its name. -/
def tagByName : Json → Reading (RecordReader QuestionKind)
  | .string name =>
      match kindReader? name with
      | some reader => .ok reader
      | none => .error .mismatched
  | j => .error j.fault

/-- A kind by its name or by its place among the kinds. -/
def tagByNameOrPlace : Json → Reading (RecordReader QuestionKind)
  | .int n =>
      match n with
      | .ofNat place =>
          match kindReaders[place]? with
          | some (_, reader) => .ok reader
          | none => .error .mismatched
      | .negSucc _ => .error .mismatched
  | j => tagByName j

/-- A kind out of the members of an object, among which its name stands once; the others have been
taken whole. -/
def ofMembers (tag : Json → Reading (RecordReader QuestionKind))
    (members : List (Option String × Json)) : Reading QuestionKind := do
  match members.filter (·.1 == some tagName) with
  | [(_, name)] =>
      let reader ← tag name
      reader.fromObject (members.filter (·.1 != some tagName))
  | _ => .error .mismatched

/-- **A kind in a document of its own.** -/
def ofJson : Json → Reading QuestionKind
  | .object members =>
      if membersAreReadable (deepest - 1) members then ofMembers tagByName members
      else .error .malformed
  | .array (name :: items) => do
      let reader ← tagByName name
      if areReadable (deepest - 1) items then reader.fromArray items else .error .malformed
  | j => .error j.fault

/-- The members of a kind. -/
def toMembers (kind : QuestionKind) : List (String × Json) :=
  (tagName, .string kind.typeName) ::
    match kind with
    | multipleChoice choices => [("options", .ofList Choice.toJson choices)]
    | trueFalse key | shortAnswer key => [("correct_answer", .ofOption .string key)]
    | essay => []

/-- A kind. -/
def toJson (kind : QuestionKind) : Json := .record kind.toMembers

end QuestionKind

/-! ### Questions -/

/-- The fields of a question that are its own, waiting for the kind. -/
def Question.reader : RecordReader (QuestionKind → Question) :=
  Question.mk <$> required "id" asInt64 <*> required "quiz_id" asInt64 <*>
    required "content" asString <*> required "points" asFloat <*> required "order_index" asInt32

/-- **A question**, read from an object; what is not its own may be nested as deeply as `room`. -/
def Question.ofJson (room : Nat) : Json → Reading Question
  | .object members => do
      let question ← Question.reader.fromMembers (·.isReadable room) members
      let own := Question.reader.fields.map (·.name)
      let others := members.filter fun member => member.1.all fun name => !own.contains name
      let kind ← QuestionKind.ofMembers QuestionKind.tagByNameOrPlace others
      .ok (question kind)
  | j => .error j.fault

/-- A question in a document of its own. -/
def Question.ofDocument : Json → Reading Question := Question.ofJson (deepest - 1)

/-- A question. -/
def Question.toJson (q : Question) : Json :=
  .record ([("id", .int q.id), ("quiz_id", .int q.quizId), ("content", .string q.content),
    ("points", .ofBinary64 q.points), ("order_index", .int q.orderIndex)] ++ q.kind.toMembers)

/-! ### Quizzes -/

/-- The fields of a quiz. -/
def Quiz.reader : RecordReader Quiz :=
  Quiz.mk <$> required "id" asInt64 <*> required "lesson_id" asInt64 <*>
    required "title" asString <*> required "quiz_type" QuizType.ofJson <*>
    required "passing_score" asFloat <*> optional "time_limit_minutes" asInt32 <*>
    optional "max_attempts" asInt32 <*> required "shuffle_questions" asBool <*>
    required "shuffle_options" asBool <*> required "show_correct_answers" asBool <*>
    required "is_published" asBool <*>
    defaulted "questions" (asList (Question.ofJson (deepest - 3))) []

/-- **A quiz.** -/
def Quiz.ofJson : Json → Reading Quiz := Quiz.reader.read

/-- A quiz. -/
def Quiz.toJson (quiz : Quiz) : Json :=
  .record [("id", .int quiz.id), ("lesson_id", .int quiz.lessonId), ("title", .string quiz.title),
    ("quiz_type", quiz.quizType.toJson), ("passing_score", .ofBinary64 quiz.passingScore),
    ("time_limit_minutes", .ofOption .int quiz.timeLimit),
    ("max_attempts", .ofOption .int quiz.maxAttempts),
    ("shuffle_questions", .bool quiz.shuffleQuestions),
    ("shuffle_options", .bool quiz.shuffleOptions),
    ("show_correct_answers", .bool quiz.showCorrectAnswers),
    ("is_published", .bool quiz.isPublished),
    ("questions", .ofList Question.toJson quiz.questions)]

/-! ### Rows -/

/-- The columns of a row of the questions. -/
def QuestionRow.reader : RecordReader QuestionRow :=
  QuestionRow.mk <$> required "id" asInt64 <*> required "quiz_id" asInt64 <*>
    required "question_type" asString <*> required "content" asString <*>
    required "points" asFloat <*> required "order_index" asInt32 <*>
    required "options" (asList Choice.ofJson) <*> optional "correct_answer" asString

/-- The columns of a row of the quizzes. -/
def QuizRow.reader : RecordReader QuizRow :=
  QuizRow.mk <$> required "id" asInt64 <*> required "lesson_id" asInt64 <*>
    required "title" asString <*> required "quiz_type" asString <*>
    required "passing_score" asFloat <*> optional "time_limit_minutes" asInt32 <*>
    optional "max_attempts" asInt32 <*> required "shuffle_questions" asBool <*>
    required "shuffle_options" asBool <*> required "show_correct_answers" asBool <*>
    required "is_published" asBool <*>
    required "questions" (asList (Question.ofJson (deepest - 3)))

end QuizAttempts
