/-
**Quizzes and their questions.**

A quiz belongs to a lesson, and a lesson to a course with an instructor.  A question is of one of
four kinds, and each kind owns what its grading rule needs: the choices of a multiple-choice
question carry their own marks, a true-or-false or a short-answer question has a key, and an essay
has none.

Main definitions:

* `QuizType`, `Lesson`, `Choice`, `QuestionKind`, `Question`, `Quiz` — the records;
* `QuestionKind.typeName` — the name under which a kind is stored;
* `Question.place`, `Quiz.sorted` — the order of questions;
* `Quiz.question?` — the first question with an identifier;
* `Quiz.maxScore` — the sum of all points, in the order in which the questions are held.

Main results:

* `Quiz.sorted_sorted` — sorting the questions twice is sorting them once.
-/
import QuizAttempts.Binary64
import QuizAttempts.Place

set_option autoImplicit false

namespace QuizAttempts

/-- Whether a quiz is for practice or counts. -/
inductive QuizType where
  | practice
  | graded
  deriving DecidableEq

/-- What places a lesson in a course. -/
structure Lesson where
  id : Int
  courseId : Int
  instructorId : Int
  deriving DecidableEq

/-- A choice of a multiple-choice question. -/
structure Choice where
  id : String
  text : String
  isCorrect : Bool
  deriving DecidableEq

/-- The kinds of questions with what their grading needs. -/
inductive QuestionKind where
  | multipleChoice (choices : List Choice)
  | trueFalse (key : Option String)
  | shortAnswer (key : Option String)
  | essay
  deriving DecidableEq

namespace QuestionKind

/-- The name under which a kind is stored. -/
def typeName : QuestionKind → String
  | multipleChoice _ => "multiple_choice"
  | trueFalse _ => "true_false"
  | shortAnswer _ => "short_answer"
  | essay => "essay"

/-- The choices of a question, none unless it is multiple choice. -/
def choices : QuestionKind → List Choice
  | multipleChoice choices => choices
  | _ => []

@[simp] theorem choices_multipleChoice (cs : List Choice) : (multipleChoice cs).choices = cs := rfl

end QuestionKind

/-- A question. -/
structure Question where
  id : Int
  quizId : Int
  content : String
  points : Binary64
  orderIndex : Int
  kind : QuestionKind
  deriving DecidableEq

/-- Where a question stands in its quiz. -/
def Question.place (q : Question) : Int × Int := (q.orderIndex, q.id)

/-- A quiz with its settings.  The questions are absent when only the settings are loaded. -/
structure Quiz where
  id : Int
  lessonId : Int
  title : String
  quizType : QuizType
  /-- The percentage that passes. -/
  passingScore : Binary64
  /-- Minutes per attempt. -/
  timeLimit : Option Int
  maxAttempts : Option Int
  shuffleQuestions : Bool
  shuffleOptions : Bool
  showCorrectAnswers : Bool
  isPublished : Bool
  questions : List Question
  deriving DecidableEq

namespace Quiz

/-- The quiz with its questions in their order. -/
def sorted (quiz : Quiz) : Quiz := { quiz with questions := inPlace Question.place quiz.questions }

/-- The quiz without its questions. -/
def settings (quiz : Quiz) : Quiz := { quiz with questions := [] }

/-- The quiz, published. -/
def published (quiz : Quiz) : Quiz := { quiz with isPublished := true }

@[simp] theorem sorted_sorted (quiz : Quiz) : quiz.sorted.sorted = quiz.sorted := by
  simp [sorted, inPlace_inPlace]

@[simp] theorem questions_settings (quiz : Quiz) : quiz.settings.questions = [] := rfl

/-- The first question with an identifier. -/
def question? (quiz : Quiz) (id : Int) : Option Question := quiz.questions.find? (·.id == id)

/-- **The sum of the points of all questions.** -/
def maxScore (quiz : Quiz) : Binary64 := Binary64.sum (quiz.questions.map (·.points))

/-- No more attempts may be started once `latest` is the highest number. -/
def isExhausted (quiz : Quiz) (latest : Int) : Bool :=
  match quiz.maxAttempts with
  | some most => most ≤ latest
  | none => false

end Quiz

end QuizAttempts
