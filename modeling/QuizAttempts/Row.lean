/-
**Rows as they are stored, and the records they stand for.**

A stored row names its type or its status by a text, and a row of the questions has one column for
the choices and one for the key, whatever the type of the question.  Turning a row into a record
finds the name in its table and puts each column into the place that the type has for it.  A row
with something in a column for which its type has no place is refused and not trimmed, so
different rows never stand for the same question.

Main definitions:

* `QuizType.ofName?`, `AttemptStatus.ofName?` — the names under which types and statuses are stored;
* `QuestionRow`, `QuizRow`, `AttemptRow` — rows;
* `RowFlaw` — the ways in which a row stands for nothing;
* `QuestionRow.question`, `QuizRow.quiz`, `AttemptRow.attempt` — **the record of a row**.

Main results:

* `QuizType.ofName?_name`, `AttemptStatus.ofName?_name` — types and statuses are found under their
  names.
-/
import QuizAttempts.Attempt
import QuizAttempts.Text.Numeral

set_option autoImplicit false

namespace QuizAttempts

/-! ### Names -/

/-- The name of a type of quizzes. -/
def QuizType.name : QuizType → String
  | practice => "practice"
  | graded => "graded"

/-- The type with a name. -/
def QuizType.ofName? (name : String) : Option QuizType :=
  if name = "practice" then some .practice
  else if name = "graded" then some .graded
  else none

/-- The name of a status. -/
def AttemptStatus.name : AttemptStatus → String
  | inProgress => "in_progress"
  | graded => "graded"

/-- The status with a name. -/
def AttemptStatus.ofName? (name : String) : Option AttemptStatus :=
  if name = "in_progress" then some .inProgress
  else if name = "graded" then some .graded
  else none

@[simp] theorem QuizType.ofName?_name (t : QuizType) : QuizType.ofName? t.name = some t := by
  cases t <;> rfl

@[simp] theorem AttemptStatus.ofName?_name (s : AttemptStatus) :
    AttemptStatus.ofName? s.name = some s := by
  cases s <;> rfl

/-! ### Flaws -/

/-- A way in which a row stands for no record. -/
inductive RowFlaw where
  | keyBesideChoices (id : Int)
  | strayChoices (id : Int)
  | essayKey (id : Int)
  | unknownQuestionType (id : Int) (name : String)
  | unknownQuizType (name : String)
  | unknownStatus (name : String)
  deriving DecidableEq

/-- How a flaw is reported. -/
def RowFlaw.message : RowFlaw → String
  | keyBesideChoices id =>
      "Question " ++ showInt id ++ " is malformed: multiple_choice stores its key in options"
  | strayChoices id =>
      "Question " ++ showInt id ++ " is malformed: only multiple_choice questions carry options"
  | essayKey id => "Question " ++ showInt id ++ " is malformed: essay questions have no answer key"
  | unknownQuestionType id name =>
      "Question " ++ showInt id ++ " has unknown type '" ++ name ++ "'"
  | unknownQuizType name => "Unknown quiz type '" ++ name ++ "'"
  | unknownStatus name => "Unknown attempt status '" ++ name ++ "'"

/-- The type of quizzes that a stored name stands for. -/
def QuizType.ofStored (name : String) : Except RowFlaw QuizType :=
  match QuizType.ofName? name with
  | some t => .ok t
  | none => .error (.unknownQuizType name)

/-- The status that a stored name stands for. -/
def AttemptStatus.ofStored (name : String) : Except RowFlaw AttemptStatus :=
  match AttemptStatus.ofName? name with
  | some s => .ok s
  | none => .error (.unknownStatus name)

/-! ### Questions -/

/-- A row of the questions. -/
structure QuestionRow where
  id : Int
  quizId : Int
  typeName : String
  content : String
  points : Binary64
  orderIndex : Int
  choices : List Choice
  key : Option String
  deriving DecidableEq

/-- The kind of a row: each type takes the columns for which it has a place and refuses the
others. -/
def QuestionRow.kind (row : QuestionRow) : Except RowFlaw QuestionKind :=
  if row.typeName = "multiple_choice" then
    if row.key.isSome then .error (.keyBesideChoices row.id) else .ok (.multipleChoice row.choices)
  else if row.typeName = "true_false" then
    if row.choices.isEmpty then .ok (.trueFalse row.key) else .error (.strayChoices row.id)
  else if row.typeName = "short_answer" then
    if row.choices.isEmpty then .ok (.shortAnswer row.key) else .error (.strayChoices row.id)
  else if row.typeName = "essay" then
    if !row.choices.isEmpty then .error (.strayChoices row.id)
    else if row.key.isSome then .error (.essayKey row.id)
    else .ok .essay
  else .error (.unknownQuestionType row.id row.typeName)

/-- **The question of a row.** -/
def QuestionRow.question (row : QuestionRow) : Except RowFlaw Question :=
  row.kind.map fun kind =>
    { id := row.id
      quizId := row.quizId
      content := row.content
      points := row.points
      orderIndex := row.orderIndex
      kind := kind }

/-! ### Quizzes -/

/-- A row of the quizzes, with its questions. -/
structure QuizRow where
  id : Int
  lessonId : Int
  title : String
  typeName : String
  passingScore : Binary64
  timeLimit : Option Int
  maxAttempts : Option Int
  shuffleQuestions : Bool
  shuffleOptions : Bool
  showCorrectAnswers : Bool
  isPublished : Bool
  questions : List Question
  deriving DecidableEq

/-- **The quiz of a row.** -/
def QuizRow.quiz (row : QuizRow) : Except RowFlaw Quiz :=
  (QuizType.ofStored row.typeName).map fun quizType =>
    { id := row.id
      lessonId := row.lessonId
      title := row.title
      quizType := quizType
      passingScore := row.passingScore
      timeLimit := row.timeLimit
      maxAttempts := row.maxAttempts
      shuffleQuestions := row.shuffleQuestions
      shuffleOptions := row.shuffleOptions
      showCorrectAnswers := row.showCorrectAnswers
      isPublished := row.isPublished
      questions := row.questions }

/-! ### Attempts -/

/-- A row of the attempts. -/
structure AttemptRow where
  id : Int
  enrollmentId : Int
  quizId : Int
  number : Int
  statusName : String
  startedAt : Timestamp
  submittedAt : Option Timestamp
  gradedAt : Option Timestamp
  score : Option Binary64
  maxScore : Binary64
  percentage : Option Binary64
  isPassed : Option Bool
  timeTaken : Option Int
  answers : List AnswerRecord
  deriving DecidableEq

/-- **The attempt of a row.** -/
def AttemptRow.attempt (row : AttemptRow) : Except RowFlaw Attempt :=
  (AttemptStatus.ofStored row.statusName).map fun status =>
    { id := row.id
      enrollmentId := row.enrollmentId
      quizId := row.quizId
      number := row.number
      status := status
      startedAt := row.startedAt
      submittedAt := row.submittedAt
      gradedAt := row.gradedAt
      score := row.score
      maxScore := row.maxScore
      percentage := row.percentage
      isPassed := row.isPassed
      timeTaken := row.timeTaken
      answers := row.answers }

end QuizAttempts
