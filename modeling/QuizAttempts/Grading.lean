/-
**Grading.**

A question is right or wrong: there is no partial credit, an unanswered question is wrong, and an
essay is never credited.  A choice is right when it is the first one marked as correct, and a text
is right when it equals the key after white space has been taken from both ends of both and both
have been lower-cased.  Every question of the quiz is graded, answered or not, in the order of
places, and none is graded whose shape is flawed.

The totals are rounded to two decimals.  The maximum is summed in the order in which the quiz
holds its questions and the score in the order of their places, and the order matters for the last
bit.

Main definitions:

* `sameAnswer` — the comparison of texts;
* `QuestionKind.credits` — whether an answer is right;
* `AnswerRecord`, `Question.grade` — the record of a graded question;
* `percentage` — two decimals, and nothing when there is nothing to score;
* `Grade`, `Quiz.grade` — **the grade of a submission**.

Main results:

* `QuestionKind.credits_none`, `QuestionKind.credits_essay` — nobody is credited for nothing, nor
  for an essay;
* `sameAnswer_comm` — the comparison is symmetric.
-/
import QuizAttempts.Quiz.Publishing
import QuizAttempts.Submission
import QuizAttempts.Text.Lowercase

set_option autoImplicit false

namespace QuizAttempts

/-! ### Right and wrong -/

/-- The texts are equal but for case and the white space around them. -/
def sameAnswer (given expected : String) : Bool :=
  lowercase (trim given.toList) == lowercase (trim expected.toList)

theorem sameAnswer_comm (s t : String) : sameAnswer s t = sameAnswer t s := by
  simp only [sameAnswer]
  exact Bool.eq_iff_iff.2 ⟨fun h => by simpa using (beq_iff_eq.1 h).symm,
    fun h => by simpa using (beq_iff_eq.1 h).symm⟩

/-- The text of an answer is the key; neither may be missing. -/
def matchesKey (given key : Option String) : Bool :=
  match given, key with
  | some given, some key => sameAnswer given key
  | _, _ => false

/-- The choice of an answer is the first that is marked as correct. -/
def matchesChoice (selected : Option String) (choices : List Choice) : Bool :=
  match selected, choices.find? (·.isCorrect) with
  | some selected, some correct => correct.id == selected
  | _, _ => false

/-- **The answer earns the points of a question** of this kind. -/
def QuestionKind.credits (kind : QuestionKind) : Option SubmittedAnswer → Bool
  | none => false
  | some answer =>
      match kind with
      | .multipleChoice choices => matchesChoice answer.selectedOptionId choices
      | .trueFalse key | .shortAnswer key => matchesKey answer.answerText key
      | .essay => false

@[simp] theorem QuestionKind.credits_none (kind : QuestionKind) : kind.credits none = false := rfl

@[simp] theorem QuestionKind.credits_essay (answer : Option SubmittedAnswer) :
    QuestionKind.essay.credits answer = false := by
  cases answer <;> rfl

/-! ### One question -/

/-- The record of a graded question. -/
structure AnswerRecord where
  questionId : Int
  selectedOptionId : Option String
  answerText : Option String
  isCorrect : Bool
  pointsEarned : Binary64
  deriving DecidableEq

/-- A question whose shape is flawed. -/
structure MalformedQuestion where
  id : Int
  flaw : QuestionFlaw
  deriving DecidableEq

/-- The record of a question whose shape has been checked. -/
def Question.record (q : Question) (answer : Option SubmittedAnswer) : AnswerRecord :=
  let isCorrect := q.kind.credits answer
  { questionId := q.id
    selectedOptionId := answer.bind (·.selectedOptionId)
    answerText := answer.bind (·.answerText)
    isCorrect := isCorrect
    pointsEarned := if isCorrect then q.points else Binary64.zero }

/-- **Grades a question**, unless its shape is flawed. -/
def Question.grade (q : Question) (answer : Option SubmittedAnswer) :
    Except MalformedQuestion AnswerRecord :=
  match q.check with
  | .ok () => .ok (q.record answer)
  | .error flaw => .error ⟨q.id, flaw⟩

/-! ### A submission -/

/-- **The percentage of a score**, with two decimals; nothing when nothing can be scored. -/
def percentage (score maxScore : Binary64) : Binary64 :=
  if maxScore.le Binary64.zero then Binary64.zero
  else (score / maxScore * Binary64.hundred).roundHundredths

/-- The outcome of grading a submission. -/
structure Grade where
  answers : List AnswerRecord
  score : Binary64
  maxScore : Binary64
  percentage : Binary64
  isPassed : Bool
  deriving DecidableEq

/-- Grades questions in their order; fails at the first whose shape is flawed. -/
def gradeEach (index : AnswerIndex) : List Question → Except MalformedQuestion (List AnswerRecord)
  | [] => .ok []
  | q :: questions =>
      match q.grade (index.get? q.id) with
      | .error flaw => .error flaw
      | .ok record => (gradeEach index questions).map (record :: ·)

/-- The totals over the records of a quiz. -/
def Quiz.gradeOf (quiz : Quiz) (records : List AnswerRecord) : Grade :=
  let score := (Binary64.sum (records.map (·.pointsEarned))).roundHundredths
  let maxScore := quiz.maxScore.roundHundredths
  let percentage := QuizAttempts.percentage score maxScore
  { answers := records
    score := score
    maxScore := maxScore
    percentage := percentage
    isPassed := quiz.passingScore.le percentage }

/-- **The grade of a submission**: every question is graded, in the order of places. -/
def Quiz.grade (quiz : Quiz) (index : AnswerIndex) : Except MalformedQuestion Grade :=
  (gradeEach index (inPlace Question.place quiz.questions)).map quiz.gradeOf

end QuizAttempts
