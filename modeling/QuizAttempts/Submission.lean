/-
**Submissions: the answers to a quiz, checked for their form.**

A submission lists answers in any order.  Each has to answer a question of the quiz that no
earlier answer has answered, and in the form that the kind of the question asks for: a
multiple-choice question wants one of its choices and no text, every other kind wants a text and
no choice.  The form is checked before anything is written; the first answer that fails rejects
the whole submission.

What grading needs of a submission is its index, the table of its answers by question.

Main definitions:

* `SubmittedAnswer` — one answer as sent;
* `AnswerFlaw`, `SubmissionFlaw` — the ways an answer and a submission can fail;
* `QuestionKind.answerFlaw?` — what is wrong with the form of an answer;
* `Quiz.indexAnswers` — **the check**, which gives the index;
* `answerIndex` — the index without the check, where the last answer to a question counts.

Main results:

* `Quiz.indexAnswers_nil`, `answerIndex_nil` — nothing submitted is indexed as nothing.
-/
import QuizAttempts.Quiz
import QuizAttempts.Table
import QuizAttempts.Text.Blank
import QuizAttempts.Text.Numeral

set_option autoImplicit false

namespace QuizAttempts

/-- One answer as sent: a choice or a text. -/
structure SubmittedAnswer where
  questionId : Int
  selectedOptionId : Option String
  answerText : Option String
  deriving DecidableEq

/-- What can be wrong with the form of an answer. -/
inductive AnswerFlaw where
  | textForChoice
  | noChoice
  | unknownChoice
  | choiceForTruth
  | noTruth
  | choiceForText
  | noText
  deriving DecidableEq

/-- How a flaw is reported. -/
def AnswerFlaw.message : AnswerFlaw → String
  | textForChoice => "answer_text is not allowed for multiple_choice"
  | noChoice => "selected_option_id is required"
  | unknownChoice => "selected_option_id does not match any option"
  | choiceForTruth => "selected_option_id is not allowed for true_false"
  | noTruth => "answer_text must be 'true' or 'false'"
  | choiceForText => "selected_option_id is not allowed for text questions"
  | noText => "answer_text must not be empty"

/-- What can be wrong with a submission. -/
inductive SubmissionFlaw where
  | foreignQuestion (id : Int)
  | repeatedQuestion (id : Int)
  | answer (id : Int) (flaw : AnswerFlaw)
  deriving DecidableEq

/-- How a flaw is reported. -/
def SubmissionFlaw.message : SubmissionFlaw → String
  | foreignQuestion id => "Question " ++ showInt id ++ " does not belong to this quiz"
  | repeatedQuestion id => "Question " ++ showInt id ++ " answered more than once"
  | answer id flaw => "Question " ++ showInt id ++ ": " ++ flaw.message

/-! ### The form of an answer -/

/-- The text of an answer spells a boolean. -/
def isTruthText (text : Option String) : Bool := text.any fun text => (truth? text.toList).isSome

/-- The text of an answer says something. -/
def isSomeText (text : Option String) : Bool := text.any fun text => !isBlankText text.toList

/-- What is wrong with the form of an answer to a question of a kind. -/
def QuestionKind.answerFlaw? (kind : QuestionKind) (answer : SubmittedAnswer) :
    Option AnswerFlaw :=
  match kind with
  | .multipleChoice choices =>
      if answer.answerText.isSome then some .textForChoice
      else
        match answer.selectedOptionId with
        | none => some .noChoice
        | some selected =>
            if choices.any (·.id == selected) then none else some .unknownChoice
  | .trueFalse _ =>
      if answer.selectedOptionId.isSome then some .choiceForTruth
      else if isTruthText answer.answerText then none
      else some .noTruth
  | .shortAnswer _ | .essay =>
      if answer.selectedOptionId.isSome then some .choiceForText
      else if isSomeText answer.answerText then none
      else some .noText

/-! ### The submission -/

/-- Answers by question. -/
abbrev AnswerIndex := Table SubmittedAnswer

/-- What is wrong with an answer after those that have been indexed. -/
def Quiz.answerFlaw? (quiz : Quiz) (index : AnswerIndex) (answer : SubmittedAnswer) :
    Option SubmissionFlaw :=
  match quiz.question? answer.questionId with
  | none => some (.foreignQuestion answer.questionId)
  | some question =>
      if (index.get? answer.questionId).isSome then some (.repeatedQuestion answer.questionId)
      else (question.kind.answerFlaw? answer).map (.answer answer.questionId)

/-- Checks answers and adds them to an index. -/
def Quiz.indexFrom (quiz : Quiz) :
    AnswerIndex → List SubmittedAnswer → Except SubmissionFlaw AnswerIndex
  | index, [] => .ok index
  | index, answer :: answers =>
      match quiz.answerFlaw? index answer with
      | some flaw => .error flaw
      | none => quiz.indexFrom (index.insert answer.questionId answer) answers

/-- **The index of a submission**, when all its answers have the right form; else the first flaw. -/
def Quiz.indexAnswers (quiz : Quiz) (answers : List SubmittedAnswer) :
    Except SubmissionFlaw AnswerIndex :=
  quiz.indexFrom Table.empty answers

@[simp] theorem Quiz.indexAnswers_nil (quiz : Quiz) : quiz.indexAnswers [] = .ok Table.empty := rfl

/-- The index of answers that are not checked: the last answer to a question counts. -/
def answerIndex (answers : List SubmittedAnswer) : AnswerIndex :=
  answers.foldl (fun index answer => index.insert answer.questionId answer) Table.empty

@[simp] theorem answerIndex_nil : answerIndex [] = Table.empty := rfl

/-- How many answers a submission may hold. -/
def mostAnswers : Nat := 500

end QuizAttempts
