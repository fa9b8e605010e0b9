/-
**What a quiz needs before it can be published.**

Every question has a shape that can be graded: its points are a finite number that is not
negative, a multiple-choice question has at least two choices that can be told apart and exactly
one that is correct, a true-or-false question has a key that spells a boolean, and a short-answer
question has a key that is not blank.  The first rule that fails is reported.  The same rules are
checked again when a question is graded, because a question may be changed after its quiz was
published.

Choices are told apart by their identifiers as written and by their texts without the white space
around them.

Main definitions:

* `QuestionFlaw`, `QuestionFlaw.message` — the ways a question can fail, and how they are reported;
* `checkChoices`, `QuestionKind.check`, `Question.check` — the rules, in the order of their reports;
* `PublishingFlaw`, `Quiz.checkPublishable` — **whether a quiz can be published**.

Main results:

* `checkChoices_nil`, `QuestionKind.check_essay` — the cases in which nothing is asked.
-/
import QuizAttempts.Quiz
import QuizAttempts.Text.Blank
import QuizAttempts.Text.Numeral

set_option autoImplicit false

namespace QuizAttempts

/-- A way in which a question cannot be graded. -/
inductive QuestionFlaw where
  | badPoints
  | tooFewChoices
  | blankChoice
  | repeatedChoiceId (id : String)
  | repeatedChoiceText (text : String)
  | correctChoices (found : Nat)
  | noTruthKey
  | truthKeyNoBoolean
  | noShortKey
  deriving DecidableEq

/-- How a flaw is reported. -/
def QuestionFlaw.message : QuestionFlaw → String
  | badPoints => "points must be a non-negative number"
  | tooFewChoices => "multiple_choice needs at least 2 options"
  | blankChoice => "option ids and texts must not be empty"
  | repeatedChoiceId id => "duplicate option id '" ++ id ++ "'"
  | repeatedChoiceText text => "duplicate option text '" ++ text ++ "'"
  | correctChoices found =>
      "multiple_choice needs exactly one correct option, found " ++ showInt found
  | noTruthKey => "true_false needs a correct_answer"
  | truthKeyNoBoolean => "true_false correct_answer must be 'true' or 'false'"
  | noShortKey => "short_answer needs a correct_answer"

/-! ### The shape of a question -/

/-- The choices are not blank and differ from one another and from what was seen before: `ids` as
written, `texts` without the white space around them. -/
def checkChoices : List String → List (List Char) → List Choice → Except QuestionFlaw Unit
  | _, _, [] => .ok ()
  | ids, texts, choice :: choices =>
      let text := trim choice.text.toList
      if isBlankText choice.id.toList || isBlankText choice.text.toList then .error .blankChoice
      else if ids.contains choice.id then .error (.repeatedChoiceId choice.id)
      else if texts.contains text then .error (.repeatedChoiceText choice.text)
      else checkChoices (choice.id :: ids) (text :: texts) choices

@[simp] theorem checkChoices_nil (ids : List String) (texts : List (List Char)) :
    checkChoices ids texts [] = .ok () := rfl

/-- A key that is there and not blank. -/
def usableKey? (key : Option String) : Option String :=
  key.filter fun key => !isBlankText key.toList

/-- The number of choices that are marked as correct. -/
def correctCount (choices : List Choice) : Nat := choices.countP (·.isCorrect)

/-- The kind of a question can be graded. -/
def QuestionKind.check : QuestionKind → Except QuestionFlaw Unit
  | multipleChoice choices =>
      if choices.length < 2 then .error .tooFewChoices
      else do
        checkChoices [] [] choices
        if correctCount choices = 1 then .ok () else .error (.correctChoices (correctCount choices))
  | trueFalse key =>
      match usableKey? key with
      | none => .error .noTruthKey
      | some key => if (truth? key.toList).isSome then .ok () else .error .truthKeyNoBoolean
  | shortAnswer key => if (usableKey? key).isSome then .ok () else .error .noShortKey
  | essay => .ok ()

@[simp] theorem QuestionKind.check_essay : QuestionKind.essay.check = .ok () := rfl

/-- Points that can be earned: finite and not negative. -/
def isPoints (x : Binary64) : Bool := x.isFinite && !x.lt Binary64.zero

/-- **The question can be graded**; else the first flaw. -/
def Question.check (q : Question) : Except QuestionFlaw Unit :=
  if isPoints q.points then q.kind.check else .error .badPoints

/-! ### The quiz -/

/-- A way in which a quiz cannot be published. -/
inductive PublishingFlaw where
  | noQuestions
  | passingScoreOutOfRange
  | question (id : Int) (flaw : QuestionFlaw)
  deriving DecidableEq

/-- How a flaw is reported. -/
def PublishingFlaw.message : PublishingFlaw → String
  | noQuestions => "A quiz needs at least one question to be published"
  | passingScoreOutOfRange => "passing_score must be between 0 and 100"
  | question id flaw => "Question " ++ showInt id ++ ": " ++ flaw.message

/-- A percentage between nothing and a hundred. -/
def isPassingScore (x : Binary64) : Bool := Binary64.zero.le x && x.le Binary64.hundred

/-- The questions can all be graded; else the first that cannot. -/
def checkQuestions : List Question → Except PublishingFlaw Unit
  | [] => .ok ()
  | q :: questions =>
      match q.check with
      | .ok () => checkQuestions questions
      | .error flaw => .error (.question q.id flaw)

/-- **The quiz can be published**; else the first flaw. -/
def Quiz.checkPublishable (quiz : Quiz) : Except PublishingFlaw Unit :=
  if quiz.questions.isEmpty then .error .noQuestions
  else if isPassingScore quiz.passingScore then checkQuestions quiz.questions
  else .error .passingScoreOutOfRange

end QuizAttempts
