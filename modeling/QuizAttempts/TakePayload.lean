/-
**What a learner needs to take a quiz, and nothing more.**

A take payload shows the questions in their places with the choices as they are stored, and no key
of any kind: neither which choice is correct nor what a text should be.  It is built once and
shared; what a learner sees is a copy whose questions and choices may have been shuffled.

A shuffle is any way of rearranging: all that is asked of it is that it loses and invents nothing.
The choices of each question are drawn for first, question by question, and then the questions
themselves.

Main definitions:

* `PublicChoice`, `PublicQuestion`, `TakePayload` — the payload;
* `Quiz.takePayload` — **the payload of a quiz**;
* `Shuffle` — a way of rearranging choices and questions;
* `TakePayload.render` — the copy that a learner sees.

Main results:

* `TakePayload.render_plain` — without shuffling nothing is changed;
* `TakePayload.perm_render` — shuffled or not, the questions are those of the payload up to the
  order of their choices.
-/
import QuizAttempts.Quiz

set_option autoImplicit false

namespace QuizAttempts

/-- A choice without the mark that tells whether it is correct. -/
structure PublicChoice where
  id : String
  text : String
  deriving DecidableEq

/-- A question without its key. -/
structure PublicQuestion where
  id : Int
  typeName : String
  content : String
  points : Binary64
  orderIndex : Int
  choices : List PublicChoice
  deriving DecidableEq

/-- The questions of a quiz as a learner may see them. -/
structure TakePayload where
  quizId : Int
  title : String
  timeLimit : Option Int
  maxAttempts : Option Int
  questions : List PublicQuestion
  deriving DecidableEq

/-- A choice as a learner may see it. -/
def Choice.toPublic (choice : Choice) : PublicChoice := ⟨choice.id, choice.text⟩

/-- A question as a learner may see it. -/
def Question.toPublic (q : Question) : PublicQuestion :=
  { id := q.id
    typeName := q.kind.typeName
    content := q.content
    points := q.points
    orderIndex := q.orderIndex
    choices := q.kind.choices.map (·.toPublic) }

/-- Where a question stands. -/
def PublicQuestion.place (q : PublicQuestion) : Int × Int := (q.orderIndex, q.id)

@[simp] theorem Question.place_toPublic (q : Question) : q.toPublic.place = q.place := rfl

/-- **The payload of a quiz**: its questions in their places, without their keys. -/
def Quiz.takePayload (quiz : Quiz) : TakePayload :=
  { quizId := quiz.id
    title := quiz.title
    timeLimit := quiz.timeLimit
    maxAttempts := quiz.maxAttempts
    questions := inPlace PublicQuestion.place (quiz.questions.map (·.toPublic)) }

/-! ### Shuffling -/

/-- A way of rearranging; `choices` is told how many questions have been drawn for before. -/
structure Shuffle where
  choices : Nat → List PublicChoice → List PublicChoice
  questions : List PublicQuestion → List PublicQuestion
  choices_perm : ∀ n cs, (choices n cs).Perm cs
  questions_perm : ∀ qs, (questions qs).Perm qs

/-- The shuffle that leaves everything in its place. -/
def Shuffle.still : Shuffle :=
  ⟨fun _ cs => cs, fun qs => qs, fun _ cs => List.Perm.refl cs, fun qs => List.Perm.refl qs⟩

instance : Inhabited Shuffle := ⟨Shuffle.still⟩

/-- The questions with their choices shuffled; `drawn` questions have been drawn for before. -/
def Shuffle.shuffleChoices (shuffle : Shuffle) : Nat → List PublicQuestion → List PublicQuestion
  | _, [] => []
  | drawn, q :: questions =>
      { q with choices := shuffle.choices drawn q.choices } ::
        shuffle.shuffleChoices (drawn + 1) questions

/-- **The copy that a learner sees**, shuffled as the two switches say. -/
def TakePayload.render (base : TakePayload) (shuffle : Shuffle)
    (shuffleQuestions shuffleChoices : Bool) : TakePayload :=
  let drawn := if shuffleChoices then shuffle.shuffleChoices 0 base.questions else base.questions
  { base with questions := if shuffleQuestions then shuffle.questions drawn else drawn }

@[simp] theorem TakePayload.render_plain (base : TakePayload) (shuffle : Shuffle) :
    base.render shuffle false false = base := rfl

/-- What a shuffle of choices keeps of a question: all but the order of its choices. -/
theorem Shuffle.shuffleChoices_eq_map (shuffle : Shuffle) (drawn : Nat)
    (questions : List PublicQuestion) :
    (shuffle.shuffleChoices drawn questions).map (fun q => { q with choices := [] }) =
      questions.map fun q => { q with choices := [] } := by
  induction questions generalizing drawn with
  | nil => rfl
  | cons q questions ih => simp [shuffleChoices, ih]

/-- **A copy has the questions of its payload**, up to the order of their choices. -/
theorem TakePayload.perm_render (base : TakePayload) (shuffle : Shuffle) (sq sc : Bool) :
    ((base.render shuffle sq sc).questions.map fun q => { q with choices := [] }).Perm
      (base.questions.map fun q => { q with choices := [] }) := by
  cases sq <;> cases sc <;> simp only [render, Bool.false_eq_true, if_true, if_false]
  · exact List.Perm.refl _
  · rw [shuffle.shuffleChoices_eq_map]
  · exact (shuffle.questions_perm _).map _
  · refine ((shuffle.questions_perm _).map _).trans ?_
    rw [shuffle.shuffleChoices_eq_map]

end QuizAttempts
