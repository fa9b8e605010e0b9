/-
**The order in which questions are stored does not show.**

Questions are stored in some order and have their places beside it.  Taking, grading and publishing
load a quiz with its questions in their places, and identifiers settle ties: so where no two
questions of a quiz share an identifier, the order in which they are stored makes no difference.  It
would make one if anything went by it, since sums of points depend on the order of their terms, and
a quiz that cannot be published is refused for its first bad question.

Main definitions:

* `Quiz.Reorders`, `Store.Reorders`, `Happening.Reorders` — the same but for the order of questions;
* `Veil.arrange` — the veil that puts the questions in their places.

Main results:

* `inPlace_eq_of_perm` — **rows with different places are sorted the same, however they come**;
* `Quiz.Reorders.sorted` — so are the questions of a quiz;
* `Console.order_hidden` — two consoles that differ in the order of questions.
-/
import Mathlib.Data.List.Forall2
import Mathlib.Data.List.Nodup
import QuizAttempts.Proofs.Veils

set_option autoImplicit false

namespace QuizAttempts

/-! ### The same but for the order -/

/-- **Rows with different places are sorted the same, however they come.** -/
theorem inPlace_eq_of_perm {α : Type} {place : α → Int × Int} {rows other : List α}
    (hperm : rows.Perm other)
    (hplaces : ∀ a ∈ rows, ∀ b ∈ rows, place a = place b → a = b) :
    inPlace place rows = inPlace place other := by
  refine List.Perm.eq_of_pairwise (fun a b ha hb hab hba => ?_) (pairwise_inPlace place rows)
    (pairwise_inPlace place other)
    ((inPlace_perm place rows).trans (hperm.trans (inPlace_perm place other).symm))
  have hb' : b ∈ rows := hperm.mem_iff.2 (mem_inPlace.1 hb)
  exact hplaces a (mem_inPlace.1 ha) b hb' (placeLe_antisymm hab hba)

/-- **The same quiz but for the order in which its questions are stored**, no two of which share an
identifier. -/
structure Quiz.Reorders (quiz other : Quiz) : Prop where
  settings : other.settings = quiz.settings
  questions : quiz.questions.Perm other.questions
  distinct : (quiz.questions.map (·.id)).Nodup

/-- **Quizzes that differ in the order of their questions are loaded alike.** -/
theorem Quiz.Reorders.sorted {quiz other : Quiz} (h : quiz.Reorders other) :
    other.sorted = quiz.sorted := by
  have hplaces : ∀ a ∈ quiz.questions, ∀ b ∈ quiz.questions, a.place = b.place → a = b := by
    intro a ha b hb hplace
    exact List.inj_on_of_nodup_map h.distinct ha hb (congrArg Prod.snd hplace)
  have hquestions := inPlace_eq_of_perm h.questions hplaces
  calc other.sorted
      = { other.settings with questions := inPlace Question.place other.questions } := rfl
    _ = { quiz.settings with questions := inPlace Question.place quiz.questions } := by
        rw [h.settings, hquestions]
    _ = quiz.sorted := rfl

/-- **The same store but for the order in which the questions of its quizzes are stored.** -/
structure Store.Reorders (store other : Store) : Prop where
  rest : { other with quizzes := store.quizzes } = store
  quizzes : ∀ id, Option.Rel Quiz.Reorders (store.quizzes.get? id) (other.quizzes.get? id)

/-- **The same happens**, but for the order of the questions of a quiz that is put in. -/
inductive Happening.Reorders : Happening → Happening → Prop
  | same (happening : Happening) : Reorders happening happening
  | put {quiz other : Quiz} (h : quiz.Reorders other) :
      Reorders (.given (.putQuiz quiz)) (.given (.putQuiz other))

/-! ### The veil -/

/-- **The veil that puts the questions of every quiz in their places.** -/
def Veil.arrange : Veil := .overQuestions Quiz.sorted (fun _ => rfl) fun _ => rfl

namespace Veil

theorem isClear_arrange : arrange.IsClear := Quiz.sorted_sorted

theorem store_eq_of_reorders {store other : Store} (h : store.Reorders other) :
    arrange.store other = arrange.store store := by
  have hquizzes : other.quizzes.map Quiz.sorted = store.quizzes.map Quiz.sorted := by
    refine Table.ext fun id => ?_
    rw [Table.get?_map, Table.get?_map]
    have hfound := h.quizzes id
    generalize store.quizzes.get? id = found, other.quizzes.get? id = found' at hfound ⊢
    cases hfound with
    | none => rfl
    | some hquiz => exact congrArg some hquiz.sorted
  rw [← h.rest]
  exact congrArg (fun quizzes => { arrange.store other with quizzes := quizzes }) hquizzes

theorem happening_eq_of_reorders {happening other : Happening} (h : happening.Reorders other) :
    arrange.happening happening = arrange.happening other := by
  cases h with
  | same => rfl
  | put hquiz => exact congrArg (fun quiz => Happening.given (.putQuiz quiz)) hquiz.sorted.symm

theorem history_eq_of_reorders {history other : List Happening}
    (h : List.Forall₂ Happening.Reorders history other) :
    history.map arrange.happening = other.map arrange.happening := by
  induction h with
  | nil => rfl
  | cons hhead _ ih => rw [List.map_cons, List.map_cons, happening_eq_of_reorders hhead, ih]

end Veil

/-! ### Histories -/

namespace Console

/-- **The order in which questions are stored does not show.**  Take two consoles that differ only
in the order in which the questions of their quizzes are stored, no two questions of a quiz sharing
an identifier, and let the same happen to both; where a quiz is put in, its questions may be in
different orders too.  Then every command is answered alike, and the attempts, the events, the
completed lessons and the cache are the same at all times. -/
theorem order_hidden (console : Console) {other : Store}
    (hother : console.service.store.Reorders other) {history history' : List Happening}
    (hhistory : List.Forall₂ Happening.Reorders history history') (n : Nat) :
    let c := console.upTo history n
    let d := (console.withStore other).upTo history' n
    (∀ command command', history[n]? = some (.given command) →
      history'[n]? = some (.given command') → (c.run command).2 = (d.run command').2) ∧
    d.service.store.attempts = c.service.store.attempts ∧
    d.service.events = c.service.events ∧
    d.service.store.completed = c.service.store.completed ∧
    d.service.cache = c.service.cache := by
  intro c d
  have hconsoles : Veil.arrange.console console = Veil.arrange.console (console.withStore other) :=
    congrArg (Veil.arrange.console console).withStore (Veil.store_eq_of_reorders hother).symm
  obtain ⟨hsame, hanswers⟩ := Veil.isClear_arrange.alike hconsoles
    (Veil.history_eq_of_reorders hhistory) n
  exact ⟨hanswers, (congrArg (·.service.store.attempts) hsame).symm,
    (congrArg (·.service.events) hsame).symm,
    (congrArg (·.service.store.completed) hsame).symm, (congrArg (·.service.cache) hsame).symm⟩

/-- A quiz of three questions with one order index, stored from the last to the first.  The first is
worth so much that the others are lost in the sum unless they are added up before it. -/
def lopsided : Quiz :=
  { id := 1
    lessonId := 1
    title := ""
    quizType := .graded
    passingScore := Binary64.ofInt 50
    timeLimit := none
    maxAttempts := none
    shuffleQuestions := false
    shuffleOptions := false
    showCorrectAnswers := true
    isPublished := true
    questions :=
      [⟨3, 1, "", Binary64.ofInt 1, 0, .trueFalse (some "true")⟩,
        ⟨2, 1, "", Binary64.ofInt 1, 0, .trueFalse (some "true")⟩,
        ⟨1, 1, "", Binary64.ofInt 9007199254740992, 0, .trueFalse (some "true")⟩] }

/-- A draft of two questions, neither of which has a key. -/
def keyless : Quiz :=
  { lopsided with
    id := 2
    isPublished := false
    questions :=
      [⟨5, 2, "", Binary64.ofInt 1, 0, .trueFalse none⟩,
        ⟨4, 2, "", Binary64.ofInt 1, 0, .shortAnswer none⟩] }

/-- The quiz with its questions stored the other way round. -/
def backwards (quiz : Quiz) : Quiz := { quiz with questions := quiz.questions.reverse }

/-- The instructor puts a draft in and wants to publish it; a student answers all questions of the
other quiz. -/
def hurried (draft : Quiz) : List Happening :=
  [.given (.putQuiz draft), .given (.request (.publish 2 ⟨1, .instructor⟩)),
    .given (.request (.start 1 learner)),
    .given (.request (.submit 1 1
      [⟨1, none, some "true"⟩, ⟨2, none, some "true"⟩, ⟨3, none, some "true"⟩] learner))]

theorem reorders_backwards {quiz : Quiz} (h : (quiz.questions.map (·.id)).Nodup) :
    quiz.Reorders (backwards quiz) :=
  ⟨rfl, (List.reverse_perm _).symm, h⟩

/-- With all questions the other way round the draft is refused for the same question, and the
student gets the same score, although neither the sum of the points nor the first bad question is
the same. -/
theorem order_hidden_hurried :
    let console := (ofService Service.blank).after
      [.putQuiz lopsided, .putLesson ⟨1, 1, 1⟩, .putEnrollment ⟨1, 1, 1, "active"⟩]
    let other := console.service.store.putQuiz (backwards lopsided)
    let publish := Command.request (.publish 2 ⟨1, .instructor⟩)
    let submit := Command.request (.submit 1 1
      [⟨1, none, some "true"⟩, ⟨2, none, some "true"⟩, ⟨3, none, some "true"⟩] learner)
    console.service.store.Reorders other ∧
    List.Forall₂ Happening.Reorders (hurried keyless) (hurried (backwards keyless)) ∧
    (lopsided.maxScore ≠ (backwards lopsided).maxScore ∧
      keyless.checkPublishable ≠ (backwards keyless).checkPublishable) ∧
    ((console.upTo (hurried keyless) 1).run publish).2 =
      (((console.withStore other).upTo (hurried (backwards keyless)) 1).run publish).2 ∧
    ((console.upTo (hurried keyless) 3).run submit).2 =
      (((console.withStore other).upTo (hurried (backwards keyless)) 3).run submit).2 ∧
    ((console.withStore other).upTo (hurried (backwards keyless)) 4).service.store.attempts =
      (console.upTo (hurried keyless) 4).service.store.attempts := by
  intro console other publish submit
  have hlopsided : lopsided.Reorders (backwards lopsided) := reorders_backwards (by decide)
  have hkeyless : keyless.Reorders (backwards keyless) := reorders_backwards (by decide)
  have hother : console.service.store.Reorders other := by
    refine ⟨rfl, fun id => ?_⟩
    have hquizzes : console.service.store.quizzes = Table.empty.insert 1 lopsided := rfl
    have hquizzes' : other.quizzes = console.service.store.quizzes.insert 1 (backwards lopsided) :=
      rfl
    simp only [hquizzes', hquizzes, Table.get?_insert]
    split
    · exact .some hlopsided
    · exact .none
  have hhistory : List.Forall₂ Happening.Reorders (hurried keyless)
      (hurried (backwards keyless)) :=
    .cons (.put hkeyless) (.cons (.same _) (.cons (.same _) (.cons (.same _) .nil)))
  obtain ⟨hpublish, -⟩ := order_hidden console hother hhistory 1
  obtain ⟨hsubmit, -⟩ := order_hidden console hother hhistory 3
  obtain ⟨-, hattempts, -⟩ := order_hidden console hother hhistory 4
  exact ⟨hother, hhistory, by decide +kernel, hpublish publish publish rfl rfl,
    hsubmit submit submit rfl rfl, hattempts⟩

end Console

end QuizAttempts
