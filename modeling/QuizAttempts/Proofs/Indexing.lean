/-
**Which submissions are accepted, and what is said of the others.**

The check of a submission goes through the answers once and keeps those that it has passed in an
index, in which it looks whether a question has been answered before.  The index holds what was
passed and nothing else, so what the check says of an answer depends on the answers before it, and
not on how they were gone through: a submission is accepted when no two answers are to the same
question and each has the form that its question asks for.  Else the first answer that does not
keep to the rules is reported, with the first rule that it breaks.

Main definitions:

* `QuestionKind.Fits` — **the form of an answer**, by the kind of its question;
* `Quiz.Accepts` — **the submission keeps to the rules**;
* `Quiz.Violates` — what is wrong with an answer that comes after others;
* `AnswerIndex.Holds` — the index of answers.

Main results:

* `QuestionKind.answerFlaw?_eq_none_iff` — nothing is wrong with the form of an answer that fits;
* `Quiz.forall_not_violates_iff` — when nothing is wrong with an answer;
* `AnswerIndex.Holds.answerFlaw?_eq_some_iff` — what is looked at in an index is what came before;
* `Quiz.indexFrom_append` — checking some answers after others;
* `Quiz.indexAnswers_eq_ok_iff`, `Quiz.indexAnswers_eq_error_iff` — what comes of a check;
* `Quiz.submission_checked` — **the check of a submission**.
-/
import Mathlib.Data.List.Induction
import QuizAttempts.Refusal

set_option autoImplicit false

namespace QuizAttempts

/-! ### The form of an answer -/

/-- **The answer has the form that a question of the kind asks for**: one of its choices and no
text, or no choice and a text that spells a boolean, or no choice and a text that says something. -/
def QuestionKind.Fits (kind : QuestionKind) (answer : SubmittedAnswer) : Prop :=
  match kind with
  | .multipleChoice choices =>
      answer.answerText = none ∧ ∃ choice ∈ choices, answer.selectedOptionId = some choice.id
  | .trueFalse _ =>
      answer.selectedOptionId = none ∧ ∃ text, answer.answerText = some text ∧
        (sameLetters (trim text.toList) "true".toList = true ∨
          sameLetters (trim text.toList) "false".toList = true)
  | .shortAnswer _ | .essay =>
      answer.selectedOptionId = none ∧ ∃ text, answer.answerText = some text ∧
        ∃ c ∈ text.toList, isBlank c = false

theorem isSome_truth?_iff {text : List Char} :
    (truth? text).isSome = true ↔ sameLetters (trim text) "true".toList = true ∨
      sameLetters (trim text) "false".toList = true := by
  rw [truth?]
  cases sameLetters (trim text) "true".toList with
  | true => simp only [if_true, Option.isSome_some, true_or]
  | false =>
      cases sameLetters (trim text) "false".toList with
      | true => simp only [Bool.false_eq_true, if_false, if_true, Option.isSome_some, or_true]
      | false => simp only [Bool.false_eq_true, if_false, Option.isSome_none, or_self]

theorem isTruthText_iff {text : Option String} :
    isTruthText text = true ↔ ∃ written, text = some written ∧
      (sameLetters (trim written.toList) "true".toList = true ∨
        sameLetters (trim written.toList) "false".toList = true) := by
  rw [isTruthText, Option.any_eq_true]
  simp only [isSome_truth?_iff]

theorem isSomeText_iff {text : Option String} :
    isSomeText text = true ↔ ∃ written, text = some written ∧
      ∃ c ∈ written.toList, isBlank c = false := by
  rw [isSomeText, Option.any_eq_true]
  simp [isBlankText]

/-- **Nothing is wrong with the form of an answer that fits**, and of no other. -/
theorem QuestionKind.answerFlaw?_eq_none_iff {kind : QuestionKind} {answer : SubmittedAnswer} :
    kind.answerFlaw? answer = none ↔ kind.Fits answer := by
  obtain ⟨id, selected, text⟩ := answer
  cases kind with
  | multipleChoice choices =>
      cases text with
      | some text => simp [answerFlaw?, Fits]
      | none =>
          cases selected with
          | none => simp [answerFlaw?, Fits]
          | some selected => simp [answerFlaw?, Fits, eq_comm (a := selected)]
  | trueFalse key =>
      cases selected with
      | some selected => simp [answerFlaw?, Fits]
      | none =>
          simp only [Fits, true_and, ← isTruthText_iff]
          simp [answerFlaw?]
  | shortAnswer key =>
      cases selected with
      | some selected => simp [answerFlaw?, Fits]
      | none =>
          simp only [Fits, true_and, ← isSomeText_iff]
          simp [answerFlaw?]
  | essay =>
      cases selected with
      | some selected => simp [answerFlaw?, Fits]
      | none =>
          simp only [Fits, true_and, ← isSomeText_iff]
          simp [answerFlaw?]

/-! ### The rules -/

/-- The answer is to a question of the quiz, and fits it. -/
def Quiz.Suits (quiz : Quiz) (answer : SubmittedAnswer) : Prop :=
  ∃ question, quiz.question? answer.questionId = some question ∧ question.kind.Fits answer

/-- **The submission keeps to the rules**: no question is answered twice, and every answer is to a
question of the quiz and fits it. -/
structure Quiz.Accepts (quiz : Quiz) (answers : List SubmittedAnswer) : Prop where
  distinct : (answers.map (·.questionId)).Nodup
  suitable : ∀ answer ∈ answers, quiz.Suits answer

/-- **What is wrong with an answer that comes after others**: it is to no question of the quiz; or
it is, and an earlier answer is to that question too; or none is, and it does not fit. -/
inductive Quiz.Violates (quiz : Quiz) (before : List SubmittedAnswer) (answer : SubmittedAnswer) :
    SubmissionFlaw → Prop
  | foreign (hquestion : quiz.question? answer.questionId = none) :
      Violates quiz before answer (.foreignQuestion answer.questionId)
  | repeated {question : Question} (hquestion : quiz.question? answer.questionId = some question)
      (hearlier : ∃ earlier ∈ before, earlier.questionId = answer.questionId) :
      Violates quiz before answer (.repeatedQuestion answer.questionId)
  | form {question : Question} {flaw : AnswerFlaw}
      (hquestion : quiz.question? answer.questionId = some question)
      (hfirst : ∀ earlier ∈ before, earlier.questionId ≠ answer.questionId)
      (hfits : ¬ question.kind.Fits answer) (hflaw : question.kind.answerFlaw? answer = some flaw) :
      Violates quiz before answer (.answer answer.questionId flaw)

variable {quiz : Quiz} {answer : SubmittedAnswer} {answers before : List SubmittedAnswer}
  {flaw : SubmissionFlaw}

/-- **Nothing is wrong with an answer** that suits the quiz and is the first to its question. -/
theorem Quiz.forall_not_violates_iff : (∀ flaw, ¬ quiz.Violates before answer flaw) ↔
    quiz.Suits answer ∧ ∀ earlier ∈ before, earlier.questionId ≠ answer.questionId := by
  constructor
  · intro h
    cases hquestion : quiz.question? answer.questionId with
    | none => exact absurd (.foreign hquestion) (h _)
    | some question =>
        have hfirst : ∀ earlier ∈ before, earlier.questionId ≠ answer.questionId := by
          intro earlier hmem hid
          exact h _ (.repeated hquestion ⟨earlier, hmem, hid⟩)
        have hfits : question.kind.Fits answer := by
          by_contra hfits
          obtain ⟨flaw, hflaw⟩ := Option.ne_none_iff_exists'.1
            (mt QuestionKind.answerFlaw?_eq_none_iff.1 hfits)
          exact h _ (.form hquestion hfirst hfits hflaw)
        exact ⟨⟨question, hquestion, hfits⟩, hfirst⟩
  · rintro ⟨⟨question, hquestion, hfits⟩, hfirst⟩ flaw hviolates
    cases hviolates with
    | foreign hnone => simp [hquestion] at hnone
    | repeated _ hearlier =>
        obtain ⟨earlier, hmem, hid⟩ := hearlier
        exact hfirst earlier hmem hid
    | form hother _ hmisfit _ =>
        obtain rfl := Option.some.inj (hquestion.symm.trans hother)
        exact hmisfit hfits

theorem Quiz.accepts_nil (quiz : Quiz) : quiz.Accepts [] := ⟨List.nodup_nil, by simp⟩

/-- One more answer is accepted that suits the quiz and is the first to its question. -/
theorem Quiz.accepts_concat : quiz.Accepts (before ++ [answer]) ↔
    quiz.Accepts before ∧ quiz.Suits answer ∧
      ∀ earlier ∈ before, earlier.questionId ≠ answer.questionId := by
  constructor
  · rintro ⟨hdistinct, hsuitable⟩
    rw [List.map_append, List.nodup_append] at hdistinct
    obtain ⟨hbefore, -, hapart⟩ := hdistinct
    refine ⟨⟨hbefore, fun a ha => hsuitable a (by simp [ha])⟩, hsuitable answer (by simp), ?_⟩
    intro earlier hearlier
    exact hapart _ (List.mem_map_of_mem hearlier) _ (by simp)
  · rintro ⟨⟨hdistinct, hsuitable⟩, hsuits, hfirst⟩
    refine ⟨?_, ?_⟩
    · rw [List.map_append, List.nodup_append]
      refine ⟨hdistinct, by simp, fun id hid other hother => ?_⟩
      obtain ⟨earlier, hearlier, rfl⟩ := List.mem_map.1 hid
      obtain rfl : other = answer.questionId := by simpa using hother
      exact hfirst earlier hearlier
    · intro a ha
      rcases List.mem_append.1 ha with ha | ha
      · exact hsuitable a ha
      · obtain rfl := List.mem_singleton.1 ha
        exact hsuits

/-- What begins an accepted submission is accepted. -/
theorem Quiz.Accepts.of_append {after : List SubmittedAnswer}
    (h : quiz.Accepts (before ++ after)) : quiz.Accepts before := by
  have hdistinct := h.distinct
  rw [List.map_append] at hdistinct
  exact ⟨(List.nodup_append.1 hdistinct).1, fun a ha => h.suitable a (List.mem_append_left _ ha)⟩

/-! ### The index -/

/-- **The index holds the answers**, each under its question, and nothing else. -/
def AnswerIndex.Holds (index : AnswerIndex) (answers : List SubmittedAnswer) : Prop :=
  ∀ (id : Int) (answer : SubmittedAnswer),
    index.get? id = some answer ↔ answer ∈ answers ∧ answer.questionId = id

namespace AnswerIndex.Holds

variable {index : AnswerIndex}

theorem empty : AnswerIndex.Holds Table.empty [] := by
  intro id answer
  simp

/-- There is an answer under an identifier when one has been given. -/
theorem isSome_get? (h : index.Holds before) (id : Int) :
    (index.get? id).isSome = true ↔ ∃ earlier ∈ before, earlier.questionId = id := by
  rw [Option.isSome_iff_exists]
  exact exists_congr fun earlier => h id earlier

/-- The first answer to a question is put beside the others. -/
theorem concat (h : index.Holds before)
    (hfirst : ∀ earlier ∈ before, earlier.questionId ≠ answer.questionId) :
    AnswerIndex.Holds (index.insert answer.questionId answer) (before ++ [answer]) := by
  intro id other
  rw [Table.get?_insert, List.mem_append, List.mem_singleton]
  split
  · rename_i hid
    subst hid
    constructor
    · intro heq
      obtain rfl := Option.some.inj heq
      exact ⟨Or.inr rfl, rfl⟩
    · rintro ⟨hother | rfl, hid⟩
      · exact absurd hid (hfirst other hother)
      · rfl
  · rename_i hid
    rw [h id other]
    constructor
    · rintro ⟨hother, rfl⟩
      exact ⟨Or.inl hother, rfl⟩
    · rintro ⟨hother | rfl, rfl⟩
      · exact ⟨hother, rfl⟩
      · exact absurd rfl hid

/-- **What is looked at in an index is what came before.** -/
theorem answerFlaw?_eq_some_iff (h : index.Holds before) :
    quiz.answerFlaw? index answer = some flaw ↔ quiz.Violates before answer flaw := by
  rw [Quiz.answerFlaw?]
  cases hquestion : quiz.question? answer.questionId with
  | none =>
      constructor
      · intro heq
        obtain rfl := Option.some.inj heq
        exact .foreign hquestion
      · rintro (_ | ⟨hother, _⟩ | ⟨hother, _, _, _⟩)
        · rfl
        · simp [hquestion] at hother
        · simp [hquestion] at hother
  | some question =>
      simp only []
      split
      · rename_i hearlier
        rw [h.isSome_get?] at hearlier
        constructor
        · intro heq
          obtain rfl := Option.some.inj heq
          exact .repeated hquestion hearlier
        · rintro (hother | _ | ⟨_, hfirst, _, _⟩)
          · simp [hquestion] at hother
          · rfl
          · obtain ⟨earlier, hmem, hid⟩ := hearlier
            exact absurd hid (hfirst earlier hmem)
      · rename_i hnone
        rw [h.isSome_get?] at hnone
        have hfirst : ∀ earlier ∈ before, earlier.questionId ≠ answer.questionId := by
          intro earlier hmem hid
          exact hnone ⟨earlier, hmem, hid⟩
        rw [Option.map_eq_some_iff]
        constructor
        · rintro ⟨wrong, hwrong, rfl⟩
          have hfits : ¬ question.kind.Fits answer := by
            rw [← QuestionKind.answerFlaw?_eq_none_iff, hwrong]
            simp
          exact .form hquestion hfirst hfits hwrong
        · rintro (hother | ⟨_, hearlier⟩ | ⟨hother, _, _, hwrong⟩)
          · simp [hquestion] at hother
          · exact absurd hearlier hnone
          · obtain rfl := Option.some.inj (hquestion.symm.trans hother)
            exact ⟨_, hwrong, rfl⟩

theorem answerFlaw?_eq_none_iff (h : index.Holds before) :
    quiz.answerFlaw? index answer = none ↔ ∀ flaw, ¬ quiz.Violates before answer flaw := by
  rw [Option.eq_none_iff_forall_ne_some]
  exact forall_congr' fun flaw => not_congr h.answerFlaw?_eq_some_iff

end AnswerIndex.Holds

/-! ### The check -/

/-- **Some answers after others**: they are checked against the index of the others. -/
theorem Quiz.indexFrom_append (quiz : Quiz) (index : AnswerIndex)
    (before after : List SubmittedAnswer) :
    quiz.indexFrom index (before ++ after) =
      (quiz.indexFrom index before).bind fun mid => quiz.indexFrom mid after := by
  induction before generalizing index with
  | nil => rfl
  | cons answer before ih =>
      rw [List.cons_append, Quiz.indexFrom, Quiz.indexFrom]
      cases quiz.answerFlaw? index answer with
      | none => exact ih _
      | some flaw => rfl

/-- **What is accepted is indexed**, and the index holds it. -/
theorem Quiz.Accepts.indexed (h : quiz.Accepts answers) :
    ∃ index, quiz.indexAnswers answers = .ok index ∧ index.Holds answers := by
  -- from the end, so that the index is that of all answers before the one that is looked at
  induction answers using List.reverseRecOn with
  | nil => exact ⟨Table.empty, rfl, .empty⟩
  | append_singleton before answer ih =>
      obtain ⟨hbefore, hsuits, hfirst⟩ := accepts_concat.1 h
      obtain ⟨index, hindex, hholds⟩ := ih hbefore
      refine ⟨index.insert answer.questionId answer, ?_, hholds.concat hfirst⟩
      rw [indexAnswers] at hindex ⊢
      rw [indexFrom_append, hindex]
      show quiz.indexFrom index [answer] = _
      have hnone := hholds.answerFlaw?_eq_none_iff.2 (forall_not_violates_iff.2 ⟨hsuits, hfirst⟩)
      rw [indexFrom, hnone, indexFrom]

/-- An answer that violates a rule is reported, whatever comes after it. -/
theorem Quiz.Violates.reported (h : quiz.Violates before answer flaw)
    (hbefore : quiz.Accepts before) (after : List SubmittedAnswer) :
    quiz.indexAnswers (before ++ answer :: after) = .error flaw := by
  obtain ⟨index, hindex, hholds⟩ := hbefore.indexed
  rw [indexAnswers] at hindex ⊢
  rw [indexFrom_append, hindex]
  show quiz.indexFrom index (answer :: after) = _
  rw [indexFrom, hholds.answerFlaw?_eq_some_iff.2 h]

/-- **A submission is accepted, or there is a first answer that violates a rule.** -/
theorem Quiz.accepts_or_violates (quiz : Quiz) (answers : List SubmittedAnswer) :
    quiz.Accepts answers ∨ ∃ before answer after flaw, answers = before ++ answer :: after ∧
      quiz.Accepts before ∧ quiz.Violates before answer flaw := by
  induction answers using List.reverseRecOn with
  | nil => exact Or.inl quiz.accepts_nil
  | append_singleton earlier answer ih =>
      rcases ih with haccepts | ⟨before, first, after, flaw, rfl, hbefore, hviolates⟩
      · by_cases hviolates : ∃ flaw, quiz.Violates earlier answer flaw
        · obtain ⟨flaw, hflaw⟩ := hviolates
          exact Or.inr ⟨earlier, answer, [], flaw, rfl, haccepts, hflaw⟩
        · have hright := forall_not_violates_iff.1 (not_exists.1 hviolates)
          exact Or.inl (accepts_concat.2 ⟨haccepts, hright⟩)
      · exact Or.inr ⟨before, first, after ++ [answer], flaw, by simp, hbefore, hviolates⟩

theorem Quiz.indexAnswers_eq_ok_iff :
    (∃ index, quiz.indexAnswers answers = .ok index) ↔ quiz.Accepts answers := by
  constructor
  · rintro ⟨index, hindex⟩
    rcases quiz.accepts_or_violates answers with
      haccepts | ⟨before, answer, after, flaw, rfl, hbefore, hviolates⟩
    · exact haccepts
    · simp [hviolates.reported hbefore] at hindex
  · intro h
    obtain ⟨index, hindex, -⟩ := h.indexed
    exact ⟨index, hindex⟩

/-- The index that comes of a check holds what was checked. -/
theorem Quiz.holds_of_indexAnswers {index : AnswerIndex}
    (hindex : quiz.indexAnswers answers = .ok index) : index.Holds answers := by
  obtain ⟨other, hother, hholds⟩ := (indexAnswers_eq_ok_iff.1 ⟨index, hindex⟩).indexed
  obtain rfl := Except.ok.inj (hindex.symm.trans hother)
  exact hholds

theorem Quiz.indexAnswers_eq_error_iff :
    quiz.indexAnswers answers = .error flaw ↔ ∃ before answer after,
      answers = before ++ answer :: after ∧ quiz.Accepts before ∧
        quiz.Violates before answer flaw := by
  constructor
  · intro hflaw
    rcases quiz.accepts_or_violates answers with
      haccepts | ⟨before, answer, after, other, rfl, hbefore, hviolates⟩
    · obtain ⟨index, hindex, -⟩ := haccepts.indexed
      simp [hindex] at hflaw
    · rw [hviolates.reported hbefore] at hflaw
      obtain rfl := Except.error.inj hflaw
      exact ⟨before, answer, after, rfl, hbefore, hviolates⟩
  · rintro ⟨before, answer, after, rfl, hbefore, hviolates⟩
    exact hviolates.reported hbefore after

/-- What is accepted violates nothing on the way, and conversely. -/
theorem Quiz.accepts_iff_forall_not_violates :
    quiz.Accepts answers ↔ ∀ before answer after, answers = before ++ answer :: after →
      ∀ flaw, ¬ quiz.Violates before answer flaw := by
  constructor
  · rintro haccepts before answer after rfl flaw hviolates
    obtain ⟨index, hindex, -⟩ := haccepts.indexed
    simp [hviolates.reported haccepts.of_append] at hindex
  · intro h
    rcases quiz.accepts_or_violates answers with
      haccepts | ⟨before, answer, after, flaw, hsplit, -, hviolates⟩
    · exact haccepts
    · exact absurd hviolates (h before answer after hsplit flaw)

/-! ### The main result -/

/-- **The check of a submission.**  It passes exactly when no question is answered twice and every
answer is to a question of the quiz and has the form that the first question with its identifier
asks for; the index has each answer under its question, and nothing else.  Or else it fails as an
invalid request: there is an answer before which nothing is wrong, and what is reported is what is
wrong with it after those before it, a question of another quiz before one that was answered
already, and that before a wrong form. -/
theorem Quiz.submission_checked (quiz : Quiz) (answers : List SubmittedAnswer) :
    ((∃ index, quiz.indexAnswers answers = .ok index) ↔
      (answers.map (·.questionId)).Nodup ∧ ∀ answer ∈ answers, ∃ question,
        quiz.question? answer.questionId = some question ∧ question.kind.Fits answer) ∧
    (∀ index, quiz.indexAnswers answers = .ok index → ∀ id answer,
      index.get? id = some answer ↔ answer ∈ answers ∧ answer.questionId = id) ∧
    ∀ flaw, quiz.indexAnswers answers = .error flaw ↔
      (Refusal.submission flaw).kind = .invalid ∧ ∃ before answer after,
        answers = before ++ answer :: after ∧
        (∀ earlier next later, before = earlier ++ next :: later →
          ∀ other, ¬ quiz.Violates earlier next other) ∧
        quiz.Violates before answer flaw := by
  refine ⟨?_, ?_, ?_⟩
  · rw [indexAnswers_eq_ok_iff]
    exact ⟨fun h => ⟨h.distinct, h.suitable⟩, fun ⟨hdistinct, hsuitable⟩ => ⟨hdistinct, hsuitable⟩⟩
  · intro index hindex
    exact holds_of_indexAnswers hindex
  · intro flaw
    rw [indexAnswers_eq_error_iff]
    simp only [accepts_iff_forall_not_violates, Refusal.kind, true_and]

/-- A quiz with a question of each kind, and with two questions under one identifier. -/
def fourKinds : Quiz :=
  { id := 1
    lessonId := 1
    title := ""
    quizType := .graded
    passingScore := Binary64.ofInt 50
    timeLimit := none
    maxAttempts := none
    shuffleQuestions := false
    shuffleOptions := false
    showCorrectAnswers := false
    isPublished := true
    questions :=
      [⟨4, 1, "", Binary64.ofInt 4, 2, .essay⟩,
        ⟨1, 1, "", Binary64.ofInt 1, 1, .multipleChoice [⟨"a", "yes", true⟩, ⟨"b", "no", false⟩]⟩,
        ⟨1, 1, "", Binary64.ofInt 8, 1, .trueFalse (some "true")⟩,
        ⟨3, 1, "", Binary64.ofInt 3, 0, .shortAnswer (some " Yes")⟩,
        ⟨2, 1, "", Binary64.ofInt 2, 0, .trueFalse (some "False")⟩] }

/-- Answers to three of its questions. -/
def threeAnswers : List SubmittedAnswer :=
  [⟨3, none, some "YES "⟩, ⟨1, some "b", none⟩, ⟨2, none, some " TRUE"⟩]

/-- The three answers are accepted, and the one to the identifier that two questions share has the
form of the first.  With two more the first of them is reported, as repeated and not for its
form. -/
theorem Quiz.submission_checked_fourKinds :
    (∃ index, fourKinds.indexAnswers threeAnswers = .ok index ∧
      index.get? 1 = some ⟨1, some "b", none⟩ ∧ index.get? 4 = none) ∧
    fourKinds.indexAnswers (threeAnswers ++ [⟨2, some "b", none⟩, ⟨9, none, none⟩]) =
      .error (.repeatedQuestion 2) := by
  obtain ⟨haccepted, hindexed, -⟩ := submission_checked fourKinds threeAnswers
  obtain ⟨-, -, hreported⟩ :=
    submission_checked fourKinds (threeAnswers ++ [⟨2, some "b", none⟩, ⟨9, none, none⟩])
  have hsuitable : ∀ answer ∈ threeAnswers, fourKinds.Suits answer := by
    intro answer hanswer
    simp only [threeAnswers, List.mem_cons, List.not_mem_nil, or_false] at hanswer
    rcases hanswer with rfl | rfl | rfl
    · exact ⟨_, rfl, rfl, _, rfl, 'Y', by decide, by decide⟩
    · exact ⟨_, rfl, rfl, ⟨"b", "no", false⟩, by simp, rfl⟩
    · exact ⟨_, rfl, rfl, _, rfl, Or.inl (by decide)⟩
  have hdistinct : (threeAnswers.map (·.questionId)).Nodup := by decide
  refine ⟨?_, ?_⟩
  · obtain ⟨index, hindex⟩ := haccepted.2 ⟨hdistinct, hsuitable⟩
    refine ⟨index, hindex, (hindexed index hindex 1 _).2 (by decide), ?_⟩
    rw [Option.eq_none_iff_forall_not_mem]
    intro answer hanswer
    obtain ⟨hmem, hid⟩ := (hindexed index hindex 4 answer).1 hanswer
    have hother : ∀ answer ∈ threeAnswers, answer.questionId ≠ 4 := by decide
    exact hother answer hmem hid
  · have haccepts : fourKinds.Accepts threeAnswers := ⟨hdistinct, hsuitable⟩
    exact (hreported _).2 ⟨rfl, threeAnswers, ⟨2, some "b", none⟩, [⟨9, none, none⟩], rfl,
      accepts_iff_forall_not_violates.1 haccepts,
      .repeated rfl ⟨⟨2, none, some " TRUE"⟩, by decide, rfl⟩⟩

end QuizAttempts
