/-
**Every quiz that can be published can be solved.**

Three sets of rules meet in a question: what its author may put down as the key, what form an answer
must have, and when an answer is right.  They compare texts in three ways — as written, without the
white space around them, or lower-cased as well — and so it is not plain that a key which the author
may put down can be given as an answer at all.  It can: the key is an answer to its own question, of
the form that is asked for, and it is right.

Where no two questions have the same identifier, the keys of a quiz taken together are a submission.
It is accepted, and earns the points of every question that is not an essay.

Main definitions:

* `Question.solution?`, `Quiz.solution` — **the keys as answers**;
* `Question.SolvedBy` — the answer is to the question, has its form and is credited.

Main results:

* `nodup_of_checkChoices` — which choices can be told apart;
* `Question.exists_solution` — **a key is an answer to its own question**;
* `Quiz.accepts_solution` — the keys taken together are accepted;
* `QuestionKind.credited_ids` — **one choice of a multiple-choice question is credited**;
* `Quiz.solvable` — every quiz that can be published can be solved.
-/
import Mathlib.Data.List.Nodup
import QuizAttempts.Proofs.Marking

set_option autoImplicit false

namespace QuizAttempts

/-! ### Keys as answers -/

/-- The answer that selects a choice. -/
def Question.choosing (q : Question) (id : String) : SubmittedAnswer := ⟨q.id, some id, none⟩

/-- The answer that gives a text. -/
def Question.writing (q : Question) (text : String) : SubmittedAnswer := ⟨q.id, none, some text⟩

/-- **The key as an answer**: the first choice that is correct, or the key as it is written.  An
essay has none. -/
def Question.solution? (q : Question) : Option SubmittedAnswer :=
  match q.kind with
  | .multipleChoice choices =>
      (choices.find? (·.isCorrect)).map fun correct => q.choosing correct.id
  | .trueFalse key | .shortAnswer key => key.map q.writing
  | .essay => none

/-- **The keys of a quiz as a submission.** -/
def Quiz.solution (quiz : Quiz) : List SubmittedAnswer := quiz.questions.filterMap (·.solution?)

/-- **The answer solves the question**: it is to the question, has the form that is asked for and is
credited. -/
structure Question.SolvedBy (q : Question) (answer : SubmittedAnswer) : Prop where
  questionId : answer.questionId = q.id
  fits : q.kind.Fits answer
  credited : q.kind.credits (some answer) = true

/-! ### What is known of a question that can be graded -/

@[simp] theorem sameAnswer_self (text : String) : sameAnswer text text = true := by
  simp [sameAnswer]

theorem usableKey?_eq_some {key : Option String} {text : String} :
    usableKey? key = some text ↔ key = some text ∧ isBlankText text.toList = false := by
  simp [usableKey?]

/-- **Choices that can be told apart**, from one another and from what was seen before. -/
theorem nodup_of_checkChoices {choices : List Choice} {ids : List String} {texts : List (List Char)}
    (h : checkChoices ids texts choices = .ok ()) :
    (choices.map (·.id)).Nodup ∧ ∀ choice ∈ choices, choice.id ∉ ids := by
  induction choices generalizing ids texts with
  | nil => simp
  | cons choice choices ih =>
      rw [checkChoices] at h
      split at h
      · simp at h
      · split at h
        · simp at h
        · rename_i hnew
          split at h
          · simp at h
          · obtain ⟨hnodup, hfresh⟩ := ih h
            refine ⟨?_, ?_⟩
            · rw [List.map_cons, List.nodup_cons]
              refine ⟨fun hmem => ?_, hnodup⟩
              obtain ⟨other, hother, hid⟩ := List.mem_map.1 hmem
              exact hfresh other hother (hid ▸ List.mem_cons_self)
            · rw [List.forall_mem_cons]
              refine ⟨by simpa using hnew, fun other hother hmem => ?_⟩
              exact hfresh other hother (List.mem_cons_of_mem _ hmem)

namespace QuestionKind

variable {choices : List Choice} {key : Option String}

theorem exists_correct_of_check (h : (multipleChoice choices).check = .ok ()) :
    ∃ correct, choices.filter (·.isCorrect) = [correct] := by
  have hone := (choices_of_check h).2
  rwa [correctCount, List.countP_eq_length_filter, List.length_eq_one_iff] at hone

theorem exists_truth_of_check (h : (trueFalse key).check = .ok ()) :
    ∃ text, key = some text ∧ (truth? text.toList).isSome = true := by
  rw [check] at h
  cases husable : usableKey? key with
  | none => simp [husable] at h
  | some text =>
      simp only [husable] at h
      refine ⟨text, (usableKey?_eq_some.1 husable).1, ?_⟩
      by_contra hnone
      simp [hnone] at h

theorem exists_text_of_check (h : (shortAnswer key).check = .ok ()) :
    ∃ text, key = some text ∧ isBlankText text.toList = false := by
  rw [check] at h
  cases husable : usableKey? key with
  | none => simp [husable] at h
  | some text => exact ⟨text, usableKey?_eq_some.1 husable⟩

/-- **One choice is credited**: among the identifiers of the choices there is one, which no other
choice has, that makes an answer right. -/
theorem credited_ids (h : (multipleChoice choices).check = .ok ()) :
    ∃ correct ∈ choices, correct.isCorrect = true ∧
      (∀ answer : SubmittedAnswer, (multipleChoice choices).credits (some answer) = true ↔
        answer.selectedOptionId = some correct.id) ∧
      (choices.map (·.id)).count correct.id = 1 := by
  obtain ⟨correct, hcorrect⟩ := exists_correct_of_check h
  have hmem : correct ∈ choices.filter (·.isCorrect) := hcorrect ▸ List.mem_singleton_self correct
  obtain ⟨hchoice, hright⟩ := List.mem_filter.1 hmem
  refine ⟨correct, hchoice, hright, fun answer => ?_, ?_⟩
  · rw [credits_iff h]
    simp [IsRight, hcorrect]
  · obtain ⟨hdistinct, -⟩ := nodup_of_checkChoices (choices_of_check h).1
    exact List.count_eq_one_of_mem hdistinct (List.mem_map_of_mem hchoice)

end QuestionKind

/-! ### A question -/

theorem Question.solution?_essay {q : Question} (h : q.kind = .essay) : q.solution? = none := by
  rw [solution?, h]

/-- **A key is an answer to its own question**, of the form that is asked for, and it is right. -/
theorem Question.exists_solution {q : Question} (h : q.check = .ok ()) (hkind : q.kind ≠ .essay) :
    ∃ answer, q.solution? = some answer ∧ q.SolvedBy answer := by
  obtain ⟨-, hcheck⟩ := check_eq_ok.1 h
  rw [solution?]
  cases hq : q.kind with
  | multipleChoice choices =>
      rw [hq] at hcheck
      obtain ⟨correct, hcorrect⟩ := QuestionKind.exists_correct_of_check hcheck
      have hfirst : choices.find? (·.isCorrect) = some correct := by
        rw [← List.head?_filter, hcorrect]
        rfl
      have hmem : correct ∈ choices := List.mem_of_find?_eq_some hfirst
      refine ⟨q.choosing correct.id, by simp [hfirst], rfl, ?_, ?_⟩
      · rw [hq]
        exact ⟨rfl, correct, hmem, rfl⟩
      · rw [hq]
        simp [QuestionKind.credits, matchesChoice, choosing, hfirst]
  | trueFalse key =>
      rw [hq] at hcheck
      obtain ⟨text, rfl, htruth⟩ := QuestionKind.exists_truth_of_check hcheck
      refine ⟨q.writing text, rfl, rfl, ?_, ?_⟩
      · rw [hq]
        exact ⟨rfl, text, rfl, isSome_truth?_iff.1 htruth⟩
      · rw [hq]
        exact sameAnswer_self text
  | shortAnswer key =>
      rw [hq] at hcheck
      obtain ⟨text, rfl, hsome⟩ := QuestionKind.exists_text_of_check hcheck
      refine ⟨q.writing text, rfl, rfl, ?_, ?_⟩
      · rw [hq]
        refine ⟨rfl, text, rfl, ?_⟩
        simpa [isBlankText] using hsome
      · rw [hq]
        exact sameAnswer_self text
  | essay => exact absurd hq hkind

/-! ### Several questions -/

/-- Where identifiers are distinct, a question is found under its own. -/
theorem find?_id_of_mem {questions : List Question} (hdistinct : (questions.map (·.id)).Nodup)
    {q : Question} (hq : q ∈ questions) : questions.find? (·.id == q.id) = some q := by
  induction questions with
  | nil => simp at hq
  | cons head questions ih =>
      rw [List.map_cons, List.nodup_cons] at hdistinct
      obtain ⟨hhead, hdistinct⟩ := hdistinct
      rcases List.mem_cons.1 hq with rfl | hq
      · simp
      · have hne : head.id ≠ q.id := fun hid => hhead (hid ▸ List.mem_map_of_mem hq)
        rw [List.find?_cons_of_neg (by simpa using hne)]
        exact ih hdistinct hq

/-- **There is one answer for every question that is not an essay**, in the order of the
questions. -/
theorem questionIds_solutions {questions : List Question}
    (hchecked : ∀ q ∈ questions, q.check = .ok ()) :
    (questions.filterMap (·.solution?)).map (·.questionId) =
      (questions.filter (·.kind ≠ .essay)).map (·.id) := by
  induction questions with
  | nil => rfl
  | cons q questions ih =>
      obtain ⟨hq, hquestions⟩ := List.forall_mem_cons.1 hchecked
      by_cases hkind : q.kind = .essay
      · rw [List.filterMap_cons_none (Question.solution?_essay hkind), ih hquestions]
        simp [hkind]
      · obtain ⟨answer, hanswer, hsolved⟩ := Question.exists_solution hq hkind
        rw [List.filterMap_cons_some hanswer, List.map_cons, ih hquestions, hsolved.questionId]
        simp [hkind]

/-! ### A quiz -/

namespace Quiz

variable {quiz : Quiz}

/-- **The keys taken together are accepted.** -/
theorem accepts_solution (hchecked : ∀ q ∈ quiz.questions, q.check = .ok ())
    (hdistinct : (quiz.questions.map (·.id)).Nodup) : quiz.Accepts quiz.solution := by
  refine ⟨?_, fun answer hanswer => ?_⟩
  · rw [solution, questionIds_solutions hchecked]
    exact hdistinct.sublist (List.filter_sublist.map _)
  · obtain ⟨q, hq, hsolution⟩ := List.mem_filterMap.1 hanswer
    have hkind : q.kind ≠ .essay := fun hessay => by
      simp [Question.solution?_essay hessay] at hsolution
    obtain ⟨other, hother, hsolved⟩ := Question.exists_solution (hchecked q hq) hkind
    obtain rfl := Option.some.inj (hsolution.symm.trans hother)
    exact ⟨q, hsolved.questionId ▸ find?_id_of_mem hdistinct hq, hsolved.fits⟩

/-- A question that is not an essay is solved by what is kept under it in an index of the keys. -/
theorem solved_of_holds {index : AnswerIndex} (hholds : index.Holds quiz.solution) {q : Question}
    (hq : q ∈ quiz.questions) (hchecked : q.check = .ok ()) (hkind : q.kind ≠ .essay) :
    ∃ answer, index.get? q.id = some answer ∧ q.SolvedBy answer := by
  obtain ⟨answer, hsolution, hsolved⟩ := Question.exists_solution hchecked hkind
  refine ⟨answer, (hholds q.id answer).2 ⟨?_, hsolved.questionId⟩, hsolved⟩
  exact List.mem_filterMap.2 ⟨q, hq, hsolution⟩

/-- **Every quiz that can be published can be solved**, if no two of its questions have the same
identifier.

The keys of its questions, one for each that is not an essay, are a submission that is accepted and
graded; every question has its record, and that of a question that is not an essay says that it is
right and earned all its points.  And of every multiple-choice question that can be graded, one
choice is correct, its identifier is that of no other, and an answer is credited exactly when it
selects that. -/
theorem solvable (hchecked : quiz.checkPublishable = .ok ())
    (hdistinct : (quiz.questions.map (·.id)).Nodup) :
    (quiz.solution.map (·.questionId) = (quiz.questions.filter (·.kind ≠ .essay)).map (·.id) ∧
      ∃ index grade, quiz.indexAnswers quiz.solution = .ok index ∧
        quiz.grade index = .ok grade ∧
        ∃ questions, quiz.InOrder questions ∧
          List.Forall₂ (fun q record => record.questionId = q.id ∧
            (q.kind ≠ .essay → record.isCorrect = true ∧ record.pointsEarned = q.points))
            questions grade.answers) ∧
    ∀ (q : Question) (choices : List Choice), q.check = .ok () →
      q.kind = .multipleChoice choices →
        ∃ correct ∈ choices, correct.isCorrect = true ∧
          (∀ answer : SubmittedAnswer, q.kind.credits (some answer) = true ↔
            answer.selectedOptionId = some correct.id) ∧
          (choices.map (·.id)).count correct.id = 1 := by
  obtain ⟨-, -, hquestions⟩ := checkPublishable_eq_ok.1 hchecked
  refine ⟨⟨questionIds_solutions hquestions, ?_⟩, fun q choices hq hkind => ?_⟩
  · obtain ⟨index, hindex, hholds⟩ := (accepts_solution hquestions hdistinct).indexed
    refine ⟨index, _, hindex, grade_eq hquestions index,
      quiz.sorted.questions, inOrder_iff.2 rfl, ?_⟩
    show List.Forall₂ _ _ (quiz.sorted.questions.map fun q => q.record (index.get? q.id))
    rw [List.forall₂_map_right_iff, List.forall₂_same]
    intro q hq
    refine ⟨rfl, fun hkind => ?_⟩
    have hmem : q ∈ quiz.questions := mem_inPlace.1 hq
    obtain ⟨answer, hanswer, hsolved⟩ := solved_of_holds hholds hmem (hquestions q hmem) hkind
    rw [hanswer]
    simp [Question.record, hsolved.credited]
  · have hcheck := (Question.check_eq_ok.1 hq).2
    rw [hkind] at hcheck ⊢
    exact QuestionKind.credited_ids hcheck

/-- A quiz of four questions, whose keys are spelled with capitals and white space. -/
def spelledLoosely : Quiz :=
  { fourKinds with
    questions :=
      [⟨4, 1, "", Binary64.ofInt 4, 2, .essay⟩,
        ⟨1, 1, "", Binary64.ofInt 1, 1, .multipleChoice [⟨" a", "yes", false⟩, ⟨"a", "no", true⟩]⟩,
        ⟨3, 1, "", Binary64.ofInt 3, 0, .shortAnswer (some "\tÉtÉ")⟩,
        ⟨2, 1, "", Binary64.ofInt 2, 0, .trueFalse (some " FALSE\n")⟩] }

/-- Its keys are three answers, which earn all points but those of the essay, and of the choices the
second is credited. -/
theorem solvable_spelledLoosely :
    spelledLoosely.solution =
      [⟨1, some "a", none⟩, ⟨3, none, some "\tÉtÉ"⟩, ⟨2, none, some " FALSE\n"⟩] ∧
    (∃ index grade, spelledLoosely.indexAnswers spelledLoosely.solution = .ok index ∧
      spelledLoosely.grade index = .ok grade ∧
      ∃ questions, spelledLoosely.InOrder questions ∧
        List.Forall₂ (fun q record => record.questionId = q.id ∧
          (q.kind ≠ .essay → record.isCorrect = true ∧ record.pointsEarned = q.points))
          questions grade.answers) ∧
    ∀ q ∈ spelledLoosely.questions, q.id = 1 → ∀ answer : SubmittedAnswer,
      q.kind.credits (some answer) = true ↔ answer.selectedOptionId = some "a" := by
  have hchecked : spelledLoosely.checkPublishable = .ok () := by decide +kernel
  have hdistinct : (spelledLoosely.questions.map (·.id)).Nodup := by decide +kernel
  obtain ⟨⟨-, hsolved⟩, hcredited⟩ := solvable hchecked hdistinct
  refine ⟨by decide +kernel, hsolved, fun q hq hid => ?_⟩
  have hcheck := (checkPublishable_eq_ok.1 hchecked).2.2 q hq
  simp only [spelledLoosely, List.mem_cons, List.not_mem_nil, or_false] at hq
  rcases hq with rfl | rfl | rfl | rfl
  · simp at hid
  · obtain ⟨correct, hmem, hright, hanswers, -⟩ := hcredited _ _ hcheck rfl
    simp only [List.mem_cons, List.not_mem_nil, or_false] at hmem
    rcases hmem with rfl | rfl
    · simp at hright
    · exact hanswers
  · simp at hid
  · simp at hid

end Quiz

end QuizAttempts
