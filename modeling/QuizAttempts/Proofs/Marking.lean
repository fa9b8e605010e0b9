/-
**Grading, exactly.**

Grading goes through the questions in the order of their places, checks each and compares its answer
with its key, and adds up.  Here it is said what the outcome is without saying how it is come by:
which questions have records and in which order, what a record takes over from an answer, when an
answer is right, and what the totals are sums of.  There is one grade of which all this is true, and
it is the one that comes out, unless a question cannot be graded.

Of the choices the first correct one counts, but where a question can be graded there is no other.
The order of the questions is that of their places, and of those that share a place the one that is
stored first comes first; there is one such order too.

Main definitions:

* `QuestionKind.IsRight` — **the answer is right**;
* `Question.Recorded` — the record of a question;
* `Quiz.InOrder` — the order in which questions are graded;
* `Quiz.Grades` — **the grade of a submission**.

Main results:

* `QuestionKind.credits_iff` — what is credited is right;
* `Question.recorded_iff`, `Quiz.inOrder_iff`, `Quiz.grades_iff` — the descriptions are complete;
* `Quiz.grade_eq_ok_iff`, `gradeEach_eq_error_iff` — what comes of grading;
* `Quiz.graded_exactly` — **grading, exactly**.
-/
import Mathlib.Data.List.Forall2
import QuizAttempts.Proofs.Indexing
import QuizAttempts.Proofs.Publication

set_option autoImplicit false

namespace QuizAttempts

/-! ### Right answers -/

/-- **The answer is right**: it is the one correct choice, or a text that is the key once white
space has been taken from the ends of both and both have been lower-cased.  No essay is right. -/
def QuestionKind.IsRight (kind : QuestionKind) (answer : SubmittedAnswer) : Prop :=
  match kind with
  | .multipleChoice choices => ∃ correct, choices.filter (·.isCorrect) = [correct] ∧
      answer.selectedOptionId = some correct.id
  | .trueFalse key | .shortAnswer key => ∃ given expected, answer.answerText = some given ∧
      key = some expected ∧ lowercase (trim given.toList) = lowercase (trim expected.toList)
  | .essay => False

theorem matchesKey_iff {given key : Option String} :
    matchesKey given key = true ↔ ∃ g k, given = some g ∧ key = some k ∧
      lowercase (trim g.toList) = lowercase (trim k.toList) := by
  cases given <;> cases key <;> simp [matchesKey, sameAnswer]

/-- Where one choice is correct, it is the first that is. -/
theorem matchesChoice_iff {selected : Option String} {choices : List Choice}
    (hone : correctCount choices = 1) :
    matchesChoice selected choices = true ↔ ∃ correct, choices.filter (·.isCorrect) = [correct] ∧
      selected = some correct.id := by
  rw [correctCount, List.countP_eq_length_filter, List.length_eq_one_iff] at hone
  obtain ⟨correct, hcorrect⟩ := hone
  have hfirst : choices.find? (·.isCorrect) = some correct := by
    rw [← List.head?_filter, hcorrect]
    rfl
  cases selected with
  | none => simp [matchesChoice]
  | some selected => simp [matchesChoice, hfirst, hcorrect, eq_comm (a := correct.id)]

/-- Choices that can be graded can be told apart, and one of them is correct. -/
theorem QuestionKind.choices_of_check {choices : List Choice}
    (h : (QuestionKind.multipleChoice choices).check = .ok ()) :
    checkChoices [] [] choices = .ok () ∧ correctCount choices = 1 := by
  rw [QuestionKind.check] at h
  split at h
  · simp at h
  · cases hchoices : checkChoices [] [] choices with
    | error flaw => simp [hchoices, bind, Except.bind] at h
    | ok =>
        refine ⟨rfl, ?_⟩
        by_contra hne
        simp [hchoices, bind, Except.bind, hne] at h

/-- **What is credited is right**, where the question can be graded. -/
theorem QuestionKind.credits_iff {kind : QuestionKind} (h : kind.check = .ok ())
    (given : Option SubmittedAnswer) :
    kind.credits given = true ↔ ∃ answer, given = some answer ∧ kind.IsRight answer := by
  cases given with
  | none => simp
  | some answer =>
      simp only [Option.some.injEq, exists_eq_left']
      cases kind with
      | multipleChoice choices => exact matchesChoice_iff (choices_of_check h).2
      | trueFalse key => exact matchesKey_iff
      | shortAnswer key => exact matchesKey_iff
      | essay => simp [IsRight]

/-! ### Records -/

/-- **The record of a question**: it takes over what was answered, if anything was; it says whether
there is an answer and it is right; and what is right earns the points of the question. -/
structure Question.Recorded (q : Question) (index : AnswerIndex) (record : AnswerRecord) :
    Prop where
  questionId : record.questionId = q.id
  answered : ∀ answer, index.get? q.id = some answer →
    record.selectedOptionId = answer.selectedOptionId ∧ record.answerText = answer.answerText
  unanswered : index.get? q.id = none → record.selectedOptionId = none ∧ record.answerText = none
  correct : record.isCorrect = true ↔
    ∃ answer, index.get? q.id = some answer ∧ q.kind.IsRight answer
  earned : record.pointsEarned = if record.isCorrect then q.points else Binary64.zero

/-- **There is one record of a question** that can be graded. -/
theorem Question.recorded_iff {q : Question} (h : q.check = .ok ()) {index : AnswerIndex}
    {record : AnswerRecord} : q.Recorded index record ↔ record = q.record (index.get? q.id) := by
  have hcredits := QuestionKind.credits_iff (Question.check_eq_ok.1 h).2 (index.get? q.id)
  constructor
  · intro hrecorded
    obtain ⟨id, selected, text, isCorrect, points⟩ := record
    have hcorrect : isCorrect = q.kind.credits (index.get? q.id) := by
      rw [Bool.eq_iff_iff, hcredits]
      exact hrecorded.correct
    have hid : id = q.id := hrecorded.questionId
    have hpoints : points = if isCorrect then q.points else Binary64.zero := hrecorded.earned
    -- the two cases of an answer are one look-up
    have htaken : selected = (index.get? q.id).bind (·.selectedOptionId) ∧
        text = (index.get? q.id).bind (·.answerText) := by
      cases hanswer : index.get? q.id with
      | none => exact hrecorded.unanswered hanswer
      | some answer => exact hrecorded.answered answer hanswer
    obtain ⟨hselected, htext⟩ := htaken
    subst hid hpoints hselected htext hcorrect
    rfl
  · rintro rfl
    refine ⟨rfl, ?_, ?_, hcredits, rfl⟩
    · intro answer hanswer
      simp [Question.record, hanswer]
    · intro hnone
      simp [Question.record, hnone]

/-! ### The order -/

/-- **The order in which questions are graded**: all of them by their places, and those that share
a place as they are stored. -/
structure Quiz.InOrder (quiz : Quiz) (questions : List Question) : Prop where
  all : questions.Perm quiz.questions
  ascending : questions.Pairwise fun q q' =>
    q.orderIndex < q'.orderIndex ∨ q.orderIndex = q'.orderIndex ∧ q.id ≤ q'.id
  stable : ∀ place, questions.filter (fun q => q.place = place) =
    quiz.questions.filter fun q => q.place = place

/-- **There is one such order.** -/
theorem Quiz.inOrder_iff {quiz : Quiz} {questions : List Question} :
    quiz.InOrder questions ↔ questions = inPlace Question.place quiz.questions := by
  constructor
  · intro h
    refine eq_inPlace (h.ascending.imp fun hle => ?_) h.stable
    exact placeLe_iff.2 hle
  · rintro rfl
    refine ⟨inPlace_perm _ _, ?_, filter_inPlace _ _⟩
    exact (pairwise_inPlace Question.place quiz.questions).imp fun hle => placeLe_iff.1 hle

/-! ### The grade -/

/-- **The grade of a submission**: a record for every question in the order of grading, the sum of
the points that were earned in that order, the sum of all points in the order in which the questions
are stored, and what comes of the two. -/
structure Quiz.Grades (quiz : Quiz) (index : AnswerIndex) (grade : Grade) : Prop where
  recorded : ∃ questions, quiz.InOrder questions ∧
    List.Forall₂ (fun q record => q.Recorded index record) questions grade.answers
  score : grade.score =
    ((grade.answers.map (·.pointsEarned)).foldl (· + ·) Binary64.negZero).roundHundredths
  maxScore : grade.maxScore =
    ((quiz.questions.map (·.points)).foldl (· + ·) Binary64.negZero).roundHundredths
  percentage : grade.percentage =
    if grade.maxScore.le Binary64.zero then Binary64.zero
    else (grade.score / grade.maxScore * Binary64.hundred).roundHundredths
  isPassed : grade.isPassed = quiz.passingScore.le grade.percentage

theorem forall₂_recorded_iff {index : AnswerIndex} {questions : List Question}
    {records : List AnswerRecord} (h : ∀ q ∈ questions, q.check = .ok ()) :
    List.Forall₂ (fun q record => q.Recorded index record) questions records ↔
      records = questions.map fun q => q.record (index.get? q.id) := by
  induction questions generalizing records with
  | nil => simp
  | cons q questions ih =>
      obtain ⟨hq, hquestions⟩ := List.forall_mem_cons.1 h
      rw [List.forall₂_cons_left_iff, List.map_cons]
      constructor
      · rintro ⟨record, rest, hrecord, hrest, rfl⟩
        rw [(Question.recorded_iff hq).1 hrecord, (ih hquestions).1 hrest]
      · rintro rfl
        exact ⟨_, _, (Question.recorded_iff hq).2 rfl, (ih hquestions).2 rfl, rfl⟩

/-- **There is one grade** of questions that can be graded. -/
theorem Quiz.grades_iff {quiz : Quiz} {index : AnswerIndex} {grade : Grade}
    (h : ∀ q ∈ quiz.questions, q.check = .ok ()) :
    quiz.Grades index grade ↔ grade = quiz.gradeOf
      ((inPlace Question.place quiz.questions).map fun q => q.record (index.get? q.id)) := by
  have hplaced : ∀ q ∈ inPlace Question.place quiz.questions, q.check = .ok () := by
    intro q hq
    exact h q (mem_inPlace.1 hq)
  constructor
  · rintro ⟨⟨questions, horder, hrecords⟩, hscore, hmax, hpercentage, hpassed⟩
    obtain rfl := inOrder_iff.1 horder
    rw [forall₂_recorded_iff hplaced] at hrecords
    obtain ⟨records, score, maxScore, percentage, isPassed⟩ := grade
    simp only at hrecords hscore hmax hpercentage hpassed
    subst hrecords hscore hmax hpercentage hpassed
    rfl
  · rintro rfl
    exact ⟨⟨_, inOrder_iff.2 rfl, (forall₂_recorded_iff hplaced).2 rfl⟩, rfl, rfl, rfl, rfl⟩

theorem Quiz.grade_eq_ok_iff {quiz : Quiz} {index : AnswerIndex} {grade : Grade} :
    quiz.grade index = .ok grade ↔
      (∀ q ∈ quiz.questions, q.check = .ok ()) ∧ quiz.Grades index grade := by
  constructor
  · intro hgrade
    have hquestions : ∀ q ∈ quiz.questions, q.check = .ok () := by
      cases hrecords : gradeEach index (inPlace Question.place quiz.questions) with
      | error malformed => simp [Quiz.grade, hrecords, Except.map] at hgrade
      | ok records =>
          intro q hq
          exact (gradeEach_eq_ok.1 hrecords).1 q (mem_inPlace.2 hq)
    rw [grade_eq hquestions] at hgrade
    exact ⟨hquestions, (grades_iff hquestions).2 (Except.ok.inj hgrade).symm⟩
  · rintro ⟨hquestions, hgrades⟩
    rw [grade_eq hquestions, (grades_iff hquestions).1 hgrades]
    rfl

/-- What is made of a result fails as that does. -/
theorem map_eq_error_iff {ε α β : Type} {x : Except ε α} {f : α → β} {e : ε} :
    x.map f = .error e ↔ x = .error e := by
  cases x <;> simp [Except.map]

/-- A question that cannot be graded is reported, if all before it can be, whatever comes after. -/
theorem gradeEach_of_malformed {index : AnswerIndex} {before : List Question} {q : Question}
    {flaw : QuestionFlaw} (hbefore : ∀ p ∈ before, p.check = .ok ()) (hq : q.check = .error flaw)
    (after : List Question) : gradeEach index (before ++ q :: after) = .error ⟨q.id, flaw⟩ := by
  induction before with
  | nil => rw [List.nil_append, gradeEach, Question.grade, hq]
  | cons head before ih =>
      obtain ⟨hhead, hrest⟩ := List.forall_mem_cons.1 hbefore
      rw [List.cons_append, gradeEach, Question.grade, hhead, ih hrest]
      rfl

/-- **Grading fails at the first question that cannot be graded.** -/
theorem gradeEach_eq_error_iff {index : AnswerIndex} {questions : List Question}
    {malformed : MalformedQuestion} :
    gradeEach index questions = .error malformed ↔ ∃ before q after flaw,
      questions = before ++ q :: after ∧ (∀ p ∈ before, p.check = .ok ()) ∧
        q.check = .error flaw ∧ malformed = ⟨q.id, flaw⟩ := by
  constructor
  · intro hfails
    induction questions with
    | nil => simp [gradeEach] at hfails
    | cons head questions ih =>
        rw [gradeEach, Question.grade] at hfails
        cases hcheck : head.check with
        | error flaw =>
            rw [hcheck] at hfails
            obtain rfl := Except.error.inj hfails
            exact ⟨[], head, questions, flaw, rfl, by simp, hcheck, rfl⟩
        | ok =>
            rw [hcheck] at hfails
            obtain ⟨before, q, after, flaw, rfl, hbefore, hq, rfl⟩ := ih (map_eq_error_iff.1 hfails)
            exact ⟨head :: before, q, after, flaw, rfl,
              List.forall_mem_cons.2 ⟨hcheck, hbefore⟩, hq, rfl⟩
  · rintro ⟨before, q, after, flaw, rfl, hbefore, hq, rfl⟩
    exact gradeEach_of_malformed hbefore hq after

/-! ### The main result -/

/-- **Grading, exactly.**  A submission is graded exactly when every question of the quiz can be
graded.  Then what comes out is the grade: one record for every question in the order of places,
with what was answered and whether it is right, and the totals.  Or else grading fails as a fault at
the first question in that order that cannot be graded, which is named with the reason. -/
theorem Quiz.graded_exactly (quiz : Quiz) (index : AnswerIndex) :
    ((∃ grade, quiz.grade index = .ok grade) ↔ ∀ q ∈ quiz.questions, q.check = .ok ()) ∧
    (∀ grade, quiz.grade index = .ok grade ↔
      (∀ q ∈ quiz.questions, q.check = .ok ()) ∧ quiz.Grades index grade) ∧
    ∀ malformed, quiz.grade index = .error malformed ↔ ∃ before q after flaw,
      quiz.InOrder (before ++ q :: after) ∧ (∀ p ∈ before, p.check = .ok ()) ∧
        q.check = .error flaw ∧ malformed = ⟨q.id, flaw⟩ ∧
        (Refusal.malformed malformed).report =
          ⟨.fault, "Question " ++ showInt q.id ++ " is malformed: " ++ flaw.message⟩ := by
  refine ⟨⟨?_, ?_⟩, ?_, ?_⟩
  · rintro ⟨grade, hgrade⟩
    exact (grade_eq_ok_iff.1 hgrade).1
  · intro hquestions
    exact ⟨_, grade_eq hquestions index⟩
  · intro grade
    exact grade_eq_ok_iff
  · intro malformed
    rw [Quiz.grade, map_eq_error_iff, gradeEach_eq_error_iff]
    constructor
    · rintro ⟨before, q, after, flaw, hsplit, hbefore, hq, rfl⟩
      exact ⟨before, q, after, flaw, inOrder_iff.2 hsplit.symm, hbefore, hq, rfl, rfl⟩
    · rintro ⟨before, q, after, flaw, horder, hbefore, hq, rfl, -⟩
      exact ⟨before, q, after, flaw, (inOrder_iff.1 horder).symm, hbefore, hq, rfl⟩

/-- The questions of the quiz of four kinds, in the order of grading. -/
def fourKindsInOrder : List Question :=
  [⟨2, 1, "", Binary64.ofInt 2, 0, .trueFalse (some "False")⟩,
    ⟨3, 1, "", Binary64.ofInt 3, 0, .shortAnswer (some " Yes")⟩,
    ⟨1, 1, "", Binary64.ofInt 1, 1, .multipleChoice [⟨"a", "yes", true⟩, ⟨"b", "no", false⟩]⟩,
    ⟨1, 1, "", Binary64.ofInt 8, 1, .trueFalse (some "true")⟩,
    ⟨4, 1, "", Binary64.ofInt 4, 2, .essay⟩]

theorem inOrder_fourKinds : fourKinds.InOrder fourKindsInOrder := by
  rw [Quiz.inOrder_iff]
  simp [fourKindsInOrder, fourKinds, inPlace, List.mergeSort, List.MergeSort.Internal.splitInTwo,
    Question.place, placeLe]

/-- A quiz of two questions without keys, of which the second stands first. -/
def withoutKeys : Quiz :=
  { fourKinds with
    questions :=
      [⟨5, 1, "", Binary64.ofInt 1, 0, .trueFalse none⟩,
        ⟨4, 1, "", Binary64.ofInt 1, 0, .shortAnswer none⟩] }

/-- Of the three answers one is right, and earns three points out of eighteen.  Without keys nothing
is graded, and the question that stands first is the one that is named. -/
theorem Quiz.graded_exactly_fourKinds :
    (∃ grade, fourKinds.grade (answerIndex threeAnswers) = .ok grade ∧
      grade.answers.map (fun record => (record.questionId, record.isCorrect)) =
        [(2, false), (3, true), (1, false), (1, false), (4, false)] ∧
      grade.score = Binary64.ofInt 3 ∧ grade.maxScore = Binary64.ofInt 18 ∧
      grade.isPassed = false) ∧
    withoutKeys.grade (answerIndex threeAnswers) = .error ⟨4, .noShortKey⟩ := by
  have hchecked : ∀ q ∈ fourKinds.questions, q.check = .ok () := by decide +kernel
  refine ⟨?_, ?_⟩
  · obtain ⟨hgraded, hexactly, -⟩ := graded_exactly fourKinds (answerIndex threeAnswers)
    obtain ⟨grade, hgrade⟩ := hgraded.2 hchecked
    obtain ⟨-, hgrades⟩ := (hexactly grade).1 hgrade
    have heq := (grades_iff hchecked).1 hgrades
    rw [← inOrder_iff.1 inOrder_fourKinds] at heq
    subst heq
    exact ⟨_, hgrade, by decide +kernel, by decide +kernel, by decide +kernel, by decide +kernel⟩
  · obtain ⟨-, -, hfails⟩ := graded_exactly withoutKeys (answerIndex threeAnswers)
    have horder : withoutKeys.InOrder withoutKeys.questions.reverse := by
      rw [inOrder_iff]
      simp [withoutKeys, inPlace, List.mergeSort, List.MergeSort.Internal.splitInTwo,
        Question.place, placeLe]
    exact (hfails _).2 ⟨[], _, _, .noShortKey, horder, by simp, by decide +kernel, rfl, rfl⟩

end QuizAttempts
