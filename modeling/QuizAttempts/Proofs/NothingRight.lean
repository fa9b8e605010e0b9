/-
**Nothing right is nothing scored.**

What is wrong earns a zero, and a sum of zeros is zero.  But a sum starts from negative zero, the
maximum by which the score is divided may be zero itself, or so small that two decimals leave
nothing of it, or infinite, and a zero divided by a zero is not a number.  Each of these takes
another way, and all of them end in the same: where no question is right, the score and the
percentage are the positive zero, bit for bit, whatever there was to score.  Nobody passes with
that, unless nothing is asked for.

Main results:

* `Binary64.sum_zeros` — **zeros come to zero**, if there are any;
* `percentage_zero` — nothing of any total is nothing;
* `le_zero_iff_of_isPassingScore` — the passing scores that ask for nothing;
* `Quiz.gradeOf_of_wrong` — the grade of records that are all wrong;
* `Quiz.grade_nothing_right` — **nothing right is nothing scored**.
-/
import QuizAttempts.Proofs.Grades

set_option autoImplicit false

namespace QuizAttempts

open Binary64

-- A power of natural numbers is read as one, whatever else is in scope.
attribute [local instance (2000)] instPowNat

-- The limit is too large to be looked into.
attribute [local irreducible] Magnitude.limit Magnitude.unitsPerOne

/-! ### Zeros -/

namespace Binary64

theorem negZero_add_zero : add negZero zero = zero := by decide +kernel

theorem zero_add_zero : add zero zero = zero := by decide +kernel

theorem zero_mul_hundred : zero * hundred = zero := by decide +kernel

theorem roundHundredths_zero : zero.roundHundredths = zero := by decide +kernel

theorem foldl_add_zeros {xs : List Binary64} (h : ∀ x ∈ xs, x = zero) :
    xs.foldl add zero = zero := by
  induction xs with
  | nil => rfl
  | cons x xs ih =>
      obtain ⟨rfl, hrest⟩ := List.forall_mem_cons.1 h
      rw [List.foldl_cons, zero_add_zero]
      exact ih hrest

/-- **Zeros come to zero**: the first of them takes the sign away with which a sum starts. -/
theorem sum_zeros {xs : List Binary64} (hsome : xs ≠ []) (h : ∀ x ∈ xs, x = zero) :
    sum xs = zero := by
  cases xs with
  | nil => exact absurd rfl hsome
  | cons x xs =>
      obtain ⟨rfl, hrest⟩ := List.forall_mem_cons.1 h
      rw [sum, List.foldl_cons, negZero_add_zero]
      exact foldl_add_zeros hrest

/-- Nothing of a total that is more than nothing is nothing. -/
theorem zero_div {y : Binary64} {b : Nat} (hy : y.HasRank b) (hpos : 0 < b) : zero / y = zero := by
  rcases hy.cases with ⟨s, m, rfl, hunits, hsign⟩ | ⟨rfl, -⟩
  · have hplus : s = false := by
      cases s with
      | false => rfl
      | true => exact absurd (hsign rfl) (Nat.ne_of_gt hpos)
    have hsome : m.units ≠ 0 := hunits ▸ Nat.ne_of_gt hpos
    have hnone : ofRatio false 0 m.units = zero := by
      have hzero := ofRatio_units_mul false Magnitude.zero (Nat.pos_of_ne_zero hsome)
      rwa [Magnitude.units_zero, Nat.zero_mul] at hzero
    subst hplus
    show div zero (finite false m) = zero
    simp only [div, zero, if_neg hsome, Magnitude.units_zero, Nat.zero_mul]
    exact hnone
  · rfl

end Binary64

/-- **Nothing of any total is nothing**, whether there is nothing to score, something, or too
much. -/
theorem percentage_zero {y : Binary64} {b : Nat} (hy : y.HasRank b) : percentage zero y = zero := by
  unfold percentage
  split
  · rfl
  · rename_i hsome
    have hpos : 0 < b := by
      rw [hy.le_iff hasRank_zero] at hsome
      omega
    rw [zero_div hy hpos, zero_mul_hundred, roundHundredths_zero]

/-- **The passing scores that ask for nothing** are the two zeros. -/
theorem le_zero_iff_of_isPassingScore {x : Binary64} (h : isPassingScore x = true) :
    x.le zero = true ↔ x = zero ∨ x = negZero := by
  obtain ⟨a, ha⟩ := zero_le_iff.1 (Bool.and_eq_true_iff.1 h).1
  constructor
  · intro hle
    obtain rfl : a = 0 := Nat.le_zero.1 ((ha.le_iff hasRank_zero).1 hle)
    rcases ha.cases with ⟨s, m, rfl, hunits, -⟩ | ⟨-, hlimit⟩
    · obtain rfl := Magnitude.units_eq_zero.1 hunits
      cases s with
      | false => exact Or.inl rfl
      | true => exact Or.inr rfl
    · exact absurd hlimit (Nat.ne_of_lt Magnitude.limit_pos)
  · rintro (rfl | rfl)
    · rfl
    · rfl

/-! ### Grades -/

namespace Quiz

variable {quiz : Quiz}

/-- What is wrong earns nothing. -/
theorem earned_of_wrong {q : Question} {answer : Option SubmittedAnswer}
    (h : (q.record answer).isCorrect = false) : (q.record answer).pointsEarned = zero := by
  have hwrong : q.kind.credits answer = false := h
  rw [Question.record, hwrong]
  rfl

/-- **The grade of records that are all wrong.** -/
theorem gradeOf_of_wrong {records : List AnswerRecord} (hsome : records ≠ [])
    (hearned : ∀ record ∈ records, record.pointsEarned = zero) {b : Nat}
    (hmax : quiz.maxScore.HasRank b) :
    (quiz.gradeOf records).score = zero ∧ (quiz.gradeOf records).percentage = zero := by
  have hsum : sum (records.map (·.pointsEarned)) = zero := by
    refine sum_zeros (mt List.map_eq_nil_iff.1 hsome) fun x hx => ?_
    obtain ⟨record, hrecord, rfl⟩ := List.mem_map.1 hx
    exact hearned record hrecord
  have hscore : (quiz.gradeOf records).score = zero := by
    show (sum (records.map (·.pointsEarned))).roundHundredths = zero
    rw [hsum, roundHundredths_zero]
  refine ⟨hscore, ?_⟩
  rw [percentage_gradeOf, hscore]
  exact percentage_zero hmax.roundHundredths

/-- **Nothing right is nothing scored.**  Let a quiz be fit to be published, and let it be graded
with any answers.  If none of the records is right, then none has earned anything, the score and the
percentage are zero, and who asked for nothing, and nobody else, has passed.  That is so in
particular of the submission without answers, which is accepted and of which nothing is right. -/
theorem grade_nothing_right (hfit : quiz.checkPublishable = .ok ()) :
    (∀ index, ∃ grade, quiz.grade index = .ok grade ∧
      ((∀ record ∈ grade.answers, record.isCorrect = false) →
        grade.score = zero ∧ grade.percentage = zero ∧
        (∀ record ∈ grade.answers, record.pointsEarned = zero) ∧
        (grade.isPassed = true ↔ quiz.passingScore = zero ∨ quiz.passingScore = negZero))) ∧
    ∃ index grade, quiz.indexAnswers [] = .ok index ∧ quiz.grade index = .ok grade ∧
      ∀ record ∈ grade.answers, record.isCorrect = false := by
  obtain ⟨-, hpassing, hquestions⟩ := checkPublishable_eq_ok.1 hfit
  obtain ⟨b, hmax⟩ := hasRank_maxScore hquestions
  refine ⟨fun index => ⟨_, grade_eq hquestions index, fun hwrong => ?_⟩, ?_⟩
  · have hsome : (quiz.sorted.questions.map fun q => q.record (index.get? q.id)) ≠ [] :=
      mt List.map_eq_nil_iff.1 (checkPublishable_eq_ok.1 (checkPublishable_sorted.2 hfit)).1
    have hearned : ∀ record ∈ quiz.sorted.questions.map fun q => q.record (index.get? q.id),
        record.pointsEarned = zero := by
      intro record hrecord
      have hnot := hwrong record hrecord
      obtain ⟨q, -, rfl⟩ := List.mem_map.1 hrecord
      exact earned_of_wrong hnot
    obtain ⟨hscore, hpercentage⟩ := gradeOf_of_wrong hsome hearned hmax
    refine ⟨hscore, hpercentage, hearned, ?_⟩
    rw [isPassed_gradeOf, hpercentage]
    exact le_zero_iff_of_isPassingScore hpassing
  · refine ⟨Table.empty, _, rfl, grade_eq hquestions Table.empty, ?_⟩
    intro record hrecord
    obtain ⟨q, -, rfl⟩ := List.mem_map.1 hrecord
    simp [Question.record]

/-- A quiz that asks for nothing. -/
def undemanding : Quiz := { quizAt [(1, ofInt 2)] with passingScore := negZero }

/-- The submission without answers to three quizzes that ask for a half, of which there is nothing
to score, next to nothing, and more than the largest number once it is rounded; and to one that asks
for nothing, which is passed. -/
theorem grade_nothing_right_fourQuizzes :
    (∀ points ∈ [zero, ofRatio false 1 1, ofInt (10 ^ (307 : Nat) : Nat)],
      ∃ grade, (quizAt [(1, points)]).grade Table.empty = .ok grade ∧
        grade.score = zero ∧ grade.percentage = zero ∧ grade.isPassed = false) ∧
    ∃ grade, undemanding.grade Table.empty = .ok grade ∧
      grade.percentage = zero ∧ grade.isPassed = true := by
  have hnothing : ∀ quiz : Quiz, quiz.checkPublishable = .ok () →
      ∃ grade, quiz.grade Table.empty = .ok grade ∧ grade.score = zero ∧ grade.percentage = zero ∧
        (grade.isPassed = true ↔ quiz.passingScore = zero ∨ quiz.passingScore = negZero) := by
    intro quiz hfit
    obtain ⟨hgraded, index, empty, hindex, hempty, hwrong⟩ := grade_nothing_right hfit
    obtain rfl : Table.empty = index := Except.ok.inj hindex
    obtain ⟨grade, hgrade, hzero⟩ := hgraded Table.empty
    obtain rfl := Except.ok.inj (hgrade.symm.trans hempty)
    obtain ⟨hscore, hpercentage, -, hpassed⟩ := hzero hwrong
    exact ⟨grade, hgrade, hscore, hpercentage, hpassed⟩
  refine ⟨fun points hpoints => ?_, ?_⟩
  · have hall : ∀ points ∈ [zero, ofRatio false 1 1, ofInt (10 ^ (307 : Nat) : Nat)],
        isPoints points = true := by decide +kernel
    have hfit : (quizAt [(1, points)]).checkPublishable = .ok () := by
      refine checkPublishable_quizAt (List.cons_ne_nil _ _) fun p hp => ?_
      obtain rfl := List.mem_singleton.1 hp
      exact hall points hpoints
    obtain ⟨grade, hgrade, hscore, hpercentage, hpassed⟩ := hnothing _ hfit
    have hhalf : ¬ (ofInt 50 = zero ∨ ofInt 50 = negZero) := by decide +kernel
    exact ⟨grade, hgrade, hscore, hpercentage, Bool.eq_false_iff.2 (mt hpassed.1 hhalf)⟩
  · have hquestions : ∀ q ∈ undemanding.questions, q.check = .ok () := by
      have hquiz : (quizAt [(1, ofInt 2)]).checkPublishable = .ok () :=
        checkPublishable_quizAt (List.cons_ne_nil _ _) (by decide +kernel)
      exact (checkPublishable_eq_ok.1 hquiz).2.2
    have hfit : undemanding.checkPublishable = .ok () :=
      checkPublishable_eq_ok.2 ⟨List.cons_ne_nil _ _, by decide +kernel, hquestions⟩
    obtain ⟨grade, hgrade, -, hpercentage, hpassed⟩ := hnothing _ hfit
    exact ⟨grade, hgrade, hpercentage, hpassed.2 (Or.inr rfl)⟩

end Quiz

end QuizAttempts
