/-
**Grades are in range, unless there is too much to score.**

The points of a question are finite and not negative, and that is all that is asked of them.  What
an answer earns is at most what its question is worth, and sums and two decimals keep the order, so
a score is at most the total of the points when both are summed in the same order.  Then the
percentage is between nothing and a hundred, and a hundred for who has everything right.

There are two ways out of the range.  A total is multiplied by a hundred when it is rounded, and
both may pass the largest number.  Such a total is infinite; who has everything right has scored all
of it, but infinity divided by itself is not a number, and nobody passes with that.  And the maximum
is summed in the order in which the questions are held, the score in that of their places, so that
the maximum may come to less; but a quiz that is loaded holds its questions in their places.

Main definitions:

* `Grade.IsBounded`, `Grade.IsInRange` — what is expected of a grade.

Main results:

* `Binary64.sum_le_sum` — **sums keep the order**;
* `percentage_range`, `percentage_self` — a part of the whole, and the whole;
* `Quiz.grade_in_range` — **a grade is in range exactly if the total is finite**.
-/
import QuizAttempts.Proofs.Publication
import QuizAttempts.Proofs.Rounding

set_option autoImplicit false

namespace QuizAttempts

open Binary64

-- A power of natural numbers is read as one, whatever else is in scope.
attribute [local instance (2000)] instPowNat

-- The limit is too large to be looked into.
attribute [local irreducible] Magnitude.limit Magnitude.unitsPerOne

/-! ### What is earned -/

/-- What can be earned is finite. -/
theorem Question.hasRank_points {q : Question} (h : q.check = .ok ()) :
    ∃ a, q.points.HasRank a ∧ a < Magnitude.limit := by
  obtain ⟨hpoints, -⟩ := Question.check_eq_ok.1 h
  rw [isPoints, Bool.and_eq_true, Bool.not_eq_true'] at hpoints
  obtain ⟨hfinite, hnotless⟩ := hpoints
  obtain ⟨a, ha⟩ := zero_le_iff.1 (zero_le_of_not_lt hfinite hnotless)
  exact ⟨a, ha, ha.isFinite_iff.1 hfinite⟩

/-- An answer earns the points of its question or nothing. -/
theorem Question.hasRank_earned {q : Question} (h : q.check = .ok ())
    (answer : Option SubmittedAnswer) :
    ∃ a b, (q.record answer).pointsEarned.HasRank a ∧ q.points.HasRank b ∧ a ≤ b := by
  obtain ⟨b, hb, -⟩ := Question.hasRank_points h
  rw [Question.record]
  cases q.kind.credits answer with
  | true => exact ⟨b, b, hb, hb, Nat.le_refl b⟩
  | false => exact ⟨0, b, hasRank_zero, hb, Nat.zero_le b⟩

/-! ### Sums -/

section Sums

variable {α : Type} {f g : α → Binary64} {xs : List α}

/-- Adding amounts that are greater, one by one, comes to at least as much. -/
theorem Binary64.foldl_add_le
    (h : ∀ x ∈ xs, ∃ a b, (f x).HasRank a ∧ (g x).HasRank b ∧ a ≤ b) {u v : Binary64} {c d : Nat}
    (hu : u.HasRank c) (hv : v.HasRank d) (hle : c ≤ d) :
    ∃ c' d', ((xs.map f).foldl add u).HasRank c' ∧
      ((xs.map g).foldl add v).HasRank d' ∧ c' ≤ d' := by
  induction xs generalizing u v c d with
  | nil => exact ⟨c, d, hu, hv, hle⟩
  | cons x xs ih =>
      obtain ⟨⟨a, b, hf, hg, hab⟩, hrest⟩ := List.forall_mem_cons.1 h
      rw [List.map_cons, List.map_cons, List.foldl_cons, List.foldl_cons]
      exact ih hrest (hu.add hf) (hv.add hg)
        (Magnitude.capped_mono (by decide) (by decide) (by omega))

/-- **Sums of amounts keep the order.** -/
theorem Binary64.sum_le_sum (h : ∀ x ∈ xs, ∃ a b, (f x).HasRank a ∧ (g x).HasRank b ∧ a ≤ b) :
    ∃ c d, (sum (xs.map f)).HasRank c ∧ (sum (xs.map g)).HasRank d ∧ c ≤ d :=
  Binary64.foldl_add_le h (show negZero.HasRank 0 from rfl) (show negZero.HasRank 0 from rfl)
    (Nat.le_refl 0)

end Sums

/-! ### Percentages -/

section Percentages

variable {x y : Binary64} {a b : Nat}

/-- **A part of a finite whole is between nothing and a hundred percent.** -/
theorem percentage_range (hx : x.HasRank a) (hy : y.HasRank b) (hb : b < Magnitude.limit)
    (h : a ≤ b) :
    ∃ c, (percentage x y).HasRank c ∧ c ≤ 100 * Magnitude.unitsPerOne := by
  unfold percentage
  split
  · exact ⟨0, hasRank_zero, Nat.zero_le _⟩
  · rename_i hnone
    have hpos : 0 < b := by
      rw [hy.le_iff hasRank_zero] at hnone
      omega
    obtain ⟨c, hc, hle⟩ := hx.div_le hy hpos hb h
    refine ⟨_, hc.mul_hundred.roundHundredths, ?_⟩
    rw [← hundredths_hundred]
    refine hundredths_mono ?_
    calc Magnitude.capped (c * 100) 1 ≤ Magnitude.rounded (c * 100) 1 :=
          Magnitude.capped_le_rounded ..
      _ ≤ Magnitude.rounded (100 * Magnitude.unitsPerOne) 1 :=
          Magnitude.rounded_mono (by decide) (by decide) (by omega)
      _ = 100 * Magnitude.unitsPerOne := Magnitude.rounded_hundred

/-- **The whole of something finite is a hundred percent**, exactly. -/
theorem percentage_self (hx : x.HasRank a) (hpos : 0 < a) (ha : a < Magnitude.limit) :
    percentage x x = hundred := by
  have hsome : ¬ x.le zero = true := by
    rw [hx.le_iff hasRank_zero]
    omega
  have hone : (finite false Magnitude.one * hundred).roundHundredths = hundred := by decide +kernel
  rw [percentage, if_neg hsome, hx.div_self hpos ha, hone]

/-- The whole of something infinite is not a number. -/
theorem percentage_infinite : percentage (infinite false) (infinite false) = nan := by
  have hsome : ¬ (infinite false).le zero = true := by
    have hpos := Magnitude.limit_pos
    rw [hasRank_infinite.le_iff hasRank_zero]
    omega
  rw [percentage, if_neg hsome]
  rfl

end Percentages

/-! ### Grades -/

/-- **A grade is bounded** when its numbers are finite, the score is at most the maximum and the
percentage at most a hundred. -/
structure Grade.IsBounded (grade : Grade) : Prop where
  finite_score : grade.score.isFinite = true
  finite_maxScore : grade.maxScore.isFinite = true
  finite_percentage : grade.percentage.isFinite = true
  score_nonneg : zero.le grade.score = true
  score_le : grade.score.le grade.maxScore = true
  percentage_nonneg : zero.le grade.percentage = true
  percentage_le : grade.percentage.le hundred = true

/-- **What is expected of a grade**: it is bounded, and who has everything right has a hundred
percent and has passed, if there is something to score. -/
structure Grade.IsInRange (grade : Grade) : Prop extends grade.IsBounded where
  full : (∀ record ∈ grade.answers, record.isCorrect = true) → zero.lt grade.maxScore = true →
    grade.percentage = hundred ∧ grade.isPassed = true

section Grading

variable {quiz : Quiz} {index : AnswerIndex}

/-- What a submission has earned, question by question, and what could be earned. -/
theorem Quiz.hasRank_totals (hquestions : ∀ q ∈ quiz.questions, q.check = .ok ())
    (index : AnswerIndex) :
    ∃ a b, (sum (quiz.sorted.questions.map fun q =>
        (q.record (index.get? q.id)).pointsEarned)).HasRank a ∧
      quiz.sorted.maxScore.HasRank b ∧ a ≤ b := by
  refine sum_le_sum fun q hq => ?_
  exact Question.hasRank_earned (hquestions q (mem_inPlace.1 hq)) _

/-- The total of the points, in whatever order they are summed, is an amount. -/
theorem Quiz.hasRank_maxScore (hquestions : ∀ q ∈ quiz.questions, q.check = .ok ()) :
    ∃ b, quiz.maxScore.HasRank b := by
  have hpoints : ∀ q ∈ quiz.questions, ∃ a b, q.points.HasRank a ∧ q.points.HasRank b ∧ a ≤ b := by
    intro q hq
    obtain ⟨a, ha, -⟩ := Question.hasRank_points (hquestions q hq)
    exact ⟨a, a, ha, ha, Nat.le_refl a⟩
  obtain ⟨b, -, hb, -, -⟩ := sum_le_sum hpoints
  exact ⟨b, hb⟩

/-- Who has every question right earns all points. -/
theorem earned_eq_points {questions : List Question}
    (h : ∀ q ∈ questions, (q.record (index.get? q.id)).isCorrect = true) :
    (questions.map fun q => (q.record (index.get? q.id)).pointsEarned) =
      questions.map (·.points) := by
  refine List.map_congr_left fun q hq => ?_
  have hright : q.kind.credits (index.get? q.id) = true := h q hq
  rw [Question.record, hright]
  rfl

/-- The score is what was earned, to two decimals. -/
theorem Quiz.score_gradeOf (questions : List Question) :
    (quiz.gradeOf (questions.map fun q => q.record (index.get? q.id))).score =
      (sum (questions.map fun q => (q.record (index.get? q.id)).pointsEarned)).roundHundredths := by
  simp only [Quiz.gradeOf, List.map_map]
  rfl

theorem Quiz.percentage_gradeOf (records : List AnswerRecord) :
    (quiz.gradeOf records).percentage =
      percentage (quiz.gradeOf records).score (quiz.gradeOf records).maxScore := rfl

theorem Quiz.isPassed_gradeOf (records : List AnswerRecord) :
    (quiz.gradeOf records).isPassed = quiz.passingScore.le (quiz.gradeOf records).percentage := rfl

/-- **A grade is bounded exactly if its maximum is finite** and the score does not pass it. -/
theorem Quiz.isBounded_gradeOf {records : List AnswerRecord} {a b : Nat}
    (ha : (quiz.gradeOf records).score.HasRank a) (hb : (quiz.gradeOf records).maxScore.HasRank b) :
    (quiz.gradeOf records).IsBounded ↔ (quiz.gradeOf records).maxScore.isFinite = true ∧
      (quiz.gradeOf records).score.le (quiz.gradeOf records).maxScore = true := by
  refine ⟨fun h => ⟨h.finite_maxScore, h.score_le⟩, fun ⟨hfinite, hle⟩ => ?_⟩
  have hbefore : b < Magnitude.limit := hb.isFinite_iff.1 hfinite
  have hpart : a ≤ b := (ha.le_iff hb).1 hle
  obtain ⟨c, hc, hpercent⟩ := percentage_range ha hb hbefore hpart
  constructor
  · exact ha.isFinite_iff.2 (Nat.lt_of_le_of_lt hpart hbefore)
  · exact hfinite
  · exact hc.isFinite_iff.2 (Nat.lt_of_le_of_lt hpercent Magnitude.hundred_lt_limit)
  · exact zero_le_iff.2 ⟨a, ha⟩
  · exact hle
  · exact zero_le_iff.2 ⟨c, hc⟩
  · exact (hc.le_iff hasRank_hundred).2 hpercent

/-- All of a finite maximum is a hundred percent, and passes. -/
theorem Quiz.full_gradeOf (hpassing : isPassingScore quiz.passingScore = true)
    {records : List AnswerRecord} {b : Nat}
    (hall : (quiz.gradeOf records).score = (quiz.gradeOf records).maxScore)
    (hb : (quiz.gradeOf records).maxScore.HasRank b) (hfinite : b < Magnitude.limit)
    (hsome : zero.lt (quiz.gradeOf records).maxScore = true) :
    (quiz.gradeOf records).percentage = hundred ∧ (quiz.gradeOf records).isPassed = true := by
  have hwhole : (quiz.gradeOf records).percentage = hundred := by
    rw [Quiz.percentage_gradeOf, hall]
    exact percentage_self hb ((hasRank_zero.lt_iff hb).1 hsome) hfinite
  refine ⟨hwhole, ?_⟩
  rw [Quiz.isPassed_gradeOf, hwhole]
  exact (Bool.and_eq_true_iff.1 hpassing).2

/-- All of an infinite maximum is no percentage, and does not pass. -/
theorem Quiz.nan_gradeOf {records : List AnswerRecord}
    (hall : (quiz.gradeOf records).score = (quiz.gradeOf records).maxScore)
    (hinfinite : (quiz.gradeOf records).maxScore = infinite false) :
    (quiz.gradeOf records).percentage = nan ∧ (quiz.gradeOf records).isPassed = false := by
  have hnan : (quiz.gradeOf records).percentage = nan := by
    rw [Quiz.percentage_gradeOf, hall, hinfinite, percentage_infinite]
  exact ⟨hnan, by rw [Quiz.isPassed_gradeOf, hnan, not_le_nan]⟩

/-- **A grade is in range exactly if the total is finite.**  Let a quiz be fit to be published.
Whatever is submitted, it is graded; the score and the maximum are not negative, the score is at
most the total in the order of places, and the maximum is finite if a hundred times the total is.
The grade is bounded if and only if the maximum is finite and the score does not pass it.

If the questions are held in their places, as they are when a quiz is loaded, or the order at least
makes no difference to the maximum, then the score never passes it, and the grade is in range if and
only if the maximum is finite; where it is not, the percentage of who has everything right is not a
number, and does not pass. -/
theorem Quiz.grade_in_range (hfit : quiz.checkPublishable = .ok ()) (index : AnswerIndex) :
    ∃ grade, quiz.grade index = .ok grade ∧
      zero.le grade.score = true ∧ zero.le grade.maxScore = true ∧
      grade.score.le quiz.sorted.maxScore.roundHundredths = true ∧
      grade.maxScore.isFinite = (quiz.maxScore * hundred).isFinite ∧
      (grade.IsBounded ↔ grade.maxScore.isFinite = true ∧ grade.score.le grade.maxScore = true) ∧
      (quiz.sorted.maxScore.roundHundredths = quiz.maxScore.roundHundredths →
        (grade.IsInRange ↔ grade.maxScore.isFinite = true) ∧
        (grade.maxScore.isFinite = false → (∀ record ∈ grade.answers, record.isCorrect = true) →
          grade.percentage = nan ∧ grade.isPassed = false)) := by
  obtain ⟨-, hpassing, hquestions⟩ := Quiz.checkPublishable_eq_ok.1 hfit
  obtain ⟨a, b, hearned, htotal, hle⟩ := Quiz.hasRank_totals hquestions index
  obtain ⟨c, hmax⟩ := Quiz.hasRank_maxScore hquestions
  have hscore := hearned.roundHundredths
  have hmaximum := hmax.roundHundredths
  rw [← Quiz.score_gradeOf] at hscore
  have hpart := (hscore.le_iff htotal.roundHundredths).2 (hundredths_mono hle)
  have hbounded := Quiz.isBounded_gradeOf hscore hmaximum
  refine ⟨_, Quiz.grade_eq hquestions index, zero_le_iff.2 ⟨_, hscore⟩, zero_le_iff.2 ⟨_, hmaximum⟩,
    hpart, hmax.isFinite_roundHundredths, hbounded, fun hsame => ?_⟩
  have hall : (∀ record ∈ quiz.sorted.questions.map fun q => q.record (index.get? q.id),
      record.isCorrect = true) → (quiz.gradeOf (quiz.sorted.questions.map fun q =>
        q.record (index.get? q.id))).score = quiz.maxScore.roundHundredths := by
    intro hright
    rw [Quiz.score_gradeOf, earned_eq_points fun q hq => hright _ (List.mem_map_of_mem hq), ← hsame]
    rfl
  refine ⟨⟨fun h => h.finite_maxScore, fun hfinite => ?_⟩, fun hinfinite hright => ?_⟩
  · rw [hsame] at hpart
    refine ⟨hbounded.2 ⟨hfinite, hpart⟩, fun hright hsome => ?_⟩
    exact Quiz.full_gradeOf hpassing (hall hright) hmaximum (hmaximum.isFinite_iff.1 hfinite) hsome
  · have hpast : ¬ hundredths c < Magnitude.limit := by
      rw [← hmaximum.isFinite_iff]
      exact Bool.eq_false_iff.1 hinfinite
    exact Quiz.nan_gradeOf (hall hright) (hmaximum.eq_infinite hpast)

/-- A question with a place, worth some points. -/
def pointsAt (placed : Int × Binary64) : Question :=
  ⟨placed.1, 1, "?", placed.2, placed.1, .multipleChoice [⟨"a", "yes", true⟩, ⟨"b", "no", false⟩]⟩

/-- A quiz of such questions, in whatever order they are held. -/
def quizAt (placed : List (Int × Binary64)) : Quiz :=
  { id := 1
    lessonId := 1
    title := ""
    quizType := .graded
    passingScore := ofInt 50
    timeLimit := none
    maxAttempts := none
    shuffleQuestions := false
    shuffleOptions := false
    showCorrectAnswers := false
    isPublished := true
    questions := placed.map pointsAt }

theorem checkPublishable_quizAt {placed : List (Int × Binary64)} (hsome : placed ≠ [])
    (h : ∀ p ∈ placed, isPoints p.2 = true) : (quizAt placed).checkPublishable = .ok () := by
  have hpassing : isPassingScore (ofInt 50) = true := by decide +kernel
  refine Quiz.checkPublishable_eq_ok.2 ⟨mt List.map_eq_nil_iff.1 hsome, hpassing, fun q hq => ?_⟩
  obtain ⟨p, hp, rfl⟩ := List.mem_map.1 hq
  unfold Question.check
  rw [show isPoints (pointsAt p).points = true from h p hp, if_pos rfl]
  rfl

/-- The right answers to three questions. -/
def allRight : AnswerIndex :=
  answerIndex [⟨1, some "a", none⟩, ⟨2, some "a", none⟩, ⟨3, some "a", none⟩]

/-- A quiz of three questions that are not held in their places. -/
def outOfPlace : Quiz :=
  quizAt [(2, ofInt 48 / ofInt 100), (3, ofInt 1615 / ofInt 1000), (1, ofInt 26 / ofInt 100)]

theorem inPlace_outOfPlace : inPlace Question.place outOfPlace.questions =
    [(1, ofInt 26 / ofInt 100), (2, ofInt 48 / ofInt 100), (3, ofInt 1615 / ofInt 1000)].map
      pointsAt := by
  simp [outOfPlace, quizAt, inPlace, List.mergeSort, List.MergeSort.Internal.splitInTwo,
    Question.place, pointsAt, placeLe]

/-- Three quizzes that can be published, with all answers right.  Where there are two points to
score the grade is in range.  Where there are ten to the power of 307 the percentage is not a
number, and does not pass.  Three questions that are held in another order than that of their places
come to 2.36 points in this order, but only to 2.35 in the one they are held in, so that the grade
is not bounded. -/
theorem Quiz.grade_in_range_threeQuizzes :
    (∃ grade, (quizAt [(1, ofInt 2)]).grade allRight = .ok grade ∧ grade.IsInRange) ∧
    (∃ grade, (quizAt [(1, ofInt (10 ^ (307 : Nat) : Nat))]).grade allRight = .ok grade ∧
      ¬ grade.IsInRange ∧ grade.percentage = nan ∧ grade.isPassed = false) ∧
    ∃ grade, outOfPlace.grade allRight = .ok grade ∧ ¬ grade.IsBounded := by
  refine ⟨?_, ?_, ?_⟩
  · have hfit : (quizAt [(1, ofInt 2)]).checkPublishable = .ok () :=
      checkPublishable_quizAt (List.cons_ne_nil _ _) (by decide +kernel)
    have hless : ((quizAt [(1, ofInt 2)]).maxScore * hundred).isFinite = true := by decide +kernel
    obtain ⟨grade, hgrade, -, -, -, hfinite, -, hrange⟩ := Quiz.grade_in_range hfit allRight
    exact ⟨grade, hgrade, (hrange (by decide +kernel)).1.2 (hfinite.trans hless)⟩
  · have hfit : (quizAt [(1, ofInt (10 ^ (307 : Nat) : Nat))]).checkPublishable = .ok () :=
      checkPublishable_quizAt (List.cons_ne_nil _ _) (by decide +kernel)
    have hmore :
        ((quizAt [(1, ofInt (10 ^ (307 : Nat) : Nat))]).maxScore * hundred).isFinite = false := by
      decide +kernel
    have hright : ((quizAt [(1, ofInt (10 ^ (307 : Nat) : Nat))]).grade allRight).toOption.map
        (fun grade => grade.answers.all (·.isCorrect)) = some true := by decide +kernel
    obtain ⟨grade, hgrade, -, -, -, hfinite, -, hrange⟩ := Quiz.grade_in_range hfit allRight
    obtain ⟨hiff, hnan⟩ := hrange (by decide +kernel)
    have hinfinite : grade.maxScore.isFinite = false := hfinite.trans hmore
    have hall : ∀ record ∈ grade.answers, record.isCorrect = true := by
      rw [hgrade] at hright
      simpa [Except.toOption] using hright
    refine ⟨grade, hgrade, fun h => ?_, hnan hinfinite hall⟩
    exact Bool.false_ne_true (hinfinite.symm.trans (hiff.1 h))
  · have hfit : outOfPlace.checkPublishable = .ok () :=
      checkPublishable_quizAt (List.cons_ne_nil _ _) (by decide +kernel)
    have hpasses : (outOfPlace.grade allRight).toOption.map
        (fun grade => grade.score.le grade.maxScore) = some false := by
      rw [Quiz.grade, inPlace_outOfPlace]
      decide +kernel
    obtain ⟨grade, hgrade, -, -, -, -, hbounded, -⟩ := Quiz.grade_in_range hfit allRight
    rw [hgrade] at hpasses
    refine ⟨grade, hgrade, fun h => ?_⟩
    exact Bool.false_ne_true ((Option.some.inj hpasses).symm.trans (hbounded.1 h).2)

end Grading

end QuizAttempts
