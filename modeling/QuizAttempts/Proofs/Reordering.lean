/-
**The order in which answers are listed does not matter.**

The check of a submission stops at the first answer that is wrong, so two orders of the same answers
may be refused for different ones.  Whether one is wrong does not depend on the order, though, and
where none is, the index is the same: it is a table, which knows what is under which identifier and
not what came first.  Nothing else looks at the answers.  So the two submissions come to the same,
whatever becomes of them, except for the flaw that is named to the one who asked.

Main definitions:

* `Outcome.SameButFlaw` — outcomes that are the same but for the flaw of a submission;
* `Program.SameButFlaw` — **programs that come to the same** but for that.

Main results:

* `AnswerIndex.Holds.unique` — an index is known by what it holds;
* `Quiz.indexAnswers_perm` — **the check of the same answers in two orders**;
* `Program.SameButFlaw.bind_left`, `Program.SameButFlaw.bind_right` — going on;
* `Console.answers_reordered` — the same submission in two orders.
-/
import QuizAttempts.Proofs.Indexing
import QuizAttempts.Proofs.Publication

set_option autoImplicit false

namespace QuizAttempts

open Program

/-! ### The check -/

section Checking

variable {quiz : Quiz} {answers other : List SubmittedAnswer}

theorem Quiz.Accepts.perm (h : quiz.Accepts answers) (hperm : answers.Perm other) :
    quiz.Accepts other where
  distinct := (hperm.map _).nodup_iff.1 h.distinct
  suitable := by
    intro answer hanswer
    exact h.suitable answer (hperm.mem_iff.2 hanswer)

/-- What holds some answers holds them in any order. -/
theorem AnswerIndex.Holds.perm {index : AnswerIndex} (h : index.Holds answers)
    (hperm : answers.Perm other) : index.Holds other := by
  intro id answer
  rw [h id answer, hperm.mem_iff]

/-- **An index is known by what it holds.** -/
theorem AnswerIndex.Holds.unique {index index' : AnswerIndex} (h : index.Holds answers)
    (h' : index'.Holds answers) : index = index' := by
  refine Table.ext fun id => Option.ext fun answer => ?_
  rw [h id answer, h' id answer]

/-- **The check of the same answers in two orders**: it gives the same index, or finds a flaw in
either. -/
theorem Quiz.indexAnswers_perm (quiz : Quiz) (hperm : answers.Perm other) :
    quiz.indexAnswers answers = quiz.indexAnswers other ∨
      ∃ flaw flaw', quiz.indexAnswers answers = .error flaw ∧
        quiz.indexAnswers other = .error flaw' := by
  cases hindex : quiz.indexAnswers answers with
  | ok index =>
      have haccepts : quiz.Accepts answers := indexAnswers_eq_ok_iff.1 ⟨index, hindex⟩
      obtain ⟨index', hindex', hholds'⟩ := (haccepts.perm hperm).indexed
      have hholds : index.Holds other := (holds_of_indexAnswers hindex).perm hperm
      rw [hindex', hholds.unique hholds']
      exact Or.inl rfl
  | error flaw =>
      cases hindex' : quiz.indexAnswers other with
      | ok index' =>
          have haccepts : quiz.Accepts other := indexAnswers_eq_ok_iff.1 ⟨index', hindex'⟩
          obtain ⟨index, hok, -⟩ := (haccepts.perm hperm.symm).indexed
          simp [hindex] at hok
      | error flaw' => exact Or.inr ⟨flaw, flaw', rfl, rfl⟩

end Checking

/-! ### The same but for the flaw -/

/-- **The same outcome**, or two refusals for flaws of a submission. -/
inductive Outcome.SameButFlaw {α : Type} : Outcome α → Outcome α → Prop
  | same (outcome : Outcome α) : SameButFlaw outcome outcome
  | flawed (flaw flaw' : SubmissionFlaw) :
      SameButFlaw (.refused (.submission flaw)) (.refused (.submission flaw'))

/-- **The programs come to the same**, whatever they are run in: they leave the same behind, and end
alike but for the flaw of a submission. -/
def Program.SameButFlaw {α : Type} (p q : Program α) : Prop :=
  ∀ (others : List Int) (s : Session), (q.exec others s).1 = (p.exec others s).1 ∧
    (p.exec others s).2.SameButFlaw (q.exec others s).2

namespace Program.SameButFlaw

variable {α β : Type}

theorem refl (p : Program α) : SameButFlaw p p := by
  intro others s
  exact ⟨rfl, .same _⟩

theorem flawed (flaw flaw' : SubmissionFlaw) :
    SameButFlaw (refuse (.submission flaw) : Program α) (refuse (.submission flaw')) := by
  intro others s
  exact ⟨rfl, .flawed flaw flaw'⟩

/-- Going on in the same way. -/
theorem bind_left {p q : Program α} (h : SameButFlaw p q) (f : α → Program β) :
    SameButFlaw (p >>= f) (q >>= f) := by
  intro others s
  rw [exec_bind, exec_bind]
  obtain ⟨hsession, houtcome⟩ := h others s
  rw [hsession]
  generalize (p.exec others s).2 = outcome, (q.exec others s).2 = outcome' at houtcome
  cases houtcome with
  | same => exact ⟨rfl, .same _⟩
  | flawed flaw flaw' => exact ⟨rfl, .flawed flaw flaw'⟩

/-- Beginning in the same way. -/
theorem bind_right (p : Program α) {f g : α → Program β} (h : ∀ a, SameButFlaw (f a) (g a)) :
    SameButFlaw (p >>= f) (p >>= g) := by
  intro others s
  rw [exec_bind, exec_bind]
  cases (p.exec others s).2 with
  | done a => exact h a others (p.exec others s).1
  | _ => exact ⟨rfl, .same _⟩

end Program.SameButFlaw

/-! ### Submitting -/

section Submitting

variable {answers other : List SubmittedAnswer}

/-- The answers are looked at once, when they are checked. -/
theorem gradeOpen_perm (quiz : Quiz) (a : Attempt) (hperm : answers.Perm other) (actor : Actor) :
    (gradeOpen quiz a answers actor).SameButFlaw (gradeOpen quiz a other actor) := by
  have hchecked : (orRefuse (quiz.indexAnswers answers) .submission).SameButFlaw
      (orRefuse (quiz.indexAnswers other) .submission) := by
    rcases quiz.indexAnswers_perm hperm with heq | ⟨flaw, flaw', hflaw, hflaw'⟩
    · rw [heq]
      exact .refl _
    · rw [hflaw, hflaw']
      exact .flawed flaw flaw'
  exact hchecked.bind_left _

theorem submitAttempt_perm (quizId attemptId : Int) (hperm : answers.Perm other) (actor : Actor) :
    (submitAttempt quizId attemptId answers actor).SameButFlaw
      (submitAttempt quizId attemptId other actor) := by
  refine .bind_right _ fun entered => .bind_right _ fun enrollment => ?_
  refine .bind_right _ fun found => .bind_right _ fun a => .bind_right _ fun _ => ?_
  exact gradeOpen_perm entered.1 a hperm actor

end Submitting

namespace Console

/-- Requests whose programs come to the same are answered alike, and leave the same console. -/
theorem run_sameButFlaw (console : Console) {request other : Request}
    (h : request.program.SameButFlaw other.program) :
    (console.run (.request other)).1 = (console.run (.request request)).1 ∧
      (console.run (.request request)).2.SameButFlaw (console.run (.request other)).2 := by
  obtain ⟨hsession, houtcome⟩ := h console.locked ⟨console.service, Transaction.fresh⟩
  simp only [run, Service.run]
  generalize request.program.exec _ _ = x, other.program.exec _ _ = y at hsession houtcome
  obtain ⟨session, outcome⟩ := x
  obtain ⟨session', outcome'⟩ := y
  obtain rfl : session' = session := hsession
  cases houtcome with
  | same => cases outcome <;> exact ⟨rfl, .same _⟩
  | flawed flaw flaw' => exact ⟨rfl, .flawed flaw flaw'⟩

/-- **The same submission in two orders.**  Whatever was done before and whoever else is at work,
let the same answers be submitted in two orders.  The console is left the same: the attempts, the
events, the completed lessons and all else.  The one succeeds exactly when the other does, and then
is answered alike; the one is refused exactly when the other is, and then for the same kind of
reason; and the one has to wait, or gets at a number that is too large, exactly when the other
does. -/
theorem answers_reordered (console : Console) (quizId attemptId : Int)
    {answers other : List SubmittedAnswer} (hperm : answers.Perm other) (actor : Actor) :
    let r := console.run (.request (.submit quizId attemptId answers actor))
    let r' := console.run (.request (.submit quizId attemptId other actor))
    r'.1 = r.1 ∧
    (∀ answer, r'.2 = .done answer ↔ r.2 = .done answer) ∧
    (∀ kind, (∃ why, r'.2 = .refused why ∧ why.report.kind = kind) ↔
      ∃ why, r.2 = .refused why ∧ why.report.kind = kind) ∧
    (r'.2 = .blocked ↔ r.2 = .blocked) ∧ (r'.2 = .overflow ↔ r.2 = .overflow) := by
  intro r r'
  have hprogram : (Request.submit quizId attemptId answers actor).program.SameButFlaw
      (Request.submit quizId attemptId other actor).program :=
    (submitAttempt_perm quizId attemptId hperm actor).bind_left _
  obtain ⟨hconsole, hsame⟩ := console.run_sameButFlaw hprogram
  refine ⟨hconsole, ?_⟩
  change r.2.SameButFlaw r'.2 at hsame
  generalize r.2 = outcome, r'.2 = outcome' at hsame
  cases hsame with
  | same => exact ⟨fun _ => Iff.rfl, fun _ => Iff.rfl, Iff.rfl, Iff.rfl⟩
  | flawed flaw flaw' => simp [Refusal.kind]

end Console

/-- A quiz of two questions, held in their places. -/
def twoQuestions : Quiz :=
  { fourKinds with
    questions :=
      [⟨1, 1, "", Binary64.ofInt 1, 0, .trueFalse (some "true")⟩,
        ⟨2, 1, "", Binary64.ofInt 1, 1, .essay⟩] }

theorem sorted_twoQuestions : twoQuestions.sorted = twoQuestions := by
  have hplaced : twoQuestions.questions.Pairwise fun q q' => placeLe q.place q'.place = true := by
    decide
  have hquestions : inPlace Question.place twoQuestions.questions = twoQuestions.questions :=
    List.mergeSort_of_pairwise hplaced
  rw [Quiz.sorted, hquestions]

/-- Sets up that quiz, its lesson and one student of the course, who starts an attempt. -/
def begun : List Command :=
  [.putQuiz twoQuestions, .putLesson ⟨1, 1, 1⟩, .putEnrollment ⟨1, 1, 1, "active"⟩,
    .request (.start 1 learner)]

/-- What is submitted to the attempt that was begun is graded. -/
theorem run_begun :
    let s := ((Console.ofService Service.blank).after begun).service
    ∃ a, ∀ answers, s.run [] (Request.submit 1 1 answers learner).program =
      s.decideGrading twoQuestions a answers learner := by
  intro s
  have hs : s.store.Sound := (Console.Sound.after (.ofService Store.Sound.empty) begun).1.store
  have hadmitted : s.store.admission 1 learner = .ok (twoQuestions, ⟨1, 1, 1, "active"⟩) := by
    have hstored : s.store.quizzes.get? 1 = some twoQuestions := by decide +kernel
    have hquiz : s.store.quiz? 1 = some twoQuestions := by
      rw [Store.quiz?, hstored, Option.map_some, sorted_twoQuestions]
    exact s.store.admission_eq_ok.2
      ⟨⟨1, 1, 1⟩, ⟨rfl, hquiz, rfl, by decide +kernel⟩, by decide +kernel, by decide +kernel⟩
  have hopen :
      ((s.store.attempts.get? 1).filter (·.isOf 1 twoQuestions.id)).any (·.isOpen) = true := by
    decide +kernel
  obtain ⟨a, ha, hopen⟩ := (Option.any_eq_true _ _).1 hopen
  refine ⟨a, fun answers => ?_⟩
  rw [Service.run_submit hs, hadmitted, unlessRefused_ok]
  simp only [Service.decideSubmit, ha, hopen, if_true]

/-- Both questions are answered, in either order, with the same success.  With one of them answered
twice and a question of another quiz answered besides, the submission is refused as invalid in
either order, but not with the same words. -/
theorem Console.answers_reordered_begun :
    let console := (Console.ofService Service.blank).after begun
    let answers : List SubmittedAnswer := [⟨1, none, some "true"⟩, ⟨2, none, some "?"⟩]
    let wrong : List SubmittedAnswer := answers ++ [⟨1, none, none⟩, ⟨9, none, none⟩]
    let submit (answers : List SubmittedAnswer) :=
      console.run (.request (.submit 1 1 answers learner))
    answers.Perm answers.reverse ∧ wrong.Perm wrong.reverse ∧
    (∃ answer, (submit answers).2 = .done answer ∧ (submit answers.reverse).2 = .done answer) ∧
    (submit answers.reverse).1 = (submit answers).1 ∧
    (submit wrong).2 = .refused (.submission (.repeatedQuestion 1)) ∧
    (submit wrong.reverse).2 = .refused (.submission (.foreignQuestion 9)) ∧
    (submit wrong.reverse).1 = (submit wrong).1 := by
  intro console answers wrong submit
  have hperm (answers : List SubmittedAnswer) : answers.Perm answers.reverse :=
    (List.reverse_perm answers).symm
  have hlocked : console.locked = [] := by decide +kernel
  obtain ⟨a, hrun⟩ := run_begun
  obtain ⟨hsame, hdone, -⟩ := Console.answers_reordered console 1 1 (hperm answers) learner
  obtain ⟨hsameWrong, -⟩ := Console.answers_reordered console 1 1 (hperm wrong) learner
  have hsuccess : ∃ answer, (submit answers).2 = .done answer := by
    obtain ⟨index, hindex⟩ : ∃ index, twoQuestions.indexAnswers answers = .ok index := ⟨_, rfl⟩
    have hchecked : twoQuestions.checkPublishable = .ok () := by decide +kernel
    obtain ⟨grade, hgrade⟩ := Quiz.grade_of_checked hchecked index
    simp only [submit, run, hlocked, hrun, console, Service.decideGrading, hindex, hgrade]
    exact ⟨_, rfl⟩
  have hflaw : twoQuestions.indexAnswers wrong = .error (.repeatedQuestion 1) := rfl
  have hflaw' : twoQuestions.indexAnswers wrong.reverse = .error (.foreignQuestion 9) := rfl
  obtain ⟨answer, hanswer⟩ := hsuccess
  refine ⟨hperm answers, hperm wrong, ⟨answer, hanswer, (hdone answer).2 hanswer⟩, hsame, ?_, ?_,
    hsameWrong⟩
  · simp only [submit, run, hlocked, hrun, console, Service.decideGrading, hflaw]
  · simp only [submit, run, hlocked, hrun, console, Service.decideGrading, hflaw']

end QuizAttempts
