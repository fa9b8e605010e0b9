/-
**What counts towards progress.**

A quiz has a type, which is to say whether it counts towards the progress of a course.  Whoever
tells of a result goes by the result alone: a submission that passes completes the lesson of its
quiz, for practice as well as for a grade.  So the lessons that a command completes are exactly
those of the submission that it makes, and what the type promises is kept by those commands only
that complete nothing new by practising.

Main definitions:

* `AcceptedSubmission.IsFor` — the type of the quiz that a submission was for;
* `Console.CountsGradedOnly` — what the type of a quiz promises of one command.

Main results:

* `Service.Advances.mem_completed` — **what one command completes**;
* `Console.countsGradedOnly_iff` — when the promise is kept;
* `Console.completed_at_any_type` — **both, at every point of every history**.
-/
import QuizAttempts.Proofs.Notices

set_option autoImplicit false

namespace QuizAttempts

/-! ### The type of a quiz -/

/-- **A submission was for a quiz of a type**, as the quiz was then. -/
def AcceptedSubmission.IsFor (x : AcceptedSubmission) (type : QuizType) : Prop :=
  ∃ quiz, x.service.store.quizzes.get? x.quizId = some quiz ∧ quiz.quizType = type

section Step

variable {s t : Service} {accepted : Option AcceptedSubmission}

/-- What is accepted is accepted for a quiz of one of the types. -/
theorem Service.Advances.isFor {x : AcceptedSubmission} (h : s.Advances t (some x)) :
    x.IsFor .practice ∨ x.IsFor .graded := by
  cases h with
  | graded hservice haccepts hview hcredits =>
      obtain rfl := hservice
      obtain ⟨stored, hstored, -⟩ := Option.map_eq_some_iff.1 haccepts.stored
      cases htype : stored.quizType with
      | practice => exact Or.inl ⟨stored, hstored, htype⟩
      | graded => exact Or.inr ⟨stored, hstored, htype⟩

/-- **What one command completes**: the lesson of the submission that it makes, if that passes, and
no other, whatever the type of the quiz. -/
theorem Service.Advances.mem_completed (h : s.Advances t accepted) (e l : Int) :
    (e, l) ∈ t.store.completed ↔
      (e, l) ∈ s.store.completed ∨ ∃ x, accepted = some x ∧ x.Completes e l := by
  cases accepted with
  | none =>
      rw [h.quiet.2]
      simp
  | some x =>
      cases h with
      | graded hservice haccepts hview hcredits =>
          obtain rfl := hservice
          rw [hcredits.mem_completed haccepts hview]
          simp

/-- The completed lessons are as they were when what is accepted completes nothing new. -/
theorem Service.Advances.completed_eq_iff (h : s.Advances t accepted) :
    t.store.completed = s.store.completed ↔
      ∀ x, accepted = some x → ∀ e l, x.Completes e l → (e, l) ∈ s.store.completed := by
  constructor
  · intro hsame x hx e l hcompletes
    rw [← hsame, h.mem_completed]
    exact Or.inr ⟨x, hx, hcompletes⟩
  · intro hold
    refine Progress.ext fun pair => ?_
    obtain ⟨e, l⟩ := pair
    rw [h.mem_completed]
    constructor
    · rintro (hbefore | ⟨x, hx, hcompletes⟩)
      · exact hbefore
      · exact hold x hx e l hcompletes
    · exact Or.inl

end Step

namespace Console

/-! ### What the type promises -/

/-- **What the type of a quiz promises of one command**: a lesson that it completes is completed by
a submission that has passed at a graded quiz, and one that has passed at a quiz for practice
completes nothing. -/
structure CountsGradedOnly (console : Console) (command : Command) : Prop where
  entered : ∀ e l, (e, l) ∉ console.service.store.completed →
    (e, l) ∈ (console.run command).1.service.store.completed →
      ∃ x, console.accepted? command = some x ∧ x.view.isPassed = some true ∧ x.IsFor .graded
  practised : ∀ x, console.accepted? command = some x → x.view.isPassed = some true →
    x.IsFor .practice →
      (console.run command).1.service.store.completed = console.service.store.completed

/-- **The promise is kept** where no submission for practice completes a lesson that was not
completed before. -/
theorem countsGradedOnly_iff {console : Console} {command : Command}
    (h : console.service.Advances (console.run command).1.service (console.accepted? command)) :
    console.CountsGradedOnly command ↔
      ∀ x, console.accepted? command = some x → x.IsFor .practice →
        ∀ e l, x.Completes e l → (e, l) ∈ console.service.store.completed := by
  constructor
  · intro hcounts x hx hpractice e l hcompletes
    have hsame := hcounts.practised x hx hcompletes.passed hpractice
    exact h.completed_eq_iff.1 hsame x hx e l hcompletes
  · intro hold
    constructor
    · intro e l hnew hentered
      obtain hbefore | ⟨x, hx, hcompletes⟩ := (h.mem_completed e l).1 hentered
      · exact absurd hbefore hnew
      · rw [hx] at h
        obtain hpractice | hgraded := h.isFor
        · exact absurd (hold x hx hpractice e l hcompletes) hnew
        · exact ⟨x, hx, hcompletes.passed, hgraded⟩
    · intro x hx _ hpractice
      refine h.completed_eq_iff.2 fun y hy => ?_
      obtain rfl : x = y := Option.some.inj (hx.symm.trans hy)
      exact hold x hx hpractice

/-! ### Histories -/

/-- **What a command completes, at every point of every history** of requests and edits that begins
without attempts: the lesson of the submission that it makes, if that passes while somebody listens,
for practice as well as for a grade.  So what the type of a quiz promises is kept there exactly if
no submission for practice completes a lesson that was not completed before. -/
theorem completed_at_any_type {start : Service} (hrows : start.store.attempts = Table.empty)
    (hfiled : start.store.Filed) (earlier : List Command) (command : Command)
    (hmanaged : ∀ c ∈ earlier ++ [command], c.isManaged = true) :
    let before := (ofService start).after earlier
    (∀ e l, (e, l) ∈ (before.run command).1.service.store.completed ↔
      (e, l) ∈ before.service.store.completed ∨
        ∃ x, before.accepted? command = some x ∧ x.Completes e l) ∧
    (before.CountsGradedOnly command ↔
      ∀ x, before.accepted? command = some x → x.IsFor .practice →
        ∀ e l, x.Completes e l → (e, l) ∈ before.service.store.completed) := by
  have hearlier : ∀ c ∈ earlier, c.isManaged = true := by
    intro c hc
    exact hmanaged c (List.mem_append_left _ hc)
  have hcommand : command.isManaged = true :=
    hmanaged command (List.mem_append_right _ (List.mem_singleton_self _))
  have hrest : ((ofService start).after earlier).AtRest :=
    (AtRest.of_empty hrows hfiled).rests_after hearlier
  have hadvances := hrest.run_advances hcommand
  exact ⟨hadvances.mem_completed, countsGradedOnly_iff hadvances⟩

/-- The examination is set up for practice, and a student has started it. -/
def rehearsal : List Command :=
  (examination none).map (fun command =>
    match command with
    | .putQuiz quiz => .putQuiz { quiz with quizType := .practice }
    | command => command) ++ [.request (.start 1 learner)]

/-- A right answer at the rehearsal completes the lesson, against the promise. -/
theorem completed_at_any_type_rehearsal :
    let before := (ofService Service.blank).after rehearsal
    let answering : Command := .request (.submit 1 1 [⟨1, some "a", none⟩] learner)
    (∀ c ∈ rehearsal ++ [answering], c.isManaged = true) ∧
      (1, 1) ∉ before.service.store.completed ∧
      (∃ x, before.accepted? answering = some x ∧ x.Completes 1 1 ∧ x.IsFor .practice) ∧
      ¬ before.CountsGradedOnly answering := by
  intro before answering
  have hrows : Service.blank.store.attempts = Table.empty := rfl
  have hmanaged : ∀ c ∈ rehearsal ++ [answering], c.isManaged = true := by decide +kernel
  have hnew : (1, 1) ∉ before.service.store.completed.pairs := by decide +kernel
  have hdone : (1, 1) ∈ (before.run answering).1.service.store.completed.pairs := by decide +kernel
  have htypes : (before.accepted? answering).map (fun x =>
      (x.service.store.quizzes.get? x.quizId).map (·.quizType)) = some (some .practice) := by
    decide +kernel
  obtain ⟨hcompleted, hcounts⟩ :=
    completed_at_any_type hrows Service.filed_blank rehearsal answering hmanaged
  obtain hbefore | ⟨x, hx, hcompletes⟩ := (hcompleted 1 1).1 (Progress.mem_pairs.1 hdone)
  · exact absurd hbefore hnew
  · have htype : (x.service.store.quizzes.get? x.quizId).map (·.quizType) = some .practice := by
      rw [hx, Option.map_some] at htypes
      exact Option.some.inj htypes
    have hpractice : x.IsFor .practice := Option.map_eq_some_iff.1 htype
    exact ⟨hmanaged, hnew, ⟨x, hx, hcompletes, hpractice⟩,
      fun h => hnew (hcounts.1 h x hx hpractice 1 1 hcompletes)⟩

end Console

end QuizAttempts
