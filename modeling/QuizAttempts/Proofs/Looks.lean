/-
**What requests find out before they write.**

Most of what a request does is looking: it loads the quiz and the lesson, reads the clock, asks for
the open attempt, and even saving the final state of an attempt leaves the service alone, since it
is only staged.  What is seen is the same in all services of a class: before the lock, in all that
are set up alike; under it, in all that agree on the attempts of the enrollment.  So a request
comes by looking alone, in whichever service of the class it runs, to one and the same place, where
it is refused or is about to write.

Main definitions:

* `Service.SameSetting` — services that are set up alike;
* `Looks` — **coming to a place by looking alone**;
* `Store.Enters` — what a request finds before it takes the lock;
* `Refusal.isOvertaken` — the refusals that tell of somebody else who was first.

Main results:

* `Looks.exec` — what was only looked at does not show in the end;
* `looks_enter`, `looks_startLocked`, `looks_submitLocked`, `looks_closeLocked` — **where each part
  of a request comes to**.
-/
import QuizAttempts.Lifecycle
import QuizAttempts.Proofs.Sight

set_option autoImplicit false

namespace QuizAttempts

open Program

/-! ### Looking -/

/-- **Services that are set up alike**: they agree on everything but what requests write. -/
structure Service.SameSetting (s t : Service) : Prop where
  quizzes : t.store.quizzes = s.store.quizzes
  lessons : t.store.lessons = s.store.lessons
  enrollments : t.store.enrollments = s.store.enrollments
  clock : t.clock = s.clock

namespace Service.SameSetting

variable {s t u : Service}

theorem refl (s : Service) : s.SameSetting s := ⟨rfl, rfl, rfl, rfl⟩

theorem trans (h : s.SameSetting t) (h' : t.SameSetting u) : s.SameSetting u :=
  ⟨h'.quizzes.trans h.quizzes, h'.lessons.trans h.lessons, h'.enrollments.trans h.enrollments,
    h'.clock.trans h.clock⟩

theorem quiz? (h : s.SameSetting t) (id : Int) : t.store.quiz? id = s.store.quiz? id := by
  rw [Store.quiz?, h.quizzes, Store.quiz?]

theorem lesson? (h : s.SameSetting t) (id : Int) : t.store.lesson? id = s.store.lesson? id := by
  rw [Store.lesson?, h.lessons, Store.lesson?]

theorem enrollmentOf? (h : s.SameSetting t) (student course : Int) :
    t.store.enrollmentOf? student course = s.store.enrollmentOf? student course := by
  rw [Store.enrollmentOf?, h.enrollments, Store.enrollmentOf?]

end Service.SameSetting

/-- **A program comes to a place by looking alone**: in every service of a class it makes the same
operations, leaves the service as it is and takes no lock.  The replies may differ, as long as the
program goes on with them in the same way. -/
inductive Looks {α : Type} (C : Service → Prop) :
    Program α → Transaction → Program α → Transaction → Prop
  | here (p : Program α) (tx : Transaction) : Looks C p tx p tx
  | look {op : Op} {next : op.Reply → Program α} {tx mid after : Transaction} {p p' : Program α}
      (h : ∀ s, C s → ∀ others, ∃ reply,
        Session.perform others ⟨s, tx⟩ op = some (⟨s, mid⟩, reply) ∧ next reply = p)
      (hheld : mid.held = tx.held) (rest : Looks C p mid p' after) :
      Looks C (.step op next) tx p' after

namespace Looks

variable {α : Type} {C : Service → Prop} {p p' p'' : Program α} {tx tx' tx'' : Transaction}

theorem trans (h : Looks C p tx p' tx') (h' : Looks C p' tx' p'' tx'') : Looks C p tx p'' tx'' := by
  induction h with
  | here => exact h'
  | look hop hheld _ ih => exact .look hop hheld (ih h')

/-- Looking once, at the service and at what is staged. -/
theorem once {op : Op} {next : op.Reply → Program α} {reply : op.Reply} {mid : Transaction}
    (h : ∀ s, C s → ∀ others, Session.perform others ⟨s, tx⟩ op = some (⟨s, mid⟩, reply))
    (hheld : mid.held = tx.held) : Looks C (.step op next) tx (next reply) mid :=
  .look (fun s hs others => ⟨reply, h s hs others, rfl⟩) hheld (.here _ _)

/-- Looking goes on the same way whatever comes after. -/
theorem bind {β : Type} (h : Looks C p tx p' tx') (f : α → Program β) :
    Looks C (p >>= f) tx (p' >>= f) tx' := by
  induction h with
  | here => exact .here _ _
  | look hop hheld _ ih =>
      refine .look (fun s hs others => ?_) hheld ih
      obtain ⟨reply, hperform, hnext⟩ := hop s hs others
      exact ⟨reply, hperform, congrArg (· >>= f) hnext⟩

/-- One program after another, of which the first only looks. -/
theorem andThen {β : Type} {a : α} (h : Looks C p tx (.done a) tx') {f : α → Program β}
    {q : Program β} (h' : Looks C (f a) tx' q tx'') : Looks C (p >>= f) tx q tx'' :=
  (h.bind f).trans h'

/-- A refusal is not overcome by what comes after. -/
theorem andRefuse {β : Type} {why : Refusal} (h : Looks C p tx (.refuse why) tx')
    (f : α → Program β) : Looks C (p >>= f) tx (.refuse why) tx' :=
  h.bind f

/-- A program that is about to operate is where it comes to, or takes one look on the way there. -/
theorem step_cases {op : Op} {next : op.Reply → Program α}
    (h : Looks C (.step op next) tx p' tx') :
    p' = .step op next ∧ tx' = tx ∨
    ∃ mid p, (∀ s, C s → ∀ others, ∃ reply,
        Session.perform others ⟨s, tx⟩ op = some (⟨s, mid⟩, reply) ∧ next reply = p) ∧
      mid.held = tx.held ∧ Looks C p mid p' tx' := by
  cases h with
  | here => exact Or.inl ⟨rfl, rfl⟩
  | look hop hheld rest => exact Or.inr ⟨_, _, hop, hheld, rest⟩

/-- **What was only looked at does not show in the end.** -/
theorem exec (h : Looks C p tx p' tx') {s : Service} (hs : C s) (others : List Int) :
    p.exec others ⟨s, tx⟩ = p'.exec others ⟨s, tx'⟩ := by
  induction h with
  | here => rfl
  | look hop _ _ ih =>
      obtain ⟨reply, hperform, rfl⟩ := hop s hs others
      rw [Program.exec, hperform]
      exact ih

end Looks

/-! ### Refusals -/

/-- The refusals that tell of somebody else who was first. -/
def Refusal.isOvertaken : Refusal → Bool
  | .taken _ | .outrun | .notInProgress _ => true
  | _ => false

/-! ### Before the lock -/

/-- **What a request finds before it takes the lock**: a student who asks, a published quiz, and the
lesson of the quiz. -/
structure Store.Enters (store : Store) (quizId : Int) (actor : Actor) (quiz : Quiz)
    (lesson : Lesson) : Prop where
  student : actor.isStudent = true
  stored : store.quiz? quizId = some quiz
  published : quiz.isPublished = true
  placed : store.lesson? quiz.lessonId = some lesson

section Setting

variable {C : Service → Prop} {s : Service}

theorem looks_loadQuiz (hC : ∀ t, C t → s.SameSetting t) (id : Int) (tx : Transaction) :
    Looks C (loadQuiz id) tx (found (s.store.quiz? id) .noQuiz) tx :=
  .once (fun t ht others => by rw [Session.perform, (hC t ht).quiz?]) rfl

theorem looks_loadLesson (hC : ∀ t, C t → s.SameSetting t) (quiz : Quiz) (tx : Transaction) :
    Looks C (loadLesson quiz) tx (found (s.store.lesson? quiz.lessonId) .noLesson) tx :=
  .once (fun t ht others => by rw [Session.perform, (hC t ht).lesson?]) rfl

/-- **A request comes to the quiz and its lesson**, or to a refusal. -/
theorem looks_enter (hC : ∀ t, C t → s.SameSetting t) (quizId : Int) (actor : Actor)
    (tx : Transaction) :
    (∃ why, why.isOvertaken = false ∧ Looks C (enter quizId actor) tx (.refuse why) tx) ∨
    ∃ quiz lesson, s.store.Enters quizId actor quiz lesson ∧
      Looks C (enter quizId actor) tx (.done (quiz, lesson)) tx := by
  unfold enter
  cases hstudent : actor.isStudent with
  | false =>
      refine Or.inl ⟨.studentsOnly, rfl, ?_⟩
      rw [requireStudent, hstudent, ensure_false, refuse_bind]
      exact .here _ _
  | true =>
      rw [requireStudent, hstudent, ensure_true, done_bind, loadPublished, Program.bind_assoc]
      have hquiz := looks_loadQuiz hC quizId tx
      cases hstored : s.store.quiz? quizId with
      | none =>
          rw [hstored] at hquiz
          exact Or.inl ⟨.noQuiz, rfl, hquiz.andRefuse _⟩
      | some quiz =>
          rw [hstored] at hquiz
          cases hpublished : quiz.isPublished with
          | false =>
              refine Or.inl ⟨.unpublished, rfl, hquiz.andThen ?_⟩
              rw [hpublished, ensure_false, refuse_bind, refuse_bind]
              exact .here _ _
          | true =>
              have hlesson := looks_loadLesson hC quiz tx
              cases hfound : s.store.lesson? quiz.lessonId with
              | none =>
                  rw [hfound] at hlesson
                  refine Or.inl ⟨.noLesson, rfl, hquiz.andThen ?_⟩
                  rw [hpublished, ensure_true, done_bind, pure_eq_done, done_bind]
                  exact hlesson.andRefuse _
              | some lesson =>
                  rw [hfound] at hlesson
                  refine Or.inr ⟨quiz, lesson, ⟨hstudent, hstored, hpublished, hfound⟩,
                    hquiz.andThen ?_⟩
                  rw [hpublished, ensure_true, done_bind, pure_eq_done, done_bind]
                  exact hlesson.andThen (.here _ _)

end Setting

/-! ### Under the lock -/

section Locked

variable {C : Service → Prop} {s : Service} {enrollment : Enrollment} {tx : Transaction}

/-- The open attempt of the pair is seen. -/
theorem looks_lockOpenAttempt (hC : ∀ t, C t → s.Alike enrollment.id t ∧ t.store.Sound)
    (htx : tx.staged = Table.empty) (q : Int) :
    Looks C (lockOpenAttempt enrollment.id q) tx (.done (s.running? enrollment.id q)) tx :=
  .once (fun t ht others => by
    rw [Session.perform, Service.openAttempt?_of_unstaged htx, (hC t ht).1.running?]) rfl

/-- The clock is read. -/
theorem looks_now (hC : ∀ t, C t → s.Alike enrollment.id t ∧ t.store.Sound) :
    Looks C now tx (.done s.clock) tx :=
  .once (fun t ht others => by rw [Session.perform, (hC t ht).1.clock]) rfl

/-- **The final state of an open attempt is staged**, and whoever opens the next attempt may go on
from there. -/
theorem looks_save (hC : ∀ t, C t → s.Alike enrollment.id t ∧ t.store.Sound)
    (htx : tx.staged = Table.empty) {a final : Attempt} {q : Int}
    (ha : s.store.attempts.get? a.id = some a) (hpair : a.isOf enrollment.id q = true)
    (hopen : a.isOpen = true) (hfinal : final.Closes a) :
    Looks C (save final) tx (.done true) (tx.stage final) ∧
      ∀ t, C t → (tx.stage final).Ready t.store enrollment.id q := by
  have hrow : ∀ t, C t → t.store.attempts.get? a.id = some a := fun t ht =>
    ((hC t ht).1.rows a.id a (Attempt.isOf_iff.1 hpair).1).2 ha
  have hop : ∀ t, C t → ∀ others, Session.perform others ⟨t, tx⟩ (.save final) =
      some (⟨t, tx.stage final⟩, true) := by
    intro t ht others
    rw [Session.perform, Session.save,
      Transaction.save?_of_open (hC t ht).2.orderly htx (hrow t ht) hopen hfinal]
  refine ⟨.once hop rfl, fun t ht => ?_⟩
  exact Transaction.Ready.of_closed (hC t ht).2 htx (hrow t ht) hpair hopen hfinal

/-- An open attempt is closed as overdue. -/
theorem looks_closeOverdue (hC : ∀ t, C t → s.Alike enrollment.id t ∧ t.store.Sound)
    (htx : tx.staged = Table.empty) {a : Attempt} {q : Int}
    (ha : s.store.attempts.get? a.id = some a) (hpair : a.isOf enrollment.id q = true)
    (hopen : a.isOpen = true) (present : Timestamp) :
    Looks C (closeOverdue a present) tx (.done ()) (tx.stage (a.expired present)) ∧
      ∀ t, C t → (tx.stage (a.expired present)).Ready t.store enrollment.id q := by
  obtain ⟨hsave, hready⟩ := looks_save hC htx ha hpair hopen (Attempt.closes_expired a present)
  exact ⟨hsave.andThen (.here _ _), hready⟩

/-- The highest number of the pair is seen, whatever is staged. -/
theorem looks_openNext {quiz : Quiz} (hC : ∀ t, C t → s.Alike enrollment.id t ∧ t.store.Sound)
    (hready : ∀ t, C t → tx.Ready t.store enrollment.id quiz.id) (present : Timestamp) :
    Looks C (openNext quiz enrollment present) tx
      (openAfter quiz enrollment present (s.latest enrollment.id quiz.id)) tx :=
  .once (fun t ht others => by
    rw [Session.perform, (hready t ht).latestNumber, (hC t ht).1.latest]) rfl

/-- **Starting comes to a running attempt, or to where the next one is opened**, with the closing of
the overdue one staged. -/
theorem looks_startLocked (hs : s.store.Sound)
    (hC : ∀ t, C t → s.Alike enrollment.id t ∧ t.store.Sound) (htx : tx.staged = Table.empty)
    (quiz : Quiz) :
    (∃ a, s.running? enrollment.id quiz.id = some a ∧
      a.isOverdue quiz.timeLimit s.clock = false ∧
      Looks C (startLocked quiz enrollment) tx (.refuse .alreadyRunning) tx) ∨
    ∃ after, (∀ a, s.running? enrollment.id quiz.id = some a →
        a.isOverdue quiz.timeLimit s.clock = true ∧ after = tx.stage (a.expired s.clock)) ∧
      (s.running? enrollment.id quiz.id = none → after = tx) ∧
      (∀ t, C t → after.Ready t.store enrollment.id quiz.id) ∧
      Looks C (startLocked quiz enrollment) tx
        (openAfter quiz enrollment s.clock (s.latest enrollment.id quiz.id)) after := by
  have hopen := looks_lockOpenAttempt hC htx quiz.id
  cases hrunning : s.running? enrollment.id quiz.id with
  | none =>
      rw [hrunning] at hopen
      -- nothing is open here, and so nothing is open in any service of the class
      have hready : ∀ t, C t → tx.Ready t.store enrollment.id quiz.id := by
        intro t ht
        refine Transaction.Ready.of_unstaged (hC t ht).2 htx fun ha hpair => ?_
        exact Service.running?_eq_none (((hC t ht).1.running? quiz.id).trans hrunning) ha hpair
      refine Or.inr ⟨tx, fun a ha => by simp at ha, fun _ => rfl, hready, ?_⟩
      exact (looks_now hC).andThen (hopen.andThen (looks_openNext hC hready s.clock))
  | some a =>
      rw [hrunning] at hopen
      obtain ⟨ha, hpair, hisOpen⟩ := Service.running?_eq_some hs.orderly hrunning
      cases hoverdue : a.isOverdue quiz.timeLimit s.clock with
      | false =>
          refine Or.inl ⟨a, rfl, hoverdue, (looks_now hC).andThen (hopen.andThen ?_)⟩
          simp only [hoverdue, ensure_false, refuse_bind]
          exact .here _ _
      | true =>
          obtain ⟨hclose, hready⟩ := looks_closeOverdue hC htx ha hpair hisOpen s.clock
          refine Or.inr ⟨tx.stage (a.expired s.clock), fun b hb => ?_, fun hb => by simp at hb,
            hready, (looks_now hC).andThen (hopen.andThen ?_)⟩
          · obtain rfl := Option.some.inj hb
            exact ⟨hoverdue, rfl⟩
          · simp only [hoverdue, ensure_true, done_bind]
            exact hclose.andThen (looks_openNext hC hready s.clock)

/-- **What submitting makes of an open attempt**: its final state, and what is left to do once that
is committed. -/
inductive Settles (quiz : Quiz) (a : Attempt) (answers : List SubmittedAnswer) (actor : Actor)
    (present : Timestamp) : Attempt → Program AttemptView → Prop
  | overdue (h : a.isOverdue quiz.timeLimit present = true) :
      Settles quiz a answers actor present (a.expired present) (refuse .tooLate)
  | graded {index : AnswerIndex} {grade : Grade}
      (h : a.isOverdue quiz.timeLimit present = false)
      (hindex : quiz.indexAnswers answers = .ok index) (hgrade : quiz.grade index = .ok grade) :
      Settles quiz a answers actor present (a.graded grade present) (do
        afterGrading quiz a grade present actor
        return (a.graded grade present).view quiz.showCorrectAnswers)

/-- An open attempt comes to be closed, unless the answers cannot be graded. -/
theorem looks_gradeOpen (hC : ∀ t, C t → s.Alike enrollment.id t ∧ t.store.Sound)
    (htx : tx.staged = Table.empty) {quiz : Quiz} {a : Attempt}
    (ha : s.store.attempts.get? a.id = some a) (hpair : a.isOf enrollment.id quiz.id = true)
    (hopen : a.isOpen = true) (answers : List SubmittedAnswer) (actor : Actor) :
    (∃ why, why.isOvertaken = false ∧
      Looks C (gradeOpen quiz a answers actor) tx (.refuse why) tx) ∨
    ∃ final rest, Settles quiz a answers actor s.clock final rest ∧
      (∀ t, C t → (tx.stage final).Ready t.store enrollment.id quiz.id) ∧
      Looks C (gradeOpen quiz a answers actor) tx (commitOrRefuse >>= fun _ => rest)
        (tx.stage final) := by
  unfold gradeOpen
  cases hindex : quiz.indexAnswers answers with
  | error flaw => exact Or.inl ⟨.submission flaw, rfl, .here _ _⟩
  | ok index =>
      simp only [orRefuse, done_bind]
      cases hoverdue : a.isOverdue quiz.timeLimit s.clock with
      | true =>
          obtain ⟨hclose, hready⟩ := looks_closeOverdue hC htx ha hpair hopen s.clock
          refine Or.inr ⟨_, _, .overdue hoverdue, hready, (looks_now hC).andThen ?_⟩
          rw [hoverdue]
          exact hclose.andThen (.here _ _)
      | false =>
          cases hgrade : quiz.grade index with
          | error flaw =>
              refine Or.inl ⟨.malformed flaw, rfl, (looks_now hC).andThen ?_⟩
              rw [hoverdue]
              exact .here _ _
          | ok grade =>
              obtain ⟨hsave, hready⟩ := looks_save hC htx ha hpair hopen
                (Attempt.closes_graded a grade s.clock)
              refine Or.inr ⟨_, _, .graded hoverdue hindex hgrade, hready,
                (looks_now hC).andThen ?_⟩
              rw [hoverdue]
              exact hsave.andThen (.here _ _)

/-- **Submitting comes to a refusal, or to where the attempt is closed.** -/
theorem looks_submitLocked (hs : s.store.Sound)
    (hC : ∀ t, C t → s.Alike enrollment.id t ∧ t.store.Sound) (htx : tx.staged = Table.empty)
    (quiz : Quiz) (attemptId : Int) (answers : List SubmittedAnswer) (actor : Actor) :
    (∃ why, why.isOvertaken = false ∧
      Looks C (submitLocked quiz enrollment attemptId answers actor) tx (.refuse why) tx) ∨
    ∃ a final rest, s.store.attempts.get? attemptId = some a ∧
      a.isOf enrollment.id quiz.id = true ∧ a.isOpen = true ∧
      Settles quiz a answers actor s.clock final rest ∧
      (∀ t, C t → (tx.stage final).Ready t.store enrollment.id quiz.id) ∧
      Looks C (submitLocked quiz enrollment attemptId answers actor) tx
        (commitOrRefuse >>= fun _ => rest) (tx.stage final) := by
  -- a row of another enrollment may be seen under the identifier, but it is passed over
  have hseen : Looks C (submitLocked quiz enrollment attemptId answers actor) tx (do
      let a ← found ((s.store.attempts.get? attemptId).filter (·.isOf enrollment.id quiz.id))
        .noAttempt
      ensure a.isOpen .alreadySubmitted
      gradeOpen quiz a answers actor) tx := by
    refine .look (fun t ht others => ⟨_, rfl, ?_⟩) rfl (.here _ _)
    rw [← (hC t ht).1.filter_get?, ← Transaction.attempt?_of_unstaged (hC t ht).2.orderly htx]
    rfl
  cases hfound : (s.store.attempts.get? attemptId).filter (·.isOf enrollment.id quiz.id) with
  | none =>
      rw [hfound] at hseen
      exact Or.inl ⟨.noAttempt, rfl, hseen⟩
  | some a =>
      rw [hfound, found_some, done_bind] at hseen
      obtain ⟨ha, hpair⟩ := Option.filter_eq_some_iff.1 hfound
      cases hopen : a.isOpen with
      | false =>
          rw [hopen] at hseen
          exact Or.inl ⟨.alreadySubmitted, rfl, hseen⟩
      | true =>
          rw [hopen, ensure_true, done_bind] at hseen
          have hown : s.store.attempts.get? a.id = some a := by rw [hs.orderly.own ha, ha]
          rcases looks_gradeOpen hC htx hown hpair hopen answers actor with
            ⟨why, hwhy, hrefused⟩ | ⟨final, rest, hsettles, hready, hcloses⟩
          · exact Or.inl ⟨why, hwhy, hseen.trans hrefused⟩
          · exact Or.inr ⟨a, final, rest, ha, hpair, hopen, hsettles, hready, hseen.trans hcloses⟩

/-- **Reading comes to where the open attempt is closed as overdue**, or to where there is nothing
to close. -/
theorem looks_closeLocked (hs : s.store.Sound)
    (hC : ∀ t, C t → s.Alike enrollment.id t ∧ t.store.Sound) (htx : tx.staged = Table.empty)
    (quiz : Quiz) :
    ((∀ a, s.running? enrollment.id quiz.id = some a →
        a.isOverdue quiz.timeLimit s.clock = false) ∧
      Looks C (closeLocked quiz enrollment) tx rollback tx) ∨
    ∃ a, s.running? enrollment.id quiz.id = some a ∧ a.isOverdue quiz.timeLimit s.clock = true ∧
      (∀ t, C t → (tx.stage (a.expired s.clock)).Ready t.store enrollment.id quiz.id) ∧
      Looks C (closeLocked quiz enrollment) tx commitOrRefuse (tx.stage (a.expired s.clock)) := by
  have hopen := looks_lockOpenAttempt hC htx quiz.id
  cases hrunning : s.running? enrollment.id quiz.id with
  | none =>
      rw [hrunning] at hopen
      exact Or.inl ⟨fun a ha => by simp at ha,
        (looks_now hC).andThen (hopen.andThen (.here _ _))⟩
  | some a =>
      rw [hrunning] at hopen
      obtain ⟨ha, hpair, hisOpen⟩ := Service.running?_eq_some hs.orderly hrunning
      cases hoverdue : a.isOverdue quiz.timeLimit s.clock with
      | false =>
          refine Or.inl ⟨fun b hb => Option.some.inj hb ▸ hoverdue,
            (looks_now hC).andThen (hopen.andThen ?_)⟩
          simp only [hoverdue]
          exact .here _ _
      | true =>
          obtain ⟨hclose, hready⟩ := looks_closeOverdue hC htx ha hpair hisOpen s.clock
          refine Or.inr ⟨a, rfl, hoverdue, hready, (looks_now hC).andThen (hopen.andThen ?_)⟩
          simp only [hoverdue]
          exact hclose.andThen (.here _ _)

end Locked

end QuizAttempts
