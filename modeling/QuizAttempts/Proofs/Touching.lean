/-
**Whoever touches a quiz leaves no attempt of theirs overdue.**

Nobody watches the time limits.  An overdue attempt is closed by the next request that touches it:
when its student starts another one, or looks at one of them or at all.  Each of these looks for the
open attempt of the pair and closes the first that it finds, if that is overdue.  That is enough,
because a pair has one open attempt at most.  What a start opens begins at that moment, and no limit
has run out then unless it was negative.  So no attempt is left overdue, and the answer tells of
none.

Who looks changes that one row and nothing else.  After that there is nothing left to close, and who
looks again at the same moment is answered in the same way and changes nothing at all.

Main definitions:

* `Request.touches`, `Request.looks` — starts and looks, and looks alone;
* `Reply.entries`, `AttemptView.isOverdue` — the attempts that a reply tells of, and the overdue
  ones among them;
* `Service.NoneOverdue`, `Service.Tells` — no attempt of a pair is overdue, and a reply tells of the
  attempts of a pair;
* `Service.LeavesNone` — **what a touch leaves behind**.

Main results:

* `Service.noneOverdue_swept`, `Service.noneOverdue_opened` — a sweep leaves none, and an opening
  adds none;
* `Service.look_cases`, `Service.look_again` — **what a look changes, and that a second one changes
  nothing**;
* `Service.leavesNone_touch` — no touch leaves an attempt overdue;
* `Service.none_overdue_after_touch` — **both, wherever requests and edits lead**.
-/
import QuizAttempts.Proofs.Objections
import QuizAttempts.Proofs.Retelling

set_option autoImplicit false

namespace QuizAttempts

/-! ### Requests and what they are answered with -/

/-- Looks at one attempt, or at all. -/
def Request.looks : Request → Bool
  | .list _ _ | .get _ _ _ => true
  | _ => false

/-- **Requests that come by the open attempt of a pair**: starts and looks. -/
def Request.touches : Request → Bool
  | .start _ _ => true
  | request => request.looks

/-- **The attempts that a reply tells of.** -/
def Reply.entries : Reply → List AttemptView
  | .started a => [a.view true]
  | .view shown => [shown]
  | .views listed => listed
  | .payload _ | .published _ => []

/-- The view is that of an attempt in progress that is overdue. -/
def AttemptView.isOverdue (view : AttemptView) (limit : Option Int) (now : Timestamp) : Bool :=
  view.status = .inProgress &&
    match limit with
    | some minutes => minutes * 60 * nanosPerSecond < now.since view.startedAt
    | none => false

/-- A view tells whether its attempt is overdue. -/
theorem Attempt.isOverdue_view (a : Attempt) (showCorrect : Bool) (limit : Option Int)
    (now : Timestamp) :
    (a.view showCorrect).isOverdue limit now = (a.isOpen && a.isOverdue limit now) := rfl

/-! ### What a touch leaves -/

section Touching

variable {s : Service} {quiz : Quiz} {enrollment : Enrollment}

/-- **No open attempt of the pair is overdue.** -/
def Service.NoneOverdue (s : Service) (quiz : Quiz) (enrollment : Enrollment) : Prop :=
  ∀ (id : Int) (a : Attempt), s.store.attempts.get? id = some a →
    a.isOf enrollment.id quiz.id = true → a.isOpen = true →
      a.isOverdue quiz.timeLimit s.clock = false

/-- **The reply tells of attempts of the pair** as they stand. -/
def Service.Tells (s : Service) (quiz : Quiz) (enrollment : Enrollment) (reply : Reply) : Prop :=
  ∀ view ∈ reply.entries, ∃ (id : Int) (a : Attempt) (showCorrect : Bool),
    s.store.attempts.get? id = some a ∧ a.isOf enrollment.id quiz.id = true ∧
      a.view showCorrect = view

/-- Where no attempt is overdue, none is told of as overdue. -/
theorem Service.NoneOverdue.entries (h : s.NoneOverdue quiz enrollment) {reply : Reply}
    (htells : s.Tells quiz enrollment reply) :
    ∀ view ∈ reply.entries, view.isOverdue quiz.timeLimit s.clock = false := by
  intro view hview
  obtain ⟨id, a, showCorrect, ha, hpair, rfl⟩ := htells view hview
  rw [a.isOverdue_view]
  cases hopen : a.isOpen with
  | false => rfl
  | true => exact h id a ha hpair hopen

/-- What whoever comes by leaves of an attempt of the pair is closed or within the limit. -/
theorem Attempt.inTime_sweptBy {a : Attempt} {now : Timestamp}
    (hpair : (a.sweptBy quiz enrollment now).isOf enrollment.id quiz.id = true)
    (hopen : (a.sweptBy quiz enrollment now).isOpen = true) :
    (a.sweptBy quiz enrollment now).isOverdue quiz.timeLimit now = false := by
  unfold sweptBy at hpair hopen ⊢
  split at hpair
  · rename_i hclosed
    rw [if_pos hclosed] at hopen
    simp at hopen
  · rename_i hleft
    rw [if_neg hleft] at hopen ⊢
    simpa [hpair, hopen] using hleft

/-- **A sweep leaves none overdue.** -/
theorem Service.noneOverdue_swept (hs : s.store.Sound) (quiz : Quiz) (enrollment : Enrollment) :
    (s.swept quiz enrollment).NoneOverdue quiz enrollment := by
  intro id b hb hpair hopen
  rw [attempts_swept hs, Table.get?_map] at hb
  obtain ⟨a, -, rfl⟩ := Option.map_eq_some_iff.1 hb
  rw [(s.rewrites_swept quiz enrollment).setting.clock]
  exact Attempt.inTime_sweptBy hpair hopen

/-- What begins at this moment is not overdue, unless the limit is negative. -/
theorem Attempt.inTime_of_startedAt {a : Attempt} {limit : Option Int} {now : Timestamp}
    (hlimit : ∀ minutes, limit = some minutes → 0 ≤ minutes) (hstart : a.startedAt = now) :
    a.isOverdue limit now = false := by
  unfold isOverdue
  split
  · rename_i minutes
    have hminutes := hlimit minutes rfl
    rw [hstart, Timestamp.since_self, decide_eq_false_iff_not, Int.not_lt]
    exact Int.mul_nonneg (Int.mul_nonneg hminutes (by decide)) (by decide)
  · rfl

/-- **An opening adds none that is overdue.** -/
theorem Service.noneOverdue_opened (hs : s.store.Sound)
    (hlimit : ∀ minutes, quiz.timeLimit = some minutes → 0 ≤ minutes) (enrollment : Enrollment) :
    (s.opened quiz enrollment).NoneOverdue quiz enrollment := by
  intro id b hb hpair hopen
  have hclock : (s.opened quiz enrollment).clock = s.clock := by rw [opened_eq hs]
  rw [hclock]
  rw [opened_eq hs, Table.get?_insert] at hb
  split at hb
  · exact Attempt.inTime_of_startedAt hlimit (congrArg (·.startedAt) (Option.some.inj hb)).symm
  · rw [Table.get?_map] at hb
    obtain ⟨a, -, rfl⟩ := Option.map_eq_some_iff.1 hb
    exact Attempt.inTime_sweptBy hpair hopen

/-- A start is answered with the attempt that it has opened. -/
theorem Service.tells_opened (s : Service) (quiz : Quiz) (enrollment : Enrollment) :
    (s.opened quiz enrollment).Tells quiz enrollment
      (.started (s.nextAttempt quiz enrollment)) := by
  intro view hview
  obtain rfl := List.mem_singleton.1 hview
  exact ⟨_, s.nextAttempt quiz enrollment, true, Table.get?_insert_self _ _ _,
    s.isOf_nextAttempt quiz enrollment, rfl⟩

/-- A list tells of attempts of the pair. -/
theorem Service.tells_decideList {reply : Reply}
    (hdone : (s.decideList quiz enrollment).2 = .done reply) :
    (s.swept quiz enrollment).Tells quiz enrollment reply := by
  obtain rfl := Outcome.done.inj hdone
  intro view hview
  obtain ⟨a, ha, rfl⟩ := List.mem_map.1 hview
  obtain ⟨id, hrow, hpair⟩ := Store.mem_attemptsOf.1 ha
  exact ⟨id, a, _, hrow, hpair, rfl⟩

/-- Who is shown an attempt is shown one of the pair. -/
theorem Service.tells_decideGet {attemptId : Int} {reply : Reply}
    (hdone : (s.decideGet quiz enrollment attemptId).2 = .done reply) :
    (s.swept quiz enrollment).Tells quiz enrollment reply := by
  simp only [decideGet] at hdone
  split at hdone
  · simp at hdone
  · rename_i a hfound
    obtain rfl := Outcome.done.inj hdone
    obtain ⟨hrow, hpair⟩ := Option.filter_eq_some_iff.1 hfound
    intro view hview
    obtain rfl := List.mem_singleton.1 hview
    exact ⟨attemptId, a, _, hrow, hpair, rfl⟩

end Touching

/-! ### Looks -/

section Looking

variable {s : Service} {request : Request}

/-- **What a look comes to**: it is refused and changes nothing, or it sweeps the pair of its caller
and tells of the attempts of that pair. -/
theorem Service.look_cases (hs : s.store.Sound) (hfiled : s.store.Filed)
    (hlooks : request.looks = true) :
    (∃ why, s.run [] request.program = (s, .refused why)) ∨
    ∃ quiz enrollment, s.store.quizzes.get? request.quizId = some quiz ∧
      s.store.Enrolls quiz request.actor enrollment ∧
      (s.run [] request.program).1 = s.swept quiz enrollment ∧
      ∀ reply, (s.run [] request.program).2 = .done reply →
        (s.swept quiz enrollment).Tells quiz enrollment reply := by
  cases request with
  | list quizId actor =>
      rcases run_looking hs hfiled quizId actor with
        ⟨why, hrefused, -⟩ | ⟨quiz, enrollment, hquiz, -, henrolls, hlist, -⟩
      · exact Or.inl ⟨why, hrefused⟩
      · refine Or.inr ⟨quiz, enrollment, hquiz, henrolls, by rw [hlist]; rfl, fun reply hdone => ?_⟩
        exact tells_decideList (hlist ▸ hdone)
  | get quizId attemptId actor =>
      rcases run_looking hs hfiled quizId actor with
        ⟨why, -, hrefused⟩ | ⟨quiz, enrollment, hquiz, -, henrolls, -, hget⟩
      · exact Or.inl ⟨why, hrefused attemptId⟩
      · refine Or.inr ⟨quiz, enrollment, hquiz, henrolls, ?_, fun reply hdone => ?_⟩
        · rw [hget attemptId, decideGet]
          split <;> rfl
        · exact tells_decideGet (hget attemptId ▸ hdone)
  | _ => simp [Request.looks] at hlooks

/-- Who may look before a sweep may look after it. -/
theorem Store.reviewing_swept (s : Service) (quiz : Quiz) (enrollment : Enrollment) (quizId : Int)
    (actor : Actor) :
    (s.swept quiz enrollment).store.reviewing quizId actor = s.store.reviewing quizId actor := by
  rw [Service.store_swept]
  rfl

/-- **Who looks again at the same moment** is answered in the same way, and changes nothing. -/
theorem Service.look_again (hs : s.store.Sound) (hlooks : request.looks = true) :
    (s.run [] request.program).1.run [] request.program = s.run [] request.program := by
  have hafter : (s.run [] request.program).1.store.Sound := (run_sound hs [] request.program).1
  cases request with
  | list quizId actor =>
      rw [run_list hafter, run_list hs]
      cases hreviewing : s.store.reviewing quizId actor with
      | error why => simp only [unlessRefused_error, hreviewing]
      | ok found =>
          simp only [unlessRefused_ok, decideList, Store.reviewing_swept, hreviewing,
            swept_again hs]
  | get quizId attemptId actor =>
      rw [run_get hafter, run_get hs]
      cases hreviewing : s.store.reviewing quizId actor with
      | error why => simp only [unlessRefused_error, hreviewing]
      | ok found =>
          have hswept : (s.decideGet found.1 found.2 attemptId).1 = s.swept found.1 found.2 := by
            rw [decideGet]
            split <;> rfl
          simp only [unlessRefused_ok, hswept, Store.reviewing_swept, hreviewing]
          simp only [decideGet, swept_again hs]
  | _ => simp [Request.looks] at hlooks

/-- What a look writes is the overdue attempt of its caller, if there is one, and that closed. -/
theorem Service.store_look (hs : s.store.Sound) (hfiled : s.store.Filed)
    (hlooks : request.looks = true) :
    (s.run [] request.program).1.store = s.store ∨
    ∃ a, s.OwnOverdue request.quizId request.actor a ∧ (s.run [] request.program).1.store =
      { s.store with attempts := s.store.attempts.insert a.id (a.expired s.clock) } := by
  rcases look_cases hs hfiled hlooks with
    ⟨why, hrefused⟩ | ⟨quiz, enrollment, hquiz, henrolls, hafter, -⟩
  · exact Or.inl (by rw [hrefused])
  · have hswept := swept_swept hs hquiz henrolls
    rw [hafter, store_swept]
    generalize (s.swept quiz enrollment).store.attempts = rows at hswept
    cases hswept with
    | same => exact Or.inl rfl
    | @closed a hown => exact Or.inr ⟨a, hown, rfl⟩

end Looking

/-! ### The main result -/

section Main

variable {s : Service} {request : Request} {quiz : Quiz} {reply : Reply}

/-- **What a touch leaves behind**: everything that is put in as it was, and of the pair of its
caller no attempt that is overdue; it was answered with the attempts of that pair. -/
structure Service.LeavesNone (s after : Service) (quiz : Quiz) (actor : Actor) (reply : Reply) :
    Prop where
  setting : s.SameSetting after
  pair : ∃ enrollment, s.store.Enrolls quiz actor enrollment ∧
    after.NoneOverdue quiz enrollment ∧ after.Tells quiz enrollment reply

theorem Service.leavesNone_look (hs : s.store.Sound) (hfiled : s.store.Filed)
    (hlooks : request.looks = true) (hquiz : s.store.quizzes.get? request.quizId = some quiz)
    (hdone : (s.run [] request.program).2 = .done reply) :
    s.LeavesNone (s.run [] request.program).1 quiz request.actor reply := by
  rcases look_cases hs hfiled hlooks with
    ⟨why, hrefused⟩ | ⟨stored, enrollment, hstored, henrolls, hafter, htells⟩
  · simp [hrefused] at hdone
  · obtain rfl : stored = quiz := Option.some.inj (hstored.symm.trans hquiz)
    rw [hafter]
    exact ⟨(s.rewrites_swept stored enrollment).setting, enrollment, henrolls,
      noneOverdue_swept hs stored enrollment, htells reply hdone⟩

theorem Service.leavesNone_start (hs : s.store.Sound) {quizId : Int} {actor : Actor}
    (hquiz : s.store.quizzes.get? quizId = some quiz)
    (hlimit : ∀ minutes, quiz.timeLimit = some minutes → 0 ≤ minutes)
    (hdone : (s.run [] (Request.start quizId actor).program).2 = .done reply) :
    s.LeavesNone (s.run [] (Request.start quizId actor).program).1 quiz actor reply := by
  rw [run_start hs] at hdone ⊢
  obtain ⟨⟨sorted, enrollment⟩, hadmission, hdecided⟩ := unlessRefused_eq_done hdone
  obtain ⟨stored, hstored, rfl, henrolls⟩ := Store.Enters.of_admission hadmission
  obtain rfl : stored = quiz := Option.some.inj (hstored.symm.trans hquiz)
  obtain ⟨rfl, hopened⟩ := decideStart_eq_done hdecided
  rw [hadmission, unlessRefused_ok, hopened]
  have hcalm : (s.withPending 0).store.Sound := hs
  have hlimit' : ∀ minutes, stored.sorted.timeLimit = some minutes → 0 ≤ minutes := hlimit
  have hnone := noneOverdue_opened hcalm hlimit' enrollment
  refine ⟨?_, enrollment, henrolls, hnone, (s.withPending 0).tells_opened stored.sorted enrollment⟩
  rw [opened_eq hcalm]
  exact ⟨rfl, rfl, rfl, rfl⟩

/-- **No touch leaves an attempt of its caller's pair overdue.** -/
theorem Service.leavesNone_touch (hs : s.store.Sound) (hfiled : s.store.Filed)
    (htouches : request.touches = true)
    (hquiz : s.store.quizzes.get? request.quizId = some quiz)
    (hlimit : ∀ minutes, quiz.timeLimit = some minutes → 0 ≤ minutes)
    (hdone : (s.run [] request.program).2 = .done reply) :
    s.LeavesNone (s.run [] request.program).1 quiz request.actor reply := by
  cases request with
  | start quizId actor => exact leavesNone_start hs hquiz hlimit hdone
  | list quizId actor => exact leavesNone_look hs hfiled rfl hquiz hdone
  | get quizId attemptId actor => exact leavesNone_look hs hfiled rfl hquiz hdone
  | _ => simp [Request.touches, Request.looks] at htouches

/-- **No touch leaves an attempt overdue, and looking is looking once.**  Let a service be reached
by requests and edits, and let a quiz in it have no time limit or one that is not negative.

When a start at the quiz, or a look at one attempt or at all, is answered with a result, the clock
and everything that is put in are as they were, and of the pair of the caller's enrollment and the
quiz no attempt is in progress and overdue at that moment, nor does the answer tell of one.
Whatever a look is answered with, it leaves the store as it was but for one row at most, that of the
caller's own attempt at the quiz that was in progress and overdue, and closes that; and the same
look at the same moment is answered in the same way, and leaves everything as it is. -/
theorem Service.none_overdue_after_touch (hmanaged : s.Managed)
    (htouches : request.touches = true)
    (hquiz : s.store.quizzes.get? request.quizId = some quiz)
    (hlimit : ∀ minutes, quiz.timeLimit = some minutes → 0 ≤ minutes) :
    let after := (s.run [] request.program).1
    (∀ reply, (s.run [] request.program).2 = .done reply →
      s.SameSetting after ∧
      ∃ enrollment, after.store.Enrolls quiz request.actor enrollment ∧
        (∀ id a, after.store.attempts.get? id = some a →
          a.isOf enrollment.id request.quizId = true → a.status = .inProgress →
            a.isOverdue quiz.timeLimit after.clock = false) ∧
        ∀ view ∈ reply.entries, view.isOverdue quiz.timeLimit after.clock = false) ∧
    (request.looks = true →
      (after.store = s.store ∨ ∃ a, s.OwnOverdue request.quizId request.actor a ∧
        after.store =
          { s.store with attempts := s.store.attempts.insert a.id (a.expired s.clock) }) ∧
      after.run [] request.program = (after, (s.run [] request.program).2)) := by
  intro after
  obtain ⟨hs, hfiled⟩ := Console.AtRest.of_managed hmanaged
  refine ⟨fun reply hdone => ?_, fun hlooks => ⟨store_look hs hfiled hlooks, look_again hs hlooks⟩⟩
  obtain ⟨hsetting, enrollment, ⟨lesson, hlesson, hfound⟩, hnone, htells⟩ :=
    leavesNone_touch hs hfiled htouches hquiz hlimit hdone
  have henrolls : after.store.Enrolls quiz request.actor enrollment := by
    refine ⟨lesson, ?_, ?_⟩
    · rw [Store.lesson?, hsetting.lessons]
      exact hlesson
    · rw [Store.enrollmentOf?, hsetting.enrollments]
      exact hfound
  refine ⟨hsetting, enrollment, henrolls, fun id a ha hpair hopen => ?_, hnone.entries htells⟩
  rw [← hfiled _ quiz hquiz] at hpair
  exact hnone id a ha hpair (by simpa [Attempt.isOpen] using hopen)

/-- The late attempt is found when the attempts are listed.  It is closed, the list tells of it as
graded, and the same list once more says the same. -/
theorem Service.none_overdue_after_touch_lateAttempt :
    let s := ((Console.ofService Service.blank).after lateAttempt).service
    let list := Request.list 1 learner
    let after := (s.run [] list.program).1
    s.Managed ∧ (s.store.quizzes.get? 1).map (·.timeLimit) = some (some 1) ∧
      (∃ a, s.OwnOverdue 1 learner a ∧ after.store =
        { s.store with attempts := s.store.attempts.insert a.id (a.expired s.clock) }) ∧
      (∃ reply, (s.run [] list.program).2 = .done reply ∧
        reply.entries.map (·.status) = [.graded] ∧
        ∀ view ∈ reply.entries, view.isOverdue (some 1) after.clock = false) ∧
      after.run [] list.program = (after, (s.run [] list.program).2) := by
  intro s list after
  have hmanaged : s.Managed := ⟨Service.blank, lateAttempt, rfl, by decide +kernel, rfl⟩
  have hone : (s.store.quizzes.get? 1).map (·.timeLimit) = some (some 1) := by decide +kernel
  have hchanged : after.store ≠ s.store := by decide +kernel
  have hlisted : (s.run [] list.program).2.result?.any fun reply =>
      decide (reply.entries.map (·.status) = [.graded]) := by decide +kernel
  obtain ⟨quiz, hquiz, hminutes⟩ := Option.map_eq_some_iff.1 hone
  obtain ⟨reply, hreply, hgraded⟩ := (Option.any_eq_true _ _).1 hlisted
  have hdone : (s.run [] list.program).2 = .done reply := by
    cases houtcome : (s.run [] list.program).2 with
    | done result => rw [houtcome] at hreply; exact congrArg _ (Option.some.inj hreply)
    | _ => simp [houtcome, Outcome.result?] at hreply
  have htouches : list.touches = true := rfl
  obtain ⟨htouched, hlooked⟩ := none_overdue_after_touch hmanaged htouches hquiz
    fun minutes h => by
      rw [hminutes] at h
      obtain rfl := Option.some.inj h
      decide
  obtain ⟨-, enrollment, -, -, htold⟩ := htouched reply hdone
  obtain ⟨hstore, hagain⟩ := hlooked rfl
  rw [hminutes] at htold
  exact ⟨hmanaged, hone, hstore.resolve_left hchanged,
    ⟨reply, hdone, of_decide_eq_true hgraded, htold⟩, hagain⟩

end Main

end QuizAttempts
