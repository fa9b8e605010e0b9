/-
**What can be objected to a request.**

Before anything is written a request is looked at from many sides, and whatever is not as it has to
be is an objection.  The objections to a request are listed here, in the order in which they are
looked for, as they can be read off the store: without locks, without transactions and without going
from one thing to the next.  A request that meets no objection is done; any other is refused for the
first one.

With that, starting an attempt and submitting one are known in full.  A start closes the overdue
attempt of its pair and puts the next one in.  A submission puts the graded attempt in place of the
open one, and the only refusal that writes is that of the one who is late, whose attempt is closed.

Main definitions:

* `Outcome.Follows` — **done without objections, and refused for the first of them**;
* `Store.pair?`, `Store.highest` — the quiz and the enrollment of a request, and the highest number
  of their attempts;
* `Store.grants`, `Store.IsEnrolled` — the enrollment lets the caller in, and the caller has one
  that does;
* `Store.entryObjections`, `Service.startObjections`, `Service.submitObjections` — **the
  objections, in their order**;
* `Attempt.sweptBy` — an attempt, closed if it is an overdue one of a pair.

Main results:

* `Outcome.Follows.done_iff`, `Outcome.Follows.refused_iff` — what ends a request decides on the
  objections, and they on it;
* `Store.OnePerCourse.grants_iff` — whose enrollment is asked for;
* `Service.follows_start`, `Service.start_decided` — **starting, in all cases**;
* `Service.follows_submit`, `Service.submit_decided` — **submitting, in all cases**.
-/
import QuizAttempts.Proofs.Isolation

set_option autoImplicit false

namespace QuizAttempts

/-! ### Objections -/

/-- The objection to a condition that does not hold. -/
def objection (condition : Bool) (why : Refusal) : Option Refusal :=
  if condition then none else some why

/-- **A request is done without objections, and refused for the first of them.** -/
def Outcome.Follows {α : Type} (outcome : Outcome α) (objections : List (Option Refusal)) : Prop :=
  match outcome with
  | .done _ => ∀ o ∈ objections, o = none
  | .refused why => objections.findSome? id = some why
  | _ => False

namespace Outcome.Follows

variable {α : Type} {outcome : Outcome α} {objections : List (Option Refusal)}

theorem done (a : α) : (Outcome.done a).Follows [] := by
  simp [Follows]

/-- The first objection, if there is one. -/
theorem refused (why : Refusal) :
    (Outcome.refused why : Outcome α).Follows (some why :: objections) := by
  simp [Follows]

/-- What cannot be objected to does not count. -/
theorem skip (h : outcome.Follows objections) : outcome.Follows (none :: objections) := by
  cases outcome with
  | done a => simpa [Follows] using h
  | refused why => simpa [Follows] using h
  | overflow => exact h
  | blocked => exact h

/-- **Who is done met no objection, and the other way round.** -/
theorem done_iff (h : outcome.Follows objections) :
    (∃ a, outcome = .done a) ↔ ∀ o ∈ objections, o = none := by
  cases outcome with
  | done a => exact ⟨fun _ => h, fun _ => ⟨a, rfl⟩⟩
  | refused why =>
      constructor
      · rintro ⟨a, ha⟩
        simp at ha
      · intro hnone
        have hfirst : objections.findSome? id = none := by simpa using hnone
        rw [show objections.findSome? id = some why from h] at hfirst
        simp at hfirst
  | overflow => exact absurd h id
  | blocked => exact absurd h id

/-- **Who is refused is refused for the first objection, and the other way round.** -/
theorem refused_iff (h : outcome.Follows objections) (why : Refusal) :
    outcome = .refused why ↔ objections.findSome? id = some why := by
  cases outcome with
  | done a =>
      have hnone : ∀ o ∈ objections, o = none := h
      have hfirst : objections.findSome? id = none := by simpa using hnone
      simp [hfirst]
  | refused why' =>
      rw [show objections.findSome? id = some why' from h]
      simp
  | overflow => exact absurd h id
  | blocked => exact absurd h id

end Outcome.Follows

section Demands

variable {α β γ : Type} {s : γ} {objections : List (Option Refusal)}

/-- What is demanded first is objected to first. -/
theorem follows_demand {condition : Bool} {why : Refusal} {f : Unit → γ × Outcome β}
    (h : condition = true → (f ()).2.Follows objections) :
    (unlessRefused (demand condition why) s f).2.Follows
      (objection condition why :: objections) := by
  cases condition with
  | true => exact (h rfl).skip
  | false => exact .refused why

/-- The same of what has to be there. -/
theorem follows_demandSome {a? : Option α} {why : Refusal} {f : α → γ × Outcome β}
    (h : ∀ a, a? = some a → (f a).2.Follows objections) :
    (unlessRefused (demandSome a? why) s f).2.Follows (objection a?.isSome why :: objections) := by
  cases a? with
  | some a => exact (h a rfl).skip
  | none => exact .refused why

/-- Who is done was not refused before. -/
theorem unlessRefused_eq_done {x : Except Refusal α} {f : α → γ × Outcome β} {b : β}
    (h : (unlessRefused x s f).2 = .done b) : ∃ a, x = .ok a ∧ (f a).2 = .done b := by
  cases x with
  | error why => simp at h
  | ok a => exact ⟨a, rfl, h⟩

end Demands

/-! ### What a request is about -/

namespace Store

variable (store : Store) (quizId : Int) (actor : Actor)

/-- The lesson of a quiz. -/
def lessonOf? : Option Lesson :=
  (store.quiz? quizId).bind fun quiz => store.lesson? quiz.lessonId

/-- The enrollment of a caller in the course of a quiz. -/
def enrollmentAt? : Option Enrollment :=
  (store.lessonOf? quizId).bind fun lesson => store.enrollmentOf? actor.userId lesson.courseId

/-- **The pair that a request is about**: the quiz, and the enrollment of the caller in its
course. -/
def pair? : Option (Quiz × Enrollment) :=
  (store.quiz? quizId).bind fun quiz => (store.enrollmentAt? quizId actor).map fun enrollment =>
    (quiz, enrollment)

/-- **The highest number of an attempt of a pair**, zero if there is none. -/
def highest (enrollment quiz : Int) : Int :=
  (((store.attemptsOf enrollment quiz).map (·.number)).max?).getD 0

/-- The enrollment of a caller in the course of a quiz is running or finished. -/
def grants : Bool :=
  (store.enrollmentAt? quizId actor).any fun enrollment =>
    enrollment.status == "active" || enrollment.status == "completed"

/-- A student has a running or finished enrollment in a course. -/
def IsEnrolled (store : Store) (actor : Actor) (course : Int) : Prop :=
  ∃ enrollment ∈ store.enrollments.values, enrollment.studentId = actor.userId ∧
    enrollment.courseId = course ∧
    (enrollment.status = "active" ∨ enrollment.status = "completed")

/-- **What can be objected to working on a quiz**, in this order: the caller is no student, the quiz
is not there or not published, its lesson is not there, or the caller has no running or finished
enrollment in its course. -/
def entryObjections : List (Option Refusal) :=
  [objection (actor.role == .student) .studentsOnly,
    objection (store.quiz? quizId).isSome .noQuiz,
    objection ((store.quiz? quizId).any (·.isPublished)) .unpublished,
    objection (store.lessonOf? quizId).isSome .noLesson,
    objection (store.grants quizId actor) .notEnrolled]

/-- **An enrollment is asked for by its student and its course**: where nobody is enrolled in a
course twice, a caller is let in who has a running or finished enrollment in the course. -/
theorem OnePerCourse.grants_iff {store : Store} (h : store.OnePerCourse) {quizId : Int}
    {actor : Actor} {lesson : Lesson} (hlesson : store.lessonOf? quizId = some lesson) :
    store.grants quizId actor = true ↔ store.IsEnrolled actor lesson.courseId := by
  have hfound : store.enrollmentAt? quizId actor =
      store.enrollments.values.find? (·.isOf actor.userId lesson.courseId) := by
    rw [enrollmentAt?, hlesson]
    rfl
  rw [grants, hfound, Option.any_eq_true]
  constructor
  · rintro ⟨enrollment, henrollment, hstatus⟩
    have hpair : enrollment.studentId = actor.userId ∧ enrollment.courseId = lesson.courseId := by
      simpa [Enrollment.isOf] using List.find?_some henrollment
    exact ⟨enrollment, List.mem_of_find?_eq_some henrollment, hpair.1, hpair.2,
      by simpa using hstatus⟩
  · rintro ⟨enrollment, hmem, hstudent, hcourse, hstatus⟩
    have hpair : enrollment.isOf actor.userId lesson.courseId = true := by
      simp [Enrollment.isOf, hstudent, hcourse]
    -- another one that is found first would be the very same
    have hsome :
        (store.enrollments.values.find? (·.isOf actor.userId lesson.courseId)).isSome = true :=
      List.find?_isSome.2 ⟨enrollment, hmem, hpair⟩
    obtain ⟨other, hother⟩ := Option.isSome_iff_exists.1 hsome
    have hsame : other.studentId = actor.userId ∧ other.courseId = lesson.courseId := by
      simpa [Enrollment.isOf] using List.find?_some hother
    obtain rfl : other = enrollment := h other (List.mem_of_find?_eq_some hother) enrollment hmem
      (hsame.1.trans hstudent.symm) (hsame.2.trans hcourse.symm)
    exact ⟨other, hother, by simpa using hstatus⟩

/-- The highest number is the one that a request finds. -/
theorem highest_eq (s : Service) (e q : Int) : s.store.highest e q = s.latest e q := by
  have hmem : ∀ n, n ∈ (s.store.attemptsOf e q).map (·.number) ↔
      ∃ id a, s.store.attempts.get? id = some a ∧ a.isOf e q = true ∧ a.number = n := by
    intro n
    rw [List.mem_map]
    constructor
    · rintro ⟨a, ha, hn⟩
      obtain ⟨id, hrow, hpair⟩ := mem_attemptsOf.1 ha
      exact ⟨id, a, hrow, hpair, hn⟩
    · rintro ⟨id, a, hrow, hpair, hn⟩
      exact ⟨a, mem_attemptsOf.2 ⟨id, hrow, hpair⟩, hn⟩
  rw [highest]
  cases hmax : ((s.store.attemptsOf e q).map (·.number)).max? with
  | none =>
      rw [List.max?_eq_none_iff] at hmax
      rcases s.latest_eq e q with ⟨id, a, ha, hpair, -⟩ | ⟨hzero, -⟩
      · have hin := (hmem a.number).2 ⟨id, a, ha, hpair, rfl⟩
        rw [hmax] at hin
        simp at hin
      · exact hzero.symm
  | some m =>
      obtain ⟨hin, hle⟩ := List.max?_eq_some_iff.1 hmax
      obtain ⟨id, a, ha, hpair, hm⟩ := (hmem m).1 hin
      have hm_le := Service.le_latest ha hpair
      rw [hm] at hm_le
      rw [Option.getD_some]
      rcases s.latest_eq e q with ⟨j, b, hb, hbpair, hbnumber⟩ | ⟨-, hnone⟩
      · have hle_m := hle b.number ((hmem b.number).2 ⟨j, b, hb, hbpair, rfl⟩)
        omega
      · simp [hnone id a ha] at hpair

/-- **Who is let in met no objection**, and goes on with the quiz and the enrollment. -/
theorem follows_admission {γ β : Type} {s : γ} {f : Quiz × Enrollment → γ × Outcome β}
    {objections : List (Option Refusal)}
    (h : ∀ quiz enrollment, store.admission quizId actor = .ok (quiz, enrollment) →
      store.quiz? quizId = some quiz → store.enrollmentAt? quizId actor = some enrollment →
        (f (quiz, enrollment)).2.Follows objections) :
    (unlessRefused (store.admission quizId actor) s f).2.Follows
      (store.entryObjections quizId actor ++ objections) := by
  have hadmission : ∀ quiz lesson enrollment, store.quiz? quizId = some quiz →
      actor.isStudent = true → quiz.isPublished = true →
      store.lesson? quiz.lessonId = some lesson →
      (store.enrollmentOf? actor.userId lesson.courseId).filter (·.grantsAccess) = some enrollment →
        (f (quiz, enrollment)).2.Follows objections := by
    intro quiz lesson enrollment hquiz hstudent hpublished hlesson haccess
    obtain ⟨hfound, hgrants⟩ := Option.filter_eq_some_iff.1 haccess
    refine h quiz enrollment ?_ hquiz ?_
    · exact store.admission_eq_ok.2 ⟨lesson, ⟨hstudent, hquiz, hpublished, hlesson⟩,
        hfound, hgrants⟩
    · rw [enrollmentAt?, lessonOf?, hquiz, Option.bind_some, hlesson]
      exact hfound
  simp only [admission, entry, access, unlessRefused_bind, unlessRefused_pure]
  refine follows_demand fun hstudent => follows_demandSome fun quiz hquiz => ?_
  rw [hquiz, Option.any_some]
  refine follows_demand fun hpublished => ?_
  have hlessonOf : store.lessonOf? quizId = store.lesson? quiz.lessonId := by
    rw [lessonOf?, hquiz, Option.bind_some]
  rw [hlessonOf]
  refine follows_demandSome fun lesson hlesson => ?_
  have henrollment : store.enrollmentAt? quizId actor =
      store.enrollmentOf? actor.userId lesson.courseId := by
    rw [enrollmentAt?, hlessonOf, hlesson, Option.bind_some]
  have hgrants : store.grants quizId actor =
      ((store.enrollmentOf? actor.userId lesson.courseId).filter (·.grantsAccess)).isSome := by
    rw [Option.isSome_filter, grants, henrollment]
    rfl
  rw [hgrants]
  exact follows_demandSome fun enrollment haccess =>
    hadmission quiz lesson enrollment hquiz hstudent hpublished hlesson haccess

end Store

/-! ### Starting -/

/-- **What can be objected to a start**, in this order: what can be objected to working on the quiz,
that an attempt of the pair is in progress and within the limit, and that the highest number of its
attempts has reached the most that the quiz allows. -/
def Service.startObjections (s : Service) (quizId : Int) (actor : Actor) : List (Option Refusal) :=
  s.store.entryObjections quizId actor ++
    [objection ((s.store.pair? quizId actor).all fun (quiz, enrollment) =>
        (s.store.attemptsOf enrollment.id quiz.id).all fun a =>
          !a.isOpen || a.isOverdue quiz.timeLimit s.clock) .alreadyRunning,
      objection ((s.store.pair? quizId actor).all fun (quiz, enrollment) =>
        quiz.maxAttempts.all fun most =>
          decide (s.store.highest enrollment.id quiz.id < most)) .exhausted]

/-- **An attempt as whoever comes by leaves it**: closed, if it is one of the pair that is in
progress and overdue. -/
def Attempt.sweptBy (a : Attempt) (quiz : Quiz) (enrollment : Enrollment)
    (now : Timestamp) : Attempt :=
  if a.isOf enrollment.id quiz.id && a.isOpen && a.isOverdue quiz.timeLimit now then a.expired now
  else a

section Starting

variable {s : Service} {quiz : Quiz} {enrollment : Enrollment}

/-- The attempt in progress is the only open one of its pair. -/
theorem Service.eq_of_running (hs : s.store.Sound) {a b : Attempt} {id : Int}
    (ha : s.running? enrollment.id quiz.id = some a) (hb : s.store.attempts.get? id = some b)
    (hpair : b.isOf enrollment.id quiz.id = true) (hopen : b.isOpen = true) :
    id = a.id ∧ b = a := by
  obtain ⟨hrow, hapair, haopen⟩ := Service.running?_eq_some hs.orderly ha
  obtain ⟨he, hq⟩ := Attempt.isOf_iff.1 hapair
  have hid : a.id = id := hs.orderly.openRow hrow hb (by rwa [he, hq]) haopen hopen
  rw [← hid, hrow] at hb
  exact ⟨hid.symm, (Option.some.inj hb).symm⟩

/-- An attempt of a pair keeps a start from being made if it is in progress and within the limit. -/
theorem Service.isBusy_eq (hs : s.store.Sound) :
    (!s.isBusy quiz enrollment) = (s.store.attemptsOf enrollment.id quiz.id).all fun a =>
      !a.isOpen || a.isOverdue quiz.timeLimit s.clock := by
  rw [Bool.eq_iff_iff, List.all_eq_true, Service.isBusy]
  cases hrunning : s.running? enrollment.id quiz.id with
  | none =>
      refine iff_of_true rfl fun a ha => ?_
      obtain ⟨id, hrow, hpair⟩ := Store.mem_attemptsOf.1 ha
      simp [Service.running?_eq_none hrunning hrow hpair]
  | some a =>
      obtain ⟨hrow, hpair, hopen⟩ := Service.running?_eq_some hs.orderly hrunning
      rw [Option.any_some, Bool.not_not]
      constructor
      · intro hoverdue b hb
        obtain ⟨id, hbrow, hbpair⟩ := Store.mem_attemptsOf.1 hb
        cases hbopen : b.isOpen with
        | false => rfl
        | true =>
            obtain ⟨-, rfl⟩ := Service.eq_of_running hs hrunning hbrow hbpair hbopen
            exact hoverdue
      · intro hall
        simpa [hopen] using hall a (Store.mem_attemptsOf.2 ⟨a.id, hrow, hpair⟩)

/-- **What has been swept, row by row.** -/
theorem Service.attempts_swept (hs : s.store.Sound) :
    (s.swept quiz enrollment).store.attempts =
      s.store.attempts.map fun a => a.sweptBy quiz enrollment s.clock := by
  refine Table.ext fun id => ?_
  rw [Table.get?_map]
  rcases s.swept_cases quiz enrollment with hsame | ⟨a, hrunning, hoverdue, hclosed⟩
  · rw [hsame]
    cases hb : s.store.attempts.get? id with
    | none => rfl
    | some b =>
        -- an overdue attempt of the pair would have been closed
        rw [Option.map_some, Attempt.sweptBy]
        split
        · rename_i hswept
          simp only [Bool.and_eq_true] at hswept
          obtain ⟨⟨hpair, hopen⟩, hoverdue⟩ := hswept
          cases hrunning : s.running? enrollment.id quiz.id with
          | none => simp [Service.running?_eq_none hrunning hb hpair] at hopen
          | some a =>
              obtain ⟨rfl, rfl⟩ := Service.eq_of_running hs hrunning hb hpair hopen
              rw [Service.swept_of_overdue hrunning hoverdue] at hsame
              have hrow : (s.puts (b.expired s.clock)).store.attempts.get? b.id =
                  some (b.expired s.clock) := Table.get?_insert_self _ _ _
              rw [hsame, hb] at hrow
              rw [Option.some.inj hrow] at hopen
              simp at hopen
        · rfl
  · obtain ⟨hrow, hpair, hopen⟩ := Service.running?_eq_some hs.orderly hrunning
    rw [hclosed]
    show (s.store.attempts.insert a.id (a.expired s.clock)).get? id = _
    rw [Table.get?_insert]
    split
    · rename_i hid
      rw [hid, hrow, Option.map_some, Attempt.sweptBy, hpair, hopen, hoverdue]
      rfl
    · rename_i hid
      cases hb : s.store.attempts.get? id with
      | none => rfl
      | some b =>
          rw [Option.map_some, Attempt.sweptBy, if_neg]
          intro hswept
          simp only [Bool.and_eq_true] at hswept
          exact hid (Service.eq_of_running hs hrunning hb hswept.1.1 hswept.1.2).1

/-- **The next attempt is put in**, and the overdue one closed; nothing else changes. -/
theorem Service.opened_eq (hs : s.store.Sound) :
    s.opened quiz enrollment =
      { s with
        store := { s.store with
          attempts := (s.store.attempts.map fun a => a.sweptBy quiz enrollment s.clock).insert
            (s.nextAttempt quiz enrollment).id (s.nextAttempt quiz enrollment)
          allocated := s.store.allocated + 1 } } := by
  have hswept : s.swept quiz enrollment = { s with store := { s.store with
      attempts := s.store.attempts.map fun a => a.sweptBy quiz enrollment s.clock } } := by
    rw [← Service.attempts_swept hs]
    rcases s.swept_cases quiz enrollment with hsame | ⟨a, -, -, hclosed⟩
    · rw [hsame]
    · rw [hclosed]
      rfl
  rw [Service.opened, hswept]
  rfl

/-- The number after the highest one can be given. -/
theorem Service.isInt32_next
    (hnumbers : ∀ id a, s.store.attempts.get? id = some a → 0 ≤ a.number ∧ a.number < 2147483647) :
    isInt32 (s.latest enrollment.id quiz.id + 1) = true := by
  have hlatest : 0 ≤ s.latest enrollment.id quiz.id ∧
      s.latest enrollment.id quiz.id < 2147483647 := by
    rcases s.latest_eq enrollment.id quiz.id with ⟨id, a, ha, -, hnumber⟩ | ⟨hzero, -⟩
    · rw [← hnumber]
      exact hnumbers id a ha
    · rw [hzero]
      decide
  simp only [isInt32, Bool.and_eq_true, decide_eq_true_eq]
  omega

/-- More attempts are left as long as the highest number is below the most that are allowed. -/
theorem Quiz.isExhausted_eq (quiz : Quiz) (latest : Int) :
    (!quiz.isExhausted latest) = quiz.maxAttempts.all fun most => decide (latest < most) := by
  unfold Quiz.isExhausted
  cases quiz.maxAttempts with
  | none => rfl
  | some most => simp [← decide_not]

/-- **A start follows from the objections** that can be read off the store. -/
theorem Service.follows_start (hs : s.store.Sound) (hpending : s.pendingCollisions = 0)
    (hnumbers : ∀ id a, s.store.attempts.get? id = some a → 0 ≤ a.number ∧ a.number < 2147483647)
    (quizId : Int) (actor : Actor) :
    (s.run [] (Request.start quizId actor).program).2.Follows (s.startObjections quizId actor) := by
  rw [Service.run_start hs]
  refine s.store.follows_admission quizId actor fun quiz enrollment _ hquiz henrollment => ?_
  have hpair : s.store.pair? quizId actor = some (quiz, enrollment) := by
    rw [Store.pair?, hquiz, henrollment]
    rfl
  simp only [hpair, Option.all_some, ← Service.isBusy_eq hs, Store.highest_eq,
    ← Quiz.isExhausted_eq, Service.decideStart, hpending, Service.isInt32_next hnumbers]
  cases s.isBusy quiz enrollment with
  | true => exact .refused .alreadyRunning
  | false =>
      refine .skip ?_
      cases quiz.isExhausted (s.latest enrollment.id quiz.id) with
      | true => exact .refused .exhausted
      | false => exact .skip (.done _)

/-- **Starting an attempt, in all cases.**  Let a service be reached by requests and edits, with no
collisions asked for and all numbers of attempts below the highest that there is.  A start is done
if nothing can be objected to it, and is refused for the first objection otherwise.  When it is done
it is answered with the next attempt of the pair, which is under a new identifier, begins now and
has the number after the highest; that attempt is put in, the overdue one is closed, and nothing
else changes.  The enrollment of the pair is the one of the caller in the course, of which there is
at most one where nobody is enrolled twice. -/
theorem Service.start_decided (hmanaged : s.Managed) (hpending : s.pendingCollisions = 0)
    (hnumbers : ∀ id a, s.store.attempts.get? id = some a → a.number < 2147483647)
    (quizId : Int) (actor : Actor) :
    let objections := s.startObjections quizId actor
    let result := s.run [] (Request.start quizId actor).program
    ((∃ reply, result.2 = .done reply) ↔ ∀ o ∈ objections, o = none) ∧
    (∀ why, result.2 = .refused why ↔ objections.findSome? id = some why) ∧
    (∀ reply, result.2 = .done reply → ∃ stored enrollment opened,
      s.store.quizzes.get? quizId = some stored ∧
      s.store.enrollmentAt? quizId actor = some enrollment ∧
      s.store.attempts.get? opened.id = none ∧
      opened =
        { id := s.store.allocated + 1
          enrollmentId := enrollment.id
          quizId := quizId
          number := s.store.highest enrollment.id quizId + 1
          status := .inProgress
          startedAt := s.clock
          submittedAt := none
          gradedAt := none
          score := none
          maxScore := (Binary64.sum
            ((inPlace Question.place stored.questions).map (·.points))).roundHundredths
          percentage := none
          isPassed := none
          timeTaken := none
          answers := [] } ∧
      reply = .started opened ∧
      result.1 = { s with
        store := { s.store with
          attempts := (s.store.attempts.map fun a => a.sweptBy stored enrollment s.clock).insert
            opened.id opened
          allocated := s.store.allocated + 1 } }) ∧
    (s.store.OnePerCourse → ∀ lesson, s.store.lessonOf? quizId = some lesson →
      (s.store.grants quizId actor = true ↔ s.store.IsEnrolled actor lesson.courseId)) := by
  intro objections result
  obtain ⟨hs, hfiled, hnumbered⟩ := Console.AtRest.reached_of_managed hmanaged
  have hrange : ∀ id a, s.store.attempts.get? id = some a →
      0 ≤ a.number ∧ a.number < 2147483647 := by
    intro id a ha
    obtain ⟨k, hk⟩ := hnumbered a.enrollmentId a.quizId
    have hpositive := (hk.bounds ha (Attempt.isOf_iff.2 ⟨rfl, rfl⟩)).1
    exact ⟨by omega, hnumbers id a ha⟩
  have hfollows : result.2.Follows objections :=
    Service.follows_start hs hpending hrange quizId actor
  refine ⟨hfollows.done_iff, hfollows.refused_iff, fun reply hreply => ?_,
    fun hone lesson hlesson => hone.grants_iff hlesson⟩
  have hrun : result = unlessRefused (s.store.admission quizId actor) s fun (quiz, enrollment) =>
      s.decideStart quiz enrollment mostTries := Service.run_start hs quizId actor
  rw [hrun] at hreply
  obtain ⟨⟨quiz, enrollment⟩, hadmission, hdone⟩ := unlessRefused_eq_done hreply
  obtain ⟨lesson, henters, henrollment, -⟩ := s.store.admission_eq_ok.1 hadmission
  obtain ⟨stored, hstored, rfl⟩ := Option.map_eq_some_iff.1 henters.stored
  have hid : stored.sorted.id = quizId := hfiled quizId stored hstored
  have hat : s.store.enrollmentAt? quizId actor = some enrollment := by
    rw [Store.enrollmentAt?, Store.lessonOf?, henters.stored, Option.bind_some, henters.placed]
    exact henrollment
  have hnew : s.store.attempts.get? (s.nextAttempt stored.sorted enrollment).id = none := by
    rw [Option.eq_none_iff_forall_not_mem]
    intro a ha
    have hle := hs.allocated ha
    have hnext : (s.nextAttempt stored.sorted enrollment).id = s.store.allocated + 1 := rfl
    omega
  refine ⟨stored, enrollment, s.nextAttempt stored.sorted enrollment, hstored, hat, hnew, ?_, ?_⟩
  · rw [← hid, Store.highest_eq]
    rfl
  · obtain ⟨hopened, hafter⟩ := Service.decideStart_eq_done hdone
    refine ⟨hopened, ?_⟩
    rw [hrun, hadmission, unlessRefused_ok, hafter, Service.withPending_of_eq hpending]
    exact Service.opened_eq hs

/-- A student is late with an attempt under a limit of one minute. -/
def lateAttempt : List Command :=
  examination (some 1) ++ [.request (.start 1 learner), .advance 60000000001]

/-- The late attempt is closed by the next start, which an administrator cannot make. -/
theorem Service.start_decided_lateAttempt :
    let s := ((Console.ofService Service.blank).after lateAttempt).service
    s.Managed ∧ s.pendingCollisions = 0 ∧
      (∀ id a, s.store.attempts.get? id = some a → a.number < 2147483647) ∧
      (∃ reply, (s.run [] (Request.start 1 learner).program).2 = .done reply) ∧
      (s.run [] (Request.start 1 ⟨1, .admin⟩).program).2 = .refused .studentsOnly := by
  intro s
  have hmanaged : s.Managed := ⟨Service.blank, lateAttempt, rfl, by decide +kernel, rfl⟩
  have hpending : s.pendingCollisions = 0 := by decide +kernel
  have hvalues : ∀ a ∈ s.store.attempts.values, a.number < 2147483647 := by decide +kernel
  have hnumbers : ∀ id a, s.store.attempts.get? id = some a → a.number < 2147483647 := by
    intro id a ha
    exact hvalues a (Table.mem_values.2 ⟨id, ha⟩)
  have hfree : ∀ o ∈ s.startObjections 1 learner, o = none := by decide +kernel
  have hfirst : (s.startObjections 1 ⟨1, .admin⟩).findSome? id = some .studentsOnly := by
    decide +kernel
  exact ⟨hmanaged, hpending, hnumbers,
    (Service.start_decided hmanaged hpending hnumbers 1 learner).1.2 hfree,
    ((Service.start_decided hmanaged hpending hnumbers 1 ⟨1, .admin⟩).2.1 _).2 hfirst⟩

end Starting

/-! ### Submitting -/

/-- What can be objected to a question: it cannot be graded. -/
def Question.objection? (q : Question) : Option Refusal :=
  match q.check with
  | .ok () => none
  | .error flaw => some (.malformed ⟨q.id, flaw⟩)

/-- What can be objected to the form of answers. -/
def Quiz.answersObjection? (quiz : Quiz) (answers : List SubmittedAnswer) : Option Refusal :=
  match quiz.indexAnswers answers with
  | .ok _ => none
  | .error flaw => some (.submission flaw)

/-- The attempt under an identifier, if it is one of the caller at the quiz. -/
def Store.ownAttempt? (store : Store) (quizId attemptId : Int) (actor : Actor) : Option Attempt :=
  (store.pair? quizId actor).bind fun (quiz, enrollment) =>
    (store.attempts.get? attemptId).filter (·.isOf enrollment.id quiz.id)

/-- **What can be objected to a submission**, in this order: what can be objected to working on the
quiz, that the attempt is not there or of another pair, that it is closed, that the answers do not
have the right form, that the attempt is overdue, and that a question cannot be graded, the first
one first. -/
def Service.submitObjections (s : Service) (quizId attemptId : Int)
    (answers : List SubmittedAnswer) (actor : Actor) : List (Option Refusal) :=
  let quiz? := s.store.quiz? quizId
  let attempt? := s.store.ownAttempt? quizId attemptId actor
  s.store.entryObjections quizId actor ++
    objection attempt?.isSome .noAttempt ::
    objection (attempt?.all (·.isOpen)) .alreadySubmitted ::
    quiz?.bind (·.answersObjection? answers) ::
    objection (quiz?.all fun quiz => attempt?.all fun a =>
      !a.isOverdue quiz.timeLimit s.clock) .tooLate ::
    (quiz?.toList.flatMap (·.questions)).map (·.objection?)

section Submitting

variable {s : Service} {quiz : Quiz} {enrollment : Enrollment}

/-- **Grading follows from what can be objected to the questions.** -/
theorem follows_gradeEach {γ β : Type} (after : γ) {f : List AnswerRecord → γ × Outcome β}
    (index : AnswerIndex) (questions : List Question)
    (h : ∀ records, gradeEach index questions = .ok records → ∃ b, (f records).2 = .done b) :
    (unlessRefused ((gradeEach index questions).mapError Refusal.malformed) after f).2.Follows
      (questions.map (·.objection?)) := by
  induction questions generalizing f with
  | nil =>
      obtain ⟨b, hb⟩ := h [] rfl
      rw [gradeEach, Except.mapError, unlessRefused_ok, hb]
      exact .done b
  | cons q questions ih =>
      rw [List.map_cons, gradeEach, Question.grade, Question.objection?]
      cases hcheck : q.check with
      | error flaw => exact .refused _
      | ok =>
          refine .skip ?_
          have hrest := ih (f := fun records => f (q.record (index.get? q.id) :: records))
            fun records hrecords => h _ (by rw [gradeEach, Question.grade, hcheck, hrecords]; rfl)
          cases hgrade : gradeEach index questions with
          | error question => rwa [hgrade] at hrest
          | ok records => rwa [hgrade] at hrest

/-- **Grading an open attempt follows from the answers, the limit and the questions**, in this
order. -/
theorem Service.follows_decideGrading
    (hplaces : inPlace Question.place quiz.questions = quiz.questions)
    (a : Attempt) (answers : List SubmittedAnswer) (actor : Actor) :
    (s.decideGrading quiz a answers actor).2.Follows
      (quiz.answersObjection? answers :: objection (!a.isOverdue quiz.timeLimit s.clock) .tooLate ::
        quiz.questions.map (·.objection?)) := by
  unfold Service.decideGrading Quiz.answersObjection?
  cases quiz.indexAnswers answers with
  | error flaw => exact .refused _
  | ok index =>
      refine .skip ?_
      cases a.isOverdue quiz.timeLimit s.clock with
      | true => exact .refused .tooLate
      | false =>
          refine .skip ?_
          have hgrading := follows_gradeEach s (f := fun records =>
            (s.credited quiz a (quiz.gradeOf records) actor, Outcome.done (Reply.view
              ((a.graded (quiz.gradeOf records) s.clock).view quiz.showCorrectAnswers))))
            index quiz.questions fun records _ => ⟨_, rfl⟩
          unfold Quiz.grade
          rw [hplaces]
          dsimp only
          cases hgrade : gradeEach index quiz.questions with
          | error question => rwa [hgrade] at hgrading
          | ok records => rwa [hgrade] at hgrading

/-- **A submission follows from the objections** that can be read off the store. -/
theorem Service.follows_submit (hs : s.store.Sound) (quizId attemptId : Int)
    (answers : List SubmittedAnswer) (actor : Actor) :
    (s.run [] (Request.submit quizId attemptId answers actor).program).2.Follows
      (s.submitObjections quizId attemptId answers actor) := by
  rw [Service.run_submit hs]
  refine s.store.follows_admission quizId actor fun quiz enrollment _ hquiz henrollment => ?_
  have hplaces : inPlace Question.place quiz.questions = quiz.questions := by
    obtain ⟨stored, -, rfl⟩ := Option.map_eq_some_iff.1 hquiz
    exact inPlace_inPlace _ _
  have hpair : s.store.ownAttempt? quizId attemptId actor =
      (s.store.attempts.get? attemptId).filter (·.isOf enrollment.id quiz.id) := by
    rw [Store.ownAttempt?, Store.pair?, hquiz, henrollment]
    rfl
  simp only [hpair, hquiz, Option.bind_some, Option.all_some, Option.toList_some,
    List.flatMap_cons, List.flatMap_nil, List.append_nil, Service.decideSubmit]
  cases (s.store.attempts.get? attemptId).filter (·.isOf enrollment.id quiz.id) with
  | none => exact .refused .noAttempt
  | some a =>
      refine .skip ?_
      simp only [Option.all_some]
      cases a.isOpen with
      | false => exact .refused .alreadySubmitted
      | true => exact .skip (Service.follows_decideGrading hplaces a answers actor)

/-- **What a submission comes to**: a refusal that writes nothing, the closing of a late attempt, or
the grading of one. -/
theorem Service.decideSubmit_cases (s : Service) (quiz : Quiz) (enrollment : Enrollment)
    (attemptId : Int) (answers : List SubmittedAnswer) (actor : Actor) :
    (∃ why, why ≠ .tooLate ∧
      s.decideSubmit quiz enrollment attemptId answers actor = (s, .refused why)) ∨
    ∃ a, s.store.attempts.get? attemptId = some a ∧
      (s.decideSubmit quiz enrollment attemptId answers actor =
        (s.puts (a.expired s.clock), .refused .tooLate) ∨
      a.isOpen = true ∧ ∃ index grade, quiz.indexAnswers answers = .ok index ∧
        quiz.grade index = .ok grade ∧
        s.decideSubmit quiz enrollment attemptId answers actor =
          (s.credited quiz a grade actor,
            .done (.view ((a.graded grade s.clock).view quiz.showCorrectAnswers)))) := by
  unfold Service.decideSubmit Service.decideGrading
  cases hfound : (s.store.attempts.get? attemptId).filter (·.isOf enrollment.id quiz.id) with
  | none => exact Or.inl ⟨.noAttempt, by simp, rfl⟩
  | some a =>
      obtain ⟨hrow, -⟩ := Option.filter_eq_some_iff.1 hfound
      dsimp only
      cases hopen : a.isOpen with
      | false => exact Or.inl ⟨.alreadySubmitted, by simp, rfl⟩
      | true =>
          cases hindex : quiz.indexAnswers answers with
          | error flaw => exact Or.inl ⟨.submission flaw, by simp, rfl⟩
          | ok index =>
              dsimp only
              cases hlate : a.isOverdue quiz.timeLimit s.clock with
              | true => exact Or.inr ⟨a, hrow, Or.inl rfl⟩
              | false =>
                  cases hgrade : quiz.grade index with
                  | error question => exact Or.inl ⟨.malformed question, by simp, rfl⟩
                  | ok grade =>
                      exact Or.inr ⟨a, hrow, Or.inr ⟨hopen, index, grade, rfl, hgrade, rfl⟩⟩

/-- Nobody is late who is not let in. -/
theorem Store.admission_ne_tooLate {store : Store} {quizId : Int} {actor : Actor} {why : Refusal}
    (h : store.admission quizId actor = .error why) : why ≠ .tooLate := by
  have hfollows : (unlessRefused (store.admission quizId actor) () fun _ =>
      ((), Outcome.done ())).2.Follows (store.entryObjections quizId actor ++ []) :=
    store.follows_admission quizId actor fun _ _ _ _ _ => .done ()
  rw [h, List.append_nil] at hfollows
  obtain ⟨o, ho, heq⟩ := List.exists_of_findSome?_eq_some
    (show (store.entryObjections quizId actor).findSome? id = some why from hfollows)
  rintro rfl
  simp only [id_eq, Store.entryObjections, List.mem_cons, List.not_mem_nil, or_false] at ho heq
  rcases ho with rfl | rfl | rfl | rfl | rfl <;> simp [objection] at heq

/-- The same, with all that is looked at before. -/
theorem Service.run_submit_cases (hs : s.store.Sound) (quizId attemptId : Int)
    (answers : List SubmittedAnswer) (actor : Actor) :
    let result := s.run [] (Request.submit quizId attemptId answers actor).program
    (∃ why, why ≠ .tooLate ∧ result = (s, .refused why)) ∨
    ∃ a, s.store.attempts.get? attemptId = some a ∧
      (result = (s.puts (a.expired s.clock), .refused .tooLate) ∨
      a.isOpen = true ∧ ∃ stored index grade, s.store.quizzes.get? quizId = some stored ∧
        stored.sorted.indexAnswers answers = .ok index ∧ stored.sorted.grade index = .ok grade ∧
        result = (s.credited stored.sorted a grade actor,
          .done (.view ((a.graded grade s.clock).view stored.showCorrectAnswers)))) := by
  intro result
  have hrun : result = unlessRefused (s.store.admission quizId actor) s fun (quiz, enrollment) =>
      s.decideSubmit quiz enrollment attemptId answers actor :=
    Service.run_submit hs quizId attemptId answers actor
  rw [hrun]
  cases hadmission : s.store.admission quizId actor with
  | error why => exact Or.inl ⟨why, Store.admission_ne_tooLate hadmission, rfl⟩
  | ok entered =>
      obtain ⟨quiz, enrollment⟩ := entered
      obtain ⟨lesson, henters, -⟩ := s.store.admission_eq_ok.1 hadmission
      obtain ⟨stored, hstored, rfl⟩ := Option.map_eq_some_iff.1 henters.stored
      rcases s.decideSubmit_cases stored.sorted enrollment attemptId answers actor with
        hrefused | ⟨a, ha, hlate | ⟨hopen, index, grade, hindex, hgrade, hdone⟩⟩
      · exact Or.inl hrefused
      · exact Or.inr ⟨a, ha, Or.inl hlate⟩
      · exact Or.inr ⟨a, ha, Or.inr ⟨hopen, stored, index, grade, hstored, hindex, hgrade, hdone⟩⟩

/-- **Submitting an attempt, in all cases.**  A submission to a service that requests and edits
reach is done if nothing can be objected to it, and is refused for the first objection otherwise.
Only who is late writes when refused: the attempt is closed as overdue.  When a submission is done
the attempt is put back graded, with the grade that the quiz gives to the answers, and no other
attempt changes; that is what the submission is answered with. -/
theorem Service.submit_decided (hmanaged : s.Managed) (quizId attemptId : Int)
    (answers : List SubmittedAnswer) (actor : Actor) :
    let objections := s.submitObjections quizId attemptId answers actor
    let result := s.run [] (Request.submit quizId attemptId answers actor).program
    ((∃ reply, result.2 = .done reply) ↔ ∀ o ∈ objections, o = none) ∧
    (∀ why, result.2 = .refused why ↔ objections.findSome? id = some why) ∧
    (∀ why, result.2 = .refused why → why ≠ .tooLate → result.1 = s) ∧
    (result.2 = .refused .tooLate → ∃ a, s.store.attempts.get? attemptId = some a ∧
      result.1 = { s with
        store := { s.store with
          attempts := s.store.attempts.insert attemptId (a.expired s.clock) } }) ∧
    (∀ reply, result.2 = .done reply → ∃ stored a index grade final,
      s.store.quizzes.get? quizId = some stored ∧
      s.store.attempts.get? attemptId = some a ∧ a.status = .inProgress ∧
      stored.sorted.indexAnswers answers = .ok index ∧ stored.sorted.grade index = .ok grade ∧
      final = { a with
        status := .graded
        submittedAt := some s.clock
        gradedAt := some s.clock
        score := some grade.score
        maxScore := grade.maxScore
        percentage := some grade.percentage
        isPassed := some grade.isPassed
        timeTaken := some (max ((s.clock.since a.startedAt).tdiv nanosPerSecond) 0)
        answers := grade.answers } ∧
      reply = .view (final.view stored.showCorrectAnswers) ∧
      result.1.store.attempts = s.store.attempts.insert attemptId final) ∧
    (s.store.OnePerCourse → ∀ lesson, s.store.lessonOf? quizId = some lesson →
      (s.store.grants quizId actor = true ↔ s.store.IsEnrolled actor lesson.courseId)) := by
  intro objections result
  obtain ⟨hs, -⟩ := Console.AtRest.of_managed hmanaged
  have hfollows : result.2.Follows objections :=
    Service.follows_submit hs quizId attemptId answers actor
  have hputs : ∀ {a b : Attempt}, s.store.attempts.get? attemptId = some a → b.id = a.id →
      s.puts b = { s with
        store := { s.store with attempts := s.store.attempts.insert attemptId b } } := by
    intro a b ha hb
    rw [← hs.orderly.own ha, ← hb]
    rfl
  have hcases := Service.run_submit_cases hs quizId attemptId answers actor
  refine ⟨hfollows.done_iff, hfollows.refused_iff, fun why hwhy hinTime => ?_, fun hlate => ?_,
    fun reply hreply => ?_, fun hone lesson hlesson => hone.grants_iff hlesson⟩
  · rcases hcases with ⟨_, -, hresult⟩ | ⟨a, -, hresult | ⟨-, _, _, _, -, -, -, hresult⟩⟩
    · exact congrArg Prod.fst hresult
    · have hwhy' : Outcome.refused .tooLate = Outcome.refused why :=
        (congrArg Prod.snd hresult).symm.trans hwhy
      exact absurd (Outcome.refused.inj hwhy').symm hinTime
    · have hdone := (congrArg Prod.snd hresult).symm.trans hwhy
      simp at hdone
  · rcases hcases with ⟨why, hinTime, hresult⟩ | ⟨a, ha, hresult | ⟨-, _, _, _, -, -, -, hresult⟩⟩
    · exact absurd (Outcome.refused.inj ((congrArg Prod.snd hresult).symm.trans hlate)) hinTime
    · exact ⟨a, ha, (congrArg Prod.fst hresult).trans (hputs ha rfl)⟩
    · have hdone := (congrArg Prod.snd hresult).symm.trans hlate
      simp at hdone
  · rcases hcases with ⟨why, -, hresult⟩ | ⟨a, ha, hresult |
      ⟨hopen, stored, index, grade, hstored, hindex, hgrade, hresult⟩⟩
    · have hrefused := (congrArg Prod.snd hresult).symm.trans hreply
      simp at hrefused
    · have hrefused := (congrArg Prod.snd hresult).symm.trans hreply
      simp at hrefused
    · have hprogress : a.status = .inProgress := by simpa [Attempt.isOpen] using hopen
      refine ⟨stored, a, index, grade, a.graded grade s.clock, hstored, ha, hprogress,
        hindex, hgrade, rfl, ?_, ?_⟩
      · exact (Outcome.done.inj ((congrArg Prod.snd hresult).symm.trans hreply)).symm
      · have hrows : (s.credited stored.sorted a grade actor).store.attempts =
            (s.puts (a.graded grade s.clock)).store.attempts :=
          (Service.credits_credited s stored.sorted a grade actor).attempts
        have hafter : result.1 = s.credited stored.sorted a grade actor := congrArg Prod.fst hresult
        rw [hafter, hrows, hputs (b := a.graded grade s.clock) ha rfl]

/-- The late attempt is closed by the submission of a choice, but not by that of nothing, for the
form of answers is looked at before the time. -/
theorem Service.submit_decided_lateAttempt :
    let s := ((Console.ofService Service.blank).after lateAttempt).service
    let late := Request.submit 1 1 [⟨1, some "a", none⟩] learner
    let empty := Request.submit 1 1 [⟨1, none, none⟩] learner
    s.Managed ∧ (s.run [] late.program).2 = .refused .tooLate ∧
      (∃ a, s.store.attempts.get? 1 = some a ∧
        (s.run [] late.program).1.store.attempts = s.store.attempts.insert 1 (a.expired s.clock)) ∧
      (s.run [] empty.program).2 = .refused (.submission (.answer 1 .noChoice)) ∧
      (s.run [] empty.program).1 = s := by
  intro s late empty
  have hmanaged : s.Managed := ⟨Service.blank, lateAttempt, rfl, by decide +kernel, rfl⟩
  have hlate : (s.submitObjections 1 1 [⟨1, some "a", none⟩] learner).findSome? id =
      some .tooLate := by
    decide +kernel
  have hempty : (s.submitObjections 1 1 [⟨1, none, none⟩] learner).findSome? id =
      some (.submission (.answer 1 .noChoice)) := by decide +kernel
  obtain ⟨-, hfirst, -, hcloses, -⟩ :=
    Service.submit_decided hmanaged 1 1 [⟨1, some "a", none⟩] learner
  obtain ⟨-, hfirst', hsame, -⟩ := Service.submit_decided hmanaged 1 1 [⟨1, none, none⟩] learner
  have hrefused : (s.run [] late.program).2 = .refused .tooLate := (hfirst _).2 hlate
  have hrefused' := (hfirst' _).2 hempty
  obtain ⟨a, ha, hafter⟩ := hcloses hrefused
  exact ⟨hmanaged, hrefused, ⟨a, ha, congrArg (·.store.attempts) hafter⟩, hrefused',
    hsame _ hrefused' (by simp)⟩

end Submitting

end QuizAttempts
