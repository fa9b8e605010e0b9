/-
**How requests are decided.**

A request looks at one thing after another and is refused for the first that is not as it has to be.
What it finds is a function of the service, and so is what it comes to: who is refused leaves the
service as it was, and who is not closes the overdue attempt, opens the next one, grades one, or
shows what there is.  Here the six requests are written down as these functions, and the programs
are shown to compute them.  Whatever is to be known of one request run by itself can then be read
off a function without operations, transactions and locks.

The attempts have to be as requests leave them; otherwise the store might stop a request halfway.

Main definitions:

* `Program.Decides` — a program that only looks, with what it decides;
* `Store.entry`, `Store.access`, `Store.admission`, `Store.reviewing`, `Store.sight`,
  `Store.publication` — **what is looked at, and in which order**;
* `Service.swept` — a service with the overdue attempt of a caller closed;
* `Service.decideStart`, `Service.decideSubmit`, `Service.decideList`, `Service.decideGet`,
  `Service.decideTake`, `Service.decidePublish` — **what requests come to**.

Main results:

* `Program.Decides.andThen` — going on after looking;
* `Service.run_start`, `Service.run_submit`, `Service.run_list`, `Service.run_get`,
  `Service.run_take`, `Service.run_publish` — **the programs compute that**;
* `Service.run_publish_cases` — who publishes changes nothing, or publishes a draft.
-/
import QuizAttempts.Proofs.Moves

set_option autoImplicit false

namespace QuizAttempts

open Program

/-! ### Looking -/

/-- A condition that has to hold. -/
def demand (condition : Bool) (why : Refusal) : Except Refusal Unit :=
  if condition then .ok () else .error why

/-- Something that has to be there. -/
def demandSome {α : Type} (a : Option α) (why : Refusal) : Except Refusal α :=
  match a with
  | some a => .ok a
  | none => .error why

/-- What is demanded may be changed before or after. -/
theorem demandSome_map {α β : Type} (f : α → β) (a : Option α) (why : Refusal) :
    demandSome (a.map f) why = f <$> demandSome a why := by
  cases a <;> rfl

/-- The outcome of what was decided. -/
def Outcome.ofExcept {α : Type} : Except Refusal α → Outcome α
  | .ok a => .done a
  | .error why => .refused why

/-- Goes on unless a refusal was decided, which leaves everything as it is. -/
def unlessRefused {α β γ : Type} (x : Except Refusal α) (s : γ) (f : α → γ × Outcome β) :
    γ × Outcome β :=
  match x with
  | .ok a => f a
  | .error why => (s, .refused why)

@[simp] theorem unlessRefused_ok {α β γ : Type} (a : α) (s : γ) (f : α → γ × Outcome β) :
    unlessRefused (.ok a) s f = f a := rfl

@[simp] theorem unlessRefused_error {α β γ : Type} (why : Refusal) (s : γ)
    (f : α → γ × Outcome β) : unlessRefused (.error why) s f = (s, .refused why) := rfl

@[simp] theorem unlessRefused_pure {α β γ : Type} (a : α) (s : γ) (f : α → γ × Outcome β) :
    unlessRefused (pure a) s f = f a := rfl

/-- What is decided in two parts is gone on from part by part. -/
@[simp] theorem unlessRefused_bind {α β γ δ : Type} (x : Except Refusal α)
    (g : α → Except Refusal β) (s : γ) (f : β → γ × Outcome δ) :
    unlessRefused (x >>= g) s f = unlessRefused x s fun a => unlessRefused (g a) s f := by
  cases x <;> rfl

/-- **A program is decided by looking**: it leaves everything as it is. -/
def Program.Decides {α : Type} (others : List Int) (s : Session) (p : Program α)
    (x : Except Refusal α) : Prop :=
  p.exec others s = (s, .ofExcept x)

namespace Program.Decides

variable {α β : Type} {others : List Int} {s : Session}

theorem done (a : α) : Decides others s (.done a) (.ok a) := rfl

theorem ensure (condition : Bool) (why : Refusal) :
    Decides others s (ensure condition why) (demand condition why) := by
  cases condition <;> rfl

theorem found (a : Option α) (why : Refusal) :
    Decides others s (found a why) (demandSome a why) := by
  cases a <;> rfl

/-- **Going on after looking.** -/
theorem andThen {p : Program α} {x : Except Refusal α} (h : Decides others s p x)
    (f : α → Program β) :
    (p >>= f).exec others s = unlessRefused x s fun a => (f a).exec others s := by
  rw [Program.exec_bind, h]
  cases x <;> rfl

theorem bind {p : Program α} {x : Except Refusal α} (h : Decides others s p x)
    {f : α → Program β} {g : α → Except Refusal β} (hf : ∀ a, Decides others s (f a) (g a)) :
    Decides others s (p >>= f) (x >>= g) := by
  rw [Decides, h.andThen]
  cases x with
  | ok a => exact hf a
  | error why => rfl

/-- Going on after looking, in a program of its own. -/
theorem run {s : Service} {p : Program α} {x : Except Refusal α}
    (h : Decides others ⟨s, Transaction.fresh⟩ p x) (f : α → Program β) :
    s.run others (p >>= f) = unlessRefused x s fun a => s.run others (f a) := by
  rw [Service.run, h.andThen]
  cases x <;> rfl

/-- Looking once, and asking for what is to be there. -/
theorem once {op : Op} {reply : op.Reply} (hperform : s.perform others op = some (s, reply))
    {f : op.Reply → Program β} {x : Except Refusal β} (hf : Decides others s (f reply) x) :
    Decides others s (.step op .done >>= f) x := by
  rw [Decides, step_bind, Program.exec, hperform]
  exact hf

end Program.Decides

section Looking

variable {others : List Int} {s : Session}

theorem decides_loadQuiz (id : Int) :
    Decides others s (loadQuiz id) (demandSome (s.service.store.quiz? id) .noQuiz) :=
  .once rfl (.found _ _)

theorem decides_loadSettings (id : Int) :
    Decides others s (loadSettings id) (demandSome (s.service.store.quizSettings? id) .noQuiz) :=
  .once rfl (.found _ _)

theorem decides_loadLesson (quiz : Quiz) :
    Decides others s (loadLesson quiz)
      (demandSome (s.service.store.lesson? quiz.lessonId) .noLesson) :=
  .once rfl (.found _ _)

theorem decides_loadEnrollment (actor : Actor) (lesson : Lesson) :
    Decides others s (loadEnrollment actor lesson)
      (demandSome (s.service.store.enrollmentOf? actor.userId lesson.courseId) .notEnrolled) :=
  .once rfl (.found _ _)

end Looking

/-! ### What is looked at -/

namespace Store

/-- **Working on a quiz**: who asks has to be a student, and the quiz there, published, and its
lesson there. -/
def entry (store : Store) (quizId : Int) (actor : Actor) : Except Refusal (Quiz × Lesson) := do
  demand actor.isStudent .studentsOnly
  let quiz ← demandSome (store.quiz? quizId) .noQuiz
  demand quiz.isPublished .unpublished
  let lesson ← demandSome (store.lesson? quiz.lessonId) .noLesson
  return (quiz, lesson)

/-- The enrollment of a caller, which has to grant access. -/
def access (store : Store) (actor : Actor) (lesson : Lesson) : Except Refusal Enrollment :=
  demandSome ((store.enrollmentOf? actor.userId lesson.courseId).filter (·.grantsAccess))
    .notEnrolled

/-- Working on a quiz under the lock of an enrollment. -/
def admission (store : Store) (quizId : Int) (actor : Actor) :
    Except Refusal (Quiz × Enrollment) := do
  let (quiz, lesson) ← store.entry quizId actor
  let enrollment ← store.access actor lesson
  return (quiz, enrollment)

/-- **Looking at attempts**: who asks has to be a student who is enrolled, and the quiz and its
lesson there. -/
def reviewing (store : Store) (quizId : Int) (actor : Actor) :
    Except Refusal (Quiz × Enrollment) := do
  demand actor.isStudent .studentsOnly
  let quiz ← demandSome (store.quizSettings? quizId) .noQuiz
  let lesson ← demandSome (store.lesson? quiz.lessonId) .noLesson
  let enrollment ← demandSome (store.enrollmentOf? actor.userId lesson.courseId) .notEnrolled
  return (quiz, enrollment)

/-- What is asked of a caller who wants to take a quiz and does not manage its course. -/
def taking (store : Store) (quiz : Quiz) (lesson : Lesson) (actor : Actor) :
    Except Refusal Unit := do
  demand actor.isStudent .studentsOnly
  demand quiz.isPublished .unpublished
  let enrollment ← demandSome (store.enrollmentOf? actor.userId lesson.courseId) .notEnrolled
  demand enrollment.grantsAccess .notEnrolled

/-- What is asked of a caller who wants to take a quiz: nothing of who manages its course. -/
def viewing (store : Store) (quiz : Quiz) (lesson : Lesson) (actor : Actor) :
    Except Refusal Unit :=
  if actor.manages lesson.instructorId then .ok () else store.taking quiz lesson actor

/-- **Taking a quiz**: the quiz and its lesson have to be there, and the caller manages the course
or may take the quiz. -/
def sight (store : Store) (quizId : Int) (actor : Actor) : Except Refusal Quiz := do
  let quiz ← demandSome (store.quiz? quizId) .noQuiz
  let lesson ← demandSome (store.lesson? quiz.lessonId) .noLesson
  store.viewing quiz lesson actor
  return quiz

/-- **Publishing a quiz**: the quiz and its lesson have to be there, and the caller manages the
course. -/
def publication (store : Store) (quizId : Int) (actor : Actor) : Except Refusal Quiz := do
  let quiz ← demandSome (store.quiz? quizId) .noQuiz
  let lesson ← demandSome (store.lesson? quiz.lessonId) .noLesson
  demand (actor.manages lesson.instructorId) .managersOnly
  return quiz

end Store

/-! ### Who is not refused -/

theorem demand_eq_ok {condition : Bool} {why : Refusal} {u : Unit} :
    demand condition why = .ok u ↔ condition = true := by
  cases condition <;> simp [demand]

theorem demandSome_eq_ok {α : Type} {a? : Option α} {why : Refusal} {a : α} :
    demandSome a? why = .ok a ↔ a? = some a := by
  cases a? <;> simp [demandSome]

theorem bind_eq_ok {α β : Type} {x : Except Refusal α} {f : α → Except Refusal β} {b : β} :
    (x >>= f) = .ok b ↔ ∃ a, x = .ok a ∧ f a = .ok b := by
  cases x with
  | error why =>
      exact ⟨fun h => by simp [Bind.bind, Except.bind] at h, fun ⟨a, h, _⟩ => by simp at h⟩
  | ok a => exact ⟨fun h => ⟨a, rfl, h⟩, fun ⟨a', ha, h⟩ => Except.ok.inj ha ▸ h⟩

theorem pure_eq_ok {α : Type} {a b : α} : (pure a : Except Refusal α) = .ok b ↔ a = b :=
  Except.ok.injEq a b ▸ Iff.rfl

namespace Store

variable {quizId : Int} {actor : Actor} {quiz : Quiz} {lesson : Lesson} {enrollment : Enrollment}

theorem entry_eq_ok (store : Store) :
    store.entry quizId actor = .ok (quiz, lesson) ↔ store.Enters quizId actor quiz lesson := by
  simp only [entry, bind_eq_ok, demand_eq_ok, demandSome_eq_ok, pure_eq_ok, Prod.mk.injEq]
  constructor
  · rintro ⟨-, hstudent, quiz, hquiz, -, hpublished, lesson, hlesson, rfl, rfl⟩
    exact ⟨hstudent, hquiz, hpublished, hlesson⟩
  · rintro ⟨hstudent, hquiz, hpublished, hlesson⟩
    exact ⟨(), hstudent, quiz, hquiz, (), hpublished, lesson, hlesson, rfl, rfl⟩

theorem access_eq_ok (store : Store) :
    store.access actor lesson = .ok enrollment ↔
      store.enrollmentOf? actor.userId lesson.courseId = some enrollment ∧
        enrollment.grantsAccess = true := by
  rw [access, demandSome_eq_ok, Option.filter_eq_some_iff]

/-- **Who works on a quiz** enters it and has an enrollment that grants access. -/
theorem admission_eq_ok (store : Store) :
    store.admission quizId actor = .ok (quiz, enrollment) ↔
      ∃ lesson, store.Enters quizId actor quiz lesson ∧
        store.enrollmentOf? actor.userId lesson.courseId = some enrollment ∧
        enrollment.grantsAccess = true := by
  simp only [admission, bind_eq_ok, pure_eq_ok, Prod.exists, Prod.mk.injEq, entry_eq_ok,
    access_eq_ok]
  constructor
  · rintro ⟨quiz, lesson, henters, enrollment, haccess, rfl, rfl⟩
    exact ⟨lesson, henters, haccess⟩
  · rintro ⟨lesson, henters, haccess⟩
    exact ⟨quiz, lesson, henters, enrollment, haccess, rfl, rfl⟩

/-- **Who looks at attempts** is a student who is enrolled, whatever the status. -/
theorem reviewing_eq_ok (store : Store) :
    store.reviewing quizId actor = .ok (quiz, enrollment) ↔
      actor.isStudent = true ∧ store.quizSettings? quizId = some quiz ∧
        ∃ lesson, store.lesson? quiz.lessonId = some lesson ∧
          store.enrollmentOf? actor.userId lesson.courseId = some enrollment := by
  simp only [reviewing, bind_eq_ok, demand_eq_ok, demandSome_eq_ok, pure_eq_ok, Prod.mk.injEq]
  constructor
  · rintro ⟨-, hstudent, quiz, hquiz, lesson, hlesson, enrollment, hfound, rfl, rfl⟩
    exact ⟨hstudent, hquiz, lesson, hlesson, hfound⟩
  · rintro ⟨hstudent, hquiz, lesson, hlesson, hfound⟩
    exact ⟨(), hstudent, quiz, hquiz, lesson, hlesson, enrollment, hfound, rfl, rfl⟩

/-- Who takes a quiz takes one that is there. -/
theorem quiz?_of_sight {store : Store} (h : store.sight quizId actor = .ok quiz) :
    store.quiz? quizId = some quiz := by
  simp only [sight, bind_eq_ok, demandSome_eq_ok, pure_eq_ok] at h
  obtain ⟨quiz, hquiz, lesson, -, -, -, rfl⟩ := h
  exact hquiz

/-- **Who publishes a quiz** manages its course. -/
theorem publication_eq_ok (store : Store) :
    store.publication quizId actor = .ok quiz ↔ store.quiz? quizId = some quiz ∧
      ∃ lesson, store.lesson? quiz.lessonId = some lesson ∧
        actor.manages lesson.instructorId = true := by
  simp only [publication, bind_eq_ok, demand_eq_ok, demandSome_eq_ok, pure_eq_ok]
  constructor
  · rintro ⟨quiz, hquiz, lesson, hlesson, -, hmanages, rfl⟩
    exact ⟨hquiz, lesson, hlesson, hmanages⟩
  · rintro ⟨hquiz, lesson, hlesson, hmanages⟩
    exact ⟨quiz, hquiz, lesson, hlesson, (), hmanages, rfl⟩

end Store

section Looking

variable {others : List Int} {s : Session}

theorem decides_enter (quizId : Int) (actor : Actor) :
    Decides others s (enter quizId actor) (s.service.store.entry quizId actor) := by
  refine (Decides.ensure _ _).bind fun _ => ?_
  rw [loadPublished, Program.bind_assoc]
  refine (decides_loadQuiz quizId).bind fun quiz => ?_
  rw [Program.bind_assoc]
  refine (Decides.ensure _ _).bind fun _ => ?_
  exact (decides_loadLesson quiz).bind fun lesson => .done (quiz, lesson)

theorem decides_requireAccess (quiz : Quiz) (lesson : Lesson) (actor : Actor) :
    Decides others s (requireAccess quiz lesson actor)
      (s.service.store.viewing quiz lesson actor) := by
  unfold requireAccess Store.viewing
  split
  · exact .done ()
  · refine (Decides.ensure _ _).bind fun _ => (Decides.ensure _ _).bind fun _ => ?_
    exact (decides_loadEnrollment actor lesson).bind fun enrollment => .ensure _ _

end Looking

/-! ### Locks -/

/-- The transaction of a caller who has asked for the lock of an enrollment. -/
def Store.locking (store : Store) (actor : Actor) (lesson : Lesson) : Transaction :=
  ⟨((store.enrollmentOf? actor.userId lesson.courseId).map (·.id)).toList, Table.empty⟩

/-- With nobody else at work the lock is there to be taken. -/
theorem lock?_fresh (store : Store) (actor : Actor) (lesson : Lesson) :
    Transaction.fresh.lock? store [] actor.userId lesson.courseId =
      some (store.locking actor lesson, store.enrollmentOf? actor.userId lesson.courseId) := by
  unfold Transaction.lock? Store.locking
  cases store.enrollmentOf? actor.userId lesson.courseId <;> rfl

theorem exec_lockAccess_bind {β : Type} (s : Service) (actor : Actor) (lesson : Lesson)
    (f : Enrollment → Program β) :
    (lockAccess actor lesson >>= f).exec [] ⟨s, Transaction.fresh⟩ =
      unlessRefused (s.store.access actor lesson) ⟨s, s.store.locking actor lesson⟩
        fun enrollment => (f enrollment).exec [] ⟨s, s.store.locking actor lesson⟩ := by
  simp only [lockAccess, lockEnrollment, step_bind, done_bind, Program.exec, Session.perform,
    lock?_fresh, Option.map_some]
  exact (Decides.found _ _).andThen f

/-! ### Closing what is overdue -/

/-- The services that are the one at hand. -/
theorem alike_of_eq {s : Service} (hs : s.store.Sound) (e : Int) :
    ∀ t, t = s → s.Alike e t ∧ t.store.Sound := by
  rintro t rfl
  exact ⟨.refl e t, hs⟩

/-- **The service with a row under its identifier.** -/
def Service.puts (s : Service) (a : Attempt) : Service :=
  { s with store := { s.store with attempts := s.store.attempts.insert a.id a } }

/-- What is written when one more row is staged. -/
theorem Service.write_stage (s : Service) (tx : Transaction) (a : Attempt) :
    s.write (tx.stage a).staged = (s.write tx.staged).puts a := by
  have hmerged : (tx.stage a).merged s.store = (tx.merged s.store).insert a.id a :=
    Transaction.merged_stage a
  unfold Service.write Service.puts
  rw [show s.store.attempts.overlay (tx.stage a).staged = _ from hmerged]
  rfl

theorem Service.write_of_unstaged (s : Service) {tx : Transaction}
    (htx : tx.staged = Table.empty) : s.write tx.staged = s := by
  rw [htx]
  rfl

/-- The attempt of an enrollment at a quiz that is in progress and overdue. -/
def Service.overdue? (s : Service) (quiz : Quiz) (enrollment : Enrollment) : Option Attempt :=
  (s.running? enrollment.id quiz.id).filter (·.isOverdue quiz.timeLimit s.clock)

/-- **The service with the overdue attempt of a pair closed**, if there is one. -/
def Service.swept (s : Service) (quiz : Quiz) (enrollment : Enrollment) : Service :=
  match s.overdue? quiz enrollment with
  | some a => s.puts (a.expired s.clock)
  | none => s

/-- An attempt of the pair is in progress and not overdue. -/
def Service.isBusy (s : Service) (quiz : Quiz) (enrollment : Enrollment) : Bool :=
  (s.running? enrollment.id quiz.id).any fun a => !a.isOverdue quiz.timeLimit s.clock

section Closing

variable {s : Service} {quiz : Quiz} {enrollment : Enrollment}

theorem Service.swept_of_none (h : s.running? enrollment.id quiz.id = none) :
    s.swept quiz enrollment = s := by
  simp [swept, overdue?, h]

theorem Service.swept_of_inTime {a : Attempt} (h : s.running? enrollment.id quiz.id = some a)
    (hinTime : a.isOverdue quiz.timeLimit s.clock = false) : s.swept quiz enrollment = s := by
  simp [swept, overdue?, h, hinTime, Option.filter]

theorem Service.swept_of_overdue {a : Attempt} (h : s.running? enrollment.id quiz.id = some a)
    (hoverdue : a.isOverdue quiz.timeLimit s.clock = true) :
    s.swept quiz enrollment = s.puts (a.expired s.clock) := by
  simp [swept, overdue?, h, hoverdue, Option.filter]

/-- **What has been swept**: nothing, or the running attempt, which was overdue. -/
theorem Service.swept_cases (s : Service) (quiz : Quiz) (enrollment : Enrollment) :
    s.swept quiz enrollment = s ∨
    ∃ a, s.running? enrollment.id quiz.id = some a ∧ a.isOverdue quiz.timeLimit s.clock = true ∧
      s.swept quiz enrollment = s.puts (a.expired s.clock) := by
  cases hrunning : s.running? enrollment.id quiz.id with
  | none => exact Or.inl (swept_of_none hrunning)
  | some a =>
      cases hoverdue : a.isOverdue quiz.timeLimit s.clock with
      | false => exact Or.inl (swept_of_inTime hrunning hoverdue)
      | true => exact Or.inr ⟨a, rfl, hoverdue, swept_of_overdue hrunning hoverdue⟩

/-- Sweeping writes attempts only. -/
theorem Service.store_swept (s : Service) (quiz : Quiz) (enrollment : Enrollment) :
    (s.swept quiz enrollment).store =
      { s.store with attempts := (s.swept quiz enrollment).store.attempts } := by
  unfold swept
  split <;> rfl

/-- Without a limit nothing is overdue. -/
theorem Service.swept_of_unlimited (h : quiz.timeLimit = none) : s.swept quiz enrollment = s := by
  cases hrunning : s.running? enrollment.id quiz.id with
  | none => exact swept_of_none hrunning
  | some a => exact swept_of_inTime hrunning (by rw [h]; rfl)

theorem exec_closeLocked (hs : s.store.Sound) {tx : Transaction} (htx : tx.staged = Table.empty)
    (others : List Int) :
    ∃ after, (closeLocked quiz enrollment).exec others ⟨s, tx⟩ =
      (⟨s.swept quiz enrollment, after⟩, .done ()) := by
  rcases looks_closeLocked hs (alike_of_eq hs enrollment.id) htx quiz with
    ⟨hinTime, hlooks⟩ | ⟨a, hrunning, hoverdue, hready, hlooks⟩
  · have hsame : s.swept quiz enrollment = s := by
      cases hrunning : s.running? enrollment.id quiz.id with
      | none => exact Service.swept_of_none hrunning
      | some a => exact Service.swept_of_inTime hrunning (hinTime a hrunning)
    rw [hlooks.exec rfl, hsame]
    exact ⟨Transaction.fresh, rfl⟩
  · rw [hlooks.exec rfl, exec_commitOrRefuse hs (hready s rfl), s.write_stage,
      s.write_of_unstaged htx, Service.swept_of_overdue hrunning hoverdue]
    exact ⟨_, rfl⟩

/-- **The overdue attempt is closed** before attempts are looked at. -/
theorem exec_closeIfOverdue (hs : s.store.Sound) (quiz : Quiz) {lesson : Lesson} {actor : Actor}
    (henrollment : s.store.enrollmentOf? actor.userId lesson.courseId = some enrollment) :
    ∃ tx, (closeIfOverdue quiz lesson actor).exec [] ⟨s, Transaction.fresh⟩ =
      (⟨s.swept quiz enrollment, tx⟩, .done ()) := by
  unfold closeIfOverdue
  split
  · rename_i hlimit
    rw [Service.swept_of_unlimited (Option.isNone_iff_eq_none.1 hlimit)]
    exact ⟨_, rfl⟩
  · simp only [lockEnrollment, step_bind, done_bind, Program.exec, Session.perform, lock?_fresh,
      Option.map_some, henrollment]
    exact exec_closeLocked hs rfl []

/-- **Starting comes to a running attempt, or to where the next one is opened**, with the overdue
one closed. -/
theorem exec_startLocked (hs : s.store.Sound) (quiz : Quiz) (enrollment : Enrollment)
    {tx : Transaction} (htx : tx.staged = Table.empty) (others : List Int) :
    (s.isBusy quiz enrollment = true ∧ (startLocked quiz enrollment).exec others ⟨s, tx⟩ =
      (⟨s, tx⟩, .refused .alreadyRunning)) ∨
    s.isBusy quiz enrollment = false ∧ ∃ after, after.Ready s.store enrollment.id quiz.id ∧
      s.write after.staged = s.swept quiz enrollment ∧
      (startLocked quiz enrollment).exec others ⟨s, tx⟩ =
        (openAfter quiz enrollment s.clock (s.latest enrollment.id quiz.id)).exec others
          ⟨s, after⟩ := by
  rcases looks_startLocked hs (alike_of_eq hs enrollment.id) htx quiz with
    ⟨a, hrunning, hinTime, hlooks⟩ | ⟨after, hclosed, hsame, hready, hlooks⟩
  · refine Or.inl ⟨?_, hlooks.exec rfl others⟩
    simp [Service.isBusy, hrunning, hinTime]
  · refine Or.inr ⟨?_, after, hready s rfl, ?_, hlooks.exec rfl others⟩
    · cases hrunning : s.running? enrollment.id quiz.id with
      | none => simp [Service.isBusy, hrunning]
      | some a => simp [Service.isBusy, hrunning, (hclosed a hrunning).1]
    · cases hrunning : s.running? enrollment.id quiz.id with
      | none => rw [hsame hrunning, s.write_of_unstaged htx, Service.swept_of_none hrunning]
      | some a =>
          obtain ⟨hoverdue, rfl⟩ := hclosed a hrunning
          rw [s.write_stage, s.write_of_unstaged htx,
            Service.swept_of_overdue hrunning hoverdue]

end Closing

/-! ### Starting -/

/-- The service with a number of inserts that will collide. -/
def Service.withPending (s : Service) (n : Nat) : Service := { s with pendingCollisions := n }

theorem Service.withPending_of_eq {s : Service} {n : Nat} (h : s.pendingCollisions = n) :
    s.withPending n = s := by
  rw [← h]
  rfl

/-- Sweeping does not look at the collisions that were asked for. -/
theorem Service.swept_withPending (s : Service) (n : Nat) (quiz : Quiz) (enrollment : Enrollment) :
    (s.withPending n).swept quiz enrollment = (s.swept quiz enrollment).withPending n := by
  have hsame : (s.withPending n).overdue? quiz enrollment = s.overdue? quiz enrollment := rfl
  unfold swept
  rw [hsame]
  cases s.overdue? quiz enrollment <;> rfl

/-- **The service with the next attempt opened**, and the overdue one closed. -/
def Service.opened (s : Service) (quiz : Quiz) (enrollment : Enrollment) : Service :=
  (s.swept quiz enrollment).allocate.puts (s.nextAttempt quiz enrollment)

/-- **The next attempt is opened** in the service that was swept. -/
theorem Service.opens_opened {s : Service} (hs : s.store.Sound) {quizzes : Table Quiz} {quiz : Quiz}
    {enrollment : Enrollment} (hfree : s.isBusy quiz enrollment = false)
    (hquiz : quiz.IsStored quizzes)
    (hleft : quiz.isExhausted (s.latest enrollment.id quiz.id) = false)
    (hrange : isInt32 (s.latest enrollment.id quiz.id + 1) = true) :
    (s.swept quiz enrollment).store.Opens quizzes (s.opened quiz enrollment).store
      (s.nextAttempt quiz enrollment) := by
  have hunstaged : Transaction.fresh.staged = Table.empty := rfl
  rcases exec_startLocked hs quiz enrollment hunstaged [] with
    ⟨hbusy, -⟩ | ⟨-, after, hready, hswept, -⟩
  · simp [hfree] at hbusy
  · have hopens := opens_nextAttempt hquiz hready hleft hrange
    have hopened : s.allocate.write (after.stage (s.nextAttempt quiz enrollment)).staged =
        s.opened quiz enrollment := by
      rw [Service.write_stage, Service.opened, ← hswept]
      rfl
    rwa [hswept, hopened] at hopens

/-- **What a start comes to** under the lock of an enrollment, when it is tried some times. -/
def Service.decideStart (s : Service) (quiz : Quiz) (enrollment : Enrollment) (tries : Nat) :
    Service × Outcome Reply :=
  if s.isBusy quiz enrollment then (s, .refused .alreadyRunning)
  else if quiz.isExhausted (s.latest enrollment.id quiz.id) then
    (s.swept quiz enrollment, .refused .exhausted)
  else if isInt32 (s.latest enrollment.id quiz.id + 1) then
    if s.pendingCollisions < tries then
      ((s.withPending 0).opened quiz enrollment, .done (.started (s.nextAttempt quiz enrollment)))
    else (s.withPending (s.pendingCollisions - tries), .refused .outrun)
  else (s, .overflow)

/-- A start that is done opens the next attempt, and is answered with it. -/
theorem Service.decideStart_eq_done {s : Service} {quiz : Quiz} {enrollment : Enrollment}
    {tries : Nat} {reply : Reply} (h : (s.decideStart quiz enrollment tries).2 = .done reply) :
    reply = .started (s.nextAttempt quiz enrollment) ∧
      (s.decideStart quiz enrollment tries).1 = (s.withPending 0).opened quiz enrollment := by
  unfold decideStart at h ⊢
  split at h
  · simp at h
  · rename_i hfree
    split at h
    · simp at h
    · rename_i hleft
      split at h
      · rename_i hrange
        split at h
        · rename_i htries
          rw [if_neg hfree, if_neg hleft, if_pos hrange, if_pos htries]
          exact ⟨(Outcome.done.inj h).symm, rfl⟩
        · simp at h
      · simp at h

/-- One try at starting, under the lock. -/
theorem exec_tryStart {s : Service} (hs : s.store.Sound) (quiz : Quiz) {lesson : Lesson}
    {actor : Actor} {enrollment : Enrollment}
    (haccess : s.store.access actor lesson = .ok enrollment) :
    (s.isBusy quiz enrollment = true ∧ ∃ tx,
      (tryStart quiz lesson actor).exec [] ⟨s, Transaction.fresh⟩ =
        (⟨s, tx⟩, .refused .alreadyRunning)) ∨
    s.isBusy quiz enrollment = false ∧ ∃ after, after.Ready s.store enrollment.id quiz.id ∧
      s.write after.staged = s.swept quiz enrollment ∧
      (tryStart quiz lesson actor).exec [] ⟨s, Transaction.fresh⟩ =
        (openAfter quiz enrollment s.clock (s.latest enrollment.id quiz.id)).exec
          [] ⟨s, after⟩ := by
  rw [tryStart, exec_lockAccess_bind, haccess, unlessRefused_ok]
  have hunstaged : (s.store.locking actor lesson).staged = Table.empty := rfl
  rcases exec_startLocked hs quiz enrollment hunstaged [] with
    ⟨hbusy, hexec⟩ | ⟨hfree, after, hready, hswept, hexec⟩
  · exact Or.inl ⟨hbusy, _, hexec⟩
  · exact Or.inr ⟨hfree, after, hready, hswept, hexec⟩

/-- Where the next attempt may be opened, a start succeeds unless more collisions were asked for
than there are tries. -/
theorem exec_startWithin_free {s : Service} (hs : s.store.Sound) {quiz : Quiz} {lesson : Lesson}
    {actor : Actor} {enrollment : Enrollment}
    (haccess : s.store.access actor lesson = .ok enrollment)
    (hfree : s.isBusy quiz enrollment = false)
    (hleft : quiz.isExhausted (s.latest enrollment.id quiz.id) = false)
    (hrange : isInt32 (s.latest enrollment.id quiz.id + 1) = true) (tries : Nat) :
    (startWithin quiz lesson actor tries).exec [] ⟨s, Transaction.fresh⟩ =
      if s.pendingCollisions < tries then
        (⟨(s.withPending 0).opened quiz enrollment, Transaction.fresh⟩,
          .done (s.nextAttempt quiz enrollment))
      else (⟨s.withPending (s.pendingCollisions - tries), Transaction.fresh⟩,
        .refused .outrun) := by
  induction tries generalizing s with
  | zero => rfl
  | succ tries ih =>
      rcases exec_tryStart hs quiz haccess with
        ⟨hbusy, -⟩ | ⟨-, after, hready, hswept, hexec⟩
      · simp [hfree] at hbusy
      · rw [startWithin, Program.exec_bind, hexec, exec_openAfter hs hready, hleft, hrange]
        cases hpending : s.pendingCollisions with
        | zero =>
            have hopened : s.allocate.write (after.stage (s.nextAttempt quiz enrollment)).staged =
                s.opened quiz enrollment := by
              rw [Service.write_stage, Service.opened, ← hswept]
              rfl
            rw [if_pos (Nat.succ_pos tries), Service.withPending_of_eq hpending, ← hopened]
            rfl
        | succ n =>
            -- the next try begins from the lock, in a transaction of its own
            have hnext : (startWithin quiz lesson actor tries).exec []
                ⟨s.withPending n, Transaction.fresh⟩ = _ :=
              ih (s := s.withPending n) hs haccess hfree hleft hrange
            simp only [Nat.add_lt_add_iff_right, Nat.add_sub_add_right]
            exact hnext

/-- **Starting, however often it is tried, comes to what is decided.** -/
theorem exec_startWithin {s : Service} (hs : s.store.Sound) (quiz : Quiz) (lesson : Lesson)
    (actor : Actor) (tries : Nat) :
    ∃ tx, (startWithin quiz lesson actor (tries + 1) >>= fun a => .done (.started a)).exec []
        ⟨s, Transaction.fresh⟩ =
      let r := unlessRefused (s.store.access actor lesson) s
        fun enrollment => s.decideStart quiz enrollment (tries + 1)
      (⟨r.1, tx⟩, r.2) := by
  rw [Program.exec_bind]
  cases haccess : s.store.access actor lesson with
  | error why =>
      rw [startWithin, Program.exec_bind, tryStart, exec_lockAccess_bind, haccess]
      exact ⟨_, rfl⟩
  | ok enrollment =>
      rw [unlessRefused_ok, Service.decideStart]
      rcases exec_tryStart hs quiz haccess with
        ⟨hbusy, tx, hexec⟩ | ⟨hfree, after, hready, hswept, hexec⟩
      · rw [startWithin, Program.exec_bind, hexec, hbusy]
        exact ⟨tx, rfl⟩
      · rw [hfree]
        cases hleft : quiz.isExhausted (s.latest enrollment.id quiz.id) with
        | true =>
            rw [startWithin, Program.exec_bind, hexec, exec_openAfter hs hready, hleft, ← hswept]
            exact ⟨_, rfl⟩
        | false =>
            cases hrange : isInt32 (s.latest enrollment.id quiz.id + 1) with
            | false =>
                rw [startWithin, Program.exec_bind, hexec, exec_openAfter hs hready, hleft, hrange]
                exact ⟨after, rfl⟩
            | true =>
                rw [exec_startWithin_free hs haccess hfree hleft hrange]
                by_cases htries : s.pendingCollisions < tries + 1
                · simp only [if_pos htries]
                  exact ⟨_, rfl⟩
                · simp only [if_neg htries]
                  exact ⟨_, rfl⟩

theorem Service.run_start {s : Service} (hs : s.store.Sound) (quizId : Int) (actor : Actor) :
    s.run [] (Request.start quizId actor).program =
      unlessRefused (s.store.admission quizId actor) s fun (quiz, enrollment) =>
        s.decideStart quiz enrollment mostTries := by
  have hprogram : (Request.start quizId actor).program =
      enter quizId actor >>= fun entered =>
        startWithin entered.1 entered.2 actor mostTries >>= fun a => .done (.started a) := by
    simp only [Request.program, startAttempt, Program.bind_assoc]
    rfl
  rw [hprogram, (decides_enter quizId actor).run, Store.admission, unlessRefused_bind]
  refine congrArg (unlessRefused _ s) (funext fun entered => ?_)
  obtain ⟨tx, hexec⟩ := exec_startWithin hs entered.1 entered.2 actor 1
  rw [Service.run, mostTries, hexec, unlessRefused_bind]
  rfl

/-! ### Submitting -/

/-- **The service with an attempt graded**, and those who listen told. -/
def Service.credited (s : Service) (quiz : Quiz) (a : Attempt) (grade : Grade) (actor : Actor) :
    Service :=
  (s.puts (a.graded grade s.clock)).tell (quiz.passedLessons a grade)
    [a.submissionEvent grade s.clock actor]

/-- **What grading an open attempt comes to.** -/
def Service.decideGrading (s : Service) (quiz : Quiz) (a : Attempt) (answers : List SubmittedAnswer)
    (actor : Actor) : Service × Outcome Reply :=
  match quiz.indexAnswers answers with
  | .error flaw => (s, .refused (.submission flaw))
  | .ok index =>
      if a.isOverdue quiz.timeLimit s.clock then (s.puts (a.expired s.clock), .refused .tooLate)
      else
        match quiz.grade index with
        | .error question => (s, .refused (.malformed question))
        | .ok grade => (s.credited quiz a grade actor,
            .done (.view ((a.graded grade s.clock).view quiz.showCorrectAnswers)))

/-- **What a submission comes to** under the lock of an enrollment. -/
def Service.decideSubmit (s : Service) (quiz : Quiz) (enrollment : Enrollment) (attemptId : Int)
    (answers : List SubmittedAnswer) (actor : Actor) : Service × Outcome Reply :=
  match (s.store.attempts.get? attemptId).filter (·.isOf enrollment.id quiz.id) with
  | none => (s, .refused .noAttempt)
  | some a =>
      if a.isOpen then s.decideGrading quiz a answers actor else (s, .refused .alreadySubmitted)

section Submitting

variable {s : Service} {quiz : Quiz} {enrollment : Enrollment} {tx : Transaction}

/-- What is put in place of an open attempt is committed. -/
theorem exec_commit_closing (hs : s.store.Sound) (htx : tx.staged = Table.empty) {final : Attempt}
    {e q : Int} (hready : (tx.stage final).Ready s.store e q) (others : List Int) :
    commitOrRefuse.exec others ⟨s, tx.stage final⟩ =
      (⟨s.puts final, Transaction.fresh⟩, .done ()) := by
  rw [exec_commitOrRefuse hs hready, s.write_stage, s.write_of_unstaged htx]

theorem exec_gradeOpen (hs : s.store.Sound) (htx : tx.staged = Table.empty) {a : Attempt}
    (ha : s.store.attempts.get? a.id = some a) (hpair : a.isOf enrollment.id quiz.id = true)
    (hopen : a.isOpen = true) (answers : List SubmittedAnswer) (actor : Actor)
    (others : List Int) :
    ∃ after,
      (gradeOpen quiz a answers actor >>= fun view => .done (.view view)).exec others ⟨s, tx⟩ =
      (⟨(s.decideGrading quiz a answers actor).1, after⟩,
        (s.decideGrading quiz a answers actor).2) := by
  unfold gradeOpen Service.decideGrading
  cases quiz.indexAnswers answers with
  | error flaw => exact ⟨tx, rfl⟩
  | ok index =>
      simp only [orRefuse, done_bind, now, step_bind, Program.exec, Session.perform]
      cases a.isOverdue quiz.timeLimit s.clock with
      | true =>
          obtain ⟨hclose, hready⟩ :=
            looks_closeOverdue (alike_of_eq hs enrollment.id) htx ha hpair hopen s.clock
          rw [if_pos rfl, if_pos rfl, Program.bind_assoc, (hclose.bind _).exec rfl, done_bind,
            Program.bind_assoc, Program.exec_bind, exec_commit_closing hs htx (hready s rfl)]
          exact ⟨_, rfl⟩
      | false =>
          rw [if_neg Bool.false_ne_true, if_neg Bool.false_ne_true]
          cases quiz.grade index with
          | error question => exact ⟨tx, rfl⟩
          | ok grade =>
              obtain ⟨hsave, hready⟩ := looks_save (alike_of_eq hs enrollment.id) htx ha hpair hopen
                (Attempt.closes_graded a grade s.clock)
              simp only [done_bind, Program.bind_assoc]
              rw [(hsave.bind _).exec rfl, done_bind, ensure_true, done_bind, Program.exec_bind,
                exec_commit_closing hs htx (hready s rfl)]
              simp only [Outcome.andThen, Program.exec_bind, exec_afterGrading]
              exact ⟨_, rfl⟩

theorem exec_submitLocked (hs : s.store.Sound) (quiz : Quiz) (enrollment : Enrollment)
    (htx : tx.staged = Table.empty) (attemptId : Int) (answers : List SubmittedAnswer)
    (actor : Actor) (others : List Int) :
    ∃ after, (submitLocked quiz enrollment attemptId answers actor >>=
        fun view => .done (.view view)).exec others ⟨s, tx⟩ =
      (⟨(s.decideSubmit quiz enrollment attemptId answers actor).1, after⟩,
        (s.decideSubmit quiz enrollment attemptId answers actor).2) := by
  unfold submitLocked Service.decideSubmit
  simp only [lockAttempt, step_bind, done_bind, Program.bind_assoc, Program.exec, Session.perform,
    Transaction.attempt?_of_unstaged hs.orderly htx]
  cases hfound : (s.store.attempts.get? attemptId).filter (·.isOf enrollment.id quiz.id) with
  | none => exact ⟨tx, rfl⟩
  | some a =>
      obtain ⟨ha, hpair⟩ := Option.filter_eq_some_iff.1 hfound
      simp only [found_some, done_bind]
      cases hopen : a.isOpen with
      | false => exact ⟨tx, rfl⟩
      | true =>
          have hrow : s.store.attempts.get? a.id = some a := by rw [hs.orderly.own ha, ha]
          exact exec_gradeOpen hs htx hrow hpair hopen answers actor others

end Submitting

theorem Service.run_submit {s : Service} (hs : s.store.Sound) (quizId attemptId : Int)
    (answers : List SubmittedAnswer) (actor : Actor) :
    s.run [] (Request.submit quizId attemptId answers actor).program =
      unlessRefused (s.store.admission quizId actor) s fun (quiz, enrollment) =>
        s.decideSubmit quiz enrollment attemptId answers actor := by
  have hprogram : (Request.submit quizId attemptId answers actor).program =
      enter quizId actor >>= fun entered => lockAccess actor entered.2 >>= fun enrollment =>
        submitLocked entered.1 enrollment attemptId answers actor >>= fun view =>
          .done (.view view) := by
    simp only [Request.program, submitAttempt, Program.bind_assoc]
    rfl
  rw [hprogram, (decides_enter quizId actor).run, Store.admission, unlessRefused_bind]
  refine congrArg (unlessRefused _ s) (funext fun entered => ?_)
  rw [Service.run, exec_lockAccess_bind, unlessRefused_bind]
  cases s.store.access actor entered.2 with
  | error why => rfl
  | ok enrollment =>
      have hunstaged : (s.store.locking actor entered.2).staged = Table.empty := rfl
      obtain ⟨after, hexec⟩ :=
        exec_submitLocked hs entered.1 enrollment hunstaged attemptId answers actor []
      rw [unlessRefused_ok, hexec]
      rfl

/-! ### Looking at attempts -/

/-- **What listing attempts comes to.** -/
def Service.decideList (s : Service) (quiz : Quiz) (enrollment : Enrollment) :
    Service × Outcome Reply :=
  let after := s.swept quiz enrollment
  (after, .done (.views ((after.store.attemptsOf enrollment.id quiz.id).map
    (·.view quiz.showCorrectAnswers))))

/-- **What showing an attempt comes to.** -/
def Service.decideGet (s : Service) (quiz : Quiz) (enrollment : Enrollment) (attemptId : Int) :
    Service × Outcome Reply :=
  let after := s.swept quiz enrollment
  match (after.store.attempts.get? attemptId).filter (·.isOf enrollment.id quiz.id) with
  | none => (after, .refused .noAttempt)
  | some a => (after, .done (.view (a.view quiz.showCorrectAnswers)))

/-- **Who looks at attempts finds the overdue one closed.** -/
theorem run_review_bind {s : Service} (hs : s.store.Sound) {β : Type} (quizId : Int) (actor : Actor)
    (f : Quiz × Enrollment → Program β) {g : Quiz → Enrollment → Service × Outcome β}
    (hf : ∀ quiz enrollment tx, ∃ after, (f (quiz, enrollment)).exec []
        ⟨s.swept quiz enrollment, tx⟩ = (⟨(g quiz enrollment).1, after⟩, (g quiz enrollment).2)) :
    s.run [] (review quizId actor >>= f) =
      unlessRefused (s.store.reviewing quizId actor) s fun (quiz, enrollment) =>
        g quiz enrollment := by
  have hreview : review quizId actor >>= f =
      requireStudent actor >>= fun _ => loadSettings quizId >>= fun quiz =>
        loadLesson quiz >>= fun lesson => loadEnrollment actor lesson >>= fun enrollment =>
          closeIfOverdue quiz lesson actor >>= fun _ => f (quiz, enrollment) := by
    simp only [review, Program.bind_assoc]
    rfl
  rw [hreview, Store.reviewing, requireStudent, (Decides.ensure _ _).run, unlessRefused_bind]
  refine congrArg (unlessRefused _ s) (funext fun _ => ?_)
  rw [(decides_loadSettings quizId).run, unlessRefused_bind]
  refine congrArg (unlessRefused _ s) (funext fun quiz => ?_)
  rw [(decides_loadLesson quiz).run, unlessRefused_bind]
  refine congrArg (unlessRefused _ s) (funext fun lesson => ?_)
  rw [(decides_loadEnrollment actor lesson).run, unlessRefused_bind]
  cases henrollment : s.store.enrollmentOf? actor.userId lesson.courseId with
  | none => rfl
  | some enrollment =>
      obtain ⟨tx, hclose⟩ := exec_closeIfOverdue hs quiz henrollment
      obtain ⟨after, hrest⟩ := hf quiz enrollment tx
      simp only [demandSome, unlessRefused_ok, unlessRefused_pure, Service.run, Program.exec_bind,
        hclose, Outcome.andThen, hrest]

theorem Service.run_list {s : Service} (hs : s.store.Sound) (quizId : Int) (actor : Actor) :
    s.run [] (Request.list quizId actor).program =
      unlessRefused (s.store.reviewing quizId actor) s fun (quiz, enrollment) =>
        s.decideList quiz enrollment := by
  have hprogram : (Request.list quizId actor).program = review quizId actor >>= fun found =>
      Program.attempts found.2.id found.1.id >>= fun rows =>
        .done (.views (rows.map (·.view found.1.showCorrectAnswers))) := by
    simp only [Request.program, listAttempts, Program.bind_assoc]
    rfl
  rw [hprogram]
  exact run_review_bind hs quizId actor _ (g := s.decideList) fun quiz enrollment tx => ⟨tx, rfl⟩

theorem Service.run_get {s : Service} (hs : s.store.Sound) (quizId attemptId : Int)
    (actor : Actor) :
    s.run [] (Request.get quizId attemptId actor).program =
      unlessRefused (s.store.reviewing quizId actor) s fun (quiz, enrollment) =>
        s.decideGet quiz enrollment attemptId := by
  have hprogram : (Request.get quizId attemptId actor).program =
      review quizId actor >>= fun found =>
      Program.attempt attemptId >>= fun row =>
        Program.found (row.filter (·.isOf found.2.id found.1.id)) .noAttempt >>= fun row =>
          .done (.view (row.view found.1.showCorrectAnswers)) := by
    simp only [Request.program, getAttempt, Program.bind_assoc]
    rfl
  rw [hprogram]
  refine run_review_bind hs quizId actor _
    (g := fun quiz enrollment => s.decideGet quiz enrollment attemptId)
    fun quiz enrollment tx => ⟨tx, ?_⟩
  simp only [Program.attempt, step_bind, done_bind, Program.exec, Session.perform, decideGet]
  cases ((s.swept quiz enrollment).store.attempts.get? attemptId).filter
    (·.isOf enrollment.id quiz.id) <;> rfl

/-! ### Taking -/

/-- The payload that is served for a quiz: the one that is kept, while it is fresh. -/
def Service.served (s : Service) (quizId : Int) (quiz : Quiz) : TakePayload :=
  match s.cache.fresh? quizId s.instant with
  | some entry => entry.payload
  | none => quiz.takePayload

/-- The service that keeps the payload that was served. -/
def Service.keeping (s : Service) (quizId : Int) (quiz : Quiz) : Service :=
  match s.cache.fresh? quizId s.instant with
  | some _ => s
  | none => { s with cache := s.cache.insert quizId quiz.takePayload s.instant }

/-- What is kept changes nothing in the store. -/
theorem Service.store_keeping (s : Service) (quizId : Int) (quiz : Quiz) :
    (s.keeping quizId quiz).store = s.store := by
  unfold keeping
  split <;> rfl

/-- **What taking a quiz comes to.** -/
def Service.decideTake (s : Service) (quizId : Int) (shuffle : Shuffle) (quiz : Quiz) :
    Service × Outcome Reply :=
  (s.keeping quizId quiz, .done (.payload ((s.served quizId quiz).render shuffle
    quiz.shuffleQuestions quiz.shuffleOptions)))

theorem exec_loadPayload {s : Service} {tx : Transaction} {quizId : Int} {quiz : Quiz}
    (hquiz : s.store.quiz? quizId = some quiz) (others : List Int) :
    (loadPayload quizId).exec others ⟨s, tx⟩ =
      (⟨s.keeping quizId quiz, tx⟩, .done (s.served quizId quiz)) := by
  unfold Service.keeping Service.served
  cases hfresh : s.cache.fresh? quizId s.instant with
  | some entry =>
      simp only [loadPayload, cached, step_bind, done_bind, Program.exec, Session.perform,
        Session.cached, TakeCache.get, hfresh]
      rfl
  | none =>
      simp only [loadPayload, loadQuiz, Program.quiz, remember, cached, step_bind, done_bind,
        Program.exec, Session.perform, Session.cached, TakeCache.get, hfresh, Session.withCache,
        hquiz, found_some, TakeCache.insert_evict]
      rfl

/-- **Taking, whoever else is at work.** -/
theorem Service.run_take (s : Service) (others : List Int) (quizId : Int) (actor : Actor)
    (shuffle : Shuffle) :
    s.run others (Request.take quizId actor shuffle).program =
      unlessRefused (s.store.sight quizId actor) s (s.decideTake quizId shuffle) := by
  have hprogram : (Request.take quizId actor shuffle).program =
      loadSettings quizId >>= fun quiz => loadLesson quiz >>= fun lesson =>
        requireAccess quiz lesson actor >>= fun _ => loadPayload quizId >>= fun payload =>
          .done (.payload (payload.render shuffle quiz.shuffleQuestions quiz.shuffleOptions)) := by
    simp only [Request.program, takeQuiz, Program.bind_assoc]
    rfl
  rw [hprogram, (decides_loadSettings quizId).run, Store.sight, unlessRefused_bind]
  cases hstored : s.store.quizzes.get? quizId with
  | none => simp [Store.quizSettings?, Store.quiz?, hstored, demandSome]
  | some stored =>
      have hquiz : s.store.quiz? quizId = some stored.sorted := by simp [Store.quiz?, hstored]
      rw [hquiz, Store.quizSettings?, hstored]
      show s.run others (loadLesson stored.settings >>= _) = _
      rw [(decides_loadLesson stored.settings).run, demandSome, unlessRefused_ok,
        unlessRefused_bind]
      refine congrArg (unlessRefused _ s) (funext fun lesson => ?_)
      rw [(decides_requireAccess stored.settings lesson actor).run, unlessRefused_bind]
      refine congrArg (unlessRefused (s.store.viewing stored.settings lesson actor) s)
        (funext fun _ => ?_)
      rw [Service.run, Program.exec_bind, exec_loadPayload hquiz]
      rfl

/-! ### Publishing -/

/-- **The service with a quiz published**, and its payload thrown away. -/
def Service.flipped (s : Service) (quizId : Int) (stored : Quiz) : Service :=
  { s with
    store := { s.store with quizzes := s.store.quizzes.insert quizId stored.published }
    cache := s.cache.invalidate quizId }

/-- **What publishing a quiz comes to.** -/
def Service.decidePublish (s : Service) (quizId : Int) (quiz : Quiz) : Service × Outcome Reply :=
  if quiz.isPublished then (s, .done (.published quizId))
  else
    match quiz.checkPublishable, s.store.quizzes.get? quizId with
    | .error flaw, _ => (s, .refused (.publishing flaw))
    | .ok (), none => (s, .refused .noQuiz)
    | .ok (), some stored => (s.flipped quizId stored, .done (.published quizId))

/-- **Publishing, whoever else is at work.** -/
theorem Service.run_publish (s : Service) (others : List Int) (quizId : Int) (actor : Actor) :
    s.run others (Request.publish quizId actor).program =
      unlessRefused (s.store.publication quizId actor) s (s.decidePublish quizId) := by
  have hprogram : (Request.publish quizId actor).program =
      loadQuiz quizId >>= fun quiz => loadLesson quiz >>= fun lesson =>
        ensure (actor.manages lesson.instructorId) .managersOnly >>= fun _ =>
          (if quiz.isPublished then pure () else do
            orRefuse quiz.checkPublishable .publishing
            ensure (← publish quizId) .noQuiz
            forget quizId) >>= fun _ => .done (.published quizId) := by
    simp only [Request.program, publishQuiz, Program.bind_assoc]
    rfl
  rw [hprogram, (decides_loadQuiz quizId).run, Store.publication, unlessRefused_bind]
  refine congrArg (unlessRefused _ s) (funext fun quiz => ?_)
  rw [(decides_loadLesson quiz).run, unlessRefused_bind]
  refine congrArg (unlessRefused _ s) (funext fun lesson => ?_)
  rw [(Decides.ensure _ _).run, unlessRefused_bind]
  refine congrArg (unlessRefused _ s) (funext fun _ => ?_)
  rw [unlessRefused_pure, decidePublish]
  cases quiz.isPublished with
  | true => rfl
  | false =>
      cases quiz.checkPublishable with
      | error flaw => rfl
      | ok =>
          cases hstored : s.store.quizzes.get? quizId with
          | none => simp [Service.run, orRefuse, Program.publish, Program.exec, Session.perform,
              Session.publish, Store.publish?, hstored]
          | some stored => simp [Service.run, orRefuse, Program.publish, forget, Program.exec,
              Session.perform, Session.publish, Store.publish?, hstored, flipped,
              Session.withStore, Session.withCache]

/-- **A request to publish changes nothing, or it publishes a draft** that was found fit. -/
theorem Service.run_publish_cases (s : Service) (others : List Int) (quizId : Int) (actor : Actor) :
    (s.run others (Request.publish quizId actor).program).1 = s ∨
    ∃ stored, s.store.quizzes.get? quizId = some stored ∧ stored.isPublished = false ∧
      stored.sorted.checkPublishable = .ok () ∧
      (s.run others (Request.publish quizId actor).program).1 = s.flipped quizId stored := by
  rw [run_publish]
  cases hpublication : s.store.publication quizId actor with
  | error why => exact Or.inl rfl
  | ok quiz =>
      obtain ⟨hquiz, -⟩ := s.store.publication_eq_ok.1 hpublication
      obtain ⟨stored, hstored, rfl⟩ := Option.map_eq_some_iff.1 hquiz
      simp only [unlessRefused_ok, decidePublish, hstored]
      split
      · exact Or.inl rfl
      · rename_i hdraft
        cases hchecked : stored.sorted.checkPublishable with
        | error flaw => exact Or.inl rfl
        | ok => exact Or.inr ⟨stored, rfl, Bool.not_eq_true _ ▸ hdraft, hchecked, rfl⟩

end QuizAttempts
