/-
**Which operations requests are made of.**

A request about attempts works on attempts: it publishes nothing and keeps no payload, so the
quizzes and the cache are as they were afterwards, whoever else is at work and however it ends. 
Those that write load the quiz with its questions once, before anything else, and everything after
that goes by operations that show no key.

A lock that somebody else holds is all that can make a difference between a program that runs beside
others and one that runs alone: if it does not have to wait, it does the same.

Beside requests, only the edits change what is offered, and no command touches the cache.

Main definitions:

* `Program.Uses` — programs whose operations are all of some kind;
* `Op.isPlain`, `Op.leavesOffer` — operations that show no key, and those that publish nothing;
* `Request.isOnAttempts` — starts, submissions and looks at attempts;
* `Command.isEdit` — commands that put something in, or mark a quiz as published;
* `Service.SameOffer` — **what is offered for taking is as it was**.

Main results:

* `Program.Uses.exec_sameOffer`, `Service.run_sameOffer` — **requests about attempts leave what is
  offered alone**;
* `Program.exec_of_not_blocked` — **whoever need not wait runs as if alone**;
* `Console.run_sameOffer` — and so do commands that make no request and edit nothing.
-/
import QuizAttempts.Lifecycle
import QuizAttempts.Proofs.History
import QuizAttempts.Proofs.Orderly

set_option autoImplicit false

namespace QuizAttempts

open Program

/-! ### Operations -/

/-- The operation shows no key, publishes nothing and leaves the cache alone. -/
def Op.isPlain : Op → Bool
  | .quiz _ | .publish _ | .cached _ | .remember _ _ | .forget _ => false
  | _ => true

/-- The operation publishes nothing and leaves the cache alone. -/
def Op.leavesOffer : Op → Bool
  | .publish _ | .cached _ | .remember _ _ | .forget _ => false
  | _ => true

theorem Op.leavesOffer_of_isPlain {op : Op} (h : op.isPlain = true) : op.leavesOffer = true := by
  cases op <;> first | rfl | simp [isPlain] at h

/-- **All operations of a program are of an allowed kind**, whatever it is replied. -/
inductive Program.Uses {α : Type} (allowed : Op → Bool) : Program α → Prop
  | done (a : α) : Uses allowed (.done a)
  | refuse (why : Refusal) : Uses allowed (.refuse why)
  | overflow : Uses allowed .overflow
  | step {op : Op} {next : op.Reply → Program α} (hop : allowed op = true)
      (h : ∀ reply, Uses allowed (next reply)) : Uses allowed (.step op next)

namespace Program.Uses

variable {α β : Type} {allowed more : Op → Bool}

theorem bind {p : Program α} (h : p.Uses allowed) {f : α → Program β}
    (hf : ∀ a, (f a).Uses allowed) : (p >>= f).Uses allowed := by
  induction h with
  | done a => exact hf a
  | refuse why => exact .refuse why
  | overflow => exact .overflow
  | step hop _ ih => exact .step hop ih

theorem once {op : Op} (hop : allowed op = true) {f : op.Reply → Program β}
    (hf : ∀ reply, (f reply).Uses allowed) : (Program.step op .done >>= f).Uses allowed :=
  .step hop hf

theorem ensure (condition : Bool) (why : Refusal) : (ensure condition why).Uses allowed := by
  cases condition with
  | true => exact .done ()
  | false => exact .refuse why

theorem found (a : Option α) (why : Refusal) : (found a why).Uses allowed := by
  cases a with
  | some a => exact .done a
  | none => exact .refuse why

theorem loadQuiz (h : ∀ id, allowed (.quiz id) = true) (id : Int) :
    (loadQuiz id).Uses allowed := .once (h id) fun _ => .found _ _

theorem loadSettings (h : ∀ id, allowed (.quizSettings id) = true) (id : Int) :
    (loadSettings id).Uses allowed := .once (h id) fun _ => .found _ _

theorem loadLesson (h : ∀ id, allowed (.lesson id) = true) (quiz : Quiz) :
    (loadLesson quiz).Uses allowed := .once (h _) fun _ => .found _ _

theorem loadEnrollment (h : ∀ student course, allowed (.enrollment student course) = true)
    (actor : Actor) (lesson : Lesson) : (loadEnrollment actor lesson).Uses allowed :=
  .once (h _ _) fun _ => .found _ _

theorem mono (hmore : ∀ {op}, allowed op = true → more op = true) {p : Program α}
    (h : p.Uses allowed) : p.Uses more := by
  induction h with
  | done a => exact .done a
  | refuse why => exact .refuse why
  | overflow => exact .overflow
  | step hop _ ih => exact .step (hmore hop) ih

/-- Every operation is of some kind. -/
theorem any (p : Program α) : p.Uses fun _ => true := by
  induction p with
  | done a => exact .done a
  | refuse why => exact .refuse why
  | overflow => exact .overflow
  | step op next ih => exact .step rfl ih

theorem orRefuse {ε : Type} (a : Except ε α) (why : ε → Refusal) :
    (orRefuse a why).Uses allowed := by
  cases a with
  | ok a => exact .done a
  | error e => exact .refuse _

end Program.Uses

/-! ### The parts of requests -/

theorem uses_lockAccess (actor : Actor) (lesson : Lesson) :
    (lockAccess actor lesson).Uses Op.isPlain :=
  .once rfl fun _ => .found _ _

theorem uses_commitOrRefuse : commitOrRefuse.Uses Op.isPlain :=
  .once rfl fun _ => .orRefuse _ _

theorem uses_closeOverdue (a : Attempt) (present : Timestamp) :
    (closeOverdue a present).Uses Op.isPlain :=
  .once rfl fun _ => .ensure _ _

theorem uses_openAfter (quiz : Quiz) (enrollment : Enrollment) (present : Timestamp)
    (latest : Int) : (openAfter quiz enrollment present latest).Uses Op.isPlain := by
  unfold openAfter
  split
  · refine .once rfl fun committed => ?_
    cases committed with
    | ok => exact .refuse _
    | error taken => exact .done none
  · split
    · refine .once rfl fun inserted => ?_
      cases inserted with
      | ok a =>
          refine .once rfl fun committed => ?_
          cases committed with
          | ok => exact .done (some a)
          | error taken => exact .done none
      | error taken => exact .once rfl fun _ => .done none
    · exact .overflow

theorem uses_startLocked (quiz : Quiz) (enrollment : Enrollment) :
    (startLocked quiz enrollment).Uses Op.isPlain := by
  have hopen : ∀ present, (openNext quiz enrollment present).Uses Op.isPlain := fun present =>
    .once rfl fun latest => uses_openAfter quiz enrollment present latest
  refine .once rfl fun present => .once rfl fun running => ?_
  cases running with
  | none => exact hopen present
  | some a =>
      exact (Uses.ensure _ _).bind fun _ => (uses_closeOverdue a present).bind fun _ =>
        hopen present

theorem uses_startWithin (quiz : Quiz) (lesson : Lesson) (actor : Actor) (tries : Nat) :
    (startWithin quiz lesson actor tries).Uses Op.isPlain := by
  induction tries with
  | zero => exact .refuse _
  | succ tries ih =>
      have htry : (tryStart quiz lesson actor).Uses Op.isPlain :=
        (uses_lockAccess actor lesson).bind fun enrollment => uses_startLocked quiz enrollment
      refine htry.bind fun started => ?_
      cases started with
      | some a => exact .done a
      | none => exact ih

theorem uses_afterGrading (quiz : Quiz) (a : Attempt) (grade : Grade) (present : Timestamp)
    (actor : Actor) : (afterGrading quiz a grade present actor).Uses Op.isPlain := by
  have hannounce : ∀ event, (announce event).Uses Op.isPlain := fun event => .step rfl .done
  unfold afterGrading
  cases grade.isPassed with
  | true => exact .once rfl fun _ => hannounce _
  | false => exact hannounce _

theorem uses_submitLocked (quiz : Quiz) (enrollment : Enrollment) (attemptId : Int)
    (answers : List SubmittedAnswer) (actor : Actor) :
    (submitLocked quiz enrollment attemptId answers actor).Uses Op.isPlain := by
  refine .once rfl fun row => (Uses.found _ _).bind fun a => (Uses.ensure _ _).bind fun _ => ?_
  refine (Uses.orRefuse _ _).bind fun index => .once rfl fun present => ?_
  split
  · exact (uses_closeOverdue a present).bind fun _ => uses_commitOrRefuse.bind fun _ => .refuse _
  · refine (Uses.orRefuse _ _).bind fun grade => .once rfl fun _ =>
      (Uses.ensure _ _).bind fun _ => ?_
    exact uses_commitOrRefuse.bind fun _ =>
      (uses_afterGrading quiz a grade present actor).bind fun _ => .done _

theorem uses_closeIfOverdue (quiz : Quiz) (lesson : Lesson) (actor : Actor) :
    (closeIfOverdue quiz lesson actor).Uses Op.isPlain := by
  unfold closeIfOverdue
  split
  · exact .done ()
  · refine .once rfl fun locked => ?_
    cases locked with
    | none => exact .done ()
    | some enrollment =>
        refine .once rfl fun present => .once rfl fun running => ?_
        cases running with
        | none => exact .once rfl fun _ => .done ()
        | some a =>
            dsimp only
            split
            · exact (uses_closeOverdue a present).bind fun _ => uses_commitOrRefuse
            · exact .once rfl fun _ => .done ()

theorem uses_review (quizId : Int) (actor : Actor) : (review quizId actor).Uses Op.isPlain :=
  (Uses.ensure _ _).bind fun _ => (Uses.loadSettings (fun _ => rfl) quizId).bind fun quiz =>
    (Uses.loadLesson (fun _ => rfl) quiz).bind fun lesson =>
      (Uses.loadEnrollment (fun _ _ => rfl) actor lesson).bind fun _ =>
        (uses_closeIfOverdue quiz lesson actor).bind fun _ => .done _

theorem uses_enter (quizId : Int) (actor : Actor) :
    (enter quizId actor).Uses Op.leavesOffer :=
  (Uses.ensure _ _).bind fun _ =>
    ((Uses.loadQuiz (fun _ => rfl) quizId).bind fun _ =>
      (Uses.ensure _ _).bind fun _ => .done _).bind
      fun quiz => (Uses.loadLesson (fun _ => rfl) quiz).bind fun _ => .done _

/-! ### Requests about attempts -/

/-- A request that starts an attempt or is about attempts. -/
def Request.isOnAttempts : Request → Bool
  | .start _ _ | .submit _ _ _ _ | .list _ _ | .get _ _ _ => true
  | _ => false

theorem uses_list (quizId : Int) (actor : Actor) :
    (Request.list quizId actor).program.Uses Op.isPlain := by
  refine Uses.bind ?_ fun views => .done _
  exact (uses_review quizId actor).bind fun _ => .once rfl fun _ => .done _

theorem uses_get (quizId attemptId : Int) (actor : Actor) :
    (Request.get quizId attemptId actor).program.Uses Op.isPlain := by
  refine Uses.bind ?_ fun view => .done _
  exact (uses_review quizId actor).bind fun _ =>
    .once rfl fun _ => (Uses.found _ _).bind fun _ => .done _

/-- **A request about attempts** publishes nothing and leaves the cache alone. -/
theorem uses_request {request : Request} (h : request.isOnAttempts = true) :
    request.program.Uses Op.leavesOffer := by
  have hplain : ∀ {α : Type} {p : Program α}, p.Uses Op.isPlain → p.Uses Op.leavesOffer :=
    fun hp => hp.mono Op.leavesOffer_of_isPlain
  cases request with
  | start quizId actor =>
      refine Uses.bind ?_ fun a => .done _
      exact (uses_enter quizId actor).bind fun entered =>
        hplain (uses_startWithin entered.1 entered.2 actor mostTries)
  | submit quizId attemptId answers actor =>
      refine Uses.bind ?_ fun view => .done _
      exact (uses_enter quizId actor).bind fun entered =>
        (hplain (uses_lockAccess actor entered.2)).bind fun enrollment =>
          hplain (uses_submitLocked entered.1 enrollment attemptId answers actor)
  | list quizId actor => exact hplain (uses_list quizId actor)
  | get quizId attemptId actor => exact hplain (uses_get quizId attemptId actor)
  | take | publish => simp [Request.isOnAttempts] at h

/-- **What is offered for taking is as it was**: the quizzes, to whom they are open, the cache and
the clock that it goes by. -/
structure Service.SameOffer (s t : Service) : Prop where
  quizzes : t.store.quizzes = s.store.quizzes
  lessons : t.store.lessons = s.store.lessons
  enrollments : t.store.enrollments = s.store.enrollments
  cache : t.cache = s.cache
  instant : t.instant = s.instant

namespace Service.SameOffer

variable {s t u : Service}

theorem refl (s : Service) : s.SameOffer s := ⟨rfl, rfl, rfl, rfl, rfl⟩

theorem trans (h : s.SameOffer t) (h' : t.SameOffer u) : s.SameOffer u :=
  ⟨h'.quizzes.trans h.quizzes, h'.lessons.trans h.lessons, h'.enrollments.trans h.enrollments,
    h'.cache.trans h.cache, h'.instant.trans h.instant⟩

/-- Another store with the same tables is offered from. -/
theorem of_store (s : Service) (store : Store) (hquizzes : store.quizzes = s.store.quizzes)
    (hlessons : store.lessons = s.store.lessons)
    (henrollments : store.enrollments = s.store.enrollments) :
    s.SameOffer { s with store := store } :=
  ⟨hquizzes, hlessons, henrollments, rfl, rfl⟩

end Service.SameOffer

theorem Session.perform_sameOffer {others : List Int} {s s' : Session} {op : Op}
    {reply : op.Reply} (hop : op.leavesOffer = true)
    (h : s.perform others op = some (s', reply)) : s.service.SameOffer s'.service := by
  cases op with
  | lockEnrollment student course =>
      obtain ⟨⟨tx, enrollment⟩, -, heq⟩ := Option.map_eq_some_iff.1 h
      obtain ⟨rfl, -⟩ := Prod.mk.inj heq
      exact .refl _
  | insert new =>
      obtain rfl : (s.insert new).1 = s' := congrArg Prod.fst (Option.some.inj h)
      obtain ⟨hstore, -⟩ := Transaction.insert_eq s.tx s.service.store new
      have hallocate :=
        Service.SameOffer.of_store s.service s.service.store.allocate rfl rfl rfl
      rw [← hstore] at hallocate
      unfold Session.insert
      split
      · exact ⟨rfl, rfl, rfl, rfl, rfl⟩
      · split <;> rename_i heq <;> rw [heq] at hallocate <;> exact hallocate
  | save final =>
      obtain rfl : (s.save final).1 = s' := congrArg Prod.fst (Option.some.inj h)
      unfold Session.save
      split <;> exact .refl _
  | commit =>
      obtain rfl : s.commit.1 = s' := congrArg Prod.fst (Option.some.inj h)
      unfold Session.commit Transaction.commit
      cases s.tx.collision? s.service.store <;> exact ⟨rfl, rfl, rfl, rfl, rfl⟩
  | completeLesson enrollment lesson =>
      obtain rfl : s.completeLesson enrollment lesson = s' := congrArg Prod.fst (Option.some.inj h)
      unfold Session.completeLesson
      split <;> exact ⟨rfl, rfl, rfl, rfl, rfl⟩
  | announce event =>
      obtain rfl : s.announce event = s' := congrArg Prod.fst (Option.some.inj h)
      unfold Session.announce
      split <;> exact ⟨rfl, rfl, rfl, rfl, rfl⟩
  | publish | cached | remember | forget => simp [Op.leavesOffer] at hop
  | _ =>
      obtain ⟨rfl, -⟩ := Prod.mk.inj (Option.some.inj h)
      exact .refl _

/-- **A program that publishes nothing and leaves the cache alone** leaves what is offered as it
was. -/
theorem Program.Uses.exec_sameOffer {α : Type} {p : Program α} (h : p.Uses Op.leavesOffer)
    (others : List Int) (s : Session) : s.service.SameOffer (p.exec others s).1.service := by
  induction h generalizing s with
  | @step op next hop _ ih =>
      rw [Program.exec]
      cases hperform : s.perform others op with
      | none => exact .refl _
      | some r => exact (Session.perform_sameOffer hop hperform).trans (ih r.2 r.1)
  | _ => exact .refl _

/-- **Requests about attempts leave what is offered alone**, however they end. -/
theorem Service.run_sameOffer {request : Request} (h : request.isOnAttempts = true) (s : Service)
    (others : List Int) : s.SameOffer (s.run others request.program).1 :=
  (uses_request h).exec_sameOffer others ⟨s, Transaction.fresh⟩

/-! ### Beside others -/

/-- A lock is refused, or it is taken as if nobody else were at work. -/
theorem Transaction.lock?_others (tx : Transaction) (store : Store) (others : List Int)
    (student course : Int) :
    tx.lock? store others student course = none ∨
      tx.lock? store others student course = tx.lock? store [] student course := by
  unfold lock?
  cases store.enrollmentOf? student course with
  | none => exact Or.inr rfl
  | some enrollment =>
      dsimp only
      split
      · exact Or.inr rfl
      · split
        · exact Or.inl rfl
        · exact Or.inr rfl

/-- **Whoever need not wait runs as if alone.** -/
theorem Program.exec_of_not_blocked {α : Type} (p : Program α) (others : List Int) (s : Session)
    (h : (p.exec others s).2 ≠ .blocked) : p.exec others s = p.exec [] s := by
  induction p generalizing s with
  | step op next ih =>
      have hperform : s.perform others op = none ∨ s.perform others op = s.perform [] op := by
        cases op with
        | lockEnrollment student course =>
            rcases s.tx.lock?_others s.service.store others student course with heq | heq
            · exact Or.inl (by rw [Session.perform, heq]; rfl)
            · exact Or.inr (by rw [Session.perform, heq]; rfl)
        | _ => exact Or.inr rfl
      rw [Program.exec] at h ⊢
      rw [Program.exec]
      rcases hperform with hnone | hsame
      · simp [hnone] at h
      · rw [hsame] at h ⊢
        cases hreply : s.perform [] op with
        | none => rfl
        | some r =>
            rw [hreply] at h
            exact ih r.2 r.1 h
  | _ => rfl

theorem Service.run_of_not_blocked {α : Type} (s : Service) (others : List Int) (p : Program α)
    (h : (s.run others p).2 ≠ .blocked) : s.run others p = s.run [] p := by
  rw [run, p.exec_of_not_blocked others _ h, run]

/-! ### Commands -/

/-- The command edits what is offered: it puts a quiz, a lesson or an enrollment in, or marks a quiz
as published. -/
def Command.isEdit : Command → Bool
  | .putQuiz _ | .putLesson _ | .putEnrollment _ | .publish _ => true
  | _ => false

namespace Console

/-- A command that makes a request runs it. -/
theorem run_request {console : Console} {command : Command} {request : Request}
    (h : command.request? = some request) : (console.run command).1 =
      console.withService (console.service.run console.locked request.program).1 := by
  rcases console.run_cases command with ⟨other, hother, heq⟩ | ⟨hnone, -⟩ | ⟨name, rfl, -⟩ |
    ⟨name, step, tx, rfl, -, -⟩
  · rw [heq, Option.some.inj (h.symm.trans hother)]
  · simp [h] at hnone
  · simp [Command.request?] at h
  · simp [Command.request?] at h

/-- **A command that makes no request and edits nothing** leaves what is offered as it was. -/
theorem run_sameOffer {console : Console} {command : Command} (h : command.request? = none)
    (hedit : command.isEdit = false) :
    console.service.SameOffer (console.run command).1.service := by
  cases command with
  | request request => simp [Command.request?] at h
  | message keys shuffle message =>
      simp only [Command.request?] at h
      simp only [run, Service.respond]
      cases hread : Http.interpret keys shuffle message with
      | ok request => simp [hread, Except.toOption] at h
      | error response => exact .refl _
  | advance nanos =>
      simp only [run]
      split <;> exact ⟨rfl, rfl, rfl, rfl, rfl⟩
  | putQuiz | putLesson | putEnrollment | publish => simp [Command.isEdit] at hedit
  | showQuiz id withQuestions => cases withQuestions <;> exact .refl _
  | step name step =>
      simp only [run]
      cases console.tx? name with
      | none => exact .refl _
      | some tx =>
          cases step with
          | commit =>
              simp only [runStep, Transaction.commit]
              cases tx.collision? console.service.store <;> exact ⟨rfl, rfl, rfl, rfl, rfl⟩
          | lockEnrollment student course =>
              simp only [runStep]
              split <;> exact .refl _
          | insert new =>
              obtain ⟨hstore, -⟩ := Transaction.insert_eq tx console.service.store new
              have hallocate := Service.SameOffer.of_store console.service
                console.service.store.allocate rfl rfl rfl
              rw [← hstore] at hallocate
              simp only [runStep]
              split <;> rename_i heq <;> rw [heq] at hallocate <;> exact hallocate
          | save final =>
              simp only [runStep]
              split <;> exact .refl _
          | _ => exact .refl _
  | _ => exact ⟨rfl, rfl, rfl, rfl, rfl⟩

end Console

end QuizAttempts
