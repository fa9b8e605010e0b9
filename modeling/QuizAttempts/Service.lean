/-
**The service: a store and what stands around it, and how programs run on them.**

The service keeps the store, a clock, a cache of take payloads and the list of what was announced.
The two collaborators that are told about results, the one that keeps the progress and the one
that passes announcements on, may be broken; what they are told is then lost, and nobody notices.
A number of inserts may be made to collide, as if somebody else had been first, before they reach
the store.

Other transactions may hold locks while a program runs.  A program that needs one of them has to
wait; run in one go, it is cancelled instead, and whatever its transaction had staged is gone.

Main definitions:

* `Service` — the state;
* `Service.perform` — one operation of a transaction;
* `Program.exec` — **running a program to its end**, with its transaction;
* `Service.run` — the same for a program of its own.

Main results:

* `Program.exec_bind` — running one program after another.
-/
import QuizAttempts.Program
import QuizAttempts.TakeCache

set_option autoImplicit false

namespace QuizAttempts

/-- A store and what stands around it. -/
structure Service where
  store : Store
  clock : Timestamp
  /-- The clock of the machine, which the cache goes by. -/
  instant : Nat
  cache : TakeCache
  /-- How many inserts will collide before they reach the store. -/
  pendingCollisions : Nat
  progressBroken : Bool
  eventsBroken : Bool
  events : List SubmissionEvent
  deriving DecidableEq

/-- How a program ends. -/
inductive Outcome (α : Type) where
  | done (result : α)
  | refused (why : Refusal)
  | overflow
  /-- It would have had to wait for a lock. -/
  | blocked
  deriving DecidableEq

/-- The result of a program that ended with one. -/
def Outcome.result? {α : Type} : Outcome α → Option α
  | done a => some a
  | _ => none

/-- What has become of a service and a transaction. -/
structure Session where
  service : Service
  tx : Transaction
  deriving DecidableEq

namespace Session

/-- The session with another store. -/
def withStore (s : Session) (store : Store) : Session :=
  { s with service := { s.service with store := store } }

/-- **Stages a fresh attempt**, unless the insert is one of those that are made to collide. -/
def insert (s : Session) (new : NewAttempt) : Session × Except Taken Attempt :=
  match s.service.pendingCollisions with
  | n + 1 => ({ s with service := { s.service with pendingCollisions := n } }, .error ⟨new.number⟩)
  | 0 =>
      match s.tx.insert s.service.store new with
      | (store, .ok (tx, a)) => ({ s.withStore store with tx := tx }, .ok a)
      | (store, .error taken) => (s.withStore store, .error taken)

/-- Stages the final state of an attempt. -/
def save (s : Session) (final : Attempt) : Session × Bool :=
  match s.tx.save? s.service.store final with
  | some tx => ({ s with tx := tx }, true)
  | none => (s, false)

/-- Commits; the transaction is over in either case. -/
def commit (s : Session) : Session × Except Taken Unit :=
  match s.tx.commit s.service.store with
  | .ok store => ({ s.withStore store with tx := Transaction.fresh }, .ok ())
  | .error taken => ({ s with tx := Transaction.fresh }, .error taken)

/-- Drops the transaction. -/
def rollback (s : Session) : Session := { s with tx := Transaction.fresh }

/-- Marks a quiz as published. -/
def publish (s : Session) (quiz : Int) : Session × Bool :=
  match s.service.store.publish? quiz with
  | some store => (s.withStore store, true)
  | none => (s, false)

/-- Reports a completed lesson, if anybody listens. -/
def completeLesson (s : Session) (enrollment lesson : Int) : Session :=
  if s.service.progressBroken then s
  else s.withStore (s.service.store.complete enrollment lesson)

/-- Announces a graded submission, if anybody listens. -/
def announce (s : Session) (event : SubmissionEvent) : Session :=
  if s.service.eventsBroken then s
  else { s with service := { s.service with events := s.service.events ++ [event] } }

/-- The session with another cache. -/
def withCache (s : Session) (cache : TakeCache) : Session :=
  { s with service := { s.service with cache := cache } }

/-- Looks a payload up. -/
def cached (s : Session) (quiz : Int) : Session × Option TakePayload :=
  let found := s.service.cache.get quiz s.service.instant s.service.instant
  (s.withCache found.2, found.1)

/-- **One operation.**  Absent when it has to wait for a lock that is among `others`. -/
def perform (others : List Int) (s : Session) : (op : Op) → Option (Session × op.Reply)
  | .quiz id => some (s, s.service.store.quiz? id)
  | .quizSettings id => some (s, s.service.store.quizSettings? id)
  | .lesson id => some (s, s.service.store.lesson? id)
  | .enrollment student course => some (s, s.service.store.enrollmentOf? student course)
  | .attempt id => some (s, s.service.store.attempts.get? id)
  | .attempts enrollment quiz => some (s, s.service.store.attemptsOf enrollment quiz)
  | .lockEnrollment student course =>
      (s.tx.lock? s.service.store others student course).map fun (tx, enrollment) =>
        ({ s with tx := tx }, enrollment)
  | .lockOpenAttempt enrollment quiz =>
      some (s, s.tx.openAttempt? s.service.store enrollment quiz)
  | .lockLatestNumber enrollment quiz =>
      some (s, s.tx.latestNumber s.service.store enrollment quiz)
  | .lockAttempt id => some (s, s.tx.attempt? s.service.store id)
  | .insert new => some (s.insert new)
  | .save final => some (s.save final)
  | .commit => some s.commit
  | .rollback => some (s.rollback, ())
  | .now => some (s, s.service.clock)
  | .publish quiz => some (s.publish quiz)
  | .completeLesson enrollment lesson => some (s.completeLesson enrollment lesson, ())
  | .announce event => some (s.announce event, ())
  | .cached quiz => some (s.cached quiz)
  | .remember quiz payload =>
      some (s.withCache (s.service.cache.insert quiz payload s.service.instant), ())
  | .forget quiz => some (s.withCache (s.service.cache.invalidate quiz), ())

end Session

/-! ### Running -/

/-- **Runs a program to its end**, or to the first lock it would have to wait for. -/
def Program.exec {α : Type} (others : List Int) : Program α → Session → Session × Outcome α
  | .done a, s => (s, .done a)
  | .refuse why, s => (s, .refused why)
  | .overflow, s => (s, .overflow)
  | .step op next, s =>
      match s.perform others op with
      | some (s', reply) => (next reply).exec others s'
      | none => (s, .blocked)

/-- Goes on with the result of a program, if it ended with one. -/
def Outcome.andThen {α β : Type} (s : Session) (f : α → Session → Session × Outcome β) :
    Outcome α → Session × Outcome β
  | done a => f a s
  | refused why => (s, .refused why)
  | overflow => (s, .overflow)
  | blocked => (s, .blocked)

/-- **Running one program after another.** -/
theorem Program.exec_bind {α β : Type} (others : List Int) (p : Program α) (f : α → Program β)
    (s : Session) :
    (p >>= f).exec others s =
      (p.exec others s).2.andThen (p.exec others s).1 fun a s' => (f a).exec others s' := by
  induction p generalizing s with
  | step op next ih =>
      rw [Program.step_bind]
      simp only [Program.exec]
      cases s.perform others op with
      | none => rfl
      | some r => exact ih r.2 r.1
  | _ => rfl

/-- **Runs a program of its own**; its transaction ends with it. -/
def Service.run {α : Type} (service : Service) (others : List Int) (p : Program α) :
    Service × Outcome α :=
  let r := p.exec others ⟨service, Transaction.fresh⟩
  (r.1.service, r.2)

end QuizAttempts
