/-
**Programs: what a request does, as a tree of operations.**

A request asks one thing after another of the store, of its transaction, of the clock, of the
cache and of those who are told about results, and decides by the replies how to go on.  Written
as a tree, whose nodes are operations and whose branches are replies, it can be run in one go or
step by step between the steps of other requests; both read the same tree, so what a request does
is said once.

Every program has one transaction, which begins with it, starts afresh after a commit or a
rollback, and is dropped when the program ends.

Main definitions:

* `Op`, `Op.Reply` — operations, and what they reply;
* `Program` — trees; they end with a result, with a refusal, or because a number grew too large;
* `Program.bind` and the operations as programs, for `do`;
* `Program.ensure`, `Program.found` — refusing unless something holds or is there.

Main results:

* `Program.bind_done`, `Program.bind_assoc` — programs form a monad.
-/
import QuizAttempts.Refusal
import QuizAttempts.TakePayload
import QuizAttempts.Transaction

set_option autoImplicit false

namespace QuizAttempts

/-- The operations. -/
inductive Op where
  -- what is committed
  /-- A quiz with its questions. -/
  | quiz (id : Int)
  /-- A quiz without its questions. -/
  | quizSettings (id : Int)
  | lesson (id : Int)
  | enrollment (student course : Int)
  | attempt (id : Int)
  | attempts (enrollment quiz : Int)
  -- the transaction
  | lockEnrollment (student course : Int)
  | lockOpenAttempt (enrollment quiz : Int)
  | lockLatestNumber (enrollment quiz : Int)
  | lockAttempt (id : Int)
  | insert (new : NewAttempt)
  | save (final : Attempt)
  | commit
  | rollback
  -- the rest of the world
  | now
  | publish (quiz : Int)
  | completeLesson (enrollment lesson : Int)
  | announce (event : SubmissionEvent)
  | cached (quiz : Int)
  | remember (quiz : Int) (payload : TakePayload)
  | forget (quiz : Int)

/-- What an operation replies. -/
@[reducible] def Op.Reply : Op → Type
  | quiz _ | quizSettings _ => Option Quiz
  | lesson _ => Option Lesson
  | enrollment _ _ | lockEnrollment _ _ => Option Enrollment
  | attempt _ | lockAttempt _ | lockOpenAttempt _ _ => Option Attempt
  | attempts _ _ => List Attempt
  | lockLatestNumber _ _ => Int
  | insert _ => Except Taken Attempt
  | save _ => Bool
  | commit => Except Taken Unit
  | now => Timestamp
  | publish _ => Bool
  | cached _ => Option TakePayload
  | rollback | completeLesson _ _ | announce _ | remember _ _ | forget _ => Unit

/-- What a request does. -/
inductive Program (α : Type) where
  | done (result : α)
  | refuse (why : Refusal)
  /-- A number would leave the range of its type. -/
  | overflow
  | step (op : Op) (next : op.Reply → Program α)

namespace Program

variable {α β γ : Type}

/-- One program after another. -/
def bind : Program α → (α → Program β) → Program β
  | done a, f => f a
  | refuse why, _ => refuse why
  | overflow, _ => overflow
  | step op next, f => step op fun reply => bind (next reply) f

instance : Monad Program where
  pure := done
  bind := bind

@[simp] theorem pure_eq_done (a : α) : (pure a : Program α) = done a := rfl

@[simp] theorem done_bind (a : α) (f : α → Program β) : (done a >>= f) = f a := rfl

@[simp] theorem refuse_bind (why : Refusal) (f : α → Program β) : (refuse why >>= f) = refuse why :=
  rfl

@[simp] theorem overflow_bind (f : α → Program β) : ((overflow : Program α) >>= f) = overflow := rfl

@[simp] theorem step_bind (op : Op) (next : op.Reply → Program α) (f : α → Program β) :
    (step op next >>= f) = step op fun reply => next reply >>= f := rfl

@[simp] theorem bind_done (p : Program α) : (p >>= done) = p := by
  induction p with
  | step op next ih =>
      rw [step_bind]
      exact congrArg (step op) (funext ih)
  | _ => rfl

theorem bind_assoc (p : Program α) (f : α → Program β) (g : β → Program γ) :
    (p >>= f >>= g) = (p >>= fun a => f a >>= g) := by
  induction p with
  | step op next ih =>
      simp only [step_bind]
      exact congrArg (step op) (funext ih)
  | _ => rfl

/-! ### Operations as programs -/

/-- A quiz with its questions in their places. -/
def quiz (id : Int) : Program (Option Quiz) := step (.quiz id) done

/-- A quiz without its questions. -/
def quizSettings (id : Int) : Program (Option Quiz) := step (.quizSettings id) done

/-- A lesson. -/
def lesson (id : Int) : Program (Option Lesson) := step (.lesson id) done

/-- The enrollment of a student in a course. -/
def enrollment (student course : Int) : Program (Option Enrollment) :=
  step (.enrollment student course) done

/-- A committed attempt. -/
def attempt (id : Int) : Program (Option Attempt) := step (.attempt id) done

/-- The committed attempts of an enrollment at a quiz. -/
def attempts (enrollment quiz : Int) : Program (List Attempt) :=
  step (.attempts enrollment quiz) done

/-- The enrollment of a student in a course, locked. -/
def lockEnrollment (student course : Int) : Program (Option Enrollment) :=
  step (.lockEnrollment student course) done

/-- The open attempt of an enrollment at a quiz. -/
def lockOpenAttempt (enrollment quiz : Int) : Program (Option Attempt) :=
  step (.lockOpenAttempt enrollment quiz) done

/-- The highest number of an attempt of an enrollment at a quiz. -/
def lockLatestNumber (enrollment quiz : Int) : Program Int :=
  step (.lockLatestNumber enrollment quiz) done

/-- An attempt, as the transaction sees it. -/
def lockAttempt (id : Int) : Program (Option Attempt) := step (.lockAttempt id) done

/-- Stages a fresh attempt. -/
def insert (new : NewAttempt) : Program (Except Taken Attempt) := step (.insert new) done

/-- Stages the final state of an attempt; false when it was final already. -/
def save (final : Attempt) : Program Bool := step (.save final) done

/-- Commits what is staged. -/
def commit : Program (Except Taken Unit) := step .commit done

/-- Drops what is staged and gives all locks back. -/
def rollback : Program Unit := step .rollback done

/-- The present moment. -/
def now : Program Timestamp := step .now done

/-- Marks a quiz as published; false when it is gone. -/
def publish (quiz : Int) : Program Bool := step (.publish quiz) done

/-- Reports a completed lesson. -/
def completeLesson (enrollment lesson : Int) : Program Unit :=
  step (.completeLesson enrollment lesson) done

/-- Announces a graded submission. -/
def announce (event : SubmissionEvent) : Program Unit := step (.announce event) done

/-- The payload that is kept for a quiz. -/
def cached (quiz : Int) : Program (Option TakePayload) := step (.cached quiz) done

/-- Keeps a payload for a quiz. -/
def remember (quiz : Int) (payload : TakePayload) : Program Unit :=
  step (.remember quiz payload) done

/-- Throws the payload of a quiz away. -/
def forget (quiz : Int) : Program Unit := step (.forget quiz) done

/-! ### Refusing -/

/-- Refuses unless a condition holds. -/
def ensure (condition : Bool) (why : Refusal) : Program Unit :=
  if condition then done () else refuse why

/-- Refuses unless something is there. -/
def found (a : Option α) (why : Refusal) : Program α :=
  match a with
  | some a => done a
  | none => refuse why

/-- Refuses with the cause that came instead of a value. -/
def orRefuse {ε : Type} (a : Except ε α) (why : ε → Refusal) : Program α :=
  match a with
  | .ok a => done a
  | .error e => refuse (why e)

@[simp] theorem ensure_true (why : Refusal) : ensure true why = done () := rfl

@[simp] theorem ensure_false (why : Refusal) : ensure false why = refuse why := rfl

@[simp] theorem found_some (a : α) (why : Refusal) : found (some a) why = done a := rfl

@[simp] theorem found_none (why : Refusal) : found (none : Option α) why = refuse why := rfl

end Program

end QuizAttempts
