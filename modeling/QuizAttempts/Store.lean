/-
**The store.**

The store holds the quizzes, lessons, enrollments and attempts under their identifiers, and which
lessons are completed.  Quizzes, lessons and enrollments are put in from outside and replace what
was there under the same identifier; attempts are written by transactions only.  An identifier for
an attempt is given out once and never again, whatever becomes of the attempt.

Main definitions:

* `Store` — the tables;
* `Store.quiz?`, `Store.quizSettings?`, `Store.enrollmentOf?`, `Store.attemptsOf` — what is read;
* `Store.putQuiz`, `Store.putLesson`, `Store.putEnrollment`, `Store.publish?`, `Store.complete` —
  what is written without a transaction.

Main results:

* `Store.attempts_putQuiz`, `Store.attempts_publish?` and their like — none of these touches the
  attempts.
-/
import QuizAttempts.Attempt
import QuizAttempts.Enrollment
import QuizAttempts.Progress

set_option autoImplicit false

namespace QuizAttempts

/-- The tables. -/
structure Store where
  quizzes : Table Quiz
  lessons : Table Lesson
  enrollments : Table Enrollment
  attempts : Table Attempt
  completed : Progress
  /-- The last identifier that was given out for an attempt. -/
  allocated : Nat
  deriving DecidableEq

namespace Store

/-- The store in which there is nothing. -/
def empty : Store :=
  { quizzes := Table.empty
    lessons := Table.empty
    enrollments := Table.empty
    attempts := Table.empty
    completed := Progress.empty
    allocated := 0 }

instance : EmptyCollection Store := ⟨empty⟩

/-! ### Reading -/

/-- A quiz with its questions in their places. -/
def quiz? (store : Store) (id : Int) : Option Quiz := (store.quizzes.get? id).map Quiz.sorted

/-- A quiz without its questions. -/
def quizSettings? (store : Store) (id : Int) : Option Quiz :=
  (store.quizzes.get? id).map Quiz.settings

/-- A lesson. -/
def lesson? (store : Store) (id : Int) : Option Lesson := store.lessons.get? id

/-- The enrollment of a student in a course: the first, should there be several. -/
def enrollmentOf? (store : Store) (student course : Int) : Option Enrollment :=
  store.enrollments.find? (·.isOf student course)

/-- The attempts of an enrollment at a quiz, in the order of their numbers. -/
def attemptsOf (store : Store) (enrollment quiz : Int) : List Attempt :=
  ((store.attempts.filter (·.isOf enrollment quiz)).values).mergeSort fun a b => a.number ≤ b.number

/-! ### Writing -/

/-- Puts a quiz in. -/
def putQuiz (store : Store) (quiz : Quiz) : Store :=
  { store with quizzes := store.quizzes.insert quiz.id quiz }

/-- Puts a lesson in. -/
def putLesson (store : Store) (lesson : Lesson) : Store :=
  { store with lessons := store.lessons.insert lesson.id lesson }

/-- Puts an enrollment in. -/
def putEnrollment (store : Store) (enrollment : Enrollment) : Store :=
  { store with enrollments := store.enrollments.insert enrollment.id enrollment }

/-- Marks a quiz as published, if it is there. -/
def publish? (store : Store) (id : Int) : Option Store :=
  (store.quizzes.get? id).map fun quiz =>
    { store with quizzes := store.quizzes.insert id quiz.published }

/-- Completes a lesson for an enrollment. -/
def complete (store : Store) (enrollment lesson : Int) : Store :=
  { store with completed := store.completed.complete enrollment lesson }

/-- Gives out the next identifier of an attempt. -/
def allocate (store : Store) : Store := { store with allocated := store.allocated + 1 }

/-! ### What stays -/

@[simp] theorem attempts_putQuiz (store : Store) (quiz : Quiz) :
    (store.putQuiz quiz).attempts = store.attempts := rfl

@[simp] theorem attempts_putLesson (store : Store) (lesson : Lesson) :
    (store.putLesson lesson).attempts = store.attempts := rfl

@[simp] theorem attempts_putEnrollment (store : Store) (enrollment : Enrollment) :
    (store.putEnrollment enrollment).attempts = store.attempts := rfl

@[simp] theorem attempts_complete (store : Store) (enrollment lesson : Int) :
    (store.complete enrollment lesson).attempts = store.attempts := rfl

@[simp] theorem attempts_allocate (store : Store) : store.allocate.attempts = store.attempts := rfl

theorem attempts_publish? {store after : Store} {id : Int} (h : store.publish? id = some after) :
    after.attempts = store.attempts := by
  obtain ⟨quiz, _, rfl⟩ := Option.map_eq_some_iff.1 h
  rfl

end Store

end QuizAttempts
