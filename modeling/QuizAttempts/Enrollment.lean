/-
**Enrollments.**

A student is enrolled in a course under a status, and only some statuses let the student take
quizzes.

Main definitions:

* `Enrollment`, `Enrollment.grantsAccess` — enrollments, and the statuses that count;
* `Enrollment.isOf` — the enrollment of a student in a course.
-/

set_option autoImplicit false

namespace QuizAttempts

/-- A student's place in a course. -/
structure Enrollment where
  id : Int
  studentId : Int
  courseId : Int
  status : String
  deriving DecidableEq

/-- Running and finished enrollments may take quizzes; all others may not. -/
def Enrollment.grantsAccess (e : Enrollment) : Bool :=
  e.status == "active" || e.status == "completed"

/-- The enrollment is that of a student in a course. -/
def Enrollment.isOf (e : Enrollment) (student course : Int) : Bool :=
  e.studentId == student && e.courseId == course

end QuizAttempts
