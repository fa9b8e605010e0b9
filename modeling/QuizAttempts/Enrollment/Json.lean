/-
**Enrollments, callers and refusals as documents.**

Main definitions:

* `Enrollment.toJson`, `Actor.toJson`, `Claims.toJson`, `Role.toJson` — writing;
* `Enrollment.ofJson`, `Actor.ofJson`, `Claims.ofJson`, `Role.ofJson` — reading;
* `Report.body` — what the one who asked is told about a refusal.
-/
import QuizAttempts.Enrollment
import QuizAttempts.Quiz.Json
import QuizAttempts.Refusal

set_option autoImplicit false

namespace QuizAttempts

open Json Json.RecordReader

/-! ### Enrollments -/

/-- The fields of an enrollment. -/
def Enrollment.reader : RecordReader Enrollment :=
  Enrollment.mk <$> required "id" asInt64 <*> required "student_id" asInt64 <*>
    required "course_id" asInt64 <*> required "status" asString

/-- An enrollment. -/
def Enrollment.ofJson : Json → Reading Enrollment := Enrollment.reader.read

/-- An enrollment. -/
def Enrollment.toJson (e : Enrollment) : Json :=
  .record [("id", .int e.id), ("student_id", .int e.studentId), ("course_id", .int e.courseId),
    ("status", .string e.status)]

/-! ### Callers -/

/-- A role. -/
def Role.ofJson : Json → Reading Role :=
  asTag [("student", .student), ("instructor", .instructor), ("admin", .admin)]

/-- A role. -/
def Role.toJson (role : Role) : Json := .string role.name

/-- The fields of a caller. -/
def Actor.reader : RecordReader Actor :=
  Actor.mk <$> required "user_id" asInt64 <*> required "role" Role.ofJson

/-- A caller. -/
def Actor.ofJson : Json → Reading Actor := Actor.reader.read

/-- A caller. -/
def Actor.toJson (actor : Actor) : Json :=
  .record [("user_id", .int actor.userId), ("role", actor.role.toJson)]

/-- The fields of the claims of a token. -/
def Claims.reader : RecordReader Claims :=
  Claims.mk <$> required "sub" asString <*> required "role" asString <*>
    required "exp" (asInt isUInt64)

/-- The claims of a token. -/
def Claims.ofJson : Json → Reading Claims := Claims.reader.read

/-- The claims of a token. -/
def Claims.toJson (claims : Claims) : Json :=
  .record [("sub", .string claims.subject), ("role", .string claims.role),
    ("exp", .int claims.expiry)]

/-! ### Refusals -/

/-- **What the one who asked is told about a refusal.** -/
def Report.body (report : Report) : Json :=
  .record [("error", .string report.told), ("retryable", .bool report.isRetryable)]

end QuizAttempts
