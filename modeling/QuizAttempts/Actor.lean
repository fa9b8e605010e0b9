/-
**The people who call.**

A caller is known by a user and a role: students take quizzes, instructors manage the courses they
own, and administrators manage every course.  The caller is read from the claims of a token, whose
subject is the decimal text of the user and whose role is the name of a role.

Main definitions:

* `Role`, `Actor`, `Actor.isStudent`, `Actor.manages` — callers, and what they may do;
* `Claims`, `ClaimsFlaw`, `Claims.actor` — **the caller that the claims of a token name**.

Main results:

* `Role.ofName?_name` — every role is found under its name;
* `Actor.not_manages_of_isStudent` — a student manages nothing.
-/
import QuizAttempts.Text.Numeral

set_option autoImplicit false

namespace QuizAttempts

/-! ### Callers -/

/-- What a caller is. -/
inductive Role where
  | student
  | instructor
  | admin
  deriving DecidableEq

/-- The name of a role. -/
def Role.name : Role → String
  | student => "student"
  | instructor => "instructor"
  | admin => "admin"

/-- The role with a name. -/
def Role.ofName? (name : String) : Option Role :=
  if name = "student" then some .student
  else if name = "instructor" then some .instructor
  else if name = "admin" then some .admin
  else none

@[simp] theorem Role.ofName?_name (role : Role) : Role.ofName? role.name = some role := by
  cases role <;> rfl

/-- A caller. -/
structure Actor where
  userId : Int
  role : Role
  deriving DecidableEq

namespace Actor

/-- The caller is a student. -/
def isStudent (actor : Actor) : Bool := actor.role = .student

/-- **The caller manages the courses of an instructor**: an administrator all of them, an instructor
their own. -/
def manages (actor : Actor) (instructor : Int) : Bool :=
  match actor.role with
  | .admin => true
  | .instructor => actor.userId == instructor
  | .student => false

theorem not_manages_of_isStudent {actor : Actor} (h : actor.isStudent = true) (instructor : Int) :
    actor.manages instructor = false := by
  have hrole : actor.role = .student := by simpa [isStudent] using h
  simp [manages, hrole]

end Actor

/-! ### Claims -/

/-- What a token claims about its bearer. -/
structure Claims where
  subject : String
  role : String
  /-- The second until which the claims hold. -/
  expiry : Int
  deriving DecidableEq

/-- How claims can fail to name a caller. -/
inductive ClaimsFlaw where
  | badSubject
  | unknownRole
  deriving DecidableEq

/-- How a flaw is reported. -/
def ClaimsFlaw.message : ClaimsFlaw → String
  | badSubject => "Invalid token subject"
  | unknownRole => "Unknown role"

/-- The user that a subject names: a 64-bit integer in decimal. -/
def readUser? (subject : String) : Option Int := (readInt? subject.toList).filter isInt64

/-- **The caller that claims name**; the subject is judged before the role. -/
def Claims.actor (claims : Claims) : Except ClaimsFlaw Actor :=
  match readUser? claims.subject with
  | none => .error .badSubject
  | some user =>
      match Role.ofName? claims.role with
      | none => .error .unknownRole
      | some role => .ok ⟨user, role⟩

end QuizAttempts
