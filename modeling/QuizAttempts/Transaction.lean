/-
**Transactions over the attempts.**

A transaction reads the committed attempts with its own staged rows laid over them, stages rows,
and in the end commits them all or none.  What it sees is not quite the overlay: a query selects
from the committed and from the staged rows separately, so a committed row with the property that
is asked for stays in sight when the staged row that replaces it has lost it.

Work on an enrollment is serialized by its lock.  A transaction that wants a lock which another
holds has to wait; it keeps its locks until it ends.

No two attempts of an enrollment at a quiz may have one number or be open at once.  A fresh row is
compared with what the transaction sees when it is staged, and every staged row once more with the
whole table when it is committed, because others may have committed in between.

Main definitions:

* `Transaction` — locks held and rows staged;
* `Transaction.visible` — the rows with a property, as the transaction sees them;
* `Attempt.collides` — two rows that cannot stand beside one another;
* `Transaction.lock`, `Transaction.openAttempt?`, `Transaction.latestNumber`,
  `Transaction.attempt?`, `Transaction.insert`, `Transaction.save?` — the operations;
* `Transaction.merged`, `Transaction.commit` — **the end of a transaction**.

Main results:

* `Transaction.visible_fresh` — a fresh transaction sees what is committed;
* `Transaction.collides_comm` — colliding is mutual;
* `Transaction.commit_fresh` — a transaction that staged nothing changes nothing.
-/
import QuizAttempts.Store

set_option autoImplicit false

namespace QuizAttempts

/-- **Two attempts that cannot stand beside one another**: different rows of one enrollment at one
quiz with one number, or both open. -/
def Attempt.collides (a b : Attempt) : Bool :=
  a.id != b.id && b.isOf a.enrollmentId a.quizId &&
    (a.number == b.number || (a.isOpen && b.isOpen))

/-- The number of an attempt for which there was no place. -/
structure Taken where
  number : Int
  deriving DecidableEq

/-- What a transaction has done so far. -/
structure Transaction where
  /-- The enrollments whose locks it holds. -/
  held : List Int
  /-- The rows it will write. -/
  staged : Table Attempt
  deriving DecidableEq

namespace Transaction

/-- A transaction that has done nothing. -/
def fresh : Transaction := ⟨[], Table.empty⟩

instance : Inhabited Transaction := ⟨fresh⟩

/-! ### Reading -/

/-- **The rows with a property that a transaction sees**: the staged ones with it over the committed
ones with it. -/
def visible (tx : Transaction) (store : Store) (p : Attempt → Bool) : Table Attempt :=
  (store.attempts.filter p).overlay (tx.staged.filter p)

/-- The first open attempt of an enrollment at a quiz. -/
def openAttempt? (tx : Transaction) (store : Store) (enrollment quiz : Int) : Option Attempt :=
  (tx.visible store fun a => a.isOf enrollment quiz && a.isOpen).values.head?

/-- The highest number of an attempt of an enrollment at a quiz, zero if there is none. -/
def latestNumber (tx : Transaction) (store : Store) (enrollment quiz : Int) : Int :=
  ((tx.visible store (·.isOf enrollment quiz)).values.map (·.number)).max?.getD 0

/-- The attempt with an identifier. -/
def attempt? (tx : Transaction) (store : Store) (id : Int) : Option Attempt :=
  (tx.visible store (·.id == id)).values.head?

/-! ### Locking -/

/-- **Locks the enrollment of a student in a course**, and gives it if there is one.  Absent when
somebody else holds the lock; `others` are the enrollments that are locked by others. -/
def lock? (tx : Transaction) (store : Store) (others : List Int) (student course : Int) :
    Option (Transaction × Option Enrollment) :=
  match store.enrollmentOf? student course with
  | none => some (tx, none)
  | some enrollment =>
      if tx.held.contains enrollment.id then some (tx, some enrollment)
      else if others.contains enrollment.id then none
      else some ({ tx with held := enrollment.id :: tx.held }, some enrollment)

/-! ### Staging -/

/-- Stages a row. -/
def stage (tx : Transaction) (a : Attempt) : Transaction :=
  { tx with staged := tx.staged.insert a.id a }

/-- **Stages a fresh attempt** under the next identifier, if it collides with nothing in sight.  The
identifier is used up in either case. -/
def insert (tx : Transaction) (store : Store) (new : NewAttempt) :
    Store × Except Taken (Transaction × Attempt) :=
  let allocated := store.allocate
  let row := new.toAttempt allocated.allocated
  let pair := (tx.visible store (·.isOf new.enrollmentId new.quizId)).values
  if pair.any row.collides then (allocated, .error ⟨row.number⟩)
  else (allocated, .ok (tx.stage row, row))

/-- **Stages the final state of an attempt**, if the one in sight is open. -/
def save? (tx : Transaction) (store : Store) (a : Attempt) : Option Transaction :=
  match tx.attempt? store a.id with
  | some current => if current.isOpen then some (tx.stage a) else none
  | none => none

/-! ### The end -/

/-- The committed rows with the staged ones over them. -/
def merged (tx : Transaction) (store : Store) : Table Attempt := store.attempts.overlay tx.staged

/-- The first staged row that collides with another row. -/
def collision? (tx : Transaction) (store : Store) : Option Attempt :=
  tx.staged.values.find? fun a => (tx.merged store).values.any a.collides

/-- **Commits a transaction**: all staged rows are written, or none if one of them collides. -/
def commit (tx : Transaction) (store : Store) : Except Taken Store :=
  match tx.collision? store with
  | some a => .error ⟨a.number⟩
  | none => .ok { store with attempts := tx.merged store }

/-! ### First facts -/

@[simp] theorem visible_fresh (store : Store) (p : Attempt → Bool) :
    fresh.visible store p = store.attempts.filter p := rfl

theorem collides_comm (a b : Attempt) : a.collides b = b.collides a := by
  rw [Bool.eq_iff_iff]
  simp only [Attempt.collides, Attempt.isOf, Bool.and_eq_true, Bool.or_eq_true, bne_iff_ne,
    beq_iff_eq, ne_eq]
  exact ⟨fun ⟨⟨h, he, hq⟩, hn⟩ => ⟨⟨fun h' => h h'.symm, he.symm, hq.symm⟩,
      hn.imp Eq.symm And.symm⟩,
    fun ⟨⟨h, he, hq⟩, hn⟩ => ⟨⟨fun h' => h h'.symm, he.symm, hq.symm⟩, hn.imp Eq.symm And.symm⟩⟩

@[simp] theorem commit_fresh (store : Store) : fresh.commit store = .ok store := rfl

end Transaction

end QuizAttempts
