/-
**Documents, as far as they can be read.**

Records travel as JSON.  A request may break off in the middle, and then what is wrong with it
depends on what a reader meets first: a value of the wrong form before the break, or the break.
So a document is a tree that may have a *break* as a leaf, standing for everything from the point
where the text stops being JSON.  Further places of a text are JSON without being usable: a string
whose escapes form half of a surrogate pair or whose bytes are no text, and a numeral past every
finite number.  Such a scalar may be passed over, but not taken.

Whether a reader that takes values one after the other can go on when it has to give one up is a
third question.  Giving up a string or a numeral leaves it behind that scalar, or in its middle;
giving up an item leaves it behind the array only when the item was the last one.

Main definitions:

* `Json` — documents; an object keeps the order and the repetitions of its members;
* `Json.record` — an object from named values;
* `Json.ofBinary64` — a number, or null when it is not finite;
* `Json.isSound` — the value may be passed over: it holds no break;
* `Json.isReadable` — the value may be taken whole: neither a break nor anything unusable, nor a
  deeper nesting than allowed;
* `Json.isPassable` — a reader that tries to take the value whole comes out behind it;
* `Json.Fault`, `Json.fault` — how a value can fail to be what is wanted.

Main results:

* `Json.isSound_record` — a record of sound values is sound;
* `Json.isPassable_of_isReadable` — **whoever can take a value comes out behind it**.
-/
import QuizAttempts.Binary64

set_option autoImplicit false

namespace QuizAttempts

/-- A document. -/
inductive Json where
  | null
  | bool (value : Bool)
  | int (value : Int)
  | float (value : Binary64)
  | string (value : String)
  /-- A string that is no text, or a numeral past every finite number; `passable` says whether a
  reader that gives it up comes out behind it. -/
  | unusable (passable : Bool)
  | array (items : List Json)
  /-- Members in their order; the name of a member is absent when it is no text. -/
  | object (members : List (Option String × Json))
  /-- The point from which on the text is not JSON. -/
  | broken

namespace Json

/-! ### Building -/

/-- An object from named values. -/
def record (fields : List (String × Json)) : Json :=
  .object (fields.map fun field => (some field.1, field.2))

/-- A number, or null when it is not finite: JSON has no other numbers. -/
def ofBinary64 (x : Binary64) : Json := if x.isFinite then .float x else .null

/-- A value that may be absent. -/
def ofOption {α : Type} (encode : α → Json) : Option α → Json
  | some a => encode a
  | none => .null

/-- A list of values. -/
def ofList {α : Type} (encode : α → Json) (items : List α) : Json := .array (items.map encode)

@[simp] theorem ofOption_none {α : Type} (encode : α → Json) : ofOption encode none = .null := rfl

@[simp] theorem ofOption_some {α : Type} (encode : α → Json) (a : α) :
    ofOption encode (some a) = encode a := rfl

/-! ### What may be passed over and what may be taken -/

mutual

/-- The value holds no break. -/
def isSound : Json → Bool
  | .array items => areSound items
  | .object members => membersAreSound members
  | .broken => false
  | _ => true

/-- No item holds a break. -/
def areSound : List Json → Bool
  | [] => true
  | item :: items => isSound item && areSound items

/-- No member holds a break. -/
def membersAreSound : List (Option String × Json) → Bool
  | [] => true
  | (_, value) :: members => isSound value && membersAreSound members

end

mutual

/-- The value can be taken whole, with at most `room` arrays and objects inside one another. -/
def isReadable (room : Nat) : Json → Bool
  | .array items =>
      match room with
      | 0 => false
      | room + 1 => areReadable room items
  | .object members =>
      match room with
      | 0 => false
      | room + 1 => membersAreReadable room members
  | .broken | .unusable _ => false
  | _ => true

/-- All items can be taken whole. -/
def areReadable (room : Nat) : List Json → Bool
  | [] => true
  | item :: items => isReadable room item && areReadable room items

/-- All members can be taken whole, names included. -/
def membersAreReadable (room : Nat) : List (Option String × Json) → Bool
  | [] => true
  | (name, value) :: members =>
      name.isSome && isReadable room value && membersAreReadable room members

end

mutual

/-- A reader that tries to take the value whole, with at most `room` arrays and objects inside one
another, comes out behind it. -/
def isPassable (room : Nat) : Json → Bool
  | .array items =>
      match room with
      | 0 => false
      | room + 1 => arePassable room items
  | .object members =>
      match room with
      | 0 => false
      | room + 1 => membersArePassable room members
  | .broken => false
  | .unusable passable => passable
  | _ => true

/-- A reader that tries to take all items comes out behind the last: only that one may be given
up. -/
def arePassable (room : Nat) : List Json → Bool
  | [] => true
  | item :: items =>
      if isReadable room item then arePassable room items
      else items.isEmpty && isPassable room item

/-- A reader that tries to take all members comes out behind the last: only its value may be given
up. -/
def membersArePassable (room : Nat) : List (Option String × Json) → Bool
  | [] => true
  | (name, value) :: members =>
      name.isSome && if isReadable room value then membersArePassable room members
        else members.isEmpty && isPassable room value

end

/-- A reader that tries to take a scalar comes out behind the value: it does not open an array or
an object, and is behind one only when there is nothing in it. -/
def isPassableUnopened : Json → Bool
  | .array items => items.isEmpty
  | .object members => members.isEmpty
  | .broken => false
  | .unusable passable => passable
  | _ => true

/-- How deep the arrays and objects of a document that is taken whole may be nested. -/
def deepest : Nat := 127

theorem arePassable_of_areReadable {room : Nat} {items : List Json}
    (h : areReadable room items = true) : arePassable room items = true := by
  induction items with
  | nil => rfl
  | cons item items ih =>
      simp only [areReadable, Bool.and_eq_true] at h
      simp only [arePassable, h.1, if_true, ih h.2]

theorem membersArePassable_of_membersAreReadable {room : Nat}
    {members : List (Option String × Json)} (h : membersAreReadable room members = true) :
    membersArePassable room members = true := by
  induction members with
  | nil => rfl
  | cons member members ih =>
      obtain ⟨name, value⟩ := member
      simp only [membersAreReadable, Bool.and_eq_true] at h
      simp only [membersArePassable, h.1.1, h.1.2, Bool.true_and, if_true, ih h.2]

/-- **Whoever can take a value comes out behind it.** -/
theorem isPassable_of_isReadable {room : Nat} {j : Json} (h : j.isReadable room = true) :
    j.isPassable room = true := by
  cases j with
  | array items =>
      cases room with
      | zero => simp [isReadable] at h
      | succ room =>
          rw [isReadable] at h
          rw [isPassable]
          exact arePassable_of_areReadable h
  | object members =>
      cases room with
      | zero => simp [isReadable] at h
      | succ room =>
          rw [isReadable] at h
          rw [isPassable]
          exact membersArePassable_of_membersAreReadable h
  | unusable passable => simp [isReadable] at h
  | broken => simp [isReadable] at h
  | _ => rfl

theorem membersAreSound_map (fields : List (String × Json)) :
    membersAreSound (fields.map fun field => (some field.1, field.2)) =
      fields.all fun field => field.2.isSound := by
  induction fields with
  | nil => rfl
  | cons field fields ih => simp [membersAreSound, ih]

@[simp] theorem isSound_record (fields : List (String × Json)) :
    (record fields).isSound = fields.all fun field => field.2.isSound := by
  simp [record, isSound, membersAreSound_map]

/-! ### Faults -/

/-- Why a document is not what was wanted. -/
inductive Fault where
  /-- The text is not JSON, or not usable, at the point that was reached. -/
  | malformed
  /-- The text is JSON but of another form. -/
  | mismatched
  deriving DecidableEq

/-- What is wrong with a value that is not of the wanted form: scalars are read before they are
judged, arrays and objects are judged by their opening. -/
def fault : Json → Fault
  | .broken | .unusable _ => .malformed
  | _ => .mismatched

end Json

end QuizAttempts
