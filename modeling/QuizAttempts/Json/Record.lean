/-
**Reading records out of documents.**

A record is described once, by its fields in their order, and is then read from either of two
forms: an object, whose members may come in any order and among members that mean nothing here, or
an array of the fields in their order.  The description is applicative: each field brings its
name, the way its value is read, and what happens when it is missing.

What is wrong with a document is decided in the order of its text.  Each member is judged when it is
reached; a repeated field is a fault at its name, before its value; a member that means nothing is
passed over, which only needs it to be sound; fields that are missing are noticed at the end.

Main definitions:

* `Json.Reading` — a value or the first fault;
* `Json.asBool`, `Json.asString`, `Json.asInt`, `Json.asFloat`, `Json.asOption`, `Json.asList`,
  `Json.asTag` — the forms of single values;
* `Json.RecordReader` — a description of a record;
* `Json.RecordReader.fromMembers`, `Json.RecordReader.fromObject`, `Json.RecordReader.fromArray`,
  `Json.RecordReader.readObject`, `Json.RecordReader.read` — the record that a document holds.

Main results:

* `Json.scanMembers_nil`, `Json.scanItems_nil_nil` — nothing is wrong with nothing.
-/
import QuizAttempts.Json

set_option autoImplicit false

namespace QuizAttempts.Json

/-- A value, or the first fault on the way to it. -/
abbrev Reading (α : Type) : Type := Except Fault α

/-! ### Single values -/

/-- A truth value. -/
def asBool : Json → Reading Bool
  | .bool b => .ok b
  | j => .error j.fault

/-- A text. -/
def asString : Json → Reading String
  | .string s => .ok s
  | j => .error j.fault

/-- An integer in a range. -/
def asInt (range : Int → Bool) : Json → Reading Int
  | .int n => if range n then .ok n else .error .mismatched
  | j => .error j.fault

/-- A number. -/
def asFloat : Json → Reading Binary64
  | .int n => if (Binary64.ofInt n).isFinite then .ok (Binary64.ofInt n) else .error .malformed
  | .float x => if x.isFinite then .ok x else .error .malformed
  | j => .error j.fault

/-- A value or null. -/
def asOption {α : Type} (inner : Json → Reading α) : Json → Reading (Option α)
  | .null => .ok none
  | j => (inner j).map some

/-- The values of a list of documents, in order. -/
def readEach {α : Type} (inner : Json → Reading α) : List Json → Reading (List α)
  | [] => .ok []
  | j :: rest => do
      let a ← inner j
      let rest ← readEach inner rest
      .ok (a :: rest)

/-- A list. -/
def asList {α : Type} (inner : Json → Reading α) : Json → Reading (List α)
  | .array items => readEach inner items
  | j => .error j.fault

/-- A name out of a table, also as the only member of an object, with null as its value. -/
def asTag {α : Type} (table : List (String × α)) : Json → Reading α
  | .string s | .object [(some s, .null)] =>
      match table.lookup s with
      | some a => .ok a
      | none => .error .mismatched
  | j => .error j.fault

@[simp] theorem readEach_nil {α : Type} (inner : Json → Reading α) :
    readEach inner [] = .ok [] := rfl

/-! ### Descriptions of records -/

/-- A field as far as scanning a document needs it. -/
structure Field where
  name : String
  /-- What is wrong with a value. -/
  check : Json → Reading Unit
  /-- The array form may end before the field. -/
  mayEnd : Bool

/-- A description of a record: its fields, and the record that their values make. -/
structure RecordReader (α : Type) where
  fields : List Field
  build : (String → Option Json) → Reading α

/-- Scans the members of an object; `passes` are the values that may stand under other names, and
`seen` are the names of the fields that have been read. -/
def scanMembers (passes : Json → Bool) (fields : List Field) :
    List String → List (Option String × Json) → Reading Unit
  | _, [] => .ok ()
  | _, (none, _) :: _ => .error .malformed
  | seen, (some name, value) :: rest =>
      match fields.find? (·.name == name) with
      | some field =>
          if seen.contains name then .error .mismatched
          else do
            field.check value
            scanMembers passes fields (name :: seen) rest
      | none => if passes value then scanMembers passes fields seen rest else .error .malformed

/-- Scans the items of an array against the fields; items behind the last field are a fault. -/
def scanItems : List Field → List Json → Reading Unit
  | fields, [] => if fields.all (·.mayEnd) then .ok () else .error .mismatched
  | [], _ :: _ => .error .malformed
  | field :: fields, item :: items => do
      field.check item
      scanItems fields items

@[simp] theorem scanMembers_nil (passes : Json → Bool) (fields : List Field) (seen : List String) :
    scanMembers passes fields seen [] = .ok () := rfl

@[simp] theorem scanItems_nil_nil : scanItems [] [] = .ok () := rfl

/-- The value of a member by its name. -/
def memberOf (members : List (Option String × Json)) (name : String) : Option Json :=
  members.lookup (some name)

namespace RecordReader

/-- The record without fields. -/
protected def pure {α : Type} (a : α) : RecordReader α := ⟨[], fun _ => .ok a⟩

/-- A record from a record of a function and a record of its argument. -/
protected def seq {α β : Type} (f : RecordReader (α → β)) (x : RecordReader α) : RecordReader β :=
  ⟨f.fields ++ x.fields, fun member => do
    let g ← f.build member
    let a ← x.build member
    .ok (g a)⟩

instance : Applicative RecordReader where
  pure := RecordReader.pure
  seq f x := RecordReader.seq f (x ())

/-- A field that has to be there. -/
def required {α : Type} (name : String) (inner : Json → Reading α) : RecordReader α :=
  ⟨[⟨name, fun j => (inner j).map fun _ => (), false⟩], fun member =>
    match member name with
    | some j => inner j
    | none => .error .mismatched⟩

/-- A field that may be null, or missing from an object. -/
def optional {α : Type} (name : String) (inner : Json → Reading α) : RecordReader (Option α) :=
  ⟨[⟨name, fun j => (asOption inner j).map fun _ => (), false⟩], fun member =>
    match member name with
    | some j => asOption inner j
    | none => .ok none⟩

/-- A field with a value of its own when it is missing, also at the end of an array. -/
def defaulted {α : Type} (name : String) (inner : Json → Reading α) (value : α) :
    RecordReader α :=
  ⟨[⟨name, fun j => (inner j).map fun _ => (), true⟩], fun member =>
    match member name with
    | some j => inner j
    | none => .ok value⟩

/-- The record that the members of an object hold; `passes` are the values that may stand under
names that mean nothing. -/
def fromMembers {α : Type} (reader : RecordReader α) (passes : Json → Bool)
    (members : List (Option String × Json)) : Reading α := do
  scanMembers passes reader.fields [] members
  reader.build (memberOf members)

/-- The record that the members of an object hold, among others that are sound. -/
def fromObject {α : Type} (reader : RecordReader α) (members : List (Option String × Json)) :
    Reading α :=
  reader.fromMembers isSound members

/-- The record that the items of an array hold. -/
def fromArray {α : Type} (reader : RecordReader α) (items : List Json) : Reading α := do
  scanItems reader.fields items
  reader.build fun name => ((reader.fields.map (·.name)).zip items).lookup name

/-- The record that an object holds. -/
def readObject {α : Type} (reader : RecordReader α) : Json → Reading α
  | .object members => reader.fromObject members
  | j => .error j.fault

/-- **The record that a document holds**, in either form. -/
def read {α : Type} (reader : RecordReader α) : Json → Reading α
  | .object members => reader.fromObject members
  | .array items => reader.fromArray items
  | j => .error j.fault

end RecordReader

end QuizAttempts.Json
