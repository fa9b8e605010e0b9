/-
**Messages.**

A message has a method, an address, some headers and a body.  The method is a name, the address has
to be one, and no header breaks off or controls anything: what is not written like this is no
message, and nobody answers it.

Main definitions:

* `Http.Message` — what comes in;
* `Http.isMethod`, `Http.isHeader` — what may stand for a method and in a header;
* `Http.Message.read?` — **the message of its parts**, if they make one.

Main results:

* `Http.Message.isMethod_of_read?` — the method of a message is a name.
-/
import QuizAttempts.Http.Address
import QuizAttempts.Http.MediaType

set_option autoImplicit false

namespace QuizAttempts.Http

/-- A message that comes in. -/
structure Message where
  method : String
  address : Address
  authorization : Option String
  contentType : Option String
  body : String
  deriving DecidableEq

/-- The text may stand for a method. -/
def isMethod (text : String) : Bool := !text.isEmpty && text.toList.all isNameChar

/-- The character may stand in a header: no control character but the tabulator. -/
def isHeaderChar (c : Char) : Bool := c == '\t' || (31 < c.toNat && c.toNat != 127)

/-- The text may stand in a header. -/
def isHeader (text : String) : Bool := text.toList.all isHeaderChar

/-- **The message of its parts**, if they make one. -/
def Message.read? (method address : String) (authorization contentType : Option String)
    (body : String) : Option Message := do
  let address ← Address.read? address
  if isMethod method && authorization.all isHeader && contentType.all isHeader then
    some ⟨method, address, authorization, contentType, body⟩
  else none

theorem Message.isMethod_of_read? {method address : String}
    {authorization contentType : Option String} {body : String} {message : Message}
    (h : read? method address authorization contentType body = some message) :
    isMethod message.method = true := by
  simp only [read?, Option.bind_eq_bind, Option.bind_eq_some_iff] at h
  obtain ⟨a, -, h⟩ := h
  split at h
  next hm =>
    obtain rfl := Option.some.inj h
    simp_all
  next => simp at h

end QuizAttempts.Http
