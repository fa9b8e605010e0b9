/-
**Requests and responses.**

What is wrong with a request is found in a fixed order: the address, who is asking, the method,
the parameters in the address, the kind of the body, the body, the size of the submission, and
what the claims of the token name.  Only then is anything done.  A request that only asks what may
be asked is answered before all of this.

Main definitions:

* `Http.Response` — what is sent back to a message;
* `Http.authenticate` — the claims of the token that comes with a message;
* `Http.readBody` — the answers in the body of a submission;
* `Http.interpret` — **the request that a message makes**, or the response that it gets at once;
* `Http.answer` — the response to the outcome of a request;
* `Service.respond` — both together.

Main results:

* `Http.interpret_of_unknown_path` — **an unknown address is unknown to everybody**.
-/
import QuizAttempts.Attempt.Json
import QuizAttempts.Http.Message
import QuizAttempts.Http.Route
import QuizAttempts.Lifecycle
import QuizAttempts.Service
import QuizAttempts.TakePayload.Json
import QuizAttempts.Token

set_option autoImplicit false

namespace QuizAttempts

namespace Http

/-- What is sent back; a response without a document has no body worth reading. -/
structure Response where
  status : Nat
  body : Option Json

/-- A response without a document. -/
def Response.bare (status : Nat) : Response := ⟨status, none⟩

/-- The response to a refusal. -/
def Response.ofReport (report : Report) : Response := ⟨report.status, some report.body⟩

/-- What a service needs to know about tokens: their secret, and the present second. -/
structure Keyring where
  secret : String
  now : Nat
  deriving DecidableEq

/-! ### Who is asking -/

/-- The word in front of a token. -/
def bearer : List Char := ['B', 'e', 'a', 'r', 'e', 'r', ' ']

/-- **The claims of the token that comes with a message**, if it is good. -/
def authenticate (keys : Keyring) (message : Message) : Option Claims := do
  let header ← message.authorization
  let token ←
    if bearer.isPrefixOf header.toList then some (header.toList.drop bearer.length) else none
  verifyToken? keys.secret.toList keys.now token

/-! ### What is asked for -/

/-- A parameter, or the response to a bad one. -/
def parameter (text : List Char) : Except Response Int :=
  match readParameter? text with
  | some n => .ok n
  | none => .error (.bare 400)

/-- **The answers in the body of a submission.**  What breaks off before it is of a wrong form is
malformed; what is of a wrong form before it breaks off is not what was wanted. -/
def readBody (message : Message) : Except Response (List SubmittedAnswer) :=
  if !message.contentType.any (isJsonType ·.toList) then .error (.bare 415)
  else
    let (j, rest) := Json.read (message.body.toList.map some)
    match readSubmission j with
    | .error .malformed => .error (.bare 400)
    | .error .mismatched => .error (.bare 422)
    | .ok answers => if Json.isSpaceOnly rest then .ok answers else .error (.bare 400)

/-- The response to a refusal, in place of a value. -/
def orRefused {α ε : Type} (why : ε → Refusal) (value : Except ε α) : Except Response α :=
  value.mapError fun e => Response.ofReport (why e).report

/-- The caller that claims name. -/
def caller (claims : Claims) : Except Response Actor := orRefused .claims claims.actor

/-- The request that is made at a place with a method that it knows. -/
def Place.request (place : Place) (shuffle : Shuffle) (message : Message) (claims : Claims) :
    Except Response Request :=
  match place with
  | .take quiz => do
      let quiz ← parameter quiz
      return .take quiz (← caller claims) shuffle
  | .attempts quiz => do
      let quiz ← parameter quiz
      let actor ← caller claims
      return if message.method == "POST" then .start quiz actor else .list quiz actor
  | .attempt quiz id => do
      let quiz ← parameter quiz
      let id ← parameter id
      return .get quiz id (← caller claims)
  | .submit quiz id => do
      let quiz ← parameter quiz
      let id ← parameter id
      let answers ← readBody message
      let answers ← orRefused (fun why => why) (limitAnswers answers)
      return .submit quiz id answers (← caller claims)
  | .publish quiz => do
      let quiz ← parameter quiz
      return .publish quiz (← caller claims)

/-- **The request that a message makes**, or the response that it gets at once. -/
def interpret (keys : Keyring) (shuffle : Shuffle) (message : Message) : Except Response Request :=
  if message.method == "OPTIONS" then .error (.bare 200)
  else
    match Place.ofPath? message.address.path with
    | none => .error (.bare 404)
    | some place =>
        match authenticate keys message with
        | none => .error (.bare 401)
        | some claims =>
            if place.allows message.method then place.request shuffle message claims
            else .error (.bare 405)

theorem interpret_of_unknown_path {message : Message} (keys : Keyring) (shuffle : Shuffle)
    (hm : message.method ≠ "OPTIONS")
    (hp : Place.ofPath? message.address.path = none) :
    interpret keys shuffle message = .error (.bare 404) := by
  simp [interpret, hm, hp]

/-! ### The answer -/

/-- The document that a request is answered with, under its status. -/
def ofReply : Reply → Response
  | .started a => ⟨201, some (a.view true).toJson⟩
  | .payload payload => ⟨200, some payload.toJson⟩
  | .view view => ⟨200, some view.toJson⟩
  | .views views => ⟨200, some (.ofList AttemptView.toJson views)⟩
  | .published quiz => ⟨200, some (.record [("id", .int quiz), ("is_published", .bool true)])⟩

/-- **The response to the outcome of a request**; a request that is stuck or out of range has
none. -/
def answer : Outcome Reply → Outcome Response
  | .done reply => .done (ofReply reply)
  | .refused why => .done (.ofReport why.report)
  | .overflow => .overflow
  | .blocked => .blocked

/-- The response as it is sent: one that only tells whether a request could be made has no body. -/
def Response.sent (message : Message) (response : Response) : Response :=
  if message.method == "HEAD" then .bare response.status else response

/-- The outcome of a message with its response as it is sent. -/
def sent (message : Message) : Outcome Response → Outcome Response
  | .done response => .done (response.sent message)
  | outcome => outcome

end Http

/-- **What a service answers to a message**, and what has become of it. -/
def Service.respond (service : Service) (others : List Int) (keys : Http.Keyring)
    (shuffle : Shuffle) (message : Http.Message) : Service × Outcome Http.Response :=
  match Http.interpret keys shuffle message with
  | .error response => (service, .done (response.sent message))
  | .ok request =>
      let (service, outcome) := service.run others request.program
      (service, Http.sent message (Http.answer outcome))

end QuizAttempts
