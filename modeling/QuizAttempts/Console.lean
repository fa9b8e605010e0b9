/-
**The console: a service that is driven step by step.**

Beside the requests that anybody may make, the console moves the clock, puts records into the
store, breaks and repairs the collaborators, looks into the store, and works on attempts through
transactions of its own, each under a name.  Several of them may be under way at once, in any
interleaving of their steps with one another and with requests.  Each holds the locks that it took
until it ends, and whatever needs one of them meanwhile would have to wait: a request is cancelled
then, and a transaction is left as it was.

Main definitions:

* `Console` — a service and the transactions that are under way;
* `Command` — what can be done;
* `Answer` — what can come of it;
* `Console.run` — **one command**.

Main results:

* `Console.run_begin`, `Console.run_drop` — neither touches the service.
-/
import QuizAttempts.Http.Exchange

set_option autoImplicit false

namespace QuizAttempts

/-- A service and the transactions that are under way, by their names. -/
structure Console where
  service : Service
  live : List (String × Transaction)

/-- A step of a transaction. -/
inductive TxStep where
  | commit
  | drop
  | lockEnrollment (student course : Int)
  | lockOpenAttempt (enrollment quiz : Int)
  | lockLatestNumber (enrollment quiz : Int)
  | lockAttempt (id : Int)
  | insert (new : NewAttempt)
  | save (final : Attempt)

/-- What can be done. -/
inductive Command where
  | request (request : Request)
  | message (keys : Http.Keyring) (shuffle : Shuffle) (message : Http.Message)
  /-- Moves the clock by nanoseconds, either way. -/
  | advance (nanos : Int)
  | putQuiz (quiz : Quiz)
  | putLesson (lesson : Lesson)
  | putEnrollment (enrollment : Enrollment)
  /-- Makes the next inserts of requests collide, and breaks or repairs the collaborators. -/
  | adjust (collisions : Option Nat) (progressBroken eventsBroken : Option Bool)
  | showQuiz (id : Int) (withQuestions : Bool)
  | showLesson (id : Int)
  | showAttempts (enrollment quiz : Int)
  /-- Marks a quiz as published, whatever its questions. -/
  | publish (quiz : Int)
  | begin (name : String)
  | step (name : String) (step : TxStep)

/-- What can come of a command. -/
inductive Answer where
  | nothing
  | reply (reply : Reply)
  | response (response : Http.Response)
  | quiz (quiz : Option Quiz)
  | lesson (lesson : Option Lesson)
  | attempts (attempts : List Attempt)
  | enrollment (enrollment : Option Enrollment)
  | attempt (attempt : Option Attempt)
  | number (number : Int)
  /-- There is no transaction of that name. -/
  | noTransaction

namespace Console

/-- The console of a service, with no transaction under way. -/
def ofService (service : Service) : Console := ⟨service, []⟩

/-- The transaction of a name. -/
def tx? (console : Console) (name : String) : Option Transaction := console.live.lookup name

/-- The console without the transaction of a name. -/
def without (console : Console) (name : String) : Console :=
  { console with live := console.live.filter (·.1 != name) }

/-- The console with a transaction under a name. -/
def withTx (console : Console) (name : String) (tx : Transaction) : Console :=
  { console with live := (name, tx) :: (console.without name).live }

/-- The enrollments that are locked. -/
def locked (console : Console) : List Int := console.live.flatMap (·.2.held)

/-- The console with another service. -/
def withService (console : Console) (service : Service) : Console :=
  { console with service := service }

/-- The console with another store. -/
def withStore (console : Console) (store : Store) : Console :=
  console.withService { console.service with store := store }

/-- **One step of a transaction.** -/
def runStep (console : Console) (name : String) (tx : Transaction) :
    TxStep → Console × Outcome Answer
  | .commit =>
      match tx.commit console.service.store with
      | .ok store => ((console.without name).withStore store, .done .nothing)
      | .error taken => (console.without name, .refused (.taken taken.number))
  | .drop => (console.without name, .done .nothing)
  | .lockEnrollment student course =>
      match tx.lock? console.service.store (console.without name).locked student course with
      | some (tx, enrollment) => (console.withTx name tx, .done (.enrollment enrollment))
      | none => (console, .blocked)
  | .lockOpenAttempt enrollment quiz =>
      (console, .done (.attempt (tx.openAttempt? console.service.store enrollment quiz)))
  | .lockLatestNumber enrollment quiz =>
      (console, .done (.number (tx.latestNumber console.service.store enrollment quiz)))
  | .lockAttempt id => (console, .done (.attempt (tx.attempt? console.service.store id)))
  | .insert new =>
      match tx.insert console.service.store new with
      | (store, .ok (tx, a)) => ((console.withTx name tx).withStore store, .done (.attempt a))
      | (store, .error taken) => (console.withStore store, .refused (.taken taken.number))
  | .save final =>
      match tx.save? console.service.store final with
      | some tx => (console.withTx name tx, .done .nothing)
      | none => (console, .refused (.notInProgress final.id))

/-- **One command.** -/
def run (console : Console) : Command → Console × Outcome Answer
  | .request request =>
      match console.service.run console.locked request.program with
      | (service, .done reply) => (console.withService service, .done (.reply reply))
      | (service, .refused why) => (console.withService service, .refused why)
      | (service, .overflow) => (console.withService service, .overflow)
      | (service, .blocked) => (console.withService service, .blocked)
  | .message keys shuffle message =>
      match console.service.respond console.locked keys shuffle message with
      | (service, .done response) => (console.withService service, .done (.response response))
      | (service, .refused why) => (console.withService service, .refused why)
      | (service, .overflow) => (console.withService service, .overflow)
      | (service, .blocked) => (console.withService service, .blocked)
  | .advance nanos =>
      match console.service.clock.advance? nanos with
      | some clock => (console.withService { console.service with clock := clock }, .done .nothing)
      | none => (console, .overflow)
  | .putQuiz quiz => (console.withStore (console.service.store.putQuiz quiz), .done .nothing)
  | .putLesson lesson =>
      (console.withStore (console.service.store.putLesson lesson), .done .nothing)
  | .putEnrollment enrollment =>
      (console.withStore (console.service.store.putEnrollment enrollment), .done .nothing)
  | .adjust collisions progressBroken eventsBroken =>
      let service := console.service
      (console.withService { service with
        pendingCollisions := collisions.getD service.pendingCollisions
        progressBroken := progressBroken.getD service.progressBroken
        eventsBroken := eventsBroken.getD service.eventsBroken }, .done .nothing)
  | .showQuiz id true => (console, .done (.quiz (console.service.store.quiz? id)))
  | .showQuiz id false => (console, .done (.quiz (console.service.store.quizSettings? id)))
  | .showLesson id => (console, .done (.lesson (console.service.store.lesson? id)))
  | .showAttempts enrollment quiz =>
      (console, .done (.attempts (console.service.store.attemptsOf enrollment quiz)))
  | .publish quiz =>
      match console.service.store.publish? quiz with
      | some store => (console.withStore store, .done .nothing)
      | none => (console, .refused .noQuiz)
  | .begin name => (console.withTx name Transaction.fresh, .done .nothing)
  | .step name step =>
      match console.tx? name with
      | some tx => console.runStep name tx step
      | none => (console, .done .noTransaction)

@[simp] theorem run_begin (console : Console) (name : String) :
    (console.run (.begin name)).1.service = console.service := rfl

@[simp] theorem run_drop (console : Console) (name : String) :
    (console.run (.step name .drop)).1.service = console.service := by
  simp only [run]
  cases console.tx? name <;> rfl

end Console

end QuizAttempts
