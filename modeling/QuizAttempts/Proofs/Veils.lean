/-
**Looking at a service through a veil.**

Some of what a service keeps has no part in most of its work: what is written in the quizzes beside
their settings, what the collaborators were told, and whether they listen.  A veil covers such
things: it puts something else in their place, the same for whatever it covers.  As long as a veil
is over things that a step does not look at, the step and the veil may come in either order, with
the same answer; and two services that look alike through it can only be told apart by somebody who
looks behind it.

A program looks behind the veil only where it loads the questions of a quiz, and loads them in
their places.  A veil that leaves the places clear is never noticed.

Main definitions:

* `Veil`, `Veil.overQuestions` — what is put in place of what is covered;
* `Veil.service`, `Veil.session`, `Veil.console`, `Veil.command`, `Veil.happening` — things under a
  veil;
* `Veil.IsClear` — the questions can be seen in their places;
* `Veil.Passes`, `Veil.Fits` — requests and commands that do not look behind a veil.

Main results:

* `Veil.perform`, `Veil.exec` — **operations and programs under a veil**;
* `Veil.run_console`, `Veil.upTo` — commands and histories under a veil;
* `Veil.alike` — **what looks alike stays alike, and answers alike**;
* `Veil.IsClear.alike` — and always does under a clear veil.
-/
import QuizAttempts.Proofs.Operations

set_option autoImplicit false

namespace QuizAttempts

/-- **A veil over a service**: what is seen instead of the quizzes, of what the collaborators were
told, and of whether they listen.  The settings of the quizzes are not covered. -/
structure Veil where
  quiz : Quiz → Quiz
  completed : Progress → Progress
  progressBroken : Bool → Bool
  eventsBroken : Bool → Bool
  events : List SubmissionEvent → List SubmissionEvent
  settings : ∀ q, (quiz q).settings = q.settings
  published : ∀ q, (quiz q).published = quiz q.published
  /-- A lesson is completed under the veil, or the veil covers it. -/
  complete : ∀ broken progress enrollment lesson,
    (if progressBroken broken then completed progress
      else (completed progress).complete enrollment lesson) =
    completed (if broken then progress else progress.complete enrollment lesson)
  /-- An event is announced under the veil, or the veil covers it. -/
  announce : ∀ broken told event,
    (if eventsBroken broken then events told else events told ++ [event]) =
    events (if broken then told else told ++ [event])

namespace Veil

/-- **A veil over questions only.** -/
def overQuestions (quiz : Quiz → Quiz) (settings : ∀ q, (quiz q).settings = q.settings)
    (published : ∀ q, (quiz q).published = quiz q.published) : Veil where
  quiz := quiz
  completed := id
  progressBroken := id
  eventsBroken := id
  events := id
  settings := settings
  published := published
  complete broken _ _ _ := by cases broken <;> rfl
  announce _ _ _ := rfl

variable (v : Veil)

/-- The veil lets the questions be seen in their places. -/
def IsClear : Prop := ∀ q, (v.quiz q).sorted = q.sorted

/-- The store under the veil. -/
def store (store : Store) : Store :=
  { store with
    quizzes := store.quizzes.map v.quiz
    completed := v.completed store.completed }

/-- **The service under the veil.** -/
def service (s : Service) : Service :=
  { s with
    store := v.store s.store
    progressBroken := v.progressBroken s.progressBroken
    eventsBroken := v.eventsBroken s.eventsBroken
    events := v.events s.events }

/-- The session under the veil. -/
def session (s : Session) : Session := { s with service := v.service s.service }

/-- The console under the veil. -/
def console (console : Console) : Console := console.withService (v.service console.service)

/-- The command with what it puts in and what it breaks under the veil. -/
def command : Command → Command
  | .putQuiz quiz => .putQuiz (v.quiz quiz)
  | .adjust collisions progressBroken eventsBroken =>
      .adjust collisions (progressBroken.map v.progressBroken) (eventsBroken.map v.eventsBroken)
  | command => command

/-- The same of what happens. -/
def happening : Happening → Happening
  | .given command => .given (v.command command)
  | passing => passing

/-! ### The store -/

section Store

variable (store : Store)

theorem quizSettings? (id : Int) : (v.store store).quizSettings? id = store.quizSettings? id := by
  simp only [Store.quizSettings?, Veil.store, Table.get?_map, Option.map_map]
  exact congrArg (Option.map · (store.quizzes.get? id)) (funext v.settings)

variable {v} in
theorem IsClear.quiz? (hclear : v.IsClear) (id : Int) :
    (v.store store).quiz? id = store.quiz? id := by
  simp only [Store.quiz?, Veil.store, Table.get?_map, Option.map_map]
  exact congrArg (Option.map · (store.quizzes.get? id)) (funext hclear)

theorem putQuiz (quiz : Quiz) :
    (v.store store).putQuiz (v.quiz quiz) = v.store (store.putQuiz quiz) := by
  have hid : (v.quiz quiz).id = quiz.id := congrArg (·.id) (v.settings quiz)
  simp only [Store.putQuiz, Veil.store, Table.map_insert, hid]

theorem publish? (id : Int) :
    (v.store store).publish? id = (store.publish? id).map v.store := by
  simp only [Store.publish?, Veil.store, Table.get?_map]
  cases store.quizzes.get? id with
  | none => rfl
  | some quiz => simp only [Option.map_some, Veil.store, Table.map_insert, v.published]

end Store

/-! ### Transactions -/

section Transactions

variable (tx : Transaction) (store : Store)

/-- A transaction does not look at what can be covered. -/
theorem lock? (others : List Int) (student course : Int) :
    tx.lock? (v.store store) others student course = tx.lock? store others student course := rfl

theorem save? (final : Attempt) : tx.save? (v.store store) final = tx.save? store final := rfl

theorem insert (new : NewAttempt) :
    tx.insert (v.store store) new = Prod.map v.store id (tx.insert store new) := by
  have hvisible : ∀ p, tx.visible (v.store store) p = tx.visible store p := fun _ => rfl
  have hallocate : (v.store store).allocate = v.store store.allocate := rfl
  have hallocated : (v.store store.allocate).allocated = store.allocate.allocated := rfl
  simp only [Transaction.insert, hvisible, hallocate, hallocated]
  split <;> rfl

theorem commit : tx.commit (v.store store) = (tx.commit store).map v.store := by
  have hcollision : tx.collision? (v.store store) = tx.collision? store := rfl
  simp only [Transaction.commit, hcollision]
  split <;> rfl

end Transactions

/-! ### Programs -/

theorem completeLesson (s : Session) (enrollment lesson : Int) :
    (v.session s).completeLesson enrollment lesson =
      v.session (s.completeLesson enrollment lesson) := by
  have heq : ∀ s : Session, s.completeLesson enrollment lesson = s.withStore { s.service.store with
      completed := if s.service.progressBroken then s.service.store.completed
        else s.service.store.completed.complete enrollment lesson } := by
    intro s
    unfold Session.completeLesson
    cases s.service.progressBroken <;> rfl
  rw [heq, heq s]
  exact congrArg (fun completed => (v.session s).withStore
    { (v.session s).service.store with completed := completed }) (v.complete ..)

theorem announces (s : Session) (event : SubmissionEvent) :
    (v.session s).announce event = v.session (s.announce event) := by
  have heq : ∀ s : Session, s.announce event = { s with service := { s.service with
      events := if s.service.eventsBroken then s.service.events
        else s.service.events ++ [event] } } := by
    intro s
    unfold Session.announce
    cases s.service.eventsBroken <;> rfl
  rw [heq, heq s]
  exact congrArg (fun events => { v.session s with service :=
    { (v.session s).service with events := events } }) (v.announce ..)

/-- **An operation and the veil may come in either order**, unless it looks at covered questions. -/
theorem perform {op : Op} (hop : ∀ id, op = .quiz id → v.IsClear) (others : List Int)
    (s : Session) :
    (v.session s).perform others op = (s.perform others op).map (Prod.map v.session id) := by
  cases op with
  | quiz id => exact congrArg (fun found => some (v.session s, found)) ((hop id rfl).quiz? _ id)
  | quizSettings id =>
      exact congrArg (fun found => some (v.session s, found)) (v.quizSettings? _ id)
  | lockEnrollment student course =>
      have hlock := v.lock? s.tx s.service.store others student course
      simp only [Session.perform, session, service, hlock, Option.map_map]
      rfl
  | insert new =>
      obtain ⟨⟨store, clock, instant, cache, pending, progress, broken, events⟩, tx⟩ := s
      cases pending with
      | succ n => rfl
      | zero =>
          simp only [Session.perform, Session.insert, session, service, v.insert]
          obtain ⟨store, result⟩ := tx.insert store new
          cases result <;> rfl
  | save final =>
      simp only [Session.perform, Session.save, session, service, v.save?]
      cases s.tx.save? s.service.store final <;> rfl
  | commit =>
      simp only [Session.perform, Session.commit, session, service, v.commit]
      cases s.tx.commit s.service.store <;> rfl
  | publish id =>
      simp only [Session.perform, Session.publish, session, service, v.publish?]
      cases s.service.store.publish? id <;> rfl
  | completeLesson enrollment lesson =>
      exact congrArg (fun after => some (after, ())) (v.completeLesson s enrollment lesson)
  | announce event => exact congrArg (fun after => some (after, ())) (v.announces s event)
  | _ => rfl

/-- **A program and the veil may come in either order**, unless it loads covered questions. -/
theorem exec {α : Type} {allowed : Op → Bool} {p : Program α} (h : p.Uses allowed)
    (hallowed : ∀ id, allowed (.quiz id) = true → v.IsClear) (others : List Int) (s : Session) :
    p.exec others (v.session s) = Prod.map v.session id (p.exec others s) := by
  induction h generalizing s with
  | @step op next hop _ ih =>
      rw [Program.exec, v.perform fun id heq => hallowed id (heq ▸ hop), Program.exec]
      cases s.perform others op with
      | none => rfl
      | some r => exact ih r.2 r.1
  | _ => rfl

theorem run {α : Type} {allowed : Op → Bool} {p : Program α} (h : p.Uses allowed)
    (hallowed : ∀ id, allowed (.quiz id) = true → v.IsClear) (others : List Int) (s : Service) :
    (v.service s).run others p = Prod.map v.service id (s.run others p) := by
  have hexec := v.exec h hallowed others ⟨s, Transaction.fresh⟩
  have houtcome := congrArg Prod.snd hexec
  exact Prod.ext (congrArg (·.1.service) hexec) houtcome

/-! ### Commands -/

/-- **The request does not look behind the veil.** -/
def Passes (request : Request) : Prop :=
  ∀ (others : List Int) (s : Service), (v.service s).run others request.program =
    Prod.map v.service id (s.run others request.program)

/-- **The command does not look behind the veil**: it makes no request that does, and shows no
covered questions. -/
structure Fits (command : Command) : Prop where
  request : ∀ request, command.request? = some request → v.Passes request
  shown : ∀ id, command = .showQuiz id true → v.IsClear

theorem respond (others : List Int) (keys : Http.Keyring) (shuffle : Shuffle)
    (message : Http.Message) (h : v.Fits (.message keys shuffle message)) (s : Service) :
    (v.service s).respond others keys shuffle message =
      Prod.map v.service id (s.respond others keys shuffle message) := by
  unfold Service.respond
  cases hread : Http.interpret keys shuffle message with
  | error response => rfl
  | ok request =>
      have hpasses : v.Passes request :=
        h.request request (by rw [Command.request?, hread, Except.toOption])
      simp only [hpasses others s]
      rfl

/-- A step of a transaction does not look at what can be covered. -/
theorem runStep (console : Console) (name : String) (tx : Transaction) (step : TxStep) :
    (v.console console).runStep name tx step =
      Prod.map v.console id (console.runStep name tx step) := by
  have hstore : (v.console console).service.store = v.store console.service.store := rfl
  cases step with
  | commit =>
      simp only [Console.runStep, hstore, v.commit]
      cases tx.commit console.service.store <;> rfl
  | lockEnrollment student course =>
      have hlocked :
          ((v.console console).without name).locked = (console.without name).locked := rfl
      simp only [Console.runStep, hlocked, hstore, v.lock?]
      cases tx.lock? console.service.store (console.without name).locked student course <;> rfl
  | insert new =>
      simp only [Console.runStep, hstore, v.insert]
      obtain ⟨store, result⟩ := tx.insert console.service.store new
      cases result <;> rfl
  | save final =>
      simp only [Console.runStep, hstore, v.save?]
      cases tx.save? console.service.store final <;> rfl
  | _ => rfl

/-- **A command and the veil may come in either order**, unless it looks behind the veil. -/
theorem run_console (console : Console) {command : Command} (h : v.Fits command) :
    (v.console console).run (v.command command) = Prod.map v.console id (console.run command) := by
  have hservice : (v.console console).service = v.service console.service := rfl
  have hlocked : (v.console console).locked = console.locked := rfl
  have hstore : (v.service console.service).store = v.store console.service.store := rfl
  cases command with
  | request request =>
      have hpasses := h.request request rfl console.locked console.service
      simp only [Console.run, Veil.command, hservice, hlocked, hpasses]
      obtain ⟨service, outcome⟩ := console.service.run console.locked request.program
      cases outcome <;> rfl
  | message keys shuffle message =>
      simp only [Console.run, Veil.command, hservice, hlocked, v.respond _ _ _ _ h]
      obtain ⟨service, outcome⟩ := console.service.respond console.locked keys shuffle message
      cases outcome <;> rfl
  | advance nanos =>
      have hclock : (v.service console.service).clock = console.service.clock := rfl
      simp only [Console.run, Veil.command, hservice, hclock]
      cases console.service.clock.advance? nanos <;> rfl
  | putQuiz quiz =>
      exact congrArg
        (fun store => ((v.console console).withStore store, Outcome.done Answer.nothing))
        (v.putQuiz console.service.store quiz)
  | adjust collisions progressBroken eventsBroken =>
      cases progressBroken <;> cases eventsBroken <;> rfl
  | showQuiz id withQuestions =>
      cases withQuestions with
      | true =>
          exact congrArg (fun found => (v.console console, Outcome.done (Answer.quiz found)))
            ((h.shown id rfl).quiz? console.service.store id)
      | false =>
          exact congrArg (fun found => (v.console console, Outcome.done (Answer.quiz found)))
            (v.quizSettings? console.service.store id)
  | publish id =>
      simp only [Console.run, Veil.command, hservice, hstore, v.publish?]
      cases console.service.store.publish? id <;> rfl
  | step name step =>
      have htx : (v.console console).tx? name = console.tx? name := rfl
      simp only [Console.run, Veil.command, htx]
      cases console.tx? name with
      | none => rfl
      | some tx => exact v.runStep console name tx step
  | _ => rfl

/-! ### Histories -/

theorem undergo (console : Console) {happening : Happening}
    (h : ∀ command, happening = .given command → v.Fits command) :
    (v.console console).undergo (v.happening happening) =
      v.console (console.undergo happening) := by
  cases happening with
  | passes nanos => rfl
  | given command => exact congrArg Prod.fst (v.run_console console (h command rfl))

/-- **A history and the veil may come in either order**, unless it looks behind the veil. -/
theorem upTo (console : Console) {history : List Happening}
    (h : ∀ command, Happening.given command ∈ history → v.Fits command) (n : Nat) :
    (v.console console).upTo (history.map v.happening) n = v.console (console.upTo history n) := by
  induction n with
  | zero => rfl
  | succ n ih =>
      have hmap : (history.map v.happening)[n]? = history[n]?.map v.happening :=
        List.getElem?_map ..
      cases hhappening : history[n]? with
      | none =>
          rw [hhappening] at hmap
          rw [Console.upTo_succ_of_none hmap, Console.upTo_succ_of_none hhappening, ih]
      | some happening =>
          rw [hhappening] at hmap
          have hmem := List.mem_of_getElem? hhappening
          rw [Console.upTo_succ hmap, Console.upTo_succ hhappening, ih,
            v.undergo _ fun command heq => h command (heq ▸ hmem)]

/-- **What looks alike through a veil stays alike and answers alike**, unless somebody looks behind
the veil. -/
theorem alike {c d : Console} (hconsoles : v.console c = v.console d)
    {history other : List Happening}
    (hhistories : history.map v.happening = other.map v.happening)
    (hhistory : ∀ command, Happening.given command ∈ history → v.Fits command)
    (hother : ∀ command, Happening.given command ∈ other → v.Fits command) (n : Nat) :
    v.console (c.upTo history n) = v.console (d.upTo other n) ∧
    ∀ command command', history[n]? = some (.given command) → other[n]? = some (.given command') →
      ((c.upTo history n).run command).2 = ((d.upTo other n).run command').2 := by
  have hsame : v.console (c.upTo history n) = v.console (d.upTo other n) := by
    rw [← v.upTo c hhistory, ← v.upTo d hother, hconsoles, hhistories]
  refine ⟨hsame, fun command command' hcommand hcommand' => ?_⟩
  have hn := congrArg (·[n]?) hhistories
  simp only [List.getElem?_map, hcommand, hcommand', Option.map_some, Option.some.injEq] at hn
  have hcommands : v.command command = v.command command' := Happening.given.inj hn
  have hc := v.run_console (c.upTo history n) (hhistory _ (List.mem_of_getElem? hcommand))
  have hd := v.run_console (d.upTo other n) (hother _ (List.mem_of_getElem? hcommand'))
  rw [hsame, hcommands, hd] at hc
  exact (congrArg Prod.snd hc).symm

/-! ### Clear veils -/

section Clear

variable {v}

/-- **Nothing looks behind a clear veil.** -/
theorem IsClear.fits (hclear : v.IsClear) (command : Command) : v.Fits command :=
  ⟨fun request _ => v.run (.any request.program) fun _ _ => hclear, fun _ _ => hclear⟩

/-- **What looks alike through a clear veil stays alike and answers alike**, whatever happens. -/
theorem IsClear.alike (hclear : v.IsClear) {c d : Console} (hconsoles : v.console c = v.console d)
    {history other : List Happening}
    (hhistories : history.map v.happening = other.map v.happening) (n : Nat) :
    v.console (c.upTo history n) = v.console (d.upTo other n) ∧
    ∀ command command', history[n]? = some (.given command) → other[n]? = some (.given command') →
      ((c.upTo history n).run command).2 = ((d.upTo other n).run command').2 :=
  v.alike hconsoles hhistories (fun command _ => hclear.fits command)
    (fun command _ => hclear.fits command) n

end Clear

end Veil

end QuizAttempts
