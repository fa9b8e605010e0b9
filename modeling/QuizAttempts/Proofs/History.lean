/-
**Histories: one command after another.**

A console is driven by commands, and its history is the list of them.  What holds of a console
after every history is shown one command at a time, and a command is one of four things: it runs
the program of a request, it leaves the records and the transactions under way alone, it begins a
transaction, or it is one step of one.

A history in which no transaction is begun by hand writes attempts through requests only.  The
states that such histories reach from a store in which there is nothing are the ones that a
service can really be in.

Main definitions:

* `Console.after` — a console after a history;
* `Command.request?` — the request that a command makes;
* `Happening`, `Console.upTo` — commands with the time that passes between them;
* `Service.SameRecords` — what requests write is as it was;
* `Command.isManaged`, `Service.Managed` — commands that are no step of a transaction begun by
  hand, and the services that they reach;
* `Service.blank`, `classroom`, `examination`, `learner`, `threeAttempts` — a service to begin with,
  what to put into it, and what to do there.

Main results:

* `Console.run_cases` — **what one command can do**;
* `Console.after_keeps` — what every command keeps is kept by every history.
-/
import QuizAttempts.Console

set_option autoImplicit false

namespace QuizAttempts

namespace Console

/-! ### Histories -/

/-- **The console after a history.** -/
def after (console : Console) (commands : List Command) : Console :=
  commands.foldl (fun console command => (console.run command).1) console

@[simp] theorem after_nil (console : Console) : console.after [] = console := rfl

@[simp] theorem after_cons (console : Console) (command : Command) (commands : List Command) :
    console.after (command :: commands) = (console.run command).1.after commands := rfl

theorem after_append (console : Console) (commands more : List Command) :
    console.after (commands ++ more) = (console.after commands).after more :=
  List.foldl_append

/-- **What every command keeps is kept by every history**, where the commands are of an allowed kind
and the states on the way have a property. -/
theorem after_keeps (allowed : Command → Prop) (during kept : Console → Prop)
    (hstep : ∀ {console : Console} {command : Command}, allowed command → during console →
      during (console.run command).1 → kept console → kept (console.run command).1)
    {console : Console} {commands : List Command} (hallowed : ∀ command ∈ commands, allowed command)
    (hduring : ∀ earlier, earlier <+: commands → during (console.after earlier))
    (h : kept console) : kept (console.after commands) := by
  induction commands generalizing console with
  | nil => exact h
  | cons command commands ih =>
      have hhere : during console := hduring [] (List.nil_prefix ..)
      have hthere : during (console.run command).1 :=
        hduring [command] ((List.prefix_cons_inj _).2 (List.nil_prefix ..))
      refine ih (fun c hc => hallowed c (List.mem_cons_of_mem _ hc)) (fun earlier hearlier => ?_)
        (hstep (hallowed command (List.mem_cons_self ..)) hhere hthere h)
      exact hduring (command :: earlier) ((List.prefix_cons_inj _).2 hearlier)

end Console

/-! ### One command -/

/-- The attempts, the completed lessons and the events are as they were. -/
structure Service.SameRecords (s t : Service) : Prop where
  attempts : t.store.attempts = s.store.attempts
  allocated : t.store.allocated = s.store.allocated
  completed : t.store.completed = s.store.completed
  events : t.events = s.events

theorem Service.SameRecords.refl (s : Service) : s.SameRecords s := ⟨rfl, rfl, rfl, rfl⟩

/-- **The request that a command makes**, whether it is made as one or by a message. -/
def Command.request? : Command → Option Request
  | .request made => some made
  | .message keys shuffle sent => (Http.interpret keys shuffle sent).toOption
  | _ => none

namespace Console

/-- The transactions and the records are as they were. -/
structure SameRecords (before after : Console) : Prop where
  live : after.live = before.live
  records : before.service.SameRecords after.service

/-- **What one command can do**: run the program of a request, leave the records alone, begin a
transaction or take one step in one. -/
theorem run_cases (console : Console) (command : Command) :
    (∃ request, command.request? = some request ∧ (console.run command).1 =
      console.withService (console.service.run console.locked request.program).1) ∨
    (command.request? = none ∧ SameRecords console (console.run command).1) ∨
    (∃ name, command = .begin name ∧
      (console.run command).1 = console.withTx name Transaction.fresh) ∨
    (∃ name step tx, command = .step name step ∧ console.tx? name = some tx ∧
      console.run command = console.runStep name tx step) := by
  have hsame : SameRecords console console := ⟨rfl, .refl _⟩
  cases command with
  | request request =>
      refine Or.inl ⟨request, rfl, ?_⟩
      simp only [run]
      split <;> rename_i heq <;> rw [heq]
  | message keys shuffle message =>
      simp only [run, Service.respond, Command.request?]
      cases Http.interpret keys shuffle message with
      | error response => exact Or.inr (Or.inl ⟨rfl, hsame⟩)
      | ok request =>
          refine Or.inl ⟨request, rfl, ?_⟩
          split <;> rename_i heq <;> exact congrArg console.withService (congrArg Prod.fst heq).symm
  | advance nanos =>
      refine Or.inr (Or.inl ⟨rfl, ?_⟩)
      simp only [run]
      split <;> exact ⟨rfl, rfl, rfl, rfl, rfl⟩
  | publish quiz =>
      refine Or.inr (Or.inl ⟨rfl, ?_⟩)
      simp only [run, Store.publish?]
      cases console.service.store.quizzes.get? quiz <;> exact ⟨rfl, rfl, rfl, rfl, rfl⟩
  | showQuiz id withQuestions =>
      refine Or.inr (Or.inl ⟨rfl, ?_⟩)
      cases withQuestions <;> exact hsame
  | begin name => exact Or.inr (Or.inr (Or.inl ⟨name, rfl, rfl⟩))
  | step name step =>
      cases htx : console.tx? name with
      | none =>
          refine Or.inr (Or.inl ⟨rfl, ?_⟩)
          simp only [run, htx]
          exact hsame
      | some tx =>
          refine Or.inr (Or.inr (Or.inr ⟨name, step, tx, rfl, htx, ?_⟩))
          simp only [run, htx]
  | _ => exact Or.inr (Or.inl ⟨rfl, rfl, rfl, rfl, rfl, rfl⟩)

end Console

/-! ### The clock of the machine -/

/-- What can happen to a console: time passes on the clock of the machine, which the cache goes by,
or a command is given. -/
inductive Happening where
  | passes (nanos : Nat)
  | given (command : Command)

namespace Console

/-- The console after something has happened. -/
def undergo (console : Console) : Happening → Console
  | .passes nanos => console.withService
      { console.service with instant := console.service.instant + nanos }
  | .given command => (console.run command).1

/-- **The console before something that has happened**: the first `n` of a list have. -/
def upTo (console : Console) (history : List Happening) (n : Nat) : Console :=
  (history.take n).foldl undergo console

@[simp] theorem upTo_zero (console : Console) (history : List Happening) :
    console.upTo history 0 = console := rfl

theorem upTo_succ {console : Console} {history : List Happening} {n : Nat} {happening : Happening}
    (h : history[n]? = some happening) :
    console.upTo history (n + 1) = (console.upTo history n).undergo happening := by
  rw [upTo, List.take_add_one, h, List.foldl_append]
  rfl

/-- Nothing happens after the end. -/
theorem upTo_succ_of_none {console : Console} {history : List Happening} {n : Nat}
    (h : history[n]? = none) : console.upTo history (n + 1) = console.upTo history n := by
  rw [upTo, List.take_add_one, h, Option.toList_none, List.append_nil, upTo]

/-- **What relates two consoles and survives whatever happens to both** relates them all the
time. -/
theorem upTo_related {R : Console → Console → Prop}
    (hstep : ∀ {c d : Console} (happening : Happening), R c d →
      R (c.undergo happening) (d.undergo happening)) {c d : Console} (h : R c d)
    (history : List Happening) (n : Nat) : R (c.upTo history n) (d.upTo history n) := by
  unfold upTo
  induction history.take n generalizing c d with
  | nil => exact h
  | cons happening happenings ih => exact ih (hstep happening h)

end Console

/-! ### Without transactions by hand -/

/-- A service with nothing in its store, at the beginning of 1970, whose collaborators all work. -/
def Service.blank : Service :=
  { store := Store.empty
    clock := ⟨0, 0, by decide, by decide⟩
    instant := 0
    cache := TakeCache.empty 0
    pendingCollisions := 0
    progressBroken := false
    eventsBroken := false
    events := [] }

/-- Sets up a published quiz without questions, its lesson, and one student of the course. -/
def classroom (most : Option Int) : List Command :=
  [.putQuiz
    { id := 1
      lessonId := 1
      title := ""
      quizType := .practice
      passingScore := Binary64.zero
      timeLimit := none
      maxAttempts := most
      shuffleQuestions := false
      shuffleOptions := false
      showCorrectAnswers := false
      isPublished := true
      questions := [] },
    .putLesson ⟨1, 1, 1⟩, .putEnrollment ⟨1, 1, 1, "active"⟩]

/-- Sets up a published quiz of one question, under a limit of minutes, its lesson, and one student
of the course. -/
def examination (minutes : Option Int) : List Command :=
  [.putQuiz
    { id := 1
      lessonId := 1
      title := ""
      quizType := .graded
      passingScore := Binary64.ofInt 50
      timeLimit := minutes
      maxAttempts := none
      shuffleQuestions := false
      shuffleOptions := false
      showCorrectAnswers := false
      isPublished := true
      questions :=
        [⟨1, 1, "?", Binary64.ofInt 2, 0,
          .multipleChoice [⟨"a", "yes", true⟩, ⟨"b", "no", false⟩]⟩] },
    .putLesson ⟨1, 1, 1⟩, .putEnrollment ⟨1, 1, 1, "active"⟩]

/-- The student of the classroom and of the examination. -/
def learner : Actor := ⟨1, .student⟩

/-- A student answers at the last nanosecond, is late with the next attempt by one, which is found
out when the attempts are listed, and has begun a third one. -/
def threeAttempts : List Command :=
  examination (some 1) ++
    [.request (.start 1 learner), .advance 60000000000,
      .request (.submit 1 1 [⟨1, some "a", none⟩] learner), .request (.start 1 learner),
      .advance 60000000001, .request (.list 1 learner), .request (.start 1 learner)]

/-- The command is no step of a transaction that is begun by hand. -/
def Command.isManaged : Command → Bool
  | .begin _ | .step _ _ => false
  | _ => true

/-- **The service is reached from a store in which there is nothing**, with attempts written through
requests only. -/
def Service.Managed (service : Service) : Prop :=
  ∃ (start : Service) (commands : List Command), start.store = Store.empty ∧
    (∀ command ∈ commands, command.isManaged = true) ∧
    ((Console.ofService start).after commands).service = service

end QuizAttempts
