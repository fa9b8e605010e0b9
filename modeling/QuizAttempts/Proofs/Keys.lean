/-
**Nobody learns a key before submitting.**

The keys of a quiz are the marks on its choices and the texts that its questions ask for.  They
decide what a submission earns and whether a draft can be published, and nothing else looks at them.
So a service whose quizzes have lost their keys starts, shows and lists the same, and takes the same
steps through everything that is neither a submission nor a request to publish: each step and the
loss may come in either order.  Two services that differ in keys only have lost all difference then,
and nobody can tell them apart.

Main definitions:

* `Quiz.unkeyed`, `Store.unkeyed`, `Service.unkeyed`, `Console.unkeyed` — **without keys**;
* `Command.unkeyed`, `Happening.unkeyed` — the same of what is put in;
* `Veil.unkeyed` — the veil over the keys, under which all of these are;
* `Command.hidesKeys` — commands that neither submit, nor publish through a request, nor show a quiz
  with its questions.

Main results:

* `Quiz.takePayload_unkeyed` — **the payload does not depend on the keys**;
* `Program.Uses.run_unkeyed` — programs that are shown no key run alike;
* `Service.run_unkeyed` — so do starts, takes and looks at attempts;
* `Console.run_unkeyed`, `Console.upTo_unkeyed` — **commands and histories, with the keys or
  without**;
* `Console.keys_hidden` — two consoles that differ in keys only.
-/
import QuizAttempts.Proofs.Decisions
import QuizAttempts.Proofs.Veils

set_option autoImplicit false

namespace QuizAttempts

open Program

/-! ### Quizzes without keys -/

/-- The choice without its mark. -/
def Choice.unmarked (choice : Choice) : Choice := { choice with isCorrect := false }

/-- The kind without its key. -/
def QuestionKind.unkeyed : QuestionKind → QuestionKind
  | multipleChoice choices => multipleChoice (choices.map (·.unmarked))
  | trueFalse _ => trueFalse none
  | shortAnswer _ => shortAnswer none
  | essay => essay

/-- The question without its key. -/
def Question.unkeyed (q : Question) : Question := { q with kind := q.kind.unkeyed }

/-- **The quiz without its keys.** -/
def Quiz.unkeyed (quiz : Quiz) : Quiz := { quiz with questions := quiz.questions.map (·.unkeyed) }

/-- A learner sees a question as if it had no key. -/
theorem Question.toPublic_unkeyed (q : Question) : q.unkeyed.toPublic = q.toPublic := by
  cases hkind : q.kind <;>
    simp [toPublic, unkeyed, hkind, QuestionKind.unkeyed, QuestionKind.typeName,
      QuestionKind.choices, Choice.toPublic, Choice.unmarked]

namespace Quiz

variable (quiz : Quiz)

/-- The keys do not move the questions. -/
theorem sorted_unkeyed : quiz.unkeyed.sorted = quiz.sorted.unkeyed := by
  have hplace : ∀ q : Question, q.unkeyed.place = q.place := fun _ => rfl
  simp only [sorted, unkeyed, map_inPlace hplace]

theorem maxScore_unkeyed : quiz.unkeyed.maxScore = quiz.maxScore := by
  simp [maxScore, unkeyed, Question.unkeyed, Function.comp_def]

/-- **The payload of a quiz does not depend on its keys.** -/
theorem takePayload_unkeyed : quiz.unkeyed.takePayload = quiz.takePayload := by
  simp [takePayload, unkeyed, Function.comp_def, Question.toPublic_unkeyed]

end Quiz

/-! ### Services without keys -/

/-- The store with its quizzes without their keys. -/
def Store.unkeyed (store : Store) : Store :=
  { store with quizzes := store.quizzes.map Quiz.unkeyed }

/-- The service with its quizzes without their keys. -/
def Service.unkeyed (s : Service) : Service := { s with store := s.store.unkeyed }

namespace Store

variable (store : Store)

theorem quiz?_unkeyed (id : Int) : store.unkeyed.quiz? id = (store.quiz? id).map Quiz.unkeyed := by
  simp only [quiz?, unkeyed, Table.get?_map, Option.map_map]
  exact congrArg (Option.map · (store.quizzes.get? id)) (funext Quiz.sorted_unkeyed)

/-- Who works on a quiz is let in whatever its keys. -/
theorem entry_unkeyed (quizId : Int) (actor : Actor) :
    store.unkeyed.entry quizId actor = Prod.map Quiz.unkeyed id <$> store.entry quizId actor := by
  simp only [entry, quiz?_unkeyed, demandSome_map, map_bind, bind_map_left, map_pure]
  rfl

/-- Who takes a quiz is let in whatever its keys. -/
theorem sight_unkeyed (quizId : Int) (actor : Actor) :
    store.unkeyed.sight quizId actor = Quiz.unkeyed <$> store.sight quizId actor := by
  simp only [sight, quiz?_unkeyed, demandSome_map, map_bind, bind_map_left, map_pure]
  rfl

end Store

/-! ### Programs without keys -/

/-- **The veil over the keys of every quiz.** -/
def Veil.unkeyed : Veil := .overQuestions Quiz.unkeyed (fun _ => rfl) fun _ => rfl

/-- **A program that is shown no key** runs alike without the keys. -/
theorem Program.Uses.run_unkeyed {α : Type} {p : Program α} (h : p.Uses Op.isPlain)
    (others : List Int) (s : Service) :
    s.unkeyed.run others p = Prod.map Service.unkeyed id (s.run others p) :=
  Veil.unkeyed.run h (fun _ hquiz => by simp [Op.isPlain] at hquiz) others s

/-! ### Requests without keys -/

/-- A request that neither submits nor publishes. -/
def Request.hidesKeys : Request → Bool
  | .submit _ _ _ _ | .publish _ _ => false
  | _ => true

/-- The next attempt is opened by the points alone. -/
theorem openNext_unkeyed (quiz : Quiz) (enrollment : Enrollment) (present : Timestamp) :
    openNext quiz.unkeyed enrollment present = openNext quiz enrollment present := by
  simp only [openNext, openAfter, Quiz.maxScore_unkeyed]
  rfl

theorem startWithin_unkeyed (quiz : Quiz) (lesson : Lesson) (actor : Actor) (tries : Nat) :
    startWithin quiz.unkeyed lesson actor tries = startWithin quiz lesson actor tries := by
  have htry : tryStart quiz.unkeyed lesson actor = tryStart quiz lesson actor := by
    simp only [tryStart, startLocked, openNext_unkeyed]
    rfl
  induction tries with
  | zero => rfl
  | succ tries ih => rw [startWithin, startWithin, htry, ih]

namespace Service

variable (s : Service) (others : List Int)

theorem run_start_unkeyed (quizId : Int) (actor : Actor) :
    s.unkeyed.run others (Request.start quizId actor).program =
      Prod.map unkeyed id (s.run others (Request.start quizId actor).program) := by
  have hprogram : (Request.start quizId actor).program =
      enter quizId actor >>= fun entered =>
        startWithin entered.1 entered.2 actor mostTries >>= fun a => .done (.started a) := by
    simp only [Request.program, startAttempt, Program.bind_assoc]
    rfl
  rw [hprogram, (decides_enter quizId actor).run, (decides_enter quizId actor).run]
  show unlessRefused (s.store.unkeyed.entry quizId actor) _ _ = _
  rw [Store.entry_unkeyed]
  cases s.store.entry quizId actor with
  | error why => rfl
  | ok entered =>
      show s.unkeyed.run others (startWithin entered.1.unkeyed entered.2 actor mostTries >>= _) = _
      rw [startWithin_unkeyed]
      exact ((uses_startWithin entered.1 entered.2 actor mostTries).bind
        fun a => .done _).run_unkeyed others s

/-- What is served and kept of a quiz does not depend on its keys. -/
theorem decideTake_unkeyed (quizId : Int) (shuffle : Shuffle) (quiz : Quiz) :
    s.unkeyed.decideTake quizId shuffle quiz.unkeyed =
      Prod.map unkeyed id (s.decideTake quizId shuffle quiz) := by
  have hcache : s.unkeyed.cache = s.cache := rfl
  have hinstant : s.unkeyed.instant = s.instant := rfl
  simp only [decideTake, served, keeping, hcache, hinstant, Quiz.takePayload_unkeyed]
  cases s.cache.fresh? quizId s.instant <;> rfl

theorem run_take_unkeyed (quizId : Int) (actor : Actor) (shuffle : Shuffle) :
    s.unkeyed.run others (Request.take quizId actor shuffle).program =
      Prod.map unkeyed id (s.run others (Request.take quizId actor shuffle).program) := by
  rw [run_take, run_take]
  show unlessRefused (s.store.unkeyed.sight quizId actor) _ _ = _
  rw [Store.sight_unkeyed]
  cases s.store.sight quizId actor with
  | error why => rfl
  | ok quiz => exact s.decideTake_unkeyed quizId shuffle quiz

/-- **Requests that neither submit nor publish** run alike without the keys. -/
theorem run_unkeyed {request : Request} (h : request.hidesKeys = true) :
    s.unkeyed.run others request.program =
      Prod.map unkeyed id (s.run others request.program) := by
  cases request with
  | start quizId actor => exact s.run_start_unkeyed others quizId actor
  | take quizId actor shuffle => exact s.run_take_unkeyed others quizId actor shuffle
  | list quizId actor => exact (uses_list quizId actor).run_unkeyed others s
  | get quizId attemptId actor => exact (uses_get quizId attemptId actor).run_unkeyed others s
  | submit | publish => simp [Request.hidesKeys] at h

end Service

/-! ### Consoles without keys -/

/-- The console with its quizzes without their keys. -/
def Console.unkeyed (console : Console) : Console := console.withService console.service.unkeyed

/-- The command with a quiz that it puts in without its keys. -/
def Command.unkeyed : Command → Command
  | .putQuiz quiz => .putQuiz quiz.unkeyed
  | command => command

/-- The same of what happens. -/
def Happening.unkeyed : Happening → Happening
  | .given command => .given command.unkeyed
  | passing => passing

/-- **The command neither submits, nor publishes through a request, nor shows a quiz with its
questions.** -/
def Command.hidesKeys : Command → Bool
  | .request made => made.hidesKeys
  | .message keys shuffle sent =>
      (Http.interpret keys shuffle sent).toOption.all (·.hidesKeys)
  | .showQuiz _ withQuestions => !withQuestions
  | _ => true

/-- The same of what happens. -/
def Happening.hidesKeys : Happening → Bool
  | .given command => command.hidesKeys
  | .passes _ => true

theorem Happening.hidesKeys_unkeyed (happening : Happening) :
    happening.unkeyed.hidesKeys = happening.hidesKeys := by
  cases happening with
  | passes nanos => rfl
  | given command => cases command <;> rfl

theorem Veil.command_unkeyed (command : Command) :
    Veil.unkeyed.command command = command.unkeyed := by
  cases command with
  | adjust collisions progressBroken eventsBroken =>
      cases progressBroken <;> cases eventsBroken <;> rfl
  | _ => rfl

theorem Veil.happening_unkeyed (happening : Happening) :
    Veil.unkeyed.happening happening = happening.unkeyed := by
  cases happening with
  | passes nanos => rfl
  | given command => exact congrArg Happening.given (command_unkeyed command)

/-- A command that hides the keys does not look behind the veil over them. -/
theorem Command.hidesKeys_fits {command : Command} (h : command.hidesKeys = true) :
    Veil.unkeyed.Fits command where
  request request hrequest others s := by
    refine s.run_unkeyed others ?_
    cases command with
    | request made =>
        obtain rfl : made = request := Option.some.inj hrequest
        exact h
    | message keys shuffle sent =>
        have hread : (Http.interpret keys shuffle sent).toOption = some request := hrequest
        simpa [hidesKeys, hread] using h
    | _ => simp [request?] at hrequest
  shown id hshow := by
    rw [hshow] at h
    simp [hidesKeys] at h

namespace Console

/-- **A command and the loss of the keys may come in either order.** -/
theorem run_unkeyed (console : Console) {command : Command} (h : command.hidesKeys = true) :
    console.unkeyed.run command.unkeyed = Prod.map unkeyed id (console.run command) := by
  rw [← Veil.command_unkeyed]
  exact Veil.unkeyed.run_console console (Command.hidesKeys_fits h)

/-- **Histories, with the keys or without.** -/
theorem upTo_unkeyed (console : Console) {history : List Happening}
    (h : ∀ happening ∈ history, happening.hidesKeys = true) (n : Nat) :
    console.unkeyed.upTo (history.map Happening.unkeyed) n = (console.upTo history n).unkeyed := by
  rw [← funext Veil.happening_unkeyed]
  exact Veil.unkeyed.upTo console (fun command hmem => Command.hidesKeys_fits (h _ hmem)) n

/-- **Nobody learns a key before submitting.**  Two consoles that differ in keys only go through
histories that differ in keys only, in which nobody submits, nobody publishes through a request and
no quiz is shown with its questions.  Then they give the same answers, whoever asks; they differ in
keys only at all times, with the same attempts and the same cache; and a quiz has one payload,
whatever its keys. -/
theorem keys_hidden {c d : Console} (hconsoles : c.unkeyed = d.unkeyed)
    {history other : List Happening}
    (hhistories : history.map Happening.unkeyed = other.map Happening.unkeyed)
    (hhides : ∀ happening ∈ history, happening.hidesKeys = true) :
    (∀ (n : Nat) (command command' : Command), history[n]? = some (.given command) →
      other[n]? = some (.given command') →
      ((c.upTo history n).run command).2 = ((d.upTo other n).run command').2) ∧
    (∀ n : Nat, (c.upTo history n).unkeyed = (d.upTo other n).unkeyed ∧
      (c.upTo history n).service.cache = (d.upTo other n).service.cache ∧
      (c.upTo history n).service.store.attempts = (d.upTo other n).service.store.attempts) ∧
    ∀ quiz quiz' : Quiz, quiz.unkeyed = quiz'.unkeyed → quiz.takePayload = quiz'.takePayload := by
  have hother : ∀ happening ∈ other, happening.hidesKeys = true := by
    intro happening hmem
    have hmap : happening.unkeyed ∈ history.map Happening.unkeyed :=
      hhistories ▸ List.mem_map_of_mem hmem
    obtain ⟨happening', hmem', heq⟩ := List.mem_map.1 hmap
    rw [← happening.hidesKeys_unkeyed, ← heq, happening'.hidesKeys_unkeyed, hhides happening' hmem']
  have hsame : ∀ n, (c.upTo history n).unkeyed = (d.upTo other n).unkeyed := by
    intro n
    rw [← c.upTo_unkeyed hhides, ← d.upTo_unkeyed hother, hconsoles, hhistories]
  refine ⟨fun n command command' hcommand hcommand' => ?_, fun n => ⟨hsame n, ?_, ?_⟩,
    fun quiz quiz' hquiz => ?_⟩
  · have hn := congrArg (·[n]?) hhistories
    simp only [List.getElem?_map, hcommand, hcommand', Option.map_some, Option.some.injEq] at hn
    have hkeyless : command.unkeyed = command'.unkeyed := Happening.given.inj hn
    have hc := (c.upTo history n).run_unkeyed (hhides _ (List.mem_of_getElem? hcommand))
    have hd := (d.upTo other n).run_unkeyed (hother _ (List.mem_of_getElem? hcommand'))
    rw [hsame n, hkeyless, hd] at hc
    exact (congrArg Prod.snd hc).symm
  · exact congrArg (·.service.cache) (hsame n)
  · exact congrArg (·.service.store.attempts) (hsame n)
  · rw [← quiz.takePayload_unkeyed, hquiz, quiz'.takePayload_unkeyed]

/-- Puts the quizzes of some commands in with the other choices marked. -/
def remarked (commands : List Command) : List Command :=
  commands.map fun
    | .putQuiz quiz => .putQuiz { quiz with
        questions := quiz.questions.map fun q => { q with
          kind := match q.kind with
            | .multipleChoice choices => .multipleChoice
                (choices.map fun choice => { choice with isCorrect := !choice.isCorrect })
            | kind => kind } }
    | command => command

/-- A student starts an attempt, looks at the questions, and at the attempt when some time has
passed. -/
def browsed : List Happening :=
  [.given (.request (.start 1 learner)), .given (.request (.take 1 learner .still)), .passes 5,
    .given (.advance 5), .given (.request (.get 1 1 learner))]

/-- Of two examinations in which different choices are marked the student sees the same; but the
same submission to both is graded differently. -/
theorem keys_hidden_browsed :
    let c := (ofService Service.blank).after (examination none)
    let d := (ofService Service.blank).after (remarked (examination none))
    let submit := Request.submit 1 1 [⟨1, some "a", none⟩] learner
    c.unkeyed = d.unkeyed ∧ (∀ happening ∈ browsed, happening.hidesKeys = true) ∧
      ((c.upTo browsed 1).run (.request (.take 1 learner .still))).2 =
        ((d.upTo browsed 1).run (.request (.take 1 learner .still))).2 ∧
      ((c.upTo browsed 4).run (.request (.get 1 1 learner))).2 =
        ((d.upTo browsed 4).run (.request (.get 1 1 learner))).2 ∧
      (c.upTo browsed 5).service.store.attempts = (d.upTo browsed 5).service.store.attempts ∧
      ((c.upTo browsed 5).service.run [] submit.program).2 ≠
        ((d.upTo browsed 5).service.run [] submit.program).2 := by
  intro c d submit
  have hservices : c.service.unkeyed = d.service.unkeyed := by decide +kernel
  have hconsoles : c.unkeyed = d.unkeyed := congrArg (Console.mk · []) hservices
  have hhides : ∀ happening ∈ browsed, happening.hidesKeys = true := by decide +kernel
  obtain ⟨hanswers, hstates, -⟩ := keys_hidden hconsoles rfl hhides
  exact ⟨hconsoles, hhides, hanswers 1 _ _ rfl rfl, hanswers 4 _ _ rfl rfl, (hstates 5).2.2,
    by decide +kernel⟩

end Console

end QuizAttempts
