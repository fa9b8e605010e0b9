/-
**Broken collaborators are not noticed.**

Two collaborators are told about graded submissions: one keeps the progress, the other passes
announcements on.  Either may break and be repaired at any moment, and nobody who makes requests can
tell: the answers and the attempts are those of the same history in which nothing ever breaks.  What
is lost is lost on the side of the one that was broken.  The completed lessons do not depend on when
announcements are passed on, nor the announced events on when progress is kept.

Mending a collaborator for good may be done on the way into a history, or hidden on the way out of
it under a veil over everything that the collaborator was told.  Under the veil the history is the
same, whether the collaborator was mended or not.

Main definitions:

* `Console.mended`, `Command.mended`, `Happening.mended` — **a collaborator repaired for good**;
* `Console.steadyUpTo` — a history in which they never break;
* `Veil.mute` — the veil over what either collaborator was told;
* `Service.SameListeners` — the same collaborators are broken.

Main results:

* `Session.perform_sameListeners`, `Service.run_sameListeners` — no request breaks a collaborator;
* `Console.listens_steadyUpTo` — **a collaborator that is repaired for good works all the time**;
* `Console.breakages_hidden` — a history with its breakages and without.
-/
import QuizAttempts.Proofs.Veils

set_option autoImplicit false

namespace QuizAttempts

/-! ### Repairing for good -/

/-- Whether a collaborator is broken, unless it is repaired for good. -/
def mend (repaired broken : Bool) : Bool := broken && !repaired

@[simp] theorem mend_true (broken : Bool) : mend true broken = false := Bool.and_false broken

/-- **The console with the collaborators repaired**: the one that keeps the progress, the one that
passes announcements on, or both. -/
def Console.mended (console : Console) (progress events : Bool) : Console :=
  console.withService { console.service with
    progressBroken := mend progress console.service.progressBroken
    eventsBroken := mend events console.service.eventsBroken }

/-- **The command, which repairs a collaborator where it would break it.** -/
def Command.mended (progress events : Bool) : Command → Command
  | .adjust collisions progressBroken eventsBroken =>
      .adjust collisions (progressBroken.map (mend progress)) (eventsBroken.map (mend events))
  | command => command

/-- The same of what happens. -/
def Happening.mended (progress events : Bool) : Happening → Happening
  | .given command => .given (command.mended progress events)
  | passing => passing

/-- **The console before something that has happened**, had the collaborators been repaired for good
to begin with. -/
def Console.steadyUpTo (console : Console) (progress events : Bool) (history : List Happening)
    (n : Nat) : Console :=
  (console.mended progress events).upTo (history.map (·.mended progress events)) n

/-! ### The veil -/

/-- **The veil over what a collaborator was told**: it seems to be broken, and to have been told
nothing. -/
def Veil.mute (progress events : Bool) : Veil where
  quiz := id
  completed told := if progress then Progress.empty else told
  progressBroken broken := broken || progress
  eventsBroken broken := broken || events
  events told := if events then [] else told
  settings _ := rfl
  published _ := rfl
  complete broken _ _ _ := by cases progress <;> cases broken <;> rfl
  announce broken _ _ := by cases events <;> cases broken <;> rfl

namespace Veil

variable (progress events : Bool)

theorem isClear_mute : (mute progress events).IsClear := fun _ => rfl

/-- Repairs do not show under the veil. -/
theorem console_mended (c : Console) :
    (mute progress events).console (c.mended progress events) =
      (mute progress events).console c := by
  obtain ⟨⟨store, clock, instant, cache, pending, progressBroken, eventsBroken, told⟩, live⟩ := c
  cases progress <;> cases events <;> cases progressBroken <;> cases eventsBroken <;> rfl

theorem command_mended (c : Command) :
    (mute progress events).command (c.mended progress events) =
      (mute progress events).command c := by
  have hmend : ∀ repaired broken : Bool,
      (mend repaired broken || repaired) = (broken || repaired) := by decide
  cases c with
  | adjust collisions progressBroken eventsBroken =>
      simp [Command.mended, command, mute, Function.comp_def, hmend]
  | _ => rfl

theorem happening_mended (h : Happening) :
    (mute progress events).happening (h.mended progress events) =
      (mute progress events).happening h := by
  cases h with
  | passes nanos => rfl
  | given command => exact congrArg Happening.given (command_mended progress events command)

end Veil

/-! ### Who listens -/

/-- **The same collaborators are broken.** -/
structure Service.SameListeners (s t : Service) : Prop where
  progress : t.progressBroken = s.progressBroken
  events : t.eventsBroken = s.eventsBroken

namespace Service.SameListeners

variable {s t u : Service}

theorem refl (s : Service) : s.SameListeners s := ⟨rfl, rfl⟩

theorem trans (h : s.SameListeners t) (h' : t.SameListeners u) : s.SameListeners u :=
  ⟨h'.progress.trans h.progress, h'.events.trans h.events⟩

end Service.SameListeners

/-- No operation breaks or repairs a collaborator. -/
theorem Session.perform_sameListeners {others : List Int} {s s' : Session} {op : Op}
    {reply : op.Reply} (h : s.perform others op = some (s', reply)) :
    s.service.SameListeners s'.service := by
  cases op with
  | lockEnrollment student course =>
      obtain ⟨⟨tx, enrollment⟩, -, heq⟩ := Option.map_eq_some_iff.1 h
      obtain ⟨rfl, -⟩ := Prod.mk.inj heq
      exact .refl _
  | insert new =>
      obtain rfl : (s.insert new).1 = s' := congrArg Prod.fst (Option.some.inj h)
      unfold Session.insert
      split
      · exact ⟨rfl, rfl⟩
      · split <;> exact ⟨rfl, rfl⟩
  | save final =>
      obtain rfl : (s.save final).1 = s' := congrArg Prod.fst (Option.some.inj h)
      unfold Session.save
      split <;> exact ⟨rfl, rfl⟩
  | commit =>
      obtain rfl : s.commit.1 = s' := congrArg Prod.fst (Option.some.inj h)
      unfold Session.commit
      split <;> exact ⟨rfl, rfl⟩
  | publish quiz =>
      obtain rfl : (s.publish quiz).1 = s' := congrArg Prod.fst (Option.some.inj h)
      unfold Session.publish
      split <;> exact ⟨rfl, rfl⟩
  | completeLesson enrollment lesson =>
      obtain rfl : s.completeLesson enrollment lesson = s' := congrArg Prod.fst (Option.some.inj h)
      unfold Session.completeLesson
      split <;> exact ⟨rfl, rfl⟩
  | announce event =>
      obtain rfl : s.announce event = s' := congrArg Prod.fst (Option.some.inj h)
      unfold Session.announce
      split <;> exact ⟨rfl, rfl⟩
  | _ =>
      obtain ⟨rfl, -⟩ := Prod.mk.inj (Option.some.inj h)
      exact ⟨rfl, rfl⟩

/-- **No program breaks or repairs a collaborator.** -/
theorem Program.exec_sameListeners {α : Type} (p : Program α) (others : List Int) (s : Session) :
    s.service.SameListeners (p.exec others s).1.service := by
  induction p generalizing s with
  | step op next ih =>
      rw [Program.exec]
      cases hperform : s.perform others op with
      | none => exact .refl _
      | some r => exact (Session.perform_sameListeners hperform).trans (ih r.2 r.1)
  | _ => exact .refl _

theorem Service.run_sameListeners {α : Type} (s : Service) (others : List Int) (p : Program α) :
    s.SameListeners (s.run others p).1 := p.exec_sameListeners others ⟨s, Transaction.fresh⟩

namespace Console

/-- The collaborators that are repaired for good work. -/
structure Listens (progress events : Bool) (console : Console) : Prop where
  progress : progress = true → console.service.progressBroken = false
  events : events = true → console.service.eventsBroken = false

variable {progress events : Bool}

theorem Listens.of_sameListeners {c d : Console} (h : c.Listens progress events)
    (hsame : c.service.SameListeners d.service) : d.Listens progress events :=
  ⟨fun hp => hsame.progress.trans (h.progress hp), fun he => hsame.events.trans (h.events he)⟩

theorem listens_mended (console : Console) :
    (console.mended progress events).Listens progress events :=
  ⟨fun hp => by subst hp; exact mend_true _, fun he => by subst he; exact mend_true _⟩

/-- **Commands that repair a collaborator where they would break it** leave it working. -/
theorem Listens.run {console : Console} (h : console.Listens progress events)
    (command : Command) :
    (console.run (command.mended progress events)).1.Listens progress events := by
  have hrequest : ∀ (made : Command) {request : Request}, made.request? = some request →
      (console.run made).1.Listens progress events := by
    intro made request hmade
    rw [run_request hmade]
    exact h.of_sameListeners (console.service.run_sameListeners _ _)
  cases command with
  | request request => exact hrequest (.request request) rfl
  | message keys shuffle message =>
      cases hread : Http.interpret keys shuffle message with
      | error response =>
          simp only [Command.mended, Console.run, Service.respond, hread]
          exact h
      | ok request =>
          have hmade : (Command.message keys shuffle message).request? = some request := by
            rw [Command.request?, hread, Except.toOption]
          exact hrequest _ hmade
  | advance nanos =>
      refine h.of_sameListeners ?_
      simp only [Command.mended, Console.run]
      split <;> exact ⟨rfl, rfl⟩
  | adjust collisions progressBroken eventsBroken =>
      refine ⟨fun hp => ?_, fun he => ?_⟩
      · subst hp
        cases progressBroken with
        | none => exact h.progress rfl
        | some broken => exact mend_true broken
      · subst he
        cases eventsBroken with
        | none => exact h.events rfl
        | some broken => exact mend_true broken
  | publish quiz =>
      refine h.of_sameListeners ?_
      simp only [Command.mended, Console.run]
      split <;> exact ⟨rfl, rfl⟩
  | showQuiz id withQuestions => cases withQuestions <;> exact h
  | step name step =>
      refine h.of_sameListeners ?_
      simp only [Command.mended, Console.run]
      cases console.tx? name with
      | none => exact .refl _
      | some tx => cases step <;> simp only [runStep] <;> (try split) <;> exact ⟨rfl, rfl⟩
  | _ => exact h.of_sameListeners ⟨rfl, rfl⟩

/-- **A collaborator that is repaired for good works all the time.** -/
theorem listens_steadyUpTo (console : Console) (history : List Happening) (n : Nat) :
    (console.steadyUpTo progress events history n).Listens progress events := by
  unfold steadyUpTo
  induction n with
  | zero => exact listens_mended console
  | succ n ih =>
      cases hhappening : (history.map (·.mended progress events))[n]? with
      | none => rwa [upTo_succ_of_none hhappening]
      | some happening =>
          rw [upTo_succ hhappening]
          obtain ⟨original, -, rfl⟩ := List.mem_map.1 (List.mem_of_getElem? hhappening)
          cases original with
          | passes nanos => exact ih.of_sameListeners ⟨rfl, rfl⟩
          | given command => exact ih.run command

/-! ### The history without breakages -/

/-- **Broken collaborators are not noticed.**  Take any history and the one in which the
collaborator that keeps the progress, the one that passes announcements on, or both never break.
Every command is answered alike in the two, and the attempts are the same at all times; so are the
completed lessons unless the one that keeps the progress was repaired, and the announced events
unless the other was. -/
theorem breakages_hidden (console : Console) (history : List Happening) (progress events : Bool)
    (n : Nat) :
    let now := console.upTo history n
    let steady := console.steadyUpTo progress events history n
    (∀ command, history[n]? = some (.given command) →
      (now.run command).2 = (steady.run (command.mended progress events)).2) ∧
    steady.service.store.attempts = now.service.store.attempts ∧
    (progress = false → steady.service.store.completed = now.service.store.completed) ∧
    (events = false → steady.service.events = now.service.events) ∧
    (progress = true → steady.service.progressBroken = false) ∧
    (events = true → steady.service.eventsBroken = false) := by
  intro now steady
  have hhistories : history.map (Veil.mute progress events).happening =
      (history.map (·.mended progress events)).map (Veil.mute progress events).happening := by
    rw [List.map_map]
    exact List.map_congr_left fun happening _ =>
      (Veil.happening_mended progress events happening).symm
  obtain ⟨hsame, hanswers⟩ := (Veil.isClear_mute progress events).alike
    (Veil.console_mended progress events console).symm hhistories n
  have hlistens : steady.Listens progress events := console.listens_steadyUpTo history n
  refine ⟨fun command hcommand => ?_, ?_, fun hp => ?_, fun he => ?_, hlistens.progress,
    hlistens.events⟩
  · refine hanswers command _ hcommand ?_
    rw [List.getElem?_map, hcommand]
    rfl
  · exact (congrArg (·.service.store.attempts) hsame).symm
  · -- the veil covers no lesson then
    subst hp
    exact (congrArg (·.service.store.completed) hsame).symm
  · subst he
    exact (congrArg (·.service.events) hsame).symm

/-- A student has two submissions accepted.  Nobody hears of the first one; only announcements are
passed on when the second one comes. -/
def patchy : List Happening :=
  [.given (.adjust none (some true) (some true)), .given (.request (.start 1 learner)),
    .given (.request (.submit 1 1 [⟨1, some "a", none⟩] learner)),
    .given (.adjust none none (some false)), .given (.request (.start 1 learner)),
    .given (.request (.submit 1 2 [⟨1, some "a", none⟩] learner)), .passes 5,
    .given (.request (.list 1 learner))]

/-- The submissions are answered as if both collaborators had worked, though only one was announced
and no lesson is completed.  Had only the one that keeps the progress worked, the same one would
have been announced. -/
theorem breakages_hidden_patchy :
    let console := (ofService Service.blank).after (examination none)
    let submit := Command.request (.submit 1 1 [⟨1, some "a", none⟩] learner)
    ((console.upTo patchy 2).run submit).2 =
      ((console.steadyUpTo true true patchy 2).run submit).2 ∧
    (console.steadyUpTo true true patchy 8).service.store.attempts =
      (console.upTo patchy 8).service.store.attempts ∧
    (console.steadyUpTo true false patchy 8).service.events =
      (console.upTo patchy 8).service.events ∧
    (console.upTo patchy 8).service.store.attempts.size = 2 ∧
    (console.upTo patchy 8).service.events.map (·.attemptId) = [2] ∧
    (console.steadyUpTo true true patchy 8).service.events.map (·.attemptId) = [1, 2] ∧
    (console.upTo patchy 8).service.store.completed = Progress.empty ∧
    (console.steadyUpTo true false patchy 8).service.store.completed.pairs = [(1, 1)] := by
  intro console submit
  have hsubmit : patchy[2]? = some (.given submit) := rfl
  obtain ⟨hanswers, -⟩ := breakages_hidden console patchy true true 2
  obtain ⟨-, hattempts, -⟩ := breakages_hidden console patchy true true 8
  obtain ⟨-, -, -, hevents, -⟩ := breakages_hidden console patchy true false 8
  refine ⟨hanswers submit hsubmit, hattempts, hevents rfl, ?_, ?_, ?_, ?_, ?_⟩ <;> decide +kernel

end Console

end QuizAttempts
