/-
**Requests at the same time.**

Any number of requests run at once on one service.  Each has a transaction of its own and takes one
operation after another, and at every moment any of them may be the next one to take one.  An
operation that needs the lock of an enrollment cannot be taken while another request holds it; a
request keeps its locks until it commits, rolls back or ends.

The same requests may also be made one after another.

Main definitions:

* `Call`, `Race` — a request under way, and all of them with the service;
* `Race.Step` — **one operation of one of them**;
* `Race.ofRequests`, `Race.isOver`, `Race.answers` — the beginning and the end;
* `Race.follow` — the race after a schedule;
* `Service.serially` — the requests one after another.

Main results:

* `Race.reaches_follow` — every schedule is a run of the race;
* `Service.serially_append` — one more request at the end.
-/
import Mathlib.Logic.Relation
import QuizAttempts.Service
import QuizAttempts.Lifecycle

set_option autoImplicit false

namespace QuizAttempts

/-! ### Calls -/

/-- A request under way: what is left of its program and its transaction, or how it ended. -/
inductive Call where
  | running (request : Request) (rest : Program Reply) (tx : Transaction)
  | ended (request : Request) (outcome : Outcome Reply)

namespace Call

/-- The request of a call. -/
def request : Call → Request
  | running request _ _ | ended request _ => request

/-- The enrollments whose locks a call holds. -/
def held : Call → List Int
  | running _ _ tx => tx.held
  | ended _ _ => []

/-- The request of a call with its outcome, once it is over. -/
def answer? : Call → Option (Request × Outcome Reply)
  | running _ _ _ => none
  | ended request outcome => some (request, outcome)

end Call

/-- How a program ends that is at its end. -/
def Program.verdict? {α : Type} : Program α → Option (Outcome α)
  | .done a => some (.done a)
  | .refuse why => some (.refused why)
  | .overflow => some .overflow
  | .step _ _ => none

/-! ### Races -/

/-- A service and the requests that are under way on it. -/
structure Race where
  service : Service
  calls : List Call

namespace Race

/-- The requests at their beginning. -/
def ofRequests (service : Service) (requests : List Request) : Race :=
  ⟨service, requests.map fun request => .running request request.program Transaction.fresh⟩

/-- **One of the calls takes one operation**, or comes to its end and gives its locks back.  What it
takes is performed while the locks of all others are theirs. -/
inductive Step : Race → Race → Prop
  | act {service service' : Service} {before after : List Call} {request : Request} {op : Op}
      {next : op.Reply → Program Reply} {tx tx' : Transaction} {reply : op.Reply}
      (h : Session.perform ((before ++ after).flatMap (·.held)) ⟨service, tx⟩ op =
        some (⟨service', tx'⟩, reply)) :
      Step ⟨service, before ++ .running request (.step op next) tx :: after⟩
        ⟨service', before ++ .running request (next reply) tx' :: after⟩
  | finish {service : Service} {before after : List Call} {request : Request}
      {rest : Program Reply} {tx : Transaction} {outcome : Outcome Reply}
      (h : rest.verdict? = some outcome) :
      Step ⟨service, before ++ .running request rest tx :: after⟩
        ⟨service, before ++ .ended request outcome :: after⟩

/-- **Any number of steps**, of whichever calls. -/
def Reaches : Race → Race → Prop := Relation.ReflTransGen Step

/-- All calls are over. -/
def isOver (race : Race) : Prop := ∀ call ∈ race.calls, (call.answer?).isSome = true

/-- The requests that are over, with their outcomes. -/
def answers (race : Race) : List (Request × Outcome Reply) := race.calls.filterMap (·.answer?)

/-! ### Schedules -/

/-- The race after the call at a place has taken its next step, if there is one that it can take. -/
def advance (race : Race) (place : Nat) : Race :=
  match race.calls.drop place with
  | .running request rest tx :: after =>
      let before := race.calls.take place
      match rest with
      | .step op next =>
          match Session.perform ((before ++ after).flatMap (·.held)) ⟨race.service, tx⟩ op with
          | some (s, reply) => ⟨s.service, before ++ .running request (next reply) s.tx :: after⟩
          | none => race
      | rest =>
          match rest.verdict? with
          | some outcome => ⟨race.service, before ++ .ended request outcome :: after⟩
          | none => race
  | _ => race

/-- **The race after a schedule**: the places of the calls that take the steps, one after
another. -/
def follow (race : Race) (schedule : List Nat) : Race := schedule.foldl advance race

theorem reaches_advance (race : Race) (place : Nat) : race.Reaches (race.advance place) := by
  obtain ⟨service, calls⟩ := race
  unfold advance
  split
  · rename_i request rest tx after hdrop
    have hcalls : calls = calls.take place ++ .running request rest tx :: after := by
      rw [← hdrop, List.take_append_drop]
    have hends : ∀ outcome, rest.verdict? = some outcome →
        Step ⟨service, calls⟩ ⟨service, calls.take place ++ .ended request outcome :: after⟩ := by
      intro outcome hverdict
      have hstep : Step ⟨service, calls.take place ++ .running request rest tx :: after⟩ _ :=
        .finish hverdict
      rwa [← hcalls] at hstep
    cases rest with
    | step op next =>
        dsimp only
        split
        · rename_i s reply hperform
          have hstep : Step ⟨service, calls.take place ++ .running request (.step op next) tx ::
            after⟩ _ := .act hperform
          rw [← hcalls] at hstep
          exact Relation.ReflTransGen.single hstep
        · exact Relation.ReflTransGen.refl
    | _ => exact Relation.ReflTransGen.single (hends _ rfl)
  · exact Relation.ReflTransGen.refl

/-- **Whatever the schedule, the race runs.** -/
theorem reaches_follow (race : Race) (schedule : List Nat) :
    race.Reaches (race.follow schedule) := by
  induction schedule generalizing race with
  | nil => exact Relation.ReflTransGen.refl
  | cons place schedule ih => exact (race.reaches_advance place).trans (ih (race.advance place))

/-- Once all calls are over there is one answer to each. -/
theorem answers_of_isOver {race : Race} (h : race.isOver) :
    race.answers.map (·.1) = race.calls.map (·.request) := by
  obtain ⟨service, calls⟩ := race
  simp only [isOver, answers] at h ⊢
  induction calls with
  | nil => rfl
  | cons call calls ih =>
      have hcall := h call (List.mem_cons_self ..)
      have hcalls := ih fun call hmem => h call (List.mem_cons_of_mem _ hmem)
      cases call with
      | running request rest tx => simp [Call.answer?] at hcall
      | ended request outcome =>
          have hanswer : (Call.ended request outcome).answer? = some (request, outcome) := rfl
          rw [List.filterMap_cons_some hanswer, List.map_cons, List.map_cons, hcalls]
          rfl

/-- Every call keeps its place and its request. -/
theorem request_of_reaches {race race' : Race} (h : race.Reaches race') :
    race'.calls.map (·.request) = race.calls.map (·.request) := by
  induction h with
  | refl => rfl
  | tail _ hstep ih =>
      rw [← ih]
      cases hstep <;> simp [Call.request]

end Race

/-! ### One after another -/

/-- **Makes requests one after another**, and tells how each of them ended. -/
def Service.serially (service : Service) : List Request → Service × List (Request × Outcome Reply)
  | [] => (service, [])
  | request :: requests =>
      let r := service.run [] request.program
      let s := r.1.serially requests
      (s.1, (request, r.2) :: s.2)

/-- One more request at the end. -/
theorem Service.serially_append (service : Service) (requests : List Request) (last : Request) :
    service.serially (requests ++ [last]) =
      (((service.serially requests).1.run [] last.program).1, (service.serially requests).2 ++
        [(last, ((service.serially requests).1.run [] last.program).2)]) := by
  induction requests generalizing service with
  | nil => rfl
  | cons request requests ih =>
      show (((service.run [] request.program).1.serially (requests ++ [last])).1,
        (request, (service.run [] request.program).2) ::
          ((service.run [] request.program).1.serially (requests ++ [last])).2) = _
      rw [ih]
      rfl

end QuizAttempts
