/-
**The submissions that a history accepts.**

A history leaves three traces: the rows of the attempts, the lessons that are completed and the
events that are announced.  Of all that a command can do, accepting a submission is what the last
two come from, and the only way in which a row gets a result that somebody worked for.  So the
accepted submissions are listed in their order, each with the service that it met and the view that
it was answered with; what one command does to the traces is said along with what it adds to the
list, and what holds after every history follows by induction on the commands.

Main definitions:

* `AcceptedSubmission` — a submission, the service that it met, and its answer;
* `Console.acceptedIn` — **the submissions that a history accepts**;
* `AcceptedSubmission.Leaves`, `AcceptedSubmission.IsKept` — the attempt as an accepted submission
  leaves it, and that it still stands so;
* `Service.Advances` — **what one command does to the traces**;
* `Service.Origin` — where a row comes from.

Main results:

* `Console.AtRest.run_advances` — every command that is no step of a transaction does that;
* `Service.Advances.origin`, `Service.Advances.kept` — **where a row comes from, and what becomes of
  it**;
* `Console.AtRest.after_advances` — what every command keeps is kept by every history;
* `Console.AtRest.kept_after`, `Console.AtRest.isKept_after` — **what a history makes of a row**,
  and of what a submission has left.
-/
import QuizAttempts.Proofs.Numbering

set_option autoImplicit false

namespace QuizAttempts

/-! ### The list -/

/-- **A submission that was accepted**: the service that it met, what was submitted, and the view
that it was answered with. -/
structure AcceptedSubmission where
  service : Service
  quizId : Int
  attemptId : Int
  answers : List SubmittedAnswer
  actor : Actor
  view : AttemptView

/-- The accepted submission that a request is, by the way it ended. -/
def Service.accepted? (s : Service) : Request → Outcome Reply → Option AcceptedSubmission
  | .submit quizId attemptId answers actor, .done (.view view) =>
      some ⟨s, quizId, attemptId, answers, actor, view⟩
  | _, _ => none

/-- The submission that a command makes, if it is accepted. -/
def Console.accepted? (console : Console) (command : Command) : Option AcceptedSubmission :=
  command.request?.bind fun request => console.service.accepted? request
    (console.service.run console.locked request.program).2

/-- **The submissions that a history accepts**, in their order. -/
def Console.acceptedIn (console : Console) : List Command → List AcceptedSubmission
  | [] => []
  | command :: commands =>
      (console.accepted? command).toList ++ (console.run command).1.acceptedIn commands

/-- What a history accepts that goes on after another. -/
theorem Console.acceptedIn_append (console : Console) (commands more : List Command) :
    console.acceptedIn (commands ++ more) =
      console.acceptedIn commands ++ (console.after commands).acceptedIn more := by
  induction commands generalizing console with
  | nil => rfl
  | cons command commands ih =>
      rw [List.cons_append, acceptedIn, acceptedIn, ih, List.append_assoc, after_cons]

/-- **The attempt as an accepted submission leaves it**, which is what it is answered with. -/
def AcceptedSubmission.Leaves (x : AcceptedSubmission) (b : Attempt) : Prop :=
  ∃ quiz a grade, x.service.Accepts x.quizId x.attemptId x.answers x.actor quiz a grade ∧
    b = a.graded grade x.service.clock ∧ x.view = b.view quiz.showCorrectAnswers

theorem AcceptedSubmission.Leaves.id {x : AcceptedSubmission} {b : Attempt} (h : x.Leaves b) :
    b.id = x.attemptId := by
  obtain ⟨quiz, a, grade, haccepts, rfl, -⟩ := h
  exact haccepts.id

/-- What a submission was accepted for is closed. -/
theorem AcceptedSubmission.Leaves.isOpen {x : AcceptedSubmission} {b : Attempt} (h : x.Leaves b) :
    b.isOpen = false := by
  obtain ⟨quiz, a, grade, -, rfl, -⟩ := h
  rfl

theorem AcceptedSubmission.Leaves.quizId {x : AcceptedSubmission} {b : Attempt} (h : x.Leaves b)
    (hfiled : x.service.store.Filed) : b.quizId = x.quizId := by
  obtain ⟨quiz, a, grade, haccepts, rfl, -⟩ := h
  exact haccepts.quizId_eq hfiled

/-- **The attempt of an accepted submission stands as it was left.** -/
def AcceptedSubmission.IsKept (x : AcceptedSubmission) (s : Service) : Prop :=
  ∃ b, s.store.attempts.get? x.attemptId = some b ∧ x.Leaves b

/-! ### One command -/

/-- **What one command does to the traces**: nothing, or it closes an attempt as overdue, opens the
next one, or accepts a submission. -/
inductive Service.Advances (s t : Service) : Option AcceptedSubmission → Prop
  | same (hrecords : s.SameRecords t) : Advances s t none
  | closed {quizId : Int} {actor : Actor} {a : Attempt} (hown : s.OwnOverdue quizId actor a)
      (hrows : s.Rewrites t (s.store.attempts.insert a.id (a.expired s.clock)) s.store.allocated) :
      Advances s t none
  | opened {quizId : Int} {actor : Actor} {quiz : Quiz} {enrollment : Enrollment}
      {rows : Table Attempt} (hswept : s.Swept quizId actor rows)
      (hrows : s.Rewrites t (rows.insert (s.nextAttempt quiz enrollment).id
        (s.nextAttempt quiz enrollment)) (s.store.allocated + 1)) :
      Advances s t none
  | graded {x : AcceptedSubmission} {quiz : Quiz} {a : Attempt} {grade : Grade}
      (hservice : x.service = s)
      (haccepts : s.Accepts x.quizId x.attemptId x.answers x.actor quiz a grade)
      (hview : x.view = (a.graded grade s.clock).view quiz.showCorrectAnswers)
      (hcredits : s.Credits t quiz a grade x.actor) :
      Advances s t (some x)

/-- What a request comes to advances the service. -/
theorem Service.ComesTo.advances {s t : Service} {request : Request} {outcome : Outcome Reply}
    (h : s.ComesTo request outcome t) : s.Advances t (s.accepted? request outcome) := by
  cases h with
  | idle _ hrecords hwork =>
      have hnone : s.accepted? request outcome = none := by
        cases request with
        | submit =>
            cases outcome with
            | done reply => simp [Request.isWriting, Outcome.result?] at hwork
            | _ => rfl
        | _ => rfl
      rw [hnone]
      exact .same hrecords
  | published hpublish hevents =>
      obtain ⟨quiz, -, hstore⟩ := Option.map_eq_some_iff.1 hpublish
      exact .same ⟨by rw [← hstore], by rw [← hstore], by rw [← hstore], hevents⟩
  | closed hown hends hrows => cases hends <;> exact .closed hown hrows
  | opened _ _ hswept _ hrows => exact .opened hswept hrows
  | @graded quizId attemptId answers actor quiz a grade t haccepts hcredits =>
      exact .graded (x := ⟨s, quizId, attemptId, answers, actor, _⟩) rfl haccepts rfl hcredits

/-- **Every command that is no step of a transaction advances the service.** -/
theorem Console.AtRest.run_advances {console : Console} (h : console.AtRest) {command : Command}
    (hmanaged : command.isManaged = true) :
    console.service.Advances (console.run command).1.service (console.accepted? command) := by
  unfold Console.accepted?
  rcases console.run_cases command with ⟨request, hrequest, heq⟩ | ⟨hrequest, hsame⟩ |
    ⟨name, rfl, -⟩ | ⟨name, step, tx, rfl, -⟩
  · rw [heq, hrequest, h.locked_eq]
    exact (Service.run_comesTo h.sound h.filed request).advances
  · rw [hrequest]
    exact .same hsame.records
  · simp [Command.isManaged] at hmanaged
  · simp [Command.isManaged] at hmanaged

/-! ### One row -/

/-- **Where a row comes from**: it stood there before, it was opened, it was closed as overdue, or
an accepted submission left it. -/
inductive Service.Origin (s : Service) (accepted : Option AcceptedSubmission) (id : Int)
    (b : Attempt) : Prop
  | stood (h : s.store.attempts.get? id = some b)
  | opened {quiz : Quiz} {enrollment : Enrollment} (h : b = s.nextAttempt quiz enrollment)
  | closed {quizId : Int} {actor : Actor} {a : Attempt} (hown : s.OwnOverdue quizId actor a)
      (hid : a.id = id) (h : b = a.expired s.clock)
  | left {x : AcceptedSubmission} (hx : accepted = some x) (hservice : x.service = s)
      (h : x.Leaves b)

section Rows

variable {s t : Service} {accepted : Option AcceptedSubmission} {id : Int}

/-- The rows once a caller has come by. -/
theorem Service.Swept.origin {quizId : Int} {actor : Actor} {rows : Table Attempt}
    (h : s.Swept quizId actor rows) {b : Attempt} (hb : rows.get? id = some b) :
    s.Origin accepted id b := by
  cases h with
  | same => exact .stood hb
  | closed hown =>
      rw [Table.get?_insert] at hb
      split at hb
      · rename_i hid
        exact .closed hown hid.symm (Option.some.inj hb).symm
      · exact .stood hb

theorem Service.Advances.origin (h : s.Advances t accepted) {b : Attempt}
    (hb : t.store.attempts.get? id = some b) : s.Origin accepted id b := by
  cases h with
  | same hrecords =>
      rw [hrecords.attempts] at hb
      exact .stood hb
  | closed hown hrows =>
      rw [hrows.attempts] at hb
      exact (Service.Swept.closed hown).origin hb
  | opened hswept hrows =>
      rw [hrows.attempts, Table.get?_insert] at hb
      split at hb
      · exact .opened (Option.some.inj hb).symm
      · exact hswept.origin hb
  | @graded x quiz a grade hservice haccepts hview hcredits =>
      rw [hcredits.attempts, Table.get?_insert] at hb
      split at hb
      · obtain rfl := hservice
        exact .left rfl rfl ⟨quiz, a, grade, haccepts, (Option.some.inj hb).symm,
          (Option.some.inj hb) ▸ hview⟩
      · exact .stood hb

theorem Service.Swept.kept {quizId : Int} {actor : Actor} {rows : Table Attempt}
    (h : s.Swept quizId actor rows) {a : Attempt} (ha : s.store.attempts.get? id = some a) :
    ∃ b, rows.get? id = some b ∧ b.Keeps a := by
  cases h with
  | same => exact ⟨a, ha, .refl a⟩
  | closed hown =>
      obtain ⟨quiz, -, hopen, -⟩ := hown
      exact Table.kept_insert hopen.row hopen.isOpen (Attempt.closes_expired _ _) ha

/-- **No row is lost, and a closed one is not touched.** -/
theorem Service.Advances.kept (h : s.Advances t accepted) (hs : s.store.Sound) {a : Attempt}
    (ha : s.store.attempts.get? id = some a) :
    ∃ b, t.store.attempts.get? id = some b ∧ b.Keeps a := by
  cases h with
  | same hrecords =>
      rw [hrecords.attempts]
      exact ⟨a, ha, .refl a⟩
  | closed hown hrows =>
      rw [hrows.attempts]
      exact (Service.Swept.closed hown).kept ha
  | @opened quizId actor quiz enrollment rows hswept hrows =>
      -- the new row stands under an identifier that was not given out before
      have hnew : (s.nextAttempt quiz enrollment).id = s.store.allocated + 1 := rfl
      have hle := hs.allocated ha
      rw [hrows.attempts, Table.get?_insert_of_ne (by omega)]
      exact hswept.kept ha
  | graded _ haccepts _ hcredits =>
      rw [hcredits.attempts]
      exact Table.kept_insert haccepts.own.row haccepts.own.isOpen (Attempt.closes_graded _ _ _) ha

/-- **What accepted submissions have left is kept**, and so is what one leaves now. -/
theorem Service.Advances.isKept (h : s.Advances t accepted) (hs : s.store.Sound)
    {past : List AcceptedSubmission} (hpast : ∀ x ∈ past, x.IsKept s) :
    ∀ x ∈ past ++ accepted.toList, x.IsKept t := by
  intro x hx
  rcases List.mem_append.1 hx with hx | hx
  · obtain ⟨b, hb, hleaves⟩ := hpast x hx
    obtain ⟨c, hc, hkeeps⟩ := h.kept hs hb
    exact ⟨c, hc, hkeeps.eq_of_closed hleaves.isOpen ▸ hleaves⟩
  · cases h with
    | @graded y quiz a grade hservice haccepts hview hcredits =>
        obtain rfl : x = y := by simpa using hx
        obtain rfl := hservice
        refine ⟨a.graded grade x.service.clock, ?_, quiz, a, grade, haccepts, rfl, hview⟩
        rw [hcredits.attempts, haccepts.id, Table.get?_insert_self]
    | _ => simp at hx

end Rows

/-! ### Histories -/

/-- **What every command keeps, with regard to what was accepted until then, every history keeps.**
The services on the way may be known to have a property. -/
theorem Console.AtRest.after_advances {console : Console} (h : console.AtRest)
    (during : Service → Prop) (kept : List AcceptedSubmission → Service → Prop)
    (hstep : ∀ {past : List AcceptedSubmission} {s t : Service}
      {accepted : Option AcceptedSubmission}, s.store.Sound → s.store.Filed → during s →
        s.Advances t accepted → kept past s → kept (past ++ accepted.toList) t)
    (past : List AcceptedSubmission) (hkept : kept past console.service) {commands : List Command}
    (hmanaged : ∀ command ∈ commands, command.isManaged = true)
    (hduring : ∀ earlier, earlier <+: commands → during (console.after earlier).service) :
    (console.after commands).AtRest ∧
      kept (past ++ console.acceptedIn commands) (console.after commands).service := by
  induction commands generalizing console past with
  | nil =>
      rw [acceptedIn, List.append_nil]
      exact ⟨h, hkept⟩
  | cons command commands ih =>
      have hallowed := hmanaged command (List.mem_cons_self ..)
      have hhere : during console.service := hduring [] (List.nil_prefix ..)
      have hthere : ∀ earlier, earlier <+: commands →
          during ((console.run command).1.after earlier).service := by
        intro earlier hearlier
        exact hduring (command :: earlier) ((List.prefix_cons_inj _).2 hearlier)
      have hstepped := hstep h.sound h.filed hhere (h.run_advances hallowed) hkept
      rw [acceptedIn, ← List.append_assoc]
      exact ih (h.run hallowed).1 _ hstepped
        (fun later hlater => hmanaged later (List.mem_cons_of_mem _ hlater)) hthere

/-- Histories without steps of transactions leave the console at rest. -/
theorem Console.AtRest.rests_after {console : Console} (h : console.AtRest)
    {commands : List Command} (hmanaged : ∀ command ∈ commands, command.isManaged = true) :
    (console.after commands).AtRest :=
  (h.after_advances (fun _ => True) (fun _ _ => True) (fun _ _ _ _ _ => trivial) []
    trivial hmanaged fun _ _ => trivial).1

/-- **What a history makes of a row**: the very same, unless it was open and is closed then. -/
theorem Console.AtRest.kept_after {console : Console} (h : console.AtRest)
    {commands : List Command} (hmanaged : ∀ command ∈ commands, command.isManaged = true)
    {id : Int} {a : Attempt} (ha : console.service.store.attempts.get? id = some a) :
    ∃ b, (console.after commands).service.store.attempts.get? id = some b ∧ b.Keeps a := by
  refine (h.after_advances (fun _ => True)
    (fun _ s => ∃ b, s.store.attempts.get? id = some b ∧ b.Keeps a) ?_ []
    ⟨a, ha, .refl a⟩ hmanaged fun _ _ => trivial).2
  intro past s t accepted hs _ _ hadvances hkept
  obtain ⟨b, hb, hkeeps⟩ := hkept
  obtain ⟨c, hc, hkeeps'⟩ := hadvances.kept hs hb
  exact ⟨c, hc, hkeeps'.trans hkeeps⟩

/-- **Every accepted submission met a service as requests leave it, and its attempt stands as it was
left** at the end of the history. -/
theorem Console.AtRest.isKept_after {console : Console} (h : console.AtRest)
    {commands : List Command} (hmanaged : ∀ command ∈ commands, command.isManaged = true) :
    ∀ x ∈ console.acceptedIn commands,
      x.service.store.Filed ∧ x.IsKept (console.after commands).service := by
  have hkept := (h.after_advances (fun _ => True)
    (fun past s => (∀ x ∈ past, x.service.store.Filed) ∧ ∀ x ∈ past, x.IsKept s)
    ?_ [] ⟨by simp, by simp⟩ hmanaged fun _ _ => trivial).2
  · exact fun x hx => ⟨hkept.1 x hx, hkept.2 x hx⟩
  · intro past s t accepted hs hfiled _ hadvances hkept
    refine ⟨fun x hx => ?_, hadvances.isKept hs hkept.2⟩
    rcases List.mem_append.1 hx with hx | hx
    · exact hkept.1 x hx
    · cases hadvances with
      | @graded y _ _ _ hservice =>
          obtain rfl : x = y := by simpa using hx
          rwa [hservice]
      | _ => simp at hx

/-! ### Beginnings -/

theorem Store.get?_ne_some {store : Store} (h : store.attempts = Table.empty) (id : Int)
    (a : Attempt) : store.attempts.get? id ≠ some a := by
  rw [h, Table.get?_empty]
  simp

/-- A service without attempts, whose quizzes are each under its own identifier, is as requests
leave it. -/
theorem Console.AtRest.of_empty {start : Service} (hrows : start.store.attempts = Table.empty)
    (hfiled : start.store.Filed) : (ofService start).AtRest :=
  ⟨rfl, ⟨hrows ▸ Orderly.empty, fun ha => absurd ha (Store.get?_ne_some hrows _ _)⟩, hfiled⟩

theorem Service.filed_blank : Service.blank.store.Filed := by
  intro id quiz h
  simp [Service.blank, Store.empty] at h

end QuizAttempts
