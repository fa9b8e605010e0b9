/-
**Starts and submissions at the same time are as if they were made one after another.**

Any number of students start attempts and submit answers at once, at whatever quizzes.  However
their steps interleave, once all are through there is an order in which the same requests, made one
after another, are answered alike, leave the same attempts with the same identifiers and the same
lessons completed, and announce the same results.  Nobody is told that somebody else was first.

That an attempt is graded once follows from the order: whoever submits it first closes it, closed it
stays, and what is closed is not graded again.

Main definitions:

* `Grades` — a submission of an attempt that was answered with a grade.

Main results:

* `grades_serially_le_one` — one after another, an attempt is graded once at most;
* `Race.serializable` — **serializability**.
-/
import QuizAttempts.Proofs.Numbering
import QuizAttempts.Proofs.Simulation

set_option autoImplicit false

namespace QuizAttempts

/-! ### Graded once -/

/-- A submission of an attempt that was answered with a grade. -/
def Grades (id : Int) : Request × Outcome Reply → Bool
  | (.submit _ attempt _ _, .done _) => attempt == id
  | _ => false

section Serially

variable {s : Service} {request : Request} {id : Int}

/-- **Who grades an attempt found it open, and leaves it closed.** -/
theorem grades_run (hs : s.store.Sound) (hfiled : s.store.Filed)
    (h : Grades id (request, (s.run [] request.program).2) = true) :
    (∃ a, s.store.attempts.get? id = some a ∧ a.isOpen = true) ∧
      ∃ b, (s.run [] request.program).1.store.attempts.get? id = some b ∧ b.isOpen = false := by
  have hcomes := Service.run_comesTo hs hfiled request
  generalize (s.run [] request.program).2 = outcome at h hcomes
  generalize (s.run [] request.program).1 = t at hcomes ⊢
  cases hcomes with
  | @graded quizId attemptId answers actor quiz a grade t haccepts hcredits =>
      obtain rfl : attemptId = id := by simpa [Grades] using h
      obtain rfl := haccepts.id
      refine ⟨⟨a, haccepts.own.row, haccepts.own.isOpen⟩, a.graded grade s.clock, ?_, rfl⟩
      rw [hcredits.attempts, Table.get?_insert_self]
  | idle _ _ hwork =>
      cases request with
      | submit quizId attemptId answers actor =>
          cases outcome with
          | done reply => simp [Outcome.result?, Request.isWriting] at hwork
          | _ => simp [Grades] at h
      | _ => simp [Grades] at h
  | closed _ hends => cases hends <;> simp [Grades] at h
  | _ => simp [Grades] at h

/-- Nobody grades an attempt that is closed. -/
theorem grades_serially_of_closed (hs : s.store.Sound) (hfiled : s.store.Filed) {a : Attempt}
    (ha : s.store.attempts.get? id = some a) (hclosed : a.isOpen = false)
    (requests : List Request) : ∀ x ∈ (s.serially requests).2, Grades id x = false := by
  induction requests generalizing s a with
  | nil => simp [Service.serially]
  | cons request requests ih =>
      intro x hx
      rcases List.mem_cons.1 hx with rfl | hx
      · rw [Bool.eq_false_iff]
        intro hgrades
        obtain ⟨⟨b, hb, hopen⟩, -⟩ := grades_run hs hfiled hgrades
        rw [ha] at hb
        rw [Option.some.inj hb, hopen] at hclosed
        simp at hclosed
      · obtain ⟨b, hb, hbclosed⟩ := (Service.run_moves hs hfiled request).closed hs ha hclosed
        exact ih (Service.run_sound hs [] request.program).1
          (Program.exec_filed request.program hfiled) hb hbclosed x hx

/-- **One after another, an attempt is graded once at most.** -/
theorem grades_serially_le_one (hs : s.store.Sound) (hfiled : s.store.Filed) (id : Int)
    (requests : List Request) : (s.serially requests).2.countP (Grades id) ≤ 1 := by
  induction requests generalizing s with
  | nil => simp [Service.serially]
  | cons request requests ih =>
      have hsound' := (Service.run_sound hs [] request.program).1
      have hfiled' : (s.run [] request.program).1.store.Filed :=
        Program.exec_filed request.program hfiled
      show ((request, (s.run [] request.program).2) ::
        ((s.run [] request.program).1.serially requests).2).countP (Grades id) ≤ 1
      rw [List.countP_cons]
      split
      · rename_i hgrades
        obtain ⟨-, b, hb, hclosed⟩ := grades_run hs hfiled hgrades
        have hnone := grades_serially_of_closed hsound' hfiled' hb hclosed requests
        have hzero : ((s.run [] request.program).1.serially requests).2.countP (Grades id) = 0 :=
          List.countP_eq_zero.2 fun x hx => by simp [hnone x hx]
        omega
      · exact ih hsound' hfiled'

end Serially

/-! ### Serializability -/

theorem reachesLock_of_isWriting (s : Service) {request : Request}
    (h : request.isWriting = true) : ReachesLock s request.program Transaction.fresh := by
  cases request with
  | start quiz actor => exact reachesLock_start s quiz actor
  | submit quiz attempt answers actor => exact reachesLock_submit s quiz attempt answers actor
  | _ => simp [Request.isWriting] at h

/-- With all calls over everything is decided, and nothing is deferred. -/
theorem Sim.decided {start s t : Service} {log : List (Request × Outcome Reply)}
    {entries : List Entry} (h : Sim start s t log entries)
    (hover : ∀ x ∈ entries, (x.1.answer?).isSome = true) :
    (∀ d ∈ entries.filterMap (·.2), d.rows = Table.empty ∧ d.lessons = [] ∧ d.events = [] ∧
      d.outcome.isOvertaken = false) ∧
    entries.filterMap Entry.answer? = (entries.map (·.1)).filterMap (·.answer?) := by
  have hdecided : ∀ x ∈ entries, ∃ outcome, x.2 = some ⟨outcome, Table.empty, [], []⟩ ∧
      outcome.isOvertaken = false ∧ x.1.answer? = some (x.1.request, outcome) := by
    rintro ⟨call, deferred⟩ hx
    have hphase := h.phase _ hx
    have hsome := hover _ hx
    cases call with
    | running request rest tx => simp [Call.answer?] at hsome
    | ended request outcome =>
        cases hphase with
        | ended hfair => exact ⟨outcome, rfl, hfair, rfl⟩
  constructor
  · intro d hd
    obtain ⟨x, hx, hdeferred⟩ := List.mem_filterMap.1 hd
    obtain ⟨outcome, hdecided, hfair, -⟩ := hdecided x hx
    rw [hdecided] at hdeferred
    rw [← Option.some.inj hdeferred]
    exact ⟨rfl, rfl, rfl, hfair⟩
  · rw [List.filterMap_map]
    refine List.filterMap_congr fun x hx => ?_
    obtain ⟨outcome, hdeferred, -, hanswer⟩ := hdecided x hx
    simp only [Entry.answer?, hdeferred, Option.map_some, Function.comp_apply, hanswer]

namespace Race

/-- **Serializability.**  Starts and submissions are made at the same time on a service that
requests and edits have reached, and no collisions are asked for.  Once all of them are over, there
is an order in which the same requests, made one after another, are answered alike and leave the
same attempts, the same completed lessons and, in whichever order, the same events.  Nobody is
refused because somebody else was first, and no attempt is graded twice. -/
theorem serializable {start : Service} (hmanaged : start.Managed)
    (hpending : start.pendingCollisions = 0) {requests : List Request}
    (hwriting : ∀ request ∈ requests, request.isWriting = true) {final : Race}
    (hreaches : (ofRequests start requests).Reaches final) (hover : final.isOver) :
    final.answers.map (·.1) = requests ∧
    (∃ order : List (Request × Outcome Reply), order.Perm final.answers ∧
      let serial := start.serially (order.map (·.1))
      serial.2 = order ∧
      serial.1.store.attempts = final.service.store.attempts ∧
      serial.1.store.completed = final.service.store.completed ∧
      serial.1.events.Perm final.service.events) ∧
    (∀ answer ∈ final.answers, answer.2.isOvertaken = false) ∧
    ∀ id, final.answers.countP (Grades id) ≤ 1 := by
  obtain ⟨hsound, hfiled⟩ := Console.AtRest.of_managed hmanaged
  have hbegins := Sim.begins hsound hpending
    fun request hrequest => reachesLock_of_isWriting start (hwriting request hrequest)
  have hcalls : (ofRequests start requests).calls = (requests.map fun request =>
      ((.running request request.program Transaction.fresh, none) : Entry)).map (·.1) := by
    simp [ofRequests]
  obtain ⟨t, log, entries, hentries, hsim⟩ := Sim.reaches hreaches ⟨_, _, _, hcalls, hbegins⟩
  have hover' : ∀ x ∈ entries, (x.1.answer?).isSome = true := by
    intro x hx
    refine hover x.1 ?_
    rw [hentries]
    exact List.mem_map_of_mem hx
  obtain ⟨hdeferred, hanswers⟩ := hsim.decided hover'
  have hlog : log.Perm final.answers := by
    rw [answers, hentries, ← hanswers]
    exact hsim.log
  -- the order is the one in which the requests were decided
  refine ⟨?_, ⟨log, hlog, ?_⟩, ?_, ?_⟩
  · rw [answers_of_isOver hover, request_of_reaches hreaches]
    simp [ofRequests, Function.comp_def, Call.request]
  · rw [hsim.serial]
    exact ⟨rfl, hsim.ahead.attempts_eq fun d hd => (hdeferred d hd).1,
      hsim.ahead.completed_eq fun d hd => (hdeferred d hd).2.1,
      hsim.ahead.events_perm fun d hd => (hdeferred d hd).2.2.1⟩
  · intro answer hanswer
    rw [answers, hentries, ← hanswers] at hanswer
    obtain ⟨x, hx, hx'⟩ := List.mem_filterMap.1 hanswer
    obtain ⟨d, hd, rfl⟩ := Option.map_eq_some_iff.1 hx'
    exact (hdeferred d (List.mem_filterMap.2 ⟨x, hx, hd⟩)).2.2.2
  · intro id
    rw [← hlog.countP_eq]
    have hone := grades_serially_le_one hsound hfiled id (log.map (·.1))
    rwa [hsim.serial] at hone

/-- A student who has started submits the attempt twice and starts the next one, all at once. -/
def rush : List Request :=
  [.submit 1 1 [] learner, .submit 1 1 [] learner, .start 1 learner]

/-- The three of them take their operations in turn, as often as any of them needs to. -/
def turns : List Nat := (List.replicate 16 [0, 1, 2]).flatten

/-- One submission is graded, and the next attempt has the next number; in some order of the three
requests this is what comes out. -/
theorem serializable_rush :
    let start := ((Console.ofService Service.blank).after
      (classroom none ++ [.request (.start 1 learner)])).service
    let final := (ofRequests start rush).follow turns
    start.Managed ∧ start.pendingCollisions = 0 ∧
      (∀ request ∈ rush, request.isWriting = true) ∧ (ofRequests start rush).Reaches final ∧
      final.isOver ∧ final.answers.countP (Grades 1) = 1 ∧
      final.service.store.attempts.values.map (fun a => (a.number, a.status)) =
        [(1, .graded), (2, .inProgress)] ∧
      ∃ order : List (Request × Outcome Reply), order.Perm final.answers ∧
        (start.serially (order.map (·.1))).1.store.attempts = final.service.store.attempts := by
  intro start final
  have hmanaged : start.Managed := ⟨Service.blank, _, rfl, by decide +kernel, rfl⟩
  have hpending : start.pendingCollisions = 0 := by decide +kernel
  have hwriting : ∀ request ∈ rush, request.isWriting = true := by decide +kernel
  have hreaches : (ofRequests start rush).Reaches final := reaches_follow _ turns
  have hover : final.isOver := by
    have hall : final.calls.all (fun call => (call.answer?).isSome) = true := by decide +kernel
    exact List.all_eq_true.1 hall
  obtain ⟨-, ⟨order, hperm, -, hattempts, -, -⟩, -, -⟩ :=
    serializable hmanaged hpending hwriting hreaches hover
  exact ⟨hmanaged, hpending, hwriting, hreaches, hover, by decide +kernel, by decide +kernel,
    order, hperm, hattempts⟩

end Race

end QuizAttempts
