/-
**Starts and submissions at the same time, followed by a serial run.**

Beside a race runs a second service, in which the requests are made one after another.  A request is
made there at the moment it is decided in the race: when it inserts the next attempt, when it
commits the closing of one, or when it ends without writing.  At that moment nobody else has
deferred rows of its enrollment, whose lock it holds, so it finds there what it found in the race,
and is answered alike.  From then on the serial service is ahead by what the request has deferred,
and the request makes these writes by its own steps.

A request is not always decided at its commit.  Identifiers are given out when an attempt is
inserted, across all enrollments, so starts are decided in the order of their inserts.

Main definitions:

* `Phase` — **how far a call is**: before the lock, under it, with the next attempt staged,
  committed, or ended;
* `Sim` — the race and the serial run side by side.

Main results:

* `Sim.act`, `Sim.finish` — **each step of the race is followed**;
* `Sim.reaches` — and so is every run.
-/
import QuizAttempts.Proofs.Ahead

set_option autoImplicit false

namespace QuizAttempts

/-! ### Resuming a program -/

/-- **Runs the rest of a program**, with what its transaction holds. -/
def Service.resume {α : Type} (t : Service) (p : Program α) (tx : Transaction) :
    Service × Outcome α :=
  ((p.exec [] ⟨t, tx⟩).1.service, (p.exec [] ⟨t, tx⟩).2)

namespace Service

variable {α : Type} {t : Service} {p p' : Program α} {tx tx' : Transaction}

theorem resume_of_looks {C : Service → Prop} (h : Looks C p tx p' tx') (ht : C t) :
    t.resume p tx = t.resume p' tx' := by
  rw [resume, h.exec ht, resume]

theorem resume_of_verdict {outcome : Outcome α} (h : p.verdict? = some outcome) :
    t.resume p tx = (t, outcome) := by
  rw [resume, Program.exec_of_verdict h]

/-- An operation that is performed whoever else is at work is the next one. -/
theorem resume_step {op : Op} {next : op.Reply → Program α} {s : Session} {reply : op.Reply}
    (h : Session.perform [] ⟨t, tx⟩ op = some (s, reply)) :
    t.resume (.step op next) tx = s.service.resume (next reply) s.tx := by
  simp only [resume, Program.exec, h]

theorem resume_of_afterCommit {lessons : List (Int × Int)} {events : List SubmissionEvent}
    {outcome : Outcome α} (h : AfterCommit p lessons events outcome) :
    t.resume p tx = (t.tell lessons events, outcome) := by
  rw [resume, h.exec]

end Service

/-- Of an operation that was performed the service, the transaction and the reply are known. -/
theorem Session.eq_of_performed {β : Type} {s s' : Service} {tx tx' : Transaction}
    {reply reply' : β} (h : some ((⟨s, tx⟩ : Session), reply) = some (⟨s', tx'⟩, reply')) :
    s = s' ∧ tx = tx' ∧ reply = reply' := by
  obtain ⟨hsession, hreply⟩ := Prod.mk.inj (Option.some.inj h)
  obtain ⟨hservice, htx⟩ := Session.mk.inj hsession
  exact ⟨hservice, htx, hreply⟩

/-! ### The phases of a call -/

/-- **How far a call is**, and what it has deferred once it is decided.  Until then the serial run
of its request comes as far as the call by looking. -/
inductive Phase (start s : Service) : Call → Option Deferred → Prop
  | beforeLock {request : Request} {p : Program Reply} {tx : Transaction} (hheld : tx.held = [])
      (h : ReachesLock start p tx)
      (hreplay : ∀ t, start.SameSetting t → t.run [] request.program = t.resume p tx) :
      Phase start s (.running request p tx) none
  | underLock {request : Request} {p : Program Reply} {tx : Transaction} {e : Int}
      (hheld : tx.held = [e]) (h : ReachesWrite s e p tx)
      (hreplay : ∀ t, start.SameSetting t → s.SameUnderLock e t →
        t.run [] request.program = t.resume p tx) :
      Phase start s (.running request p tx) none
  | staged {request : Request} {next : Except Taken Unit → Program Reply} {tx : Transaction}
      {e : Int} {lessons : List (Int × Int)} {events : List SubmissionEvent}
      {outcome : Outcome Reply} (hheld : tx.held = [e]) (hwithin : tx.Within s.store)
      (hrows : ∀ (id : Int) (b : Attempt), tx.staged.get? id = some b → b.enrollmentId = e)
      (hcommit : ∀ t, s.SameUnderLock e t → Session.commit ⟨t, tx⟩ =
        (⟨t.write tx.staged, Transaction.fresh⟩, .ok ()))
      (hrest : AfterCommit (next (.ok ())) lessons events outcome) :
      Phase start s (.running request (.step .commit next) tx)
        (some ⟨outcome, tx.staged, lessons, events⟩)
  | committed {request : Request} {p : Program Reply} {lessons : List (Int × Int)}
      {events : List SubmissionEvent} {outcome : Outcome Reply}
      (h : AfterCommit p lessons events outcome) :
      Phase start s (.running request p Transaction.fresh)
        (some ⟨outcome, Table.empty, lessons, events⟩)
  | ended {request : Request} {outcome : Outcome Reply} (h : outcome.isOvertaken = false) :
      Phase start s (.ended request outcome) (some ⟨outcome, Table.empty, [], []⟩)

namespace Phase

variable {start s s' : Service} {call : Call} {d : Deferred} {deferred : Option Deferred}

/-- A call stays in its phase as long as nobody touches the enrollment that it has locked. -/
theorem of_alike (h : Phase start s call deferred) (halike : ∀ e ∈ call.held, s.Alike e s')
    (hle : s.store.allocated ≤ s'.store.allocated) : Phase start s' call deferred := by
  cases h with
  | beforeLock hheld h hreplay => exact .beforeLock hheld h hreplay
  | @underLock request p tx e hheld h hreplay =>
      have hsame : s.Alike e s' := halike e (by simp [Call.held, hheld])
      exact .underLock hheld (h.of_alike hsame) fun t ht hunder =>
        hreplay t ht (hunder.of_alike hsame)
  | @staged request next tx e lessons events outcome hheld hwithin hrows hcommit hrest =>
      have hsame : s.Alike e s' := halike e (by simp [Call.held, hheld])
      exact .staged hheld (hwithin.mono hle) hrows
        (fun t hunder => hcommit t (hunder.of_alike hsame)) hrest
  | committed h => exact .committed h
  | ended h => exact .ended h

/-- Deferred rows are of a locked enrollment. -/
theorem enrollmentId_mem (h : Phase start s call (some d)) {id : Int} {a : Attempt}
    (ha : d.rows.get? id = some a) : a.enrollmentId ∈ call.held := by
  cases h with
  | staged hheld hwithin hrows hcommit hrest =>
      rw [Call.held, hheld, hrows id a ha]
      exact List.mem_singleton_self _
  | committed | ended => simp at ha

end Phase

/-! ### Side by side -/

/-- A call, and what it has deferred once it is decided. -/
abbrev Entry := Call × Option Deferred

/-- The request of a call with its outcome, once that is decided. -/
def Entry.answer? (x : Entry) : Option (Request × Outcome Reply) :=
  x.2.map fun d => (x.1.request, d.outcome)

/-- **The race and the serial run side by side**: the serial run of the requests that are decided,
in the order in which they were, has come to the service `t`. -/
structure Sim (start s t : Service) (log : List (Request × Outcome Reply)) (entries : List Entry) :
    Prop where
  serial : start.serially (log.map (·.1)) = (t, log)
  setting : start.SameSetting s
  pending : s.pendingCollisions = 0
  sound : s.store.Sound
  serialSound : t.store.Sound
  ahead : s.Ahead t (entries.filterMap (·.2))
  phase : ∀ x ∈ entries, Phase start s x.1 x.2
  locks : (entries.flatMap (·.1.held)).Nodup
  log : log.Perm (entries.filterMap Entry.answer?)

namespace Sim

variable {start s t : Service} {log : List (Request × Outcome Reply)}
  {entries entries' : List Entry}

/-- The order of the calls does not matter. -/
theorem perm (h : Sim start s t log entries) (hperm : entries.Perm entries') :
    Sim start s t log entries' where
  serial := h.serial
  setting := h.setting
  pending := h.pending
  sound := h.sound
  serialSound := h.serialSound
  ahead := h.ahead.perm (hperm.filterMap _)
  phase x hx := h.phase x (hperm.mem_iff.2 hx)
  locks := (hperm.flatMap_right _).nodup_iff.1 h.locks
  log := h.log.trans (hperm.filterMap _)

section Head

variable {call call' : Call} {others : List Entry} {s' t' : Service} {d d' : Deferred}

/-- The other calls stay in their phases. -/
theorem phase_others {deferred deferred' : Option Deferred}
    (h : Sim start s t log ((call, deferred) :: others)) (hphase : Phase start s' call' deferred')
    (halike : ∀ e ∈ others.flatMap (·.1.held), s.Alike e s')
    (hle : s.store.allocated ≤ s'.store.allocated) :
    ∀ x ∈ (call', deferred') :: others, Phase start s' x.1 x.2 := by
  intro x hx
  rcases List.mem_cons.1 hx with rfl | hx
  · exact hphase
  · refine (h.phase x (List.mem_cons_of_mem _ hx)).of_alike (fun e he => halike e ?_) hle
    exact List.mem_flatMap.2 ⟨x, hx, he⟩

/-- The rows that others have deferred are not of an enrollment that the call has locked. -/
theorem deferred_ne {deferred : Option Deferred}
    (h : Sim start s t log ((call, deferred) :: others)) {e : Int} (he : e ∈ call.held) :
    ∀ d ∈ others.filterMap (·.2), ∀ (id : Int) (a : Attempt),
      d.rows.get? id = some a → a.enrollmentId ≠ e := by
  intro d hd id a ha heq
  obtain ⟨x, hx, hdeferred⟩ := List.mem_filterMap.1 hd
  -- deferred rows are of locked enrollments, and no enrollment is locked twice
  have hphase := h.phase x (List.mem_cons_of_mem _ hx)
  rw [hdeferred] at hphase
  have hlocks := h.locks
  rw [List.flatMap_cons, List.nodup_append] at hlocks
  have hmem : a.enrollmentId ∈ others.flatMap (·.1.held) :=
    List.mem_flatMap.2 ⟨x, hx, hphase.enrollmentId_mem ha⟩
  exact hlocks.2.2 e he _ hmem heq.symm

/-- The enrollments that others have locked are not locked by the call. -/
theorem held_ne {deferred : Option Deferred}
    (h : Sim start s t log ((call, deferred) :: others)) {e e' : Int} (he : e ∈ call.held)
    (he' : e' ∈ others.flatMap (·.1.held)) : e' ≠ e := by
  have hlocks := h.locks
  rw [List.flatMap_cons, List.nodup_append] at hlocks
  exact (hlocks.2.2 e he e' he').symm

/-- A call goes on undecided, and may have taken a lock. -/
theorem proceed (h : Sim start s t log ((call, none) :: others))
    (hphase : Phase start s call' none)
    (hlocks : ∀ e ∈ call'.held, e ∉ others.flatMap (·.1.held)) (hheld : call'.held.Nodup) :
    Sim start s t log ((call', none) :: others) where
  serial := h.serial
  setting := h.setting
  pending := h.pending
  sound := h.sound
  serialSound := h.serialSound
  ahead := h.ahead
  phase := h.phase_others hphase (fun e _ => .refl e s) (Nat.le_refl _)
  locks := by
    have hothers := h.locks
    rw [List.flatMap_cons, List.nodup_append] at hothers ⊢
    refine ⟨hheld, hothers.2.1, fun e he e' he' heq => hlocks e he ?_⟩
    rwa [heq]
  log := h.log

/-- **A call is decided**, and its request is made in the serial run. -/
theorem decide_call (h : Sim start s t log ((call, none) :: others))
    (hrequest : call'.request = call.request) (hphase : Phase start s' call' (some d))
    (hheld : call'.held.Sublist call.held)
    (halike : ∀ e ∈ others.flatMap (·.1.held), s.Alike e s')
    (hle : s.store.allocated ≤ s'.store.allocated) (hsetting : s.SameSetting s')
    (hpending : s'.pendingCollisions = s.pendingCollisions) (hsound : s'.store.Sound)
    (hrun : t.run [] call.request.program = (t', d.outcome))
    (hahead : s'.Ahead t' (d :: others.filterMap (·.2))) :
    Sim start s' t' (log ++ [(call.request, d.outcome)]) ((call', some d) :: others) where
  serial := by
    rw [List.map_append, List.map_singleton, Service.serially_append, h.serial, hrun]
  setting := h.setting.trans hsetting
  pending := hpending.trans h.pending
  sound := hsound
  serialSound := by
    have hsound' := (Service.run_sound h.serialSound [] call.request.program).1
    rwa [hrun] at hsound'
  ahead := hahead
  phase := h.phase_others hphase halike hle
  locks := h.locks.sublist (hheld.append (List.Sublist.refl _))
  log := by
    show (log ++ [(call.request, d.outcome)]).Perm
      ((call'.request, d.outcome) :: others.filterMap Entry.answer?)
    rw [hrequest]
    exact List.perm_append_comm.trans (h.log.cons _)

/-- **A decided call makes some of its deferred writes.** -/
theorem make_deferred (h : Sim start s t log ((call, some d) :: others))
    (hrequest : call'.request = call.request) (houtcome : d'.outcome = d.outcome)
    (hphase : Phase start s' call' (some d')) (hheld : call'.held.Sublist call.held)
    (halike : ∀ e ∈ others.flatMap (·.1.held), s.Alike e s')
    (hallocated : s'.store.allocated = s.store.allocated) (hsetting : s.SameSetting s')
    (hpending : s'.pendingCollisions = s.pendingCollisions) (hsound : s'.store.Sound)
    (hahead : s'.Ahead t (d' :: others.filterMap (·.2))) :
    Sim start s' t log ((call', some d') :: others) where
  serial := h.serial
  setting := h.setting.trans hsetting
  pending := hpending.trans h.pending
  sound := hsound
  serialSound := h.serialSound
  ahead := hahead
  phase := h.phase_others hphase halike (Nat.le_of_eq hallocated.symm)
  locks := h.locks.sublist (hheld.append (List.Sublist.refl _))
  log := by
    show log.Perm ((call'.request, d'.outcome) :: others.filterMap Entry.answer?)
    rw [hrequest, houtcome]
    exact h.log

end Head

/-! ### One step -/

section Act

variable {request : Request} {op : Op} {next : op.Reply → Program Reply} {tx tx' : Transaction}
  {reply : op.Reply} {others : List Entry} {s' : Service} {e : Int}

/-- **A call before the lock** looks, or takes the lock. -/
theorem act_beforeLock
    (h : Sim start s t log ((.running request (.step op next) tx, none) :: others))
    (hperform : Session.perform (others.flatMap (·.1.held)) ⟨s, tx⟩ op = some (⟨s', tx'⟩, reply))
    (hheld : tx.held = []) (hreaches : ReachesLock start (.step op next) tx)
    (hreplay : ∀ t, start.SameSetting t → t.run [] request.program = t.resume (.step op next) tx) :
    s' = s ∧ Sim start s t log ((.running request (next reply) tx', none) :: others) := by
  obtain ⟨p', after, hlooks, hlock⟩ := hreaches
  rcases hlooks.step_cases with ⟨rfl, rfl⟩ | ⟨mid, p, hop, hmid, hrest⟩
  · -- it has come to the lock, which it takes as soon as nobody else has it
    cases hlock with
    | ends hends => exact absurd hends.verdict (by simp [Program.verdict?])
    | @locks student course enrollment next henrollment hreaches =>
        have hlock : ∀ t : Service, start.SameSetting t → ∀ locked : List Int,
            Session.perform locked ⟨t, Transaction.fresh⟩ (.lockEnrollment student course) =
              if locked.contains enrollment.id then none
              else some (⟨t, ⟨[enrollment.id], Table.empty⟩⟩, some enrollment) := by
          intro t ht locked
          simp only [Session.perform, Transaction.lock?, ht.enrollmentOf?, henrollment]
          cases hlocked : locked.contains enrollment.id with
          | true => simp [Transaction.fresh]
          | false => simp [Transaction.fresh]
        rw [hlock s h.setting] at hperform
        split at hperform
        · simp at hperform
        · rename_i hfree
          obtain ⟨rfl, rfl, rfl⟩ := Session.eq_of_performed hperform
          refine ⟨rfl, h.proceed (.underLock rfl (hreaches _ h.setting h.sound) ?_) ?_ ?_⟩
          · intro t ht _
            rw [hreplay t ht, Service.resume_step (hlock t ht [])]
          · simpa [Call.held] using hfree
          · simp [Call.held]
  · obtain ⟨seen, hseen, rfl⟩ := hop s h.setting (others.flatMap (·.1.held))
    rw [hseen] at hperform
    obtain ⟨rfl, rfl, rfl⟩ := Session.eq_of_performed hperform
    refine ⟨rfl, h.proceed (.beforeLock (hmid.trans hheld) ⟨p', after, hrest, hlock⟩ ?_) ?_ ?_⟩
    · intro t ht
      rw [hreplay t ht]
      exact Service.resume_of_looks (.look hop hmid (.here _ _)) ht
    · simp [Call.held, hmid, hheld]
    · simp [Call.held, hmid, hheld]

/-- The serial service looks like the race to a call that has locked an enrollment. -/
theorem sameUnderLock
    (h : Sim start s t log ((.running request (.step op next) tx, none) :: others))
    (hheld : tx.held = [e]) : start.SameSetting t ∧ s.SameUnderLock e t := by
  have hahead : s.Ahead t (others.filterMap (·.2)) := h.ahead
  refine ⟨h.setting.trans hahead.setting, hahead.alike (h.deferred_ne ?_), h.serialSound⟩
  simp [Call.held, hheld]

/-- **A call commits the closing of an attempt**: it is decided, and its rows are not deferred. -/
theorem act_commit {next : Except Taken Unit → Program Reply} {q : Int}
    {lessons : List (Int × Int)} {events : List SubmissionEvent} {outcome : Outcome Reply}
    (h : Sim start s t log ((.running request (.step .commit next) tx, none) :: others))
    (hheld : tx.held = [e])
    (hreplay : ∀ t, start.SameSetting t → s.SameUnderLock e t →
      t.run [] request.program = t.resume (.step .commit next) tx)
    (hready : ∀ t, s.SameUnderLock e t → tx.Ready t.store e q)
    (hrest : AfterCommit (next (.ok ())) lessons events outcome) :
    Session.commit ⟨s, tx⟩ = (⟨s.write tx.staged, Transaction.fresh⟩, .ok ()) ∧
      ∃ t' log' deferred, Sim start (s.write tx.staged) t' log'
        ((.running request (next (.ok ())) Transaction.fresh, deferred) :: others) := by
  obtain ⟨hsetting, hunder⟩ := h.sameUnderLock hheld
  have hreadyHere : tx.Ready s.store e q := hready s ⟨.refl e s, h.sound⟩
  have hreadyThere : tx.Ready t.store e q := hready t hunder
  have hmem : e ∈ tx.held := by simp [hheld]
  refine ⟨session_commit h.sound hreadyHere,
    (t.write tx.staged).tell lessons events, _, some ⟨outcome, Table.empty, lessons, events⟩,
    h.decide_call rfl (.committed hrest) (List.nil_sublist _) (fun e' he' => ?_) (Nat.le_refl _)
      ⟨rfl, rfl, rfl, rfl⟩ rfl ?_ ?_ ?_⟩
  · exact .write_of_belongTo hreadyHere.belongTo (h.held_ne hmem he')
  · exact (Transaction.commit_sound h.sound hreadyHere.within (hreadyHere.commit h.sound)).1
  · have hcommit : Session.perform [] ⟨t, tx⟩ .commit = _ :=
      congrArg some (session_commit hunder.2 hreadyThere)
    rw [Call.request, hreplay t hsetting hunder, Service.resume_step hcommit]
    exact Service.resume_of_afterCommit hrest
  · have hdeferred : s.Ahead _ _ := h.ahead.defer (d := ⟨outcome, tx.staged, lessons, events⟩)
      hreadyThere.belongTo (h.deferred_ne hmem)
    exact hdeferred.commit

/-- **A call inserts the next attempt**: it is decided, and its rows are deferred. -/
theorem act_insert {new : NewAttempt} {next : Except Taken Attempt → Program Reply}
    {after : Attempt → Except Taken Unit → Program Reply} {q : Int}
    (h : Sim start s t log ((.running request (.step (.insert new) next) tx, none) :: others))
    (hheld : tx.held = [e])
    (hreplay : ∀ t, start.SameSetting t → s.SameUnderLock e t →
      t.run [] request.program = t.resume (.step (.insert new) next) tx)
    (hready : ∀ t, s.SameUnderLock e t → tx.Ready t.store e q)
    (hnew : new.enrollmentId = e ∧ new.quizId = q)
    (hnumber : ∀ t, s.SameUnderLock e t → t.latest e q < new.number)
    (hnext : ∀ a, next (.ok a) = .step .commit (after a))
    (hrest : ∀ a, ∃ lessons events outcome, AfterCommit (after a (.ok ())) lessons events outcome) :
    ∃ a : Attempt, Session.insert ⟨s, tx⟩ new = (⟨s.allocate, tx.stage a⟩, .ok a) ∧
      ∃ t' log' deferred, Sim start s.allocate t' log'
        ((.running request (next (.ok a)) (tx.stage a), deferred) :: others) := by
  obtain ⟨hsetting, hunder⟩ := h.sameUnderLock hheld
  have hahead : s.Ahead t (others.filterMap (·.2)) := h.ahead
  have hhere : s.SameUnderLock e s := ⟨.refl e s, h.sound⟩
  have hmem : e ∈ tx.held := by simp [hheld]
  have hallocate : s.Alike e s.allocate := .allocate e s
  generalize ha : new.toAttempt (s.store.allocated + 1) = a
  have hid : a.id = s.store.allocated + 1 := by rw [← ha]; rfl
  have hpair : a.isOf e q = true := by rw [← ha]; exact Attempt.isOf_iff.2 hnew
  have hanumber : a.number = new.number := by rw [← ha]; rfl
  obtain ⟨lessons, events, outcome, hafter⟩ := hrest a
  -- both sides give out the same identifier
  have hinsert : Session.insert ⟨s, tx⟩ new = (⟨s.allocate, tx.stage a⟩, .ok a) := by
    rw [← ha]
    exact session_insert h.pending (hready s hhere) hnew.1 hnew.2 (hnumber s hhere)
  have hinsertThere : Session.insert ⟨t, tx⟩ new = (⟨t.allocate, tx.stage a⟩, .ok a) := by
    rw [← ha, ← hahead.allocated]
    exact session_insert (hahead.pendingCollisions.trans h.pending) (hready t hunder) hnew.1 hnew.2
      (hnumber t hunder)
  have hcommit : ∀ t, s.SameUnderLock e t → Session.commit ⟨t, tx.stage a⟩ =
      (⟨t.write (tx.stage a).staged, Transaction.fresh⟩, .ok ()) := fun t ht =>
    session_commit_next ht.2 (hready t ht) hpair (hanumber ▸ hnumber t ht)
  have hfree : t.store.attempts.get? a.id = none := by
    rw [Option.eq_none_iff_forall_ne_some]
    intro b hb
    have hle := h.serialSound.allocated hb
    have hids := hahead.allocated
    omega
  have hbelong : (tx.stage a).staged.BelongTo t.store.attempts e :=
    (hready t hunder).belongTo.insert (Attempt.isOf_iff.1 hpair).1 hfree
  refine ⟨a, hinsert, (t.allocate.write (tx.stage a).staged).tell lessons events, _,
    some ⟨outcome, (tx.stage a).staged, lessons, events⟩,
    h.decide_call rfl ?_ (List.Sublist.refl _) (fun e' _ => .allocate e' s) (Nat.le_succ _)
      ⟨rfl, rfl, rfl, rfl⟩ rfl h.sound.allocate ?_ ?_⟩
  · rw [hnext]
    have hwithin : (tx.stage a).Within s.allocate.store := by
      refine ((hready s hhere).within.mono (Nat.le_succ _)).stage ?_
      show a.id ≤ ((s.store.allocated + 1 : Nat) : Int)
      omega
    exact .staged hheld hwithin (fun id b hb => (hbelong id b hb).1)
      (fun t ht => hcommit t (ht.of_alike hallocate)) hafter
  · have hperform : Session.perform [] ⟨t, tx⟩ (.insert new) = _ := congrArg some hinsertThere
    have hunder' : s.SameUnderLock e t.allocate :=
      ⟨hunder.1.trans (.allocate e t), hunder.2.allocate⟩
    have hperform' : Session.perform [] ⟨t.allocate, tx.stage a⟩ .commit = _ :=
      congrArg some (hcommit t.allocate hunder')
    rw [Call.request, hreplay t hsetting hunder, Service.resume_step hperform, hnext,
      Service.resume_step hperform']
    exact Service.resume_of_afterCommit hafter
  · exact hahead.allocate.defer (d := ⟨outcome, (tx.stage a).staged, lessons, events⟩)
      hbelong (h.deferred_ne hmem)

/-- **A call under the lock** looks, or makes its first write. -/
theorem act_underLock
    (h : Sim start s t log ((.running request (.step op next) tx, none) :: others))
    (hperform : Session.perform (others.flatMap (·.1.held)) ⟨s, tx⟩ op = some (⟨s', tx'⟩, reply))
    (hheld : tx.held = [e]) (hreaches : ReachesWrite s e (.step op next) tx)
    (hreplay : ∀ t, start.SameSetting t → s.SameUnderLock e t →
      t.run [] request.program = t.resume (.step op next) tx) :
    ∃ t' log' deferred,
      Sim start s' t' log' ((.running request (next reply) tx', deferred) :: others) := by
  obtain ⟨p', after, hlooks, hwrite⟩ := hreaches
  rcases hlooks.step_cases with ⟨rfl, rfl⟩ | ⟨mid, p, hop, hmid, hrest⟩
  · -- it is at its first write, and is decided by it
    cases hwrite with
    | ends hends => exact absurd hends.verdict (by simp [Program.verdict?])
    | commits hready hrest =>
        obtain ⟨hcommit, hsim⟩ := h.act_commit hheld hreplay hready hrest
        rw [Session.perform, hcommit] at hperform
        obtain ⟨rfl, rfl, rfl⟩ := Session.eq_of_performed hperform
        exact hsim
    | inserts hready hnew hnumber hnext hrest =>
        obtain ⟨a, hinsert, hsim⟩ := h.act_insert hheld hreplay hready hnew hnumber hnext hrest
        rw [Session.perform, hinsert] at hperform
        obtain ⟨rfl, rfl, rfl⟩ := Session.eq_of_performed hperform
        exact hsim
  · obtain ⟨seen, hseen, rfl⟩ := hop s ⟨.refl e s, h.sound⟩ (others.flatMap (·.1.held))
    rw [hseen] at hperform
    obtain ⟨rfl, rfl, rfl⟩ := Session.eq_of_performed hperform
    refine ⟨t, log, none,
      h.proceed (.underLock (hmid.trans hheld) ⟨p', after, hrest, hwrite⟩ ?_) ?_ ?_⟩
    · intro t ht hunder
      rw [hreplay t ht hunder]
      exact Service.resume_of_looks (.look hop hmid (.here _ _)) hunder
    · intro e' he'
      have hmem : e' ∈ tx.held := by rwa [← hmid]
      exact fun hothers => h.held_ne hmem hothers rfl
    · simp [Call.held, hmid, hheld]

/-- **A decided call commits** the attempt that it staged. -/
theorem act_staged {next : Except Taken Unit → Program Reply} {lessons : List (Int × Int)}
    {events : List SubmissionEvent} {outcome : Outcome Reply}
    (h : Sim start s t log ((.running request (.step .commit next) tx,
      some ⟨outcome, tx.staged, lessons, events⟩) :: others))
    (hheld : tx.held = [e]) (hwithin : tx.Within s.store)
    (hcommit : ∀ t, s.SameUnderLock e t → Session.commit ⟨t, tx⟩ =
      (⟨t.write tx.staged, Transaction.fresh⟩, .ok ()))
    (hrest : AfterCommit (next (.ok ())) lessons events outcome) :
    Sim start (s.write tx.staged) t log ((.running request (next (.ok ())) Transaction.fresh,
      some ⟨outcome, Table.empty, lessons, events⟩) :: others) := by
  have hmem : e ∈ tx.held := by simp [hheld]
  have hahead : s.Ahead t (⟨outcome, tx.staged, lessons, events⟩ :: others.filterMap (·.2)) :=
    h.ahead
  -- nobody else sees the rows that it commits, and the serial service has them already
  have hrows : ∀ (id : Int) (b : Attempt), tx.staged.get? id = some b → b.enrollmentId = e := by
    intro id b hb
    have hmem' : b.enrollmentId ∈ tx.held :=
      (h.phase _ (List.mem_cons_self ..)).enrollmentId_mem hb
    rw [hheld] at hmem'
    exact List.mem_singleton.1 hmem'
  refine h.make_deferred rfl rfl (.committed hrest) (List.nil_sublist _) (fun e' he' => ?_) rfl
    ⟨rfl, rfl, rfl, rfl⟩ rfl ?_ hahead.commit
  · refine .write_of_belongTo (e := e) (fun id b hb => ⟨hrows id b hb, fun a ha => ?_⟩)
      (h.held_ne hmem he')
    exact (hahead.rows.enrollmentId_eq (List.mem_cons_self ..) hb ha).trans (hrows id b hb)
  · have hdone := hcommit s ⟨.refl e s, h.sound⟩
    unfold Session.commit at hdone
    split at hdone
    · rename_i store heq
      have hstore : store = (s.write tx.staged).store :=
        congrArg (·.service.store) (Prod.mk.inj hdone).1
      rw [← hstore]
      exact (Transaction.commit_sound h.sound hwithin heq).1
    · simp at hdone

/-- What a call has told is not deferred any more. -/
theorem tell {p rest : Program Reply} {told lessons : List (Int × Int)}
    {announced events : List SubmissionEvent} {outcome : Outcome Reply}
    (h : Sim start s t log ((.running request p Transaction.fresh,
      some ⟨outcome, Table.empty, told ++ lessons, announced ++ events⟩) :: others))
    (hrest : AfterCommit rest lessons events outcome) :
    Sim start (s.tell told announced) t log ((.running request rest Transaction.fresh,
      some ⟨outcome, Table.empty, lessons, events⟩) :: others) := by
  have hstore := Service.Ahead.tell_store s told announced
  have hrows : (s.tell told announced).store.attempts = s.store.attempts := by rw [hstore]
  have hallocated : (s.tell told announced).store.allocated = s.store.allocated := by rw [hstore]
  have hahead : s.Ahead t (⟨outcome, Table.empty, told ++ lessons, announced ++ events⟩ ::
    others.filterMap (·.2)) := h.ahead
  exact h.make_deferred rfl rfl (.committed hrest) (List.Sublist.refl _)
    (fun e' _ => ⟨rfl, fun id a _ => by rw [hrows]⟩) hallocated
    (Service.Ahead.sameSetting_tell _ _ _) rfl (h.sound.of_eq hrows hallocated) hahead.tell

/-- **A call after its commit** completes a lesson or announces an event. -/
theorem act_committed {lessons : List (Int × Int)} {events : List SubmissionEvent}
    {outcome : Outcome Reply}
    (h : Sim start s t log ((.running request (.step op next) Transaction.fresh,
      some ⟨outcome, Table.empty, lessons, events⟩) :: others))
    (hperform : Session.perform (others.flatMap (·.1.held)) ⟨s, Transaction.fresh⟩ op =
      some (⟨s', tx'⟩, reply))
    (hrest : AfterCommit (.step op next) lessons events outcome) :
    ∃ deferred, Sim start s' t log ((.running request (next reply) tx', deferred) :: others) := by
  cases hrest with
  | ends hends => exact absurd hends.verdict (by simp [Program.verdict?])
  | @completesLesson e l next lessons events outcome hrest =>
      have hdone : some (Session.completeLesson ⟨s, Transaction.fresh⟩ e l, ()) =
          some (⟨s', tx'⟩, reply) := hperform
      rw [Session.completeLesson_eq_tell] at hdone
      obtain ⟨rfl, rfl, rfl⟩ := Session.eq_of_performed hdone
      exact ⟨_, h.tell hrest⟩
  | @announces event next lessons events outcome hrest =>
      have hdone : some (Session.announce ⟨s, Transaction.fresh⟩ event, ()) =
          some (⟨s', tx'⟩, reply) := hperform
      rw [Session.announce_eq_tell] at hdone
      obtain ⟨rfl, rfl, rfl⟩ := Session.eq_of_performed hdone
      exact ⟨_, h.tell hrest⟩

/-- **Each operation of the race is followed.** -/
theorem act {deferred : Option Deferred}
    (h : Sim start s t log ((.running request (.step op next) tx, deferred) :: others))
    (hperform : Session.perform (others.flatMap (·.1.held)) ⟨s, tx⟩ op = some (⟨s', tx'⟩, reply)) :
    ∃ t' log' deferred',
      Sim start s' t' log' ((.running request (next reply) tx', deferred') :: others) := by
  have hphase := h.phase _ (List.mem_cons_self ..)
  cases hphase with
  | beforeLock hheld hreaches hreplay =>
      obtain ⟨rfl, hsim⟩ := h.act_beforeLock hperform hheld hreaches hreplay
      exact ⟨t, log, none, hsim⟩
  | underLock hheld hreaches hreplay => exact h.act_underLock hperform hheld hreaches hreplay
  | staged hheld hwithin hrows hcommit hrest =>
      have hsim := h.act_staged hheld hwithin hcommit hrest
      rw [Session.perform, hcommit s ⟨.refl _ s, h.sound⟩] at hperform
      obtain ⟨rfl, rfl, rfl⟩ := Session.eq_of_performed hperform
      exact ⟨t, log, _, hsim⟩
  | committed hrest =>
      obtain ⟨deferred', hsim⟩ := h.act_committed hperform hrest
      exact ⟨t, log, deferred', hsim⟩

/-- An undecided call that comes to its end is decided by that. -/
theorem finish_undecided {rest : Program Reply} {outcome : Outcome Reply}
    (h : Sim start s t log ((.running request rest tx, none) :: others))
    (hends : rest.Ends outcome) (hreplay : t.run [] request.program = t.resume rest tx) :
    Sim start s t (log ++ [(request, outcome)])
      ((.ended request outcome, some ⟨outcome, Table.empty, [], []⟩) :: others) := by
  refine h.decide_call (d := ⟨outcome, Table.empty, [], []⟩) rfl (.ended hends.fair)
    (List.nil_sublist _) (fun e' _ => .refl e' s) (Nat.le_refl _) (.refl s) rfl h.sound ?_
    (h.ahead.cons_ended outcome)
  rw [Call.request, hreplay, Service.resume_of_verdict hends.verdict]

/-- **Each end of a call is followed.** -/
theorem finish {rest : Program Reply} {outcome : Outcome Reply} {deferred : Option Deferred}
    (h : Sim start s t log ((.running request rest tx, deferred) :: others))
    (hverdict : rest.verdict? = some outcome) :
    ∃ t' log' deferred', Sim start s t' log' ((.ended request outcome, deferred') :: others) := by
  have hsame : ∀ {outcome'}, rest.Ends outcome' → rest.Ends outcome := by
    intro outcome' hends
    have hverdict' := hends.verdict
    rw [hverdict] at hverdict'
    rwa [Option.some.inj hverdict']
  have hphase := h.phase _ (List.mem_cons_self ..)
  cases hphase with
  | beforeLock hheld hreaches hreplay =>
      obtain ⟨p', after, hlooks, hlock⟩ := hreaches
      have hsetting : start.SameSetting t := h.setting.trans h.ahead.setting
      -- a program at its end looks no further
      cases hlooks.eq_of_verdict hverdict
      cases hlock with
      | ends hends => exact ⟨_, _, _, h.finish_undecided (hsame hends) (hreplay t hsetting)⟩
      | locks => simp [Program.verdict?] at hverdict
  | @underLock _ _ _ e hheld hreaches hreplay =>
      obtain ⟨p', after, hlooks, hwrite⟩ := hreaches
      have hahead : s.Ahead t (others.filterMap (·.2)) := h.ahead
      have hsetting : start.SameSetting t := h.setting.trans hahead.setting
      have hunder : s.SameUnderLock e t :=
        ⟨hahead.alike (h.deferred_ne (by simp [Call.held, hheld])), h.serialSound⟩
      cases hlooks.eq_of_verdict hverdict
      cases hwrite with
      | ends hends => exact ⟨_, _, _, h.finish_undecided (hsame hends) (hreplay t hsetting hunder)⟩
      | commits | inserts => simp [Program.verdict?] at hverdict
  | staged => simp [Program.verdict?] at hverdict
  | committed hrest =>
      cases hrest with
      | ends hends =>
          have hends' := hsame hends
          have houtcome := hends.verdict.symm.trans hverdict
          obtain rfl := Option.some.inj houtcome
          exact ⟨t, log, _, h.make_deferred rfl rfl (.ended hends'.fair) (List.nil_sublist _)
            (fun e' _ => .refl e' s) rfl (.refl s) rfl h.sound h.ahead⟩
      | completesLesson | announces => simp [Program.verdict?] at hverdict

end Act

/-! ### Runs -/

/-- Nothing is decided at first. -/
theorem begins (hsound : start.store.Sound) (hpending : start.pendingCollisions = 0)
    {requests : List Request}
    (hreaches : ∀ request ∈ requests, ReachesLock start request.program Transaction.fresh) :
    Sim start start start [] (requests.map fun request =>
      (.running request request.program Transaction.fresh, none)) := by
  have hnone : (requests.map fun request => ((Call.running request request.program
      Transaction.fresh, none) : Entry)).filterMap (·.2) = [] := by
    rw [List.filterMap_map]
    exact List.filterMap_eq_nil_iff.2 fun _ _ => rfl
  refine ⟨rfl, .refl start, hpending, hsound, hsound, ?_, fun x hx => ?_, ?_, ?_⟩
  · rw [hnone]
    exact .nil start
  · obtain ⟨request, hrequest, rfl⟩ := List.mem_map.1 hx
    exact .beforeLock rfl (hreaches request hrequest) fun t _ => rfl
  · have hheld : (requests.map fun request => ((Call.running request request.program
        Transaction.fresh, none) : Entry)).flatMap (·.1.held) = [] := by
      simp [List.flatMap_map, Call.held, Transaction.fresh]
    rw [hheld]
    exact List.nodup_nil
  · simp [List.filterMap_map, Function.comp_def, Entry.answer?]

/-- The entry of one call may be brought to the front. -/
theorem to_front {before after : List Call} {call : Call} (h : Sim start s t log entries)
    (hcalls : before ++ call :: after = entries.map (·.1)) :
    ∃ left deferred right, left.map (·.1) = before ∧ right.map (·.1) = after ∧
      Sim start s t log ((call, deferred) :: (left ++ right)) := by
  obtain ⟨left, tail, rfl, hleft, htail⟩ := List.map_eq_append_iff.1 hcalls.symm
  obtain ⟨⟨call', deferred⟩, right, rfl, rfl, hright⟩ := List.map_eq_cons_iff.1 htail
  exact ⟨left, deferred, right, hleft, hright, h.perm List.perm_middle⟩

/-- Afterwards it is put back. -/
theorem from_front {left right : List Entry} {call : Call} {deferred : Option Deferred}
    (h : Sim start s t log ((call, deferred) :: (left ++ right))) :
    Sim start s t log (left ++ (call, deferred) :: right) := h.perm List.perm_middle.symm

/-- **Each step of the race is followed.** -/
theorem step {race race' : Race} (hstep : race.Step race')
    (h : ∃ t log entries, race.calls = entries.map (·.1) ∧ Sim start race.service t log entries) :
    ∃ t log entries, race'.calls = entries.map (·.1) ∧ Sim start race'.service t log entries := by
  obtain ⟨t, log, entries, hcalls, hsim⟩ := h
  cases hstep with
  | @act service service' before after request op next tx tx' reply hperform =>
      obtain ⟨left, deferred, right, rfl, rfl, hfront⟩ := hsim.to_front hcalls
      rw [← List.map_append, List.flatMap_map] at hperform
      obtain ⟨t', log', deferred', hsim'⟩ := hfront.act hperform
      exact ⟨t', log', _, by simp, hsim'.from_front⟩
  | @finish service before after request rest tx outcome hverdict =>
      obtain ⟨left, deferred, right, rfl, rfl, hfront⟩ := hsim.to_front hcalls
      obtain ⟨t', log', deferred', hsim'⟩ := hfront.finish hverdict
      exact ⟨t', log', _, by simp, hsim'.from_front⟩

/-- **Every run of the race is followed.** -/
theorem reaches {race race' : Race} (hreaches : race.Reaches race')
    (h : ∃ t log entries, race.calls = entries.map (·.1) ∧ Sim start race.service t log entries) :
    ∃ t log entries, race'.calls = entries.map (·.1) ∧
      Sim start race'.service t log entries := by
  induction hreaches with
  | refl => exact h
  | tail _ hstep ih => exact step hstep ih

end Sim

end QuizAttempts
