/-
**The attempts of a pair follow one another in time.**

An attempt begins at the moment it is started and ends at the moment somebody finds it over: by a
submission, by a look at the attempts, or by the start of the next one.  As long as the clock never
moves back, no attempt ends before it has begun, and none begins before the one before it has ended.
The start that closes the last attempt and opens the next one reads the clock once, so the two may
touch, but they do not overlap.

What carries this along a history is that every row lies in the past, and that of two attempts of a
pair the one with the lower number is closed.  So it had ended at a moment that was not in the
future when the other one began.

Main definitions:

* the order of moments, by seconds and then by nanoseconds;
* `Attempt.IsPast` — an attempt that lies before a moment, its end after its beginning;
* `Attempt.IsBefore` — one attempt ends before the other begins;
* `Service.InSuccession` — the attempts of every pair follow one another, up to the present;
* `Console.NeverBack` — **the clock never moves back**.

Main results:

* `Service.Origin.cases` — a row stood there, has begun at this moment, or has ended at it;
* `Service.InSuccession.advances` — **no command makes attempts overlap**;
* `Console.succession_after` — attempts after every history with such a clock.
-/
import QuizAttempts.Proofs.Accepted

set_option autoImplicit false

namespace QuizAttempts

/-! ### Before and after -/

namespace Timestamp

/-- **A moment is not after another**: moments inside a leap second are after all others of the
second that they are kept at, and before the next second. -/
instance : LE Timestamp :=
  ⟨fun s t => s.seconds < t.seconds ∨ s.seconds = t.seconds ∧ s.nanos ≤ t.nanos⟩

theorem le_iff {s t : Timestamp} :
    s ≤ t ↔ s.seconds < t.seconds ∨ s.seconds = t.seconds ∧ s.nanos ≤ t.nanos := Iff.rfl

instance (s t : Timestamp) : Decidable (s ≤ t) := inferInstanceAs (Decidable (_ ∨ _))

theorem le_refl (t : Timestamp) : t ≤ t := Or.inr ⟨rfl, Nat.le_refl _⟩

theorem le_trans {s t u : Timestamp} (hst : s ≤ t) (htu : t ≤ u) : s ≤ u := by
  rw [le_iff] at *
  omega

end Timestamp

/-! ### One row -/

/-- **The attempt lies before a moment**: it has begun, and if it is closed it has ended, not before
its beginning. -/
structure Attempt.IsPast (a : Attempt) (present : Timestamp) : Prop where
  begun : a.startedAt ≤ present
  running : a.isOpen = true → a.gradedAt = none
  closed : a.isOpen = false → ∃ moment, a.gradedAt = some moment
  ended : ∀ moment, a.gradedAt = some moment → a.startedAt ≤ moment ∧ moment ≤ present

/-- **The attempt has ended when the other one begins.** -/
def Attempt.IsBefore (a b : Attempt) : Prop :=
  ∃ moment, a.gradedAt = some moment ∧ moment ≤ b.startedAt

namespace Attempt.IsPast

variable {a b : Attempt} {present later : Timestamp}

theorem mono (h : a.IsPast present) (hle : present ≤ later) : a.IsPast later :=
  ⟨Timestamp.le_trans h.begun hle, h.running, h.closed, fun moment hmoment =>
    ⟨(h.ended moment hmoment).1, Timestamp.le_trans (h.ended moment hmoment).2 hle⟩⟩

/-- An attempt that is closed at the present moment has ended then. -/
theorem closes (h : a.IsPast present) (hcloses : b.Closes a)
    (hended : b.gradedAt = some present) : b.IsPast present where
  begun := hcloses.continues.startedAt ▸ h.begun
  running hopen := by simp [hcloses.closed] at hopen
  closed _ := ⟨present, hended⟩
  ended moment hmoment := by
    obtain rfl : present = moment := Option.some.inj (hended.symm.trans hmoment)
    exact ⟨hcloses.continues.startedAt ▸ h.begun, Timestamp.le_refl _⟩

end Attempt.IsPast

/-- The next attempt begins at the present moment. -/
theorem Service.isPast_nextAttempt (s : Service) (quiz : Quiz) (enrollment : Enrollment) :
    (s.nextAttempt quiz enrollment).IsPast s.clock where
  begun := Timestamp.le_refl _
  running _ := rfl
  closed hopen := by simp [nextAttempt] at hopen
  ended moment hmoment := by simp [nextAttempt, NewAttempt.toAttempt] at hmoment

/-- **A row stood there, has begun at this moment, or has ended at it.** -/
theorem Service.Origin.cases {s : Service} {accepted : Option AcceptedSubmission} {id : Int}
    {b : Attempt} (h : s.Origin accepted id b) :
    s.store.attempts.get? id = some b ∨
    (b.isOpen = true ∧ b.startedAt = s.clock ∧ b.IsPast s.clock) ∨
    ∃ i a, s.store.attempts.get? i = some a ∧ a.isOpen = true ∧ b.Closes a ∧
      b.gradedAt = some s.clock := by
  cases h with
  | stood hb => exact Or.inl hb
  | opened hb =>
      rw [hb]
      exact Or.inr (Or.inl ⟨rfl, rfl, s.isPast_nextAttempt _ _⟩)
  | closed hown _ hb =>
      obtain ⟨quiz, -, hopen, -⟩ := hown
      rw [hb]
      exact Or.inr (Or.inr ⟨_, _, hopen.row, hopen.isOpen, Attempt.closes_expired _ _, rfl⟩)
  | left _ hservice hleaves =>
      obtain rfl := hservice
      obtain ⟨quiz, a, grade, haccepts, rfl, -⟩ := hleaves
      exact Or.inr (Or.inr ⟨_, _, haccepts.own.row, haccepts.own.isOpen,
        Attempt.closes_graded _ _ _, rfl⟩)

/-! ### All rows -/

/-- **The attempts of every pair follow one another, up to the present.** -/
structure Service.InSuccession (s : Service) : Prop where
  past : ∀ {id : Int} {a : Attempt}, s.store.attempts.get? id = some a → a.IsPast s.clock
  before : ∀ {i j : Int} {a b : Attempt}, s.store.attempts.get? i = some a →
    s.store.attempts.get? j = some b → b.isOf a.enrollmentId a.quizId = true →
      a.number < b.number → a.IsBefore b

namespace Service.InSuccession

variable {s t : Service} {accepted : Option AcceptedSubmission}

theorem of_empty (h : s.store.attempts = Table.empty) : s.InSuccession :=
  ⟨fun ha => absurd ha (Store.get?_ne_some h _ _), fun ha => absurd ha (Store.get?_ne_some h _ _)⟩

/-- Every row lies in the past when a command has been run. -/
theorem isPast_advances (h : s.InSuccession) (hadvances : s.Advances t accepted) {id : Int}
    {b : Attempt} (hb : t.store.attempts.get? id = some b) : b.IsPast s.clock := by
  rcases (hadvances.origin hb).cases with hstood | ⟨-, -, hpast⟩ | ⟨i, a, ha, -, hcloses, hended⟩
  · exact h.past hstood
  · exact hpast
  · exact (h.past ha).closes hcloses hended

/-- **No command makes attempts overlap**, if the clock is not behind afterwards. -/
theorem advances (h : s.InSuccession) (hadvances : s.Advances t accepted)
    (hnumbered : ∀ e q, ∃ k, t.store.Numbered e q k) (hclock : s.clock ≤ t.clock) :
    t.InSuccession := by
  have hpast : ∀ {id : Int} {c : Attempt}, t.store.attempts.get? id = some c →
      c.IsPast s.clock := fun hc => h.isPast_advances hadvances hc
  refine ⟨fun hb => (hpast hb).mono hclock, fun {i j a b} ha hb hpair hlt => ?_⟩
  -- all but the last attempt of a pair are closed
  have hclosed : a.isOpen = false := by
    obtain ⟨k, hk⟩ := hnumbered a.enrollmentId a.quizId
    have hle := (hk.bounds hb hpair).2
    exact hk.closed ha (Attempt.isOf_iff.2 ⟨rfl, rfl⟩) (by omega)
  -- so `a` has ended by now, and it remains to look at a row `b` that had begun before
  have hbegun : ∀ {i' : Int} {b' : Attempt}, s.store.attempts.get? i' = some b' →
      b.Continues b' → a.IsBefore b := by
    intro i' b' hb' hcontinues
    rcases (hadvances.origin ha).cases with hstood | ⟨hopen, -⟩ | ⟨i, c, hc, hopen, hcloses, -⟩
    · obtain ⟨moment, hmoment, hle⟩ := h.before hstood hb'
        (by rwa [← hcontinues.isOf]) (by rwa [← hcontinues.number])
      exact ⟨moment, hmoment, by rwa [hcontinues.startedAt]⟩
    · simp [hclosed] at hopen
    · -- a row that was open was the last one of its pair
      have hcontinues' := hcloses.continues
      obtain ⟨moment, hmoment, -⟩ := h.before hc hb'
        (by rwa [← hcontinues.isOf, ← hcontinues'.enrollmentId, ← hcontinues'.quizId])
        (by rwa [← hcontinues.number, ← hcontinues'.number])
      simp [(h.past hc).running hopen] at hmoment
  rcases (hadvances.origin hb).cases with hstood | ⟨-, hstarted, -⟩ | ⟨i', c, hc, -, hcloses, -⟩
  · exact hbegun hstood (.refl b)
  · obtain ⟨moment, hmoment⟩ := (hpast ha).closed hclosed
    exact ⟨moment, hmoment, hstarted ▸ ((hpast ha).ended moment hmoment).2⟩
  · exact hbegun hc hcloses.continues

end Service.InSuccession

namespace Console

/-! ### Histories -/

/-- **The clock never moves back** in a history. -/
def NeverBack (console : Console) : List Command → Prop
  | [] => True
  | command :: commands =>
      console.service.clock ≤ (console.run command).1.service.clock ∧
        (console.run command).1.NeverBack commands

instance decidableNeverBack (console : Console) :
    (commands : List Command) → Decidable (console.NeverBack commands)
  | [] => .isTrue trivial
  | command :: commands =>
      haveI := (console.run command).1.decidableNeverBack commands
      inferInstanceAs (Decidable (_ ∧ _))

/-- Attempts that follow one another go on doing so as long as the clock never moves back. -/
theorem AtRest.inSuccession_after {console : Console} (h : console.AtRest)
    (hnumbered : ∀ e q, ∃ k, console.service.store.Numbered e q k)
    (hsuccession : console.service.InSuccession) {commands : List Command}
    (hmanaged : ∀ command ∈ commands, command.isManaged = true)
    (hclock : console.NeverBack commands) : (console.after commands).service.InSuccession := by
  induction commands generalizing console with
  | nil => exact hsuccession
  | cons command commands ih =>
      have hallowed := hmanaged command (List.mem_cons_self ..)
      obtain ⟨hrest, hmoves⟩ := h.run hallowed
      have hnumbered' := fun e q => Store.Numbered.moves (hnumbered e q) hmoves
      exact ih hrest hnumbered'
        (hsuccession.advances (h.run_advances hallowed) hnumbered' hclock.1)
        (fun later hlater => hmanaged later (List.mem_cons_of_mem _ hlater)) hclock.2

/-- **The attempts of a pair follow one another in time** after every history of requests and edits
that begins without attempts and in which the clock never moves back.  They are numbered from one to
some `k`; none has ended before it began, and each has ended when any later one begins. -/
theorem succession_after {start : Service} (hrows : start.store.attempts = Table.empty)
    (hfiled : start.store.Filed) (commands : List Command)
    (hmanaged : ∀ command ∈ commands, command.isManaged = true)
    (hclock : (ofService start).NeverBack commands) (e q : Int) :
    let history := ((ofService start).after commands).service.store.attemptsOf e q
    (∃ k : Nat, history.map (·.number) = (List.range k).map fun n : Nat => (n : Int) + 1) ∧
    (∀ a ∈ history, ∀ moment, a.gradedAt = some moment → a.startedAt ≤ moment) ∧
    history.Pairwise fun a b => ∃ moment, a.gradedAt = some moment ∧ moment ≤ b.startedAt := by
  have hrest := AtRest.of_empty hrows hfiled
  have hnumbered : ∀ e q, ∃ k, start.store.Numbered e q k :=
    fun e q => ⟨0, .of_empty hrows e q⟩
  obtain ⟨hafter, hnumbered'⟩ := hrest.after hnumbered hmanaged
  have hsuccession := hrest.inSuccession_after hnumbered (.of_empty hrows) hmanaged hclock
  obtain ⟨k, hk⟩ := hnumbered' e q
  have horderly := hafter.sound.orderly
  refine ⟨⟨k.toNat, hk.attemptsOf horderly⟩, fun a ha moment hmoment => ?_, ?_⟩
  · obtain ⟨id, ha, -⟩ := Store.mem_attemptsOf.1 ha
    exact ((hsuccession.past ha).ended moment hmoment).1
  · refine (Store.pairwise_attemptsOf horderly e q).imp_of_mem fun ha hb hlt => ?_
    obtain ⟨i, harow, hapair⟩ := Store.mem_attemptsOf.1 ha
    obtain ⟨j, hbrow, hbpair⟩ := Store.mem_attemptsOf.1 hb
    obtain ⟨he, hq⟩ := Attempt.isOf_iff.1 hapair
    exact hsuccession.before harow hbrow (by rwa [he, hq]) hlt

/-- Of three attempts the second is found overdue by a look at them, and the third begins then. -/
theorem succession_after_threeAttempts :
    Service.blank.store.attempts = Table.empty ∧ Service.blank.store.Filed ∧
      (∀ command ∈ threeAttempts, command.isManaged = true) ∧
      (ofService Service.blank).NeverBack threeAttempts ∧
      let store := ((ofService Service.blank).after threeAttempts).service.store
      store.attempts.values.map (fun a => (a.number, a.gradedAt.isSome)) =
        [(1, true), (2, true), (3, false)] ∧
      (store.attemptsOf 1 1).Pairwise fun a b =>
        ∃ moment, a.gradedAt = some moment ∧ moment ≤ b.startedAt := by
  have hfiled := Service.filed_blank
  have hmanaged : ∀ command ∈ threeAttempts, command.isManaged = true := by decide +kernel
  have hclock : (ofService Service.blank).NeverBack threeAttempts := by decide +kernel
  obtain ⟨-, -, hsuccession⟩ := succession_after rfl hfiled threeAttempts hmanaged hclock 1 1
  exact ⟨rfl, hfiled, hmanaged, hclock, by decide +kernel, hsuccession⟩

end Console

end QuizAttempts
