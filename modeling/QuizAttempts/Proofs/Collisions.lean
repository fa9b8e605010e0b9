/-
**Collisions are made good, or leave nothing behind.**

When the insert of a fresh attempt collides, the start is tried once more from the lock on: the
transaction is dropped, and with it the closing of an overdue attempt that it had decided, and
everything is read and decided again.  Whatever a try comes to before its insert it comes to without
looking at the collisions ahead.  So a start that is refused anyway is refused in the same way and
uses none of them up; one that would be done is done all the same where fewer inserts collide than
there are tries, with the same attempt and the same records, as if there had been no collision; and
where more collide it is refused, which a client may try again, and has changed nothing but that
each try has used one up.

Main definitions:

* `Service.delayed` — **what a start comes to where inserts collide**, by what it comes to where
  none does.

Main results:

* `Service.decideStart_withPending`, `Service.run_start_withPending` — that is what it comes to, for
  however many tries;
* `Service.retry_transparent` — **one collision makes no difference**, and more leave nothing
  behind.
-/
import QuizAttempts.Proofs.Objections

set_option autoImplicit false

namespace QuizAttempts

namespace Service

variable {s : Service}

/-- **What a start comes to where `c` inserts collide**, by what it comes to in the calm, where none
does. -/
def delayed (s : Service) (calm : Service × Outcome Reply) (c tries : Nat) :
    Service × Outcome Reply :=
  match calm.2 with
  | .done _ => if c < tries then calm else (s.withPending (c - tries), .refused .outrun)
  | _ => (calm.1.withPending c, calm.2)

theorem delayed_of_not_done {calm : Service × Outcome Reply} (h : ∀ reply, calm.2 ≠ .done reply)
    (c tries : Nat) : s.delayed calm c tries = (calm.1.withPending c, calm.2) := by
  unfold delayed
  split
  · rename_i reply hdone
    exact absurd hdone (h reply)
  · rfl

theorem delayed_of_done {calm : Service × Outcome Reply} {reply : Reply} (h : calm.2 = .done reply)
    (c tries : Nat) : s.delayed calm c tries =
      if c < tries then calm else (s.withPending (c - tries), .refused .outrun) := by
  simp only [delayed, h]

@[simp] theorem withPending_withPending (s : Service) (m n : Nat) :
    (s.withPending m).withPending n = s.withPending n := rfl

/-- **Under the lock a start comes to what it would come to in the calm, delayed**: only its last
decision looks at the collisions. -/
theorem decideStart_withPending (hpending : s.pendingCollisions = 0) (quiz : Quiz)
    (enrollment : Enrollment) {tries : Nat} (htries : 0 < tries) (c : Nat) :
    (s.withPending c).decideStart quiz enrollment tries =
      s.delayed (s.decideStart quiz enrollment tries) c tries := by
  have hbusy : (s.withPending c).isBusy quiz enrollment = s.isBusy quiz enrollment := rfl
  have hlatest : (s.withPending c).latest enrollment.id quiz.id = s.latest enrollment.id quiz.id :=
    rfl
  have hahead : (s.withPending c).pendingCollisions = c := rfl
  have hnext : (s.withPending c).nextAttempt quiz enrollment = s.nextAttempt quiz enrollment := rfl
  rw [decideStart, decideStart, hbusy, hlatest, hahead, hnext, hpending, withPending_withPending,
    withPending_withPending, if_pos htries, swept_withPending]
  cases s.isBusy quiz enrollment with
  | true => rfl
  | false =>
      cases quiz.isExhausted (s.latest enrollment.id quiz.id) with
      | true => rfl
      | false =>
          cases isInt32 (s.latest enrollment.id quiz.id + 1) with
          | false => rfl
          | true => rfl

/-- **A start comes to what it would come to in the calm, delayed.** -/
theorem run_start_withPending (hs : s.store.Sound) (hpending : s.pendingCollisions = 0)
    (quizId : Int) (actor : Actor) (c : Nat) :
    (s.withPending c).run [] (Request.start quizId actor).program =
      s.delayed (s.run [] (Request.start quizId actor).program) c mostTries := by
  have hstill : (s.withPending c).store.Sound := hs
  have hstore : (s.withPending c).store = s.store := rfl
  rw [run_start hstill, run_start hs, hstore]
  cases s.store.admission quizId actor with
  | error why => rfl
  | ok admitted => exact decideStart_withPending hpending admitted.1 admitted.2 (by decide) c

/-- **One collision makes no difference, and more leave nothing behind.**  Let a service be reached
by requests and edits, with no collisions ahead, and consider a start there and in the same service
with `c` inserts that will collide.

If the start has no result in the calm, then it ends in the same way where inserts collide, the
service it leaves is the same, and all collisions are still ahead.  If it is done, it is answered
with an attempt; then one collision is used up, and the answer and the service it leaves are the
same; but where there are more, two of them are used up, everything else in the service is as it
was, an overdue attempt that the start would have closed among it, and the refusal is worth another
try. -/
theorem retry_transparent (hmanaged : s.Managed) (hpending : s.pendingCollisions = 0) (quizId : Int)
    (actor : Actor) {c : Nat} (hc : 1 ≤ c) :
    let calm := s.run [] (Request.start quizId actor).program
    let delayed := (s.withPending c).run [] (Request.start quizId actor).program
    ((∀ reply, calm.2 ≠ .done reply) → delayed = (calm.1.withPending c, calm.2)) ∧
    ∀ reply, calm.2 = .done reply → (∃ a, reply = .started a) ∧
      (c = 1 → delayed = calm) ∧
      (2 ≤ c → delayed = (s.withPending (c - 2), .refused .outrun) ∧
        delayed.1.store.attempts = s.store.attempts ∧ delayed.1.pendingCollisions + 2 = c ∧
        Refusal.outrun.report.isRetryable = true) := by
  intro calm delayed
  obtain ⟨hs, -, -⟩ := Console.AtRest.reached_of_managed hmanaged
  have hdelayed : delayed = s.delayed calm c mostTries :=
    run_start_withPending hs hpending quizId actor c
  refine ⟨fun hnone => hdelayed.trans (delayed_of_not_done hnone c mostTries),
    fun reply hreply => ?_⟩
  rw [delayed_of_done hreply] at hdelayed
  have hstarted : ∃ a, reply = .started a := by
    have hdone : (s.run [] (Request.start quizId actor).program).2 = .done reply := hreply
    rw [run_start hs] at hdone
    obtain ⟨⟨quiz, enrollment⟩, -, hdecided⟩ := unlessRefused_eq_done hdone
    exact ⟨_, (decideStart_eq_done hdecided).1⟩
  refine ⟨hstarted, fun hone => ?_, fun hmore => ?_⟩
  · subst hone
    exact hdelayed
  · have hpast : ¬ c < mostTries := Nat.not_lt.2 hmore
    rw [if_neg hpast] at hdelayed
    refine ⟨hdelayed, ?_, ?_, Report.isRetryable_iff.2 rfl⟩
    · rw [hdelayed]
      rfl
    · rw [hdelayed]
      exact Nat.sub_add_cancel hmore

/-- A student whose attempt is overdue starts the second one.  One collision makes no difference to
that; three make it fail, with one left over and the first attempt still open.  An administrator is
refused, and the five collisions are still ahead. -/
theorem retry_transparent_lateAttempt :
    let s := ((Console.ofService Service.blank).after lateAttempt).service
    let start := (Request.start 1 learner).program
    s.Managed ∧ s.pendingCollisions = 0 ∧
      (∃ a, (s.run [] start).2 = .done (.started a) ∧ a.id = 2 ∧ a.number = 2 ∧
        (s.withPending 1).run [] start = s.run [] start) ∧
      (s.withPending 3).run [] start = (s.withPending 1, .refused .outrun) ∧
      (s.store.attempts.get? 1).map (·.status) = some .inProgress ∧
      (s.withPending 5).run [] (Request.start 1 ⟨1, .admin⟩).program =
        (s.withPending 5, .refused .studentsOnly) := by
  intro s start
  have hmanaged : s.Managed := ⟨Service.blank, lateAttempt, rfl, by decide +kernel, rfl⟩
  have hpending : s.pendingCollisions = 0 := by decide +kernel
  have hopen : (s.store.attempts.get? 1).map (·.status) = some .inProgress := by decide +kernel
  have hsecond : (s.run [] start).2.result?.any fun
      | .started a => decide (a.id = 2 ∧ a.number = 2)
      | _ => false := by decide +kernel
  have hrefused : (s.run [] (Request.start 1 ⟨1, .admin⟩).program) =
      (s, .refused .studentsOnly) := by
    decide +kernel
  obtain ⟨reply, hreply, hnumbered⟩ := (Option.any_eq_true _ _).1 hsecond
  have hdone : (s.run [] start).2 = .done reply := by
    cases houtcome : (s.run [] start).2 with
    | done result => rw [houtcome] at hreply; exact congrArg _ (Option.some.inj hreply)
    | _ => simp [houtcome, Outcome.result?] at hreply
  have hone := (retry_transparent hmanaged hpending 1 learner (c := 1) (by decide)).2 reply hdone
  have hthree := (retry_transparent hmanaged hpending 1 learner (c := 3) (by decide)).2 reply hdone
  have hadmin := (retry_transparent hmanaged hpending 1 ⟨1, .admin⟩ (c := 5) (by decide)).1
  obtain ⟨⟨a, rfl⟩, hsame, -⟩ := hone
  obtain ⟨hid, hnumber⟩ := of_decide_eq_true hnumbered
  refine ⟨hmanaged, hpending, ⟨a, hdone, hid, hnumber, hsame rfl⟩,
    (hthree.2.2 (by decide)).1, hopen, ?_⟩
  rw [hrefused] at hadmin
  exact hadmin fun reply h => by simp at h

end Service

end QuizAttempts
