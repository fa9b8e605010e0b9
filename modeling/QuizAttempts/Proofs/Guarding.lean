/-
**Under the locks of the enrollments an attempt is graded once.**

An attempt is not locked when it is looked at, but the enrollment may be.  Its lock is held by one
transaction at a time and until that transaction ends, so if everybody holds it who saves, no two of
them ever have rows staged for one attempt.  A graded row is then safe from the moment it is
committed.  All requests work like this.

Main definitions:

* `Console.isGuarded` — histories in which whoever saves holds the lock of the enrollment;
* `Console.Exclusive` — no enrollment is locked twice;
* `Console.Guarded` — what guarded histories keep.

Main results:

* `Console.Exclusive.run` — no command gives one lock to two transactions;
* `Console.graded_once_of_guarded` — **a graded row is safe**.
-/
import QuizAttempts.Proofs.Overwriting

set_option autoImplicit false

namespace QuizAttempts

namespace Console

/-! ### Locks -/

/-- **No enrollment is locked by two transactions.** -/
structure Exclusive (console : Console) : Prop where
  eq : ∀ {name other : String} {tx tx' : Transaction} {e : Int}, console.tx? name = some tx →
    console.tx? other = some tx' → e ∈ tx.held → e ∈ tx'.held → name = other

section Exclusive

variable {console : Console} {name : String}

theorem mem_locked_without {other : String} {tx : Transaction} {e : Int} (hne : other ≠ name)
    (htx : console.tx? other = some tx) (he : e ∈ tx.held) : e ∈ (console.without name).locked := by
  have hlookup : (console.without name).tx? other = some tx := by rw [tx?_without, if_neg hne, htx]
  exact List.mem_flatMap.2 ⟨(other, tx), mem_live_of_tx? hlookup, he⟩

theorem Exclusive.without (h : console.Exclusive) (name : String) :
    (console.without name).Exclusive := by
  refine ⟨fun htx htx' he he' => ?_⟩
  exact h.eq (tx?_without_eq_some.1 htx).2 (tx?_without_eq_some.1 htx').2 he he'

/-- A transaction may go on with the locks that it had and with those that nobody else has. -/
theorem Exclusive.withTx (h : console.Exclusive) {tx' : Transaction}
    (hheld : ∀ e ∈ tx'.held, (∃ tx, console.tx? name = some tx ∧ e ∈ tx.held) ∨
      e ∉ (console.without name).locked) : (console.withTx name tx').Exclusive := by
  have hone : ∀ {other : String} {tx : Transaction} {e : Int}, console.tx? other = some tx →
      e ∈ tx.held → e ∈ tx'.held → other = name := by
    intro other tx e htx he he'
    rcases hheld e he' with ⟨tx₀, htx₀, he₀⟩ | hfree
    · exact h.eq htx htx₀ he he₀
    · exact Decidable.byContradiction fun hne => hfree (mem_locked_without hne htx he)
  refine ⟨fun {first second tx₁ tx₂ e} htx₁ htx₂ he he' => ?_⟩
  rcases tx?_withTx_eq_some.1 htx₁ with ⟨hfirst, heq₁⟩ | ⟨hfirst, hold₁⟩ <;>
    rcases tx?_withTx_eq_some.1 htx₂ with ⟨hsecond, heq₂⟩ | ⟨hsecond, hold₂⟩
  · rw [hfirst, hsecond]
  · exact absurd (hone hold₂ he' (heq₁ ▸ he)) hsecond
  · exact absurd (hone hold₁ he (heq₂ ▸ he')) hfirst
  · exact h.eq hold₁ hold₂ he he'

/-- Staging a row takes no lock. -/
theorem Exclusive.stage (h : console.Exclusive) {tx : Transaction}
    (htx : console.tx? name = some tx) (a : Attempt) :
    (console.withTx name (tx.stage a)).Exclusive :=
  h.withTx fun _ he => Or.inl ⟨tx, htx, he⟩

/-- **No command** gives one lock to two transactions. -/
theorem Exclusive.run (h : console.Exclusive) (command : Command) :
    (console.run command).1.Exclusive := by
  rcases console.run_cases command with ⟨request, -, heq⟩ | ⟨-, hsame⟩ | ⟨name, -, heq⟩ |
    ⟨name, step, tx, -, htx, heq⟩
  · rw [heq]
    exact ⟨h.eq⟩
  · refine ⟨fun htx htx' => ?_⟩
    simp only [tx?, hsame.live] at htx htx'
    exact h.eq htx htx'
  · rw [heq]
    exact h.withTx fun e he => by simp [Transaction.fresh] at he
  · rw [heq]
    cases step with
    | commit =>
        simp only [runStep]
        split
        · exact ⟨(h.without name).eq⟩
        · exact h.without name
    | drop => exact h.without name
    | lockEnrollment student course =>
        simp only [runStep]
        split
        · rename_i tx' enrollment hlock
          exact h.withTx fun e he =>
            ((Transaction.held_of_lock? hlock).2 he).imp_left fun he => ⟨tx, htx, he⟩
        · exact h
    | insert new =>
        obtain ⟨-, hresult⟩ := Transaction.insert_eq tx console.service.store new
        simp only [runStep]
        split
        · rename_i store tx' a hinsert
          rw [hinsert] at hresult
          rcases hresult with hresult | hresult
          · simp at hresult
          · obtain ⟨rfl, -⟩ := Prod.mk.inj (Except.ok.inj hresult)
            exact ⟨(h.stage htx _).eq⟩
        · exact ⟨h.eq⟩
    | save final =>
        simp only [runStep]
        split
        · rename_i tx' hsave
          obtain ⟨rfl, -⟩ := Transaction.save?_eq_some hsave
          exact h.stage htx final
        · exact h
    | _ => exact h

end Exclusive

/-! ### Guarded histories -/

/-- **Whoever saves holds the lock of the enrollment**, all through a history. -/
def isGuarded (console : Console) : List Command → Bool
  | [] => true
  | command :: commands =>
      (match command with
        | .step name (.save final) =>
            (console.tx? name).all (·.held.contains final.enrollmentId)
        | _ => true) && (console.run command).1.isGuarded commands

/-- **What guarded histories keep**: who has staged a row for a committed one holds the lock of its
enrollment, and nobody has for a graded one. -/
structure Guarded (console : Console) : Prop where
  exclusive : console.Exclusive
  held : ∀ {name : String} {tx : Transaction} {id : Int} {a b : Attempt},
    console.tx? name = some tx → tx.staged.get? id = some b →
      console.service.store.attempts.get? id = some a → a.enrollmentId ∈ tx.held
  settled : ∀ {name : String} {tx : Transaction} {id : Int} {a : Attempt},
    console.tx? name = some tx → console.service.store.attempts.get? id = some a →
      a.isOpen = false → tx.staged.get? id = none

namespace Guarded

variable {console console' : Console}

/-- After one command, who has staged a row for a committed one still holds the lock. -/
theorem turn_held (h : console.Guarded) (htidy : console.Tidy) {command : Command}
    (hturn : console.Turns command console')
    (hguard : ∀ {name : String} {final : Attempt} {tx : Transaction},
      command = .step name (.save final) → console.tx? name = some tx →
        final.enrollmentId ∈ tx.held)
    {name : String} {tx' : Transaction} {id : Int} {a b : Attempt}
    (htx' : console'.tx? name = some tx') (hb : tx'.staged.get? id = some b)
    (ha : console'.service.store.attempts.get? id = some a) : a.enrollmentId ∈ tx'.held := by
  cases hturn with
  | rest hrows hlive =>
      rw [hrows] at ha
      rcases hlive htx' with hnone | ⟨tx, htx, hstaged, hheld⟩
      · simp [hnone] at hb
      · exact hheld (h.held htx (hstaged ▸ hb) ha)
  | @stage _ tx final htx hrows hlive hfinal =>
      rw [hrows] at ha
      rcases hlive htx' with ⟨rfl, rfl⟩ | ⟨-, htx'⟩
      · rw [Transaction.staged_stage, Table.get?_insert] at hb
        split at hb
        · rename_i hid
          subst hid
          rcases hfinal with hfresh | ⟨hcommand, row, hrow, -, hplace, -⟩
          · have := htidy.sound.store.allocated ha
            omega
          · obtain ⟨row', hrow', hplace', -⟩ := htidy.merged htx ha
            obtain rfl := Option.some.inj (hrow.symm.trans hrow')
            obtain ⟨-, he, -⟩ :=
              Attempt.samePlace_iff.1 (Attempt.samePlace_trans hplace hplace')
            rw [← he]
            show final.enrollmentId ∈ tx.held
            exact hguard hcommand htx
        · show a.enrollmentId ∈ tx.held
          exact h.held htx hb ha
      · exact h.held htx' hb ha
  | @commit committer tx htx horderly hrows hlive =>
      obtain ⟨hne, htx'⟩ := hlive htx'
      cases hold : console.service.store.attempts.get? id with
      | none =>
          rw [hrows, Transaction.get?_merged, hold, Option.or_none] at ha
          exact absurd (htidy.apart htx' htx hb ha hold) hne
      | some old =>
          obtain ⟨row, hrow, hplace, -⟩ := htidy.merged htx hold
          rw [hrows, hrow] at ha
          obtain rfl := Option.some.inj ha
          rw [(Attempt.samePlace_iff.1 hplace).2.1]
          exact h.held htx' hb hold

/-- After one command, nobody has a row staged for a graded one. -/
theorem turn_settled (h : console.Guarded) (htidy : console.Tidy) {command : Command}
    (hturn : console.Turns command console') {name : String} {tx' : Transaction} {id : Int}
    {a : Attempt} (htx' : console'.tx? name = some tx')
    (ha : console'.service.store.attempts.get? id = some a) (hclosed : a.isOpen = false) :
    tx'.staged.get? id = none := by
  cases hturn with
  | rest hrows hlive =>
      rw [hrows] at ha
      rcases hlive htx' with hnone | ⟨tx, htx, hstaged, -⟩
      · rw [hnone, Table.get?_empty]
      · rw [hstaged, h.settled htx ha hclosed]
  | @stage _ tx final htx hrows hlive hfinal =>
      rw [hrows] at ha
      rcases hlive htx' with ⟨rfl, rfl⟩ | ⟨-, htx'⟩
      · have hne : id ≠ final.id := htidy.ne_of_staging htx ha hclosed hfinal
        rw [Transaction.staged_stage, Table.get?_insert_of_ne hne, h.settled htx ha hclosed]
      · exact h.settled htx' ha hclosed
  | @commit committer tx htx horderly hrows hlive =>
      obtain ⟨hne, htx'⟩ := hlive htx'
      rw [hrows, Transaction.get?_merged, Option.or_eq_some_iff] at ha
      rcases ha with ha | ⟨-, ha⟩
      · -- two transactions with rows for one attempt would have one lock
        rw [Option.eq_none_iff_forall_not_mem]
        intro b hb
        cases hold : console.service.store.attempts.get? id with
        | none => exact hne (htidy.apart htx' htx hb ha hold)
        | some old => exact hne (h.exclusive.eq htx' htx (h.held htx' hb hold) (h.held htx ha hold))
      · exact h.settled htx' ha hclosed

/-- **One command** of a careful and guarded history. -/
theorem turn (h : console.Guarded) (htidy : console.Tidy) (hexclusive : console'.Exclusive)
    {command : Command} (hturn : console.Turns command console')
    (hguard : ∀ {name : String} {final : Attempt} {tx : Transaction},
      command = .step name (.save final) → console.tx? name = some tx →
        final.enrollmentId ∈ tx.held) : console'.Guarded :=
  ⟨hexclusive, h.turn_held htidy hturn hguard, h.turn_settled htidy hturn⟩

/-- **Every careful and guarded history.** -/
theorem after {watch : Watch} (h : watch.console.Guarded) (htidy : watch.console.Tidy)
    {commands : List Command} (hcareful : watch.isCareful commands = true)
    (hguarded : watch.console.isGuarded commands = true) :
    (watch.after commands).console.Guarded := by
  induction commands generalizing watch with
  | nil => exact h
  | cons command commands ih =>
      obtain ⟨hallows, hcareful⟩ := Watch.isCareful_cons.1 hcareful
      obtain ⟨hguard, hguarded⟩ := Bool.and_eq_true_iff.1 hguarded
      have hturn := Turns.of_allows htidy.sound hallows
      refine ih (h.turn htidy (h.exclusive.run command) hturn ?_)
        (htidy.turn (htidy.sound.run command).1 hturn) hcareful hguarded
      rintro name final tx rfl htx
      simpa [htx] using hguard

end Guarded

/-- **Under the locks of the enrollments an attempt is graded once.**  If everybody who saved held
the lock of the enrollment, a graded row is safe from whatever transactions do that keep to the
rules. -/
theorem graded_once_of_guarded {start : Service} (hmanaged : start.Managed)
    {commands : List Command} (hcareful : (Watch.ofService start).isCareful commands = true)
    (hguarded : (ofService start).isGuarded commands = true) {id : Int} {a : Attempt}
    (ha : ((ofService start).after commands).service.store.attempts.get? id = some a)
    (hgraded : a.status = .graded) (more : List Command)
    (hmore : (Watch.ofService start).isCareful (commands ++ more) = true) :
    ((ofService start).after (commands ++ more)).service.store.attempts.get? id = some a := by
  obtain ⟨hsound, -⟩ := AtRest.of_managed hmanaged
  have hclosed : a.isOpen = false := by simp [Attempt.isOpen, hgraded]
  have htidy : (Watch.ofService start).console.Tidy := Tidy.ofService hsound
  have hnobody : ∀ {name : String} {tx : Transaction},
      (Watch.ofService start).console.tx? name ≠ some tx := by
    intro name tx htx
    simp [Watch.ofService, ofService, tx?] at htx
  have hstart : (Watch.ofService start).console.Guarded :=
    ⟨⟨fun htx => absurd htx hnobody⟩, fun htx => absurd htx hnobody, fun htx => absurd htx hnobody⟩
  have hguard := hstart.after htidy hcareful hguarded
  have hspared : ((Watch.ofService start).after commands).console.Spares id a := by
    have hrow : ((Watch.ofService start).after commands).console.service.store.attempts.get? id =
        some a := by rw [Watch.console_after]; exact ha
    refine ⟨hrow, fun htx hb => ?_⟩
    rw [hguard.settled htx hrow hclosed] at hb
    exact absurd hb (by simp)
  have hrow := (hspared.after hclosed (htidy.after hcareful) (Watch.isCareful_append.1 hmore).2).row
  rw [Watch.console_after, Watch.console_after, ← after_append] at hrow
  exact hrow

end Console

end QuizAttempts
