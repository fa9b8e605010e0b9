/-
**The committed attempts stay unique, whatever transactions do.**

Any number of transactions may be under way at once, begun and driven by hand, with or without
locks, inserting what they like and saving any row over any open one.  A row may be staged against
a table that has changed by the time it is committed.  After every step of every interleaving the
committed table is orderly all the same: numbers are not used twice, at most one attempt of a pair
is open, nothing is lost, and no identifier is given out a second time.

Main definitions:

* `Console.Sound` — the store and every transaction under way are sound.

Main results:

* `Console.Sound.run`, `Console.Sound.after` — one command and every history keep it so;
* `Console.unique_after` — **uniqueness after every history**.
-/
import QuizAttempts.Proofs.History
import QuizAttempts.Proofs.Orderly

set_option autoImplicit false

namespace QuizAttempts

namespace Console

/-! ### Sound consoles -/

/-- The store and every transaction under way are sound. -/
structure Sound (console : Console) : Prop where
  store : console.service.store.Sound
  live : ∀ name tx, (name, tx) ∈ console.live → tx.Within console.service.store

variable {console : Console}

theorem mem_live_of_tx? {name : String} {tx : Transaction} (htx : console.tx? name = some tx) :
    (name, tx) ∈ console.live := by
  obtain ⟨before, after, heq, -⟩ := List.lookup_eq_some_iff.1 htx
  rw [heq]
  simp

theorem Sound.tx? (h : console.Sound) {name : String} {tx : Transaction}
    (htx : console.tx? name = some tx) : tx.Within console.service.store :=
  h.live name tx (mem_live_of_tx? htx)

theorem Sound.withService (h : console.Sound) {service : Service} (hs : service.store.Sound)
    (hg : console.service.store.Grows service.store) : (console.withService service).Sound :=
  ⟨hs, fun name tx htx => (h.live name tx htx).mono hg.allocated⟩

theorem Sound.without (h : console.Sound) (name : String) : (console.without name).Sound :=
  ⟨h.store, fun other tx htx => h.live other tx (List.mem_filter.1 htx).1⟩

theorem Sound.withTx (h : console.Sound) (name : String) {tx : Transaction}
    (htx : tx.Within console.service.store) : (console.withTx name tx).Sound := by
  refine ⟨h.store, fun other tx' hmem => ?_⟩
  rcases List.mem_cons.1 hmem with heq | hmem
  · obtain ⟨rfl, rfl⟩ := Prod.mk.inj heq
    exact htx
  · exact (h.without name).live other tx' hmem

/-- **One step of a transaction** keeps a console sound, and the store grows. -/
theorem Sound.runStep (h : console.Sound) {name : String} {tx : Transaction}
    (htx : console.tx? name = some tx) (step : TxStep) :
    (console.runStep name tx step).1.Sound ∧
      console.service.store.Grows (console.runStep name tx step).1.service.store := by
  have hwithin := h.tx? htx
  cases step with
  | commit =>
      simp only [Console.runStep]
      split
      · rename_i store heq
        obtain ⟨hsound, hgrows⟩ := Transaction.commit_sound h.store hwithin heq
        exact ⟨(h.without name).withService hsound hgrows, hgrows⟩
      · exact ⟨h.without name, Store.Grows.refl _⟩
  | drop => exact ⟨h.without name, Store.Grows.refl _⟩
  | lockEnrollment student course =>
      simp only [Console.runStep]
      split
      · rename_i after enrollment heq
        have hstaged := Session.lock?_staged heq
        exact ⟨h.withTx name ⟨fun ha => hwithin.own (hstaged ▸ ha),
          fun ha => hwithin.allocated (hstaged ▸ ha)⟩, Store.Grows.refl _⟩
      · exact ⟨h, Store.Grows.refl _⟩
  | insert new =>
      obtain ⟨hstore, -⟩ := Transaction.insert_eq tx console.service.store new
      simp only [Console.runStep]
      split
      · rename_i store after a heq
        rw [heq] at hstore
        obtain rfl : store = console.service.store.allocate := hstore
        have hafter := (hwithin.insert (congrArg Prod.snd heq)).1
        have hallocate : (console.withStore console.service.store.allocate).Sound :=
          h.withService h.store.allocate (Store.Grows.allocate _)
        exact ⟨hallocate.withTx name hafter, Store.Grows.allocate _⟩
      · rename_i store taken heq
        rw [heq] at hstore
        obtain rfl : store = console.service.store.allocate := hstore
        exact ⟨h.withService h.store.allocate (Store.Grows.allocate _), Store.Grows.allocate _⟩
  | save final =>
      simp only [Console.runStep]
      split
      · rename_i after heq
        exact ⟨h.withTx name (hwithin.save? h.store heq), Store.Grows.refl _⟩
      · exact ⟨h, Store.Grows.refl _⟩
  | _ => exact ⟨h, Store.Grows.refl _⟩

/-- **One command** keeps a console sound, and the store grows. -/
theorem Sound.run (h : console.Sound) (command : Command) :
    (console.run command).1.Sound ∧
      console.service.store.Grows (console.run command).1.service.store := by
  rcases console.run_cases command with ⟨request, -, heq⟩ | ⟨-, hsame⟩ | ⟨name, -, heq⟩ |
    ⟨name, step, tx, -, htx, heq⟩
  · obtain ⟨hsound, hgrows⟩ := Service.run_sound h.store console.locked request.program
    rw [heq]
    exact ⟨h.withService hsound hgrows, hgrows⟩
  · have hgrows := Store.Grows.of_eq hsame.records.attempts hsame.records.allocated
    refine ⟨⟨h.store.of_eq hsame.records.attempts hsame.records.allocated,
      fun name tx htx => ?_⟩, hgrows⟩
    rw [hsame.live] at htx
    exact (h.live name tx htx).mono hgrows.allocated
  · rw [heq]
    exact ⟨h.withTx name (Transaction.Within.fresh _), Store.Grows.refl _⟩
  · rw [heq]
    exact h.runStep htx step

/-- **Every history** keeps a console sound, and the store grows. -/
theorem Sound.after (h : console.Sound) (commands : List Command) :
    (console.after commands).Sound ∧
      console.service.store.Grows (console.after commands).service.store := by
  induction commands generalizing console with
  | nil => exact ⟨h, Store.Grows.refl _⟩
  | cons command commands ih =>
      obtain ⟨hsound, hgrows⟩ := h.run command
      obtain ⟨hsound', hgrows'⟩ := ih hsound
      exact ⟨hsound', hgrows.trans hgrows'⟩

theorem Sound.ofService {service : Service} (h : service.store.Sound) :
    (Console.ofService service).Sound :=
  ⟨h, fun name tx htx => by simp [Console.ofService] at htx⟩

/-- What was there at any earlier time is still there. -/
theorem Sound.grows_of_earlier (h : console.Sound) {earlier commands : List Command}
    (hearlier : earlier <+: commands) :
    (console.after earlier).service.store.Grows (console.after commands).service.store := by
  obtain ⟨later, rfl⟩ := hearlier
  rw [after_append]
  exact ((h.after earlier).1.after later).2

/-! ### The steps that matter -/

/-- **An insert gives out the next identifier**, whether it finds room or not. -/
theorem allocated_run_insert {name : String} {tx : Transaction} (htx : console.tx? name = some tx)
    (new : NewAttempt) :
    (console.run (.step name (.insert new))).1.service.store.allocated =
      console.service.store.allocated + 1 ∧
    ∀ row, (console.run (.step name (.insert new))).2 = .done (.attempt (some row)) →
      row.id = console.service.store.allocated + 1 := by
  obtain ⟨hstore, hresult⟩ := Transaction.insert_eq tx console.service.store new
  simp only [Console.run, htx, runStep]
  split
  · rename_i store after a heq
    rw [heq] at hstore hresult
    obtain rfl : store = console.service.store.allocate := hstore
    refine ⟨rfl, fun row hrow => ?_⟩
    obtain rfl : a = row := by simpa using hrow
    rcases hresult with hresult | hresult
    · simp at hresult
    · rw [(Prod.mk.inj (Except.ok.inj hresult)).2]
      rfl
  · rename_i store taken heq
    rw [heq] at hstore
    obtain rfl : store = console.service.store.allocate := hstore
    exact ⟨rfl, fun row hrow => by simp at hrow⟩

/-- **A commit is refused and changes nothing, or lays all staged rows over the table.** -/
theorem run_commit {name : String} {tx : Transaction} (htx : console.tx? name = some tx) :
    (∃ number, (console.run (.step name .commit)).2 = .refused (.taken number)) ∧
        (console.run (.step name .commit)).1.service.store = console.service.store ∨
      (console.run (.step name .commit)).2 = .done .nothing ∧
        (console.run (.step name .commit)).1.service.store =
          { console.service.store with
            attempts := console.service.store.attempts.overlay tx.staged } := by
  simp only [Console.run, htx, runStep, Transaction.commit]
  cases tx.collision? console.service.store with
  | none => exact Or.inr ⟨rfl, rfl⟩
  | some a => exact Or.inl ⟨⟨a.number, rfl⟩, rfl⟩

end Console

theorem Store.Sound.empty : Store.empty.Sound :=
  ⟨Orderly.empty, fun h => by simp [Store.empty] at h⟩

namespace Console

/-- **Uniqueness after every history** that begins with nothing in the store.  The committed table
is orderly, and no row of it is ever lost; an insert gives out an identifier that is larger than
all before it, and a commit writes all rows or none. -/
theorem unique_after {start : Service} (hstart : start.store = Store.empty)
    (commands : List Command) :
    let console := (Console.ofService start).after commands
    Orderly console.service.store.attempts ∧
    (∀ earlier, earlier <+: commands → ∀ id,
      (((Console.ofService start).after earlier).service.store.attempts.get? id).isSome →
        (console.service.store.attempts.get? id).isSome) ∧
    (∀ name tx new, console.tx? name = some tx →
      (∀ earlier, earlier <+: commands →
        ((Console.ofService start).after earlier).service.store.allocated <
          (console.run (.step name (.insert new))).1.service.store.allocated) ∧
      (∀ row, (console.run (.step name (.insert new))).2 = .done (.attempt (some row)) →
        row.id = (console.run (.step name (.insert new))).1.service.store.allocated)) ∧
    (∀ name tx, console.tx? name = some tx →
      (∃ number, (console.run (.step name .commit)).2 = .refused (.taken number)) ∧
          (console.run (.step name .commit)).1.service.store = console.service.store ∨
        (console.run (.step name .commit)).2 = .done .nothing ∧
          (console.run (.step name .commit)).1.service.store =
            { console.service.store with
              attempts := console.service.store.attempts.overlay tx.staged }) := by
  have hsound : (Console.ofService start).Sound := Sound.ofService (hstart ▸ Store.Sound.empty)
  refine ⟨(hsound.after commands).1.store.orderly, fun earlier hearlier id => ?_,
    fun name tx new htx => ?_, fun name tx htx => run_commit htx⟩
  · exact (hsound.grows_of_earlier hearlier).rows id
  · obtain ⟨hallocated, hrow⟩ := allocated_run_insert htx new
    refine ⟨fun earlier hearlier => ?_, fun row hr => ?_⟩
    · have := (hsound.grows_of_earlier hearlier).allocated
      omega
    · rw [hrow row hr, hallocated]
      rfl

/-- Two transactions insert the first attempt of one pair, and neither can see the other's row. -/
def firstAttemptTwice : Console :=
  let new : NewAttempt := ⟨1, 1, 1, Binary64.zero, Service.blank.clock⟩
  (ofService Service.blank).after
    [.begin "a", .begin "b", .step "a" (.insert new), .step "b" (.insert new), .step "a" .commit]

/-- The one that commits later is refused, and the table stays as it was. -/
theorem unique_after_firstAttemptTwice :
    Service.blank.store = Store.empty ∧ (firstAttemptTwice.tx? "b").isSome = true ∧
      firstAttemptTwice.service.store.attempts.size = 1 ∧
      (∃ number, (firstAttemptTwice.run (.step "b" .commit)).2 = .refused (.taken number)) ∧
      (firstAttemptTwice.run (.step "b" .commit)).1.service.store =
        firstAttemptTwice.service.store := by
  have hlive : (firstAttemptTwice.tx? "b").isSome = true := by decide +kernel
  have hrefused : (firstAttemptTwice.run (.step "b" .commit)).2.result?.isSome = false := by
    decide +kernel
  obtain ⟨tx, htx⟩ := Option.isSome_iff_exists.1 hlive
  obtain ⟨-, -, -, hcommit⟩ := unique_after (rfl : Service.blank.store = Store.empty) _
  refine ⟨rfl, hlive, by decide +kernel, ?_⟩
  rcases hcommit "b" tx htx with hrefusal | hdone
  · exact hrefusal
  · have hnone : (firstAttemptTwice.run (.step "b" .commit)).2.result?.isSome = true := by
      rw [show (firstAttemptTwice.run (.step "b" .commit)).2 = _ from hdone.1]
      rfl
    rw [hrefused] at hnone
    exact absurd hnone (by decide)

end Console

end QuizAttempts
