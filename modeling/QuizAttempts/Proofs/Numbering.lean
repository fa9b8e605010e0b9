/-
**The numbers of a pair's attempts.**

Through requests alone the attempts of an enrollment at a quiz are numbered one, two, three and so
on without a gap, their identifiers ascend with their numbers, and all but the last are closed.
Gaplessness, order and the limit hold one another up: the next number is read off the highest one,
which is the length of the history only because there was no gap before, and it is compared with
the limit of the quiz at that moment.  Quizzes may be edited between the requests, the clock moved
either way, inserts made to collide, collaborators broken; none of it shows in the numbers.

Main definitions:

* `Store.Numbered` — the history of a pair up to a number;
* `Store.WithinLimit` — no number at a quiz is above a limit;
* `Console.AtRest` — no transaction is under way by hand, and the store is as requests leave it.

Main results:

* `Store.Numbered.moves`, `Store.WithinLimit.moves` — what requests do keeps both;
* `Console.AtRest.run` — **what one command does to the attempts**;
* `Console.numbered_after` — **the numbers after every history**.
-/
import Mathlib.Data.List.Infix
import Mathlib.Data.List.Sort
import QuizAttempts.Proofs.Endings
import QuizAttempts.Proofs.Uniqueness

set_option autoImplicit false

namespace QuizAttempts

/-! ### One pair -/

/-- **The history of a pair up to the number `k`**: each number up to it stands at an attempt, the
identifiers ascend with the numbers, and all attempts but the last are closed. -/
structure Store.Numbered (store : Store) (e q k : Int) : Prop where
  inRange : 0 ≤ k ∧ k ≤ 2147483647
  bounds : ∀ {id : Int} {a : Attempt}, store.attempts.get? id = some a → a.isOf e q = true →
    1 ≤ a.number ∧ a.number ≤ k
  reached : ∀ n, 1 ≤ n → n ≤ k →
    ∃ id a, store.attempts.get? id = some a ∧ a.isOf e q = true ∧ a.number = n
  ascending : ∀ {i j : Int} {a b : Attempt}, store.attempts.get? i = some a →
    store.attempts.get? j = some b → a.isOf e q = true → b.isOf e q = true →
      a.number < b.number → a.id < b.id
  closed : ∀ {id : Int} {a : Attempt}, store.attempts.get? id = some a → a.isOf e q = true →
    a.number ≠ k → a.isOpen = false
  own : ∀ {id : Int} {a : Attempt}, store.attempts.get? id = some a → a.isOf e q = true →
    a.id = id ∧ id ≤ store.allocated

/-- No number at a quiz is above a limit, nor above zero should that be less. -/
def Store.WithinLimit (store : Store) (q most : Int) : Prop :=
  ∀ (id : Int) (a : Attempt), store.attempts.get? id = some a → a.quizId = q →
    a.number ≤ max most 0

namespace Store

variable {quizzes : Table Quiz} {before after : Store} {e q k : Int}

theorem Numbered.of_empty (h : before.attempts = Table.empty) (e q : Int) :
    before.Numbered e q 0 := by
  have hnone : ∀ {id : Int} {a : Attempt}, before.attempts.get? id ≠ some a := by
    intro id a ha
    rw [h] at ha
    simp at ha
  exact ⟨by omega, fun ha => absurd ha hnone, fun n h1 h0 => by omega,
    fun ha => absurd ha hnone, fun ha => absurd ha hnone, fun ha => absurd ha hnone⟩

/-- **Closing attempts keeps the history.** -/
theorem Numbered.continues (h : before.Numbered e q k) (hstep : after.Continues before) :
    after.Numbered e q k := by
  refine ⟨h.inRange, fun hb hpair => ?_, fun n h1 hk => ?_, fun hb hd hpair hpair' hlt => ?_,
    fun hb hpair hne => ?_, fun hb hpair => ?_⟩
  · obtain ⟨a, ha, hcont⟩ := hstep.rows hb
    rw [hcont.number]
    exact h.bounds ha (by rwa [← hcont.isOf])
  · obtain ⟨id, a, ha, hpair, hn⟩ := h.reached n h1 hk
    obtain ⟨b, hb, hcont⟩ := hstep.kept ha
    exact ⟨id, b, hb, by rwa [hcont.isOf], by rw [hcont.number, hn]⟩
  · obtain ⟨a, ha, hcont⟩ := hstep.rows hb
    obtain ⟨c, hc, hcont'⟩ := hstep.rows hd
    rw [hcont.id, hcont'.id]
    exact h.ascending ha hc (by rwa [← hcont.isOf]) (by rwa [← hcont'.isOf])
      (by rwa [← hcont.number, ← hcont'.number])
  · obtain ⟨a, ha, hcont⟩ := hstep.rows hb
    rw [Bool.eq_false_iff]
    intro hopen
    have hclosed := h.closed ha (by rwa [← hcont.isOf]) (by rwa [← hcont.number])
    simp [hcont.isOpen hopen] at hclosed
  · obtain ⟨a, ha, hcont⟩ := hstep.rows hb
    obtain ⟨hid, hle⟩ := h.own ha (by rwa [← hcont.isOf])
    have hgrows := hstep.allocated
    exact ⟨by rw [hcont.id, hid], by omega⟩

/-- The attempts after the next one was opened: those of before, and it. -/
theorem Opens.cases {a : Attempt} (hstep : before.Opens quizzes after a) {id : Int} {b : Attempt}
    (hb : after.attempts.get? id = some b) :
    id = a.id ∧ b = a ∨ id ≠ a.id ∧ before.attempts.get? id = some b := by
  rw [hstep.attempts, Table.get?_insert] at hb
  split at hb
  · rename_i hid
    exact Or.inl ⟨hid, (Option.some.inj hb).symm⟩
  · rename_i hid
    exact Or.inr ⟨hid, hb⟩

/-- The identifier of the next attempt was not given out before. -/
theorem Opens.ne_of_own {a : Attempt} (h : before.Numbered e q k)
    (hstep : before.Opens quizzes after a) {id : Int} {b : Attempt}
    (hb : before.attempts.get? id = some b) (hpair : b.isOf e q = true) : id ≠ a.id := by
  have hle := (h.own hb hpair).2
  have hid := hstep.id
  omega

theorem Opens.get?_of_own {a : Attempt} (h : before.Numbered e q k)
    (hstep : before.Opens quizzes after a) {id : Int} {b : Attempt}
    (hb : before.attempts.get? id = some b) (hpair : b.isOf e q = true) :
    after.attempts.get? id = some b := by
  rw [hstep.attempts, Table.get?_insert_of_ne (hstep.ne_of_own h hb hpair), hb]

/-- The next attempt of a pair has the number after the last one. -/
theorem Opens.number_eq {a : Attempt} (h : before.Numbered e q k)
    (hstep : before.Opens quizzes after a) (hpair : a.isOf e q = true) : a.number = k + 1 := by
  obtain ⟨rfl, rfl⟩ := Attempt.isOf_iff.1 hpair
  have hk := h.inRange
  rcases hstep.next with ⟨hone, hnone⟩ | ⟨i, b, hb, hbpair, hnumber⟩
  · -- a number that was reached would stand at an attempt
    have hzero : ¬ 1 ≤ k := by
      intro h1
      obtain ⟨id, c, hc, hcpair, -⟩ := h.reached k h1 (Int.le_refl k)
      simp [hnone hc] at hcpair
    omega
  · -- the attempt before the new one is the last of the history
    have hbounds := h.bounds hb hbpair
    obtain ⟨id, c, hc, hcpair, hcnumber⟩ := h.reached k (by omega) (Int.le_refl k)
    have hlt := (hstep.pair hc hcpair).1
    omega

/-- **The next attempt of a pair lengthens its history by one.** -/
theorem Numbered.opens_same {a : Attempt} (h : before.Numbered e q k)
    (hstep : before.Opens quizzes after a) (hpair : a.isOf e q = true) :
    after.Numbered e q (k + 1) := by
  have hnumber : a.number = k + 1 := hstep.number_eq h hpair
  have hpairs : ∀ {b : Attempt}, b.isOf e q = true → b.isOf a.enrollmentId a.quizId = true := by
    intro b hb
    obtain ⟨he, hq⟩ := Attempt.isOf_iff.1 hpair
    rwa [he, hq]
  have hk := h.inRange
  have hid := hstep.id
  have hids := hstep.allocated
  refine ⟨⟨by omega, ?_⟩, fun hb hbpair => ?_, fun n h1 hn => ?_, fun hb hd hbpair hdpair hlt => ?_,
    fun hb hbpair hne => ?_, fun hb hbpair => ?_⟩
  · have hrange := hstep.inRange
    simp only [isInt32, Bool.and_eq_true, decide_eq_true_eq] at hrange
    omega
  · rcases hstep.cases hb with ⟨-, rfl⟩ | ⟨-, hb⟩
    · omega
    · have hbounds := h.bounds hb hbpair
      omega
  · by_cases hlast : n = k + 1
    · refine ⟨a.id, a, ?_, hpair, by rw [hnumber, hlast]⟩
      rw [hstep.attempts, Table.get?_insert_self]
    · obtain ⟨id, b, hb, hbpair, hbnumber⟩ := h.reached n h1 (by omega)
      exact ⟨id, b, hstep.get?_of_own h hb hbpair, hbpair, hbnumber⟩
  · rcases hstep.cases hb with ⟨-, rfl⟩ | ⟨-, hb⟩ <;> rcases hstep.cases hd with ⟨-, rfl⟩ | ⟨-, hd⟩
    · omega
    · have hbounds := h.bounds hd hdpair
      omega
    · obtain ⟨hbid, hble⟩ := h.own hb hbpair
      omega
    · exact h.ascending hb hd hbpair hdpair hlt
  · rcases hstep.cases hb with ⟨-, rfl⟩ | ⟨-, hb⟩
    · exact absurd hnumber hne
    · exact (hstep.pair hb (hpairs hbpair)).2
  · rcases hstep.cases hb with ⟨rfl, rfl⟩ | ⟨-, hb⟩
    · exact ⟨rfl, by omega⟩
    · obtain ⟨hbid, hble⟩ := h.own hb hbpair
      exact ⟨hbid, by omega⟩

/-- The next attempt of another pair leaves the history as it is. -/
theorem Numbered.opens_other {a : Attempt} (h : before.Numbered e q k)
    (hstep : before.Opens quizzes after a) (hpair : a.isOf e q = false) :
    after.Numbered e q k := by
  have hbefore : ∀ {id : Int} {b : Attempt}, after.attempts.get? id = some b →
      b.isOf e q = true → before.attempts.get? id = some b := by
    intro id b hb hbpair
    rcases hstep.cases hb with ⟨-, rfl⟩ | ⟨-, hb⟩
    · simp [hpair] at hbpair
    · exact hb
  refine ⟨h.inRange, fun hb hbpair => h.bounds (hbefore hb hbpair) hbpair, fun n h1 hn => ?_,
    fun hb hd hbpair hdpair => h.ascending (hbefore hb hbpair) (hbefore hd hdpair) hbpair hdpair,
    fun hb hbpair => h.closed (hbefore hb hbpair) hbpair, fun hb hbpair => ?_⟩
  · obtain ⟨id, b, hb, hbpair, hbnumber⟩ := h.reached n h1 hn
    exact ⟨id, b, hstep.get?_of_own h hb hbpair, hbpair, hbnumber⟩
  · obtain ⟨hid, hle⟩ := h.own (hbefore hb hbpair) hbpair
    have hids := hstep.allocated
    exact ⟨hid, by omega⟩

/-- **What requests do keeps a history a history**, perhaps a longer one. -/
theorem Numbered.moves (h : ∃ k, before.Numbered e q k) (hmoves : Moves quizzes before after) :
    ∃ k, after.Numbered e q k := by
  induction hmoves with
  | refl => exact h
  | continues _ hstep ih =>
      obtain ⟨k, hk⟩ := ih
      exact ⟨k, hk.continues hstep⟩
  | @opens _ _ a _ hstep ih =>
      obtain ⟨k, hk⟩ := ih
      cases hpair : a.isOf e q with
      | true => exact ⟨k + 1, hk.opens_same hstep hpair⟩
      | false => exact ⟨k, hk.opens_other hstep hpair⟩

/-- **What requests do keeps the numbers within the limit** of the quiz at that moment. -/
theorem WithinLimit.moves {most : Int} (h : before.WithinLimit q most)
    (hlimit : ∀ quiz, quizzes.get? q = some quiz → quiz.maxAttempts = some most)
    (hmoves : Moves quizzes before after) : after.WithinLimit q most := by
  -- a row is below the limit that the quiz had when the row was opened, and that is still its limit
  induction hmoves with
  | refl => exact h
  | continues _ hstep ih =>
      intro id b hb hq
      obtain ⟨a, ha, hcont⟩ := hstep.rows hb
      rw [hcont.number]
      exact ih id a ha (hcont.quizId ▸ hq)
  | opens _ hstep ih =>
      intro id b hb hq
      rcases hstep.cases hb with ⟨-, rfl⟩ | ⟨-, hb⟩
      · obtain ⟨quiz, hquiz, hallowed⟩ := hstep.allowed
        rw [hq] at hquiz
        have hle := hallowed most (hlimit quiz hquiz)
        omega
      · exact ih id b hb hq

/-! ### The list of a pair's attempts -/

theorem mem_attemptsOf {store : Store} {a : Attempt} :
    a ∈ store.attemptsOf e q ↔
      ∃ id, store.attempts.get? id = some a ∧ a.isOf e q = true := by
  simp only [attemptsOf, List.mem_mergeSort, Table.mem_values, Table.get?_filter,
    Option.filter_eq_some_iff]

/-- The list ascends strictly with the numbers, for no two rows of a pair have one number. -/
theorem pairwise_attemptsOf {store : Store} (h : Orderly store.attempts) (e q : Int) :
    (store.attemptsOf e q).Pairwise fun a b => a.number < b.number := by
  have hsorted : (store.attemptsOf e q).Pairwise fun a b => decide (a.number ≤ b.number) = true :=
    List.pairwise_mergeSort (fun a b c hab hbc => by simp only [decide_eq_true_eq] at *; omega)
      (fun a b => by simp only [Bool.or_eq_true, decide_eq_true_eq]; omega) _
  have hvalues : ((store.attempts.filter (·.isOf e q)).values).Pairwise fun a b =>
      a.number ≠ b.number := by
    refine List.pairwise_map.2 ((store.attempts.filter (·.isOf e q)).ascending.imp_of_mem ?_)
    intro x y hx hy hlt hnumber
    have hrow : ∀ z ∈ (store.attempts.filter (·.isOf e q)).rows,
        store.attempts.get? z.1 = some z.2 ∧ z.2.isOf e q = true := by
      intro z hz
      have hget := Table.get?_eq_some_iff.2 hz
      rwa [Table.get?_filter, Option.filter_eq_some_iff] at hget
    obtain ⟨hxrow, hxpair⟩ := hrow x hx
    obtain ⟨hyrow, hypair⟩ := hrow y hy
    obtain ⟨he, hq⟩ := Attempt.isOf_iff.1 hxpair
    have hkeys : x.1 = y.1 := h.number hxrow hyrow (by rwa [he, hq]) hnumber
    omega
  -- sorting keeps the rows, so the numbers are as distinct as they were in the table
  have hdistinct : (store.attemptsOf e q).Pairwise fun a b => a.number ≠ b.number :=
    (List.mergeSort_perm _ _).symm.pairwise hvalues Ne.symm
  refine (hsorted.and hdistinct).imp fun {a b} hab => ?_
  have hle := of_decide_eq_true hab.1
  have hne := hab.2
  omega

/-- **The numbers of a history, read off the list**: one, two, three and so on. -/
theorem Numbered.attemptsOf {store : Store} (h : store.Numbered e q k)
    (horderly : Orderly store.attempts) :
    (store.attemptsOf e q).map (·.number) =
      (List.range k.toNat).map fun n : Nat => (n : Int) + 1 := by
  have hk := h.inRange
  refine List.Pairwise.eq_of_mem_iff (r := (· < ·)) ?_ ?_ fun n => ?_
  · exact List.pairwise_map.2 (pairwise_attemptsOf horderly e q)
  · exact List.pairwise_map.2 (List.pairwise_lt_range.imp fun hlt => by omega)
  · simp only [List.mem_map, List.mem_range, mem_attemptsOf]
    constructor
    · rintro ⟨a, ⟨id, ha, hpair⟩, rfl⟩
      have hbounds := h.bounds ha hpair
      exact ⟨(a.number - 1).toNat, by omega, by omega⟩
    · rintro ⟨i, hi, rfl⟩
      obtain ⟨id, a, ha, hpair, hnumber⟩ := h.reached (i + 1) (by omega) (by omega)
      exact ⟨a, ⟨id, ha, hpair⟩, hnumber⟩

/-- The identifiers ascend along the list. -/
theorem Numbered.ascending_attemptsOf {store : Store} (h : store.Numbered e q k)
    (horderly : Orderly store.attempts) :
    (store.attemptsOf e q).Pairwise fun a b => a.id < b.id := by
  refine (pairwise_attemptsOf horderly e q).imp_of_mem fun ha hb hlt => ?_
  obtain ⟨i, ha, hapair⟩ := mem_attemptsOf.1 ha
  obtain ⟨j, hb, hbpair⟩ := mem_attemptsOf.1 hb
  exact h.ascending ha hb hapair hbpair hlt

end Store

/-! ### Histories -/

theorem Store.Filed.insert {store : Store} (h : store.Filed) (quiz : Quiz) :
    Store.Filed { store with quizzes := store.quizzes.insert quiz.id quiz } := by
  intro id stored hstored
  rw [Table.get?_insert] at hstored
  split at hstored
  · rename_i hid
    rw [← Option.some.inj hstored, hid]
  · exact h id stored hstored

theorem Store.Filed.publish? {store after : Store} (h : store.Filed) {id : Int}
    (hpublish : store.publish? id = some after) : after.Filed := by
  obtain ⟨quiz, hquiz, rfl⟩ := Option.map_eq_some_iff.1 hpublish
  have hid : quiz.published.id = id := h id quiz hquiz
  rw [← hid]
  exact h.insert quiz.published

/-- An operation keeps every quiz under its own identifier. -/
theorem Session.perform_filed {others : List Int} {s s' : Session} {op : Op} {reply : op.Reply}
    (hfiled : s.service.store.Filed) (h : s.perform others op = some (s', reply)) :
    s'.service.store.Filed := by
  rcases Session.perform_store h with hsame | ⟨new, -, hallocate⟩ | ⟨-, hcommit⟩ |
    ⟨quiz, -, hpublish⟩ | ⟨enrollment, lesson, -, hcomplete⟩
  · rwa [hsame]
  · rw [hallocate]
    exact hfiled
  · unfold Transaction.commit at hcommit
    split at hcommit
    · simp at hcommit
    · rw [← Except.ok.inj hcommit]
      exact hfiled
  · exact hfiled.publish? hpublish
  · rw [hcomplete]
    exact hfiled

theorem Program.exec_filed {α : Type} (p : Program α) {others : List Int} {s : Session}
    (h : s.service.store.Filed) : (p.exec others s).1.service.store.Filed := by
  induction p generalizing s with
  | step op next ih =>
      simp only [Program.exec]
      split
      · rename_i s' reply hperform
        exact ih reply (Session.perform_filed h hperform)
      · exact h
  | _ => exact h

namespace Console

/-- **No transaction is under way by hand, and the store is as requests leave it.** -/
structure AtRest (console : Console) : Prop where
  live : console.live = []
  sound : console.service.store.Sound
  filed : console.service.store.Filed

/-- A command that is no step of a transaction keeps every quiz under its own identifier. -/
theorem run_filed {console : Console} (h : console.service.store.Filed) {command : Command}
    (hmanaged : command.isManaged = true) : (console.run command).1.service.store.Filed := by
  have hrequest : ∀ request : Request,
      (console.service.run console.locked request.program).1.store.Filed := fun request =>
    Program.exec_filed request.program h
  cases command with
  | request request =>
      have hfiled := hrequest request
      simp only [run]
      split <;> rename_i heq <;> rw [heq] at hfiled <;> exact hfiled
  | message keys shuffle message =>
      have hfiled :
          (console.service.respond console.locked keys shuffle message).1.store.Filed := by
        unfold Service.respond
        cases Http.interpret keys shuffle message with
        | error response => exact h
        | ok request => exact hrequest request
      simp only [run]
      split <;> rename_i heq <;> rw [heq] at hfiled <;> exact hfiled
  | advance nanos =>
      simp only [run]
      split <;> exact h
  | putQuiz quiz => exact h.insert quiz
  | publish quiz =>
      simp only [run]
      split
      · rename_i heq
        exact h.publish? heq
      · exact h
  | showQuiz id withQuestions => cases withQuestions <;> exact h
  | begin | step => simp [Command.isManaged] at hmanaged
  | _ => exact h

/-- Where no transaction is under way nothing is locked. -/
theorem AtRest.locked_eq {console : Console} (h : console.AtRest) : console.locked = [] := by
  rw [locked, h.live, List.flatMap_nil]

/-- **What one command does to the attempts**, if it is no step of a transaction. -/
theorem AtRest.run {console : Console} (h : console.AtRest) {command : Command}
    (hmanaged : command.isManaged = true) :
    (console.run command).1.AtRest ∧
      Store.Moves console.service.store.quizzes console.service.store
        (console.run command).1.service.store := by
  have hfiled := run_filed h.filed hmanaged
  rcases console.run_cases command with ⟨request, -, heq⟩ | ⟨-, hsame⟩ | ⟨name, rfl, -⟩ |
    ⟨name, step, tx, rfl, -⟩
  · rw [heq] at hfiled ⊢
    rw [h.locked_eq] at hfiled ⊢
    exact ⟨⟨h.live, (Service.run_sound h.sound [] request.program).1, hfiled⟩,
      Service.run_moves h.sound h.filed request⟩
  · exact ⟨⟨hsame.live.trans h.live,
      h.sound.of_eq hsame.records.attempts hsame.records.allocated, hfiled⟩,
      .of_eq hsame.records.attempts hsame.records.allocated⟩
  · simp [Command.isManaged] at hmanaged
  · simp [Command.isManaged] at hmanaged

/-- Histories without steps of transactions keep the store as requests leave it, and every history
of a pair a history. -/
theorem AtRest.after {console : Console} (h : console.AtRest)
    (hnumbered : ∀ e q, ∃ k, console.service.store.Numbered e q k) {commands : List Command}
    (hmanaged : ∀ command ∈ commands, command.isManaged = true) :
    (console.after commands).AtRest ∧
      ∀ e q, ∃ k, (console.after commands).service.store.Numbered e q k := by
  refine after_keeps (·.isManaged = true) (fun _ => True)
    (fun console => console.AtRest ∧ ∀ e q, ∃ k, console.service.store.Numbered e q k)
    ?_ hmanaged (fun _ _ => trivial) ⟨h, hnumbered⟩
  intro console command hallowed _ _ hkept
  obtain ⟨hrest, hmoves⟩ := hkept.1.run hallowed
  exact ⟨hrest, fun e q => Store.Numbered.moves (hkept.2 e q) hmoves⟩

/-- What requests and edits reach is as requests leave it, and so are the numbers of every pair. -/
theorem AtRest.reached_of_managed {service : Service} (h : service.Managed) :
    service.store.Sound ∧ service.store.Filed ∧ ∀ e q, ∃ k, service.store.Numbered e q k := by
  obtain ⟨start, commands, hstart, hmanaged, rfl⟩ := h
  have hrest : (ofService start).AtRest :=
    ⟨rfl, hstart ▸ Store.Sound.empty, fun id quiz hquiz => by
      simp [ofService, hstart, Store.empty] at hquiz⟩
  have hnumbered : ∀ e q, ∃ k, start.store.Numbered e q k :=
    fun e q => ⟨0, .of_empty (by rw [hstart]; rfl) e q⟩
  obtain ⟨hafter, hnumbers⟩ := hrest.after hnumbered hmanaged
  exact ⟨hafter.sound, hafter.filed, hnumbers⟩

/-- The services that requests and edits reach are as requests leave them. -/
theorem AtRest.of_managed {service : Service} (h : service.Managed) :
    service.store.Sound ∧ service.store.Filed := by
  obtain ⟨hsound, hfiled, -⟩ := reached_of_managed h
  exact ⟨hsound, hfiled⟩

/-- A quiz that has one limit all the time is never attempted more often. -/
theorem AtRest.withinLimit_after {console : Console} (h : console.AtRest) {q most : Int}
    (hlimit : console.service.store.WithinLimit q most) {commands : List Command}
    (hmanaged : ∀ command ∈ commands, command.isManaged = true)
    (hquiz : ∀ earlier, earlier <+: commands → ∀ quiz,
      (console.after earlier).service.store.quizzes.get? q = some quiz →
        quiz.maxAttempts = some most) :
    (console.after commands).service.store.WithinLimit q most := by
  refine (after_keeps (·.isManaged = true) (fun console => ∀ quiz,
    console.service.store.quizzes.get? q = some quiz → quiz.maxAttempts = some most)
    (fun console => console.AtRest ∧ console.service.store.WithinLimit q most)
    ?_ hmanaged hquiz ⟨h, hlimit⟩).2
  intro console command hallowed hduring _ hkept
  obtain ⟨hrest, hmoves⟩ := hkept.1.run hallowed
  exact ⟨hrest, hkept.2.moves hduring hmoves⟩

/-- **The numbers after every history** of requests and edits that begins without attempts.  The
attempts of a pair are numbered from one to some `k`, their identifiers ascend, and all but the last
are graded; `k` stays within thirty-two bits, for a start that needed more would overflow and write
nothing.  If the quiz had one limit all the time, `k` is not above it, nor above zero should the
limit be less. -/
theorem numbered_after {start : Service} (hrows : start.store.attempts = Table.empty)
    (hfiled : start.store.Filed) (commands : List Command)
    (hmanaged : ∀ command ∈ commands, command.isManaged = true) (e q : Int) :
    let history := ((ofService start).after commands).service.store.attemptsOf e q
    ∃ k : Nat, k ≤ 2147483647 ∧
      history.map (·.number) = (List.range k).map (fun n : Nat => (n : Int) + 1) ∧
      history.Pairwise (fun a b => a.id < b.id) ∧
      (∀ a ∈ history, a.number ≠ k → a.status = .graded) ∧
      ∀ most, (∀ earlier, earlier <+: commands → ∀ quiz,
          ((ofService start).after earlier).service.store.quizzes.get? q = some quiz →
            quiz.maxAttempts = some most) →
        (k : Int) ≤ max most 0 := by
  have hnone : ∀ {id : Int} {a : Attempt}, start.store.attempts.get? id ≠ some a := by
    intro id a ha
    rw [hrows] at ha
    simp at ha
  have hrest : (ofService start).AtRest :=
    ⟨rfl, ⟨hrows ▸ Orderly.empty, fun ha => absurd ha hnone⟩, hfiled⟩
  obtain ⟨hafter, hnumbered⟩ := hrest.after (fun e q => ⟨0, .of_empty hrows e q⟩) hmanaged
  obtain ⟨k, hk⟩ := hnumbered e q
  have hrange := hk.inRange
  have horderly := hafter.sound.orderly
  refine ⟨k.toNat, by omega, hk.attemptsOf horderly, hk.ascending_attemptsOf horderly,
    fun a ha hne => ?_, fun most hmost => ?_⟩
  · obtain ⟨id, ha, hpair⟩ := Store.mem_attemptsOf.1 ha
    have hclosed := hk.closed ha hpair (by omega)
    cases hstatus : a.status with
    | graded => rfl
    | inProgress => simp [Attempt.isOpen, hstatus] at hclosed
  · have hlimit := hrest.withinLimit_after (q := q) (fun _ _ ha => absurd ha hnone) hmanaged hmost
    by_cases hzero : k = 0
    · omega
    · obtain ⟨id, a, ha, hpair, hnumber⟩ := hk.reached k (by omega) (Int.le_refl k)
      have hle := hlimit id a ha (Attempt.isOf_iff.1 hpair).2
      omega

/-- A student starts twice at a quiz that may be attempted once. -/
def startedTwice : List Command :=
  classroom (some 1) ++ [.request (.start 1 learner), .request (.start 1 learner)]

/-- There is one attempt then, and there may not be more. -/
theorem numbered_after_startedTwice :
    Service.blank.store.attempts = Table.empty ∧ Service.blank.store.Filed ∧
      (∀ command ∈ startedTwice, command.isManaged = true) ∧
      (((ofService Service.blank).after startedTwice).service.store.attemptsOf 1 1).length = 1 ∧
      ∃ k : Nat, k ≤ 1 ∧
        (((ofService Service.blank).after startedTwice).service.store.attemptsOf 1 1).map
          (·.number) = (List.range k).map (fun n : Nat => (n : Int) + 1) := by
  have hfiled : Service.blank.store.Filed := fun id quiz h => by
    simp [Service.blank, Store.empty] at h
  have hmanaged : ∀ command ∈ startedTwice, command.isManaged = true := by decide +kernel
  have hlimits : ∀ earlier ∈ startedTwice.inits,
      (((ofService Service.blank).after earlier).service.store.quizzes.get? 1).all
        (·.maxAttempts = some 1) = true := by decide +kernel
  obtain ⟨k, -, hnumbers, -, -, hlimit⟩ := numbered_after rfl hfiled startedTwice hmanaged 1 1
  refine ⟨rfl, hfiled, hmanaged, by decide +kernel, k, ?_, hnumbers⟩
  have hle : (k : Int) ≤ max 1 0 := hlimit 1 fun earlier hearlier quiz hquiz => by
    have hall := hlimits earlier ((List.mem_inits _ _).2 hearlier)
    simpa [hquiz] using hall
  omega

end Console

end QuizAttempts
