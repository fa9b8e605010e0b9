/-
**What a transaction sees of its own writes.**

A transaction is to see the committed rows with its staged rows laid over them, as they will be once
it is committed.  That is what it sees under an identifier, and in the highest number of a pair: a
staged row stands in the place of the committed one that it replaces, so both are asked for or
neither.  Whether a row is open is not a matter of its place.  When a transaction closes the open
attempt of a pair, the committed row is open still, and is selected all the same, because the staged
row that would have hidden it is not.  The attempt stays in sight like an afterimage, until the
transaction is over.

Other transactions may commit meanwhile, as long as they keep rows in their places too.

Main definitions:

* `Service.Reached` — the services that there are, whatever was done before;
* `Transaction.overlaid` — **the store that a transaction is to see**;
* `Transaction.afterimage?` — the open attempt of a pair that a transaction has closed.

Main results:

* `Console.Tidy.visible_pair`, `Console.Tidy.visible_open` — what is seen of a pair;
* `Console.own_writes_seen` — **own writes are seen, but for the afterimage**.
-/
import QuizAttempts.Proofs.Careful

set_option autoImplicit false

namespace QuizAttempts

/-- **The service is reached from a store in which there is nothing**, by requests, edits and
transactions of any kind. -/
def Service.Reached (service : Service) : Prop :=
  ∃ (start : Service) (commands : List Command), start.store = Store.empty ∧
    ((Console.ofService start).after commands).service = service

theorem Service.Reached.sound {service : Service} (h : service.Reached) : service.store.Sound := by
  obtain ⟨start, commands, hstart, rfl⟩ := h
  have hempty : (Console.ofService start).Sound :=
    Console.Sound.ofService (hstart ▸ Store.Sound.empty)
  exact (hempty.after commands).1.store

/-! ### The first row -/

/-- The first row after one more write: the one that was first before, if it stands before the new
one. -/
theorem Table.head?_values_insert {rows : Table Attempt}
    (hown : ∀ {key : Int} {b : Attempt}, rows.get? key = some b → b.id = key) (a : Attempt) :
    (rows.insert a.id a).values.head? =
      (rows.values.head?.filter fun b => decide (b.id < a.id)).or (some a) := by
  obtain ⟨list, hascending⟩ := rows
  cases list with
  | nil => rfl
  | cons row list =>
      obtain ⟨key, b⟩ := row
      have hkey : b.id = key := hown (Table.get?_eq_some_iff.2 (List.mem_cons_self ..))
      have hfirst : (Table.values ⟨(key, b) :: list, hascending⟩).head? = some b := rfl
      show ((Table.insertRow a.id a ((key, b) :: list)).map (·.2)).head? = _
      rw [hfirst, Table.insertRow]
      rcases Int.lt_trichotomy key a.id with hlt | heq | hgt
      · rw [if_neg (by omega), if_neg (by omega)]
        simp [Option.filter, hkey, hlt]
      · rw [if_neg (by omega), if_pos heq.symm]
        simp [Option.filter, hkey, heq]
      · rw [if_pos hgt]
        simp [Option.filter, hkey, Int.not_lt.2 (Int.le_of_lt hgt)]

namespace Transaction

/-! ### What is to be seen -/

/-- **The store that a transaction is to see**: the committed attempts, overlaid identifier by
identifier with the staged rows. -/
def overlaid (tx : Transaction) (store : Store) : Store :=
  { store with attempts := tx.merged store }

/-- **The afterimage of a pair**: its committed open attempt, if the transaction has staged a row
for it. -/
def afterimage? (tx : Transaction) (store : Store) (enrollment quiz : Int) : Option Attempt :=
  (fresh.openAttempt? store enrollment quiz).filter fun a => (tx.staged.get? a.id).isSome

end Transaction

/-! ### What is seen -/

namespace Console.Tidy

variable {console : Console} {name : String} {tx : Transaction} {e q : Int}

/-- The attempt of a pair that is open among the committed ones is its only open one. -/
theorem running?_eq (h : console.Tidy) {id : Int} {a : Attempt}
    (ha : console.service.store.attempts.get? id = some a) (hpair : a.isOf e q = true)
    (hopen : a.isOpen = true) : console.service.running? e q = some a := by
  cases hrunning : console.service.running? e q with
  | none =>
      have hclosed := Service.running?_eq_none hrunning ha hpair
      rw [hopen] at hclosed
      exact absurd hclosed (by decide)
  | some b =>
      obtain ⟨hb, hbpair, hbopen⟩ := Service.running?_eq_some h.sound.store.orderly hrunning
      obtain ⟨he, hq⟩ := Attempt.isOf_iff.1 hpair
      have hid : id = b.id :=
        h.sound.store.orderly.openRow ha hb (by rwa [he, hq]) hopen hbopen
      rw [hid, hb] at ha
      exact ha

/-- **The afterimage** is open among the committed attempts, and closed among the staged ones. -/
theorem of_afterimage? (h : console.Tidy) (htx : console.tx? name = some tx) {a : Attempt}
    (ha : tx.afterimage? console.service.store e q = some a) :
    console.service.store.attempts.get? a.id = some a ∧ a.isOf e q = true ∧ a.isOpen = true ∧
      ∃ b, tx.staged.get? a.id = some b ∧ b.isOpen = false := by
  obtain ⟨hrunning, hstaged⟩ := Option.filter_eq_some_iff.1 ha
  obtain ⟨hrow, hpair, hopen⟩ := Service.running?_eq_some h.sound.store.orderly hrunning
  obtain ⟨b, hb⟩ := Option.isSome_iff_exists.1 hstaged
  exact ⟨hrow, hpair, hopen, b, hb, (h.place htx hb hrow).2⟩

/-- **What is seen of a pair** is what is to be seen: rows keep their places. -/
theorem visible_pair (h : console.Tidy) (htx : console.tx? name = some tx) (e q : Int) :
    tx.visible console.service.store (·.isOf e q) =
      (tx.merged console.service.store).filter (·.isOf e q) := by
  refine Table.ext fun id => Transaction.get?_visible_eq_merged ?_
  intro a b ha hb
  obtain ⟨-, he, hq, -⟩ := Attempt.samePlace_iff.1 (h.place htx hb ha).1
  simp only [Attempt.isOf, he, hq]

/-- Of the open attempts of a pair, those are seen that are to be seen, and the afterimage. -/
theorem get?_visible_open (h : console.Tidy) (htx : console.tx? name = some tx) {id : Int}
    (hid : ∀ a, tx.afterimage? console.service.store e q = some a → id ≠ a.id) :
    (tx.visible console.service.store fun a => a.isOf e q && a.isOpen).get? id =
      ((tx.merged console.service.store).filter fun a => a.isOf e q && a.isOpen).get? id := by
  refine Transaction.get?_visible_eq_merged ?_
  intro a b ha hb
  -- neither is open: the staged row never is, and the committed one would be the afterimage
  rw [(h.place htx hb ha).2, Bool.and_false, Bool.eq_false_iff]
  intro hboth
  obtain ⟨hpair, hopen⟩ := Bool.and_eq_true_iff.1 hboth
  have hown : a.id = id := h.sound.store.orderly.own ha
  refine hid a (Option.filter_eq_some_iff.2 ⟨h.running?_eq ha hpair hopen, ?_⟩) hown.symm
  rw [hown, hb]
  rfl

/-- **What is seen of the open attempts of a pair**: those that are to be seen, and the
afterimage. -/
theorem visible_open (h : console.Tidy) (htx : console.tx? name = some tx) (e q : Int) :
    (tx.visible console.service.store fun a => a.isOf e q && a.isOpen) =
      match tx.afterimage? console.service.store e q with
      | none => (tx.merged console.service.store).filter fun a => a.isOf e q && a.isOpen
      | some a => ((tx.merged console.service.store).filter
          fun a => a.isOf e q && a.isOpen).insert a.id a := by
  cases himage : tx.afterimage? console.service.store e q with
  | none =>
      refine Table.ext fun id => h.get?_visible_open htx ?_
      intro a ha
      simp [himage] at ha
  | some a =>
      obtain ⟨hrow, hpair, hopen, b, hb, hclosed⟩ := h.of_afterimage? htx himage
      refine Table.ext fun id => ?_
      rw [Table.get?_insert]
      split
      · rename_i hid
        rw [hid, Transaction.get?_visible, hb, hrow]
        simp [Option.filter, hpair, hopen, hclosed]
      · rename_i hid
        refine h.get?_visible_open htx ?_
        intro a' ha'
        rw [← Option.some.inj (himage.symm.trans ha')]
        exact hid

/-- **The open attempt that is seen** is the one that is to be seen if that stands before the
afterimage, and else the afterimage. -/
theorem openAttempt?_eq (h : console.Tidy) (htx : console.tx? name = some tx) (e q : Int) :
    tx.openAttempt? console.service.store e q =
      match tx.afterimage? console.service.store e q with
      | none => Transaction.fresh.openAttempt? (tx.overlaid console.service.store) e q
      | some a => ((Transaction.fresh.openAttempt? (tx.overlaid console.service.store) e q).filter
          fun b => decide (b.id < a.id)).or (some a) := by
  rw [Transaction.openAttempt?, h.visible_open htx]
  cases tx.afterimage? console.service.store e q with
  | none => rfl
  | some a =>
      refine Table.head?_values_insert (fun {key b} hb => ?_) a
      rw [Table.get?_filter, Option.filter_eq_some_iff] at hb
      exact Transaction.own_merged h.sound.store.orderly (h.sound.tx? htx).own hb.1

/-- **The open attempt that is to be seen is seen** exactly if it stands before the afterimage, or
there is none. -/
theorem openAttempt?_eq_iff (h : console.Tidy) (htx : console.tx? name = some tx) (e q : Int) :
    tx.openAttempt? console.service.store e q =
        Transaction.fresh.openAttempt? (tx.overlaid console.service.store) e q ↔
      ∀ a, tx.afterimage? console.service.store e q = some a →
        ∃ b, Transaction.fresh.openAttempt? (tx.overlaid console.service.store) e q = some b ∧
          b.id < a.id := by
  rw [h.openAttempt?_eq htx]
  cases himage : tx.afterimage? console.service.store e q with
  | none => simp
  | some a =>
      obtain ⟨hrow, -, hopen, b, hb, hclosed⟩ := h.of_afterimage? htx himage
      cases hfirst : Transaction.fresh.openAttempt? (tx.overlaid console.service.store) e q with
      | none => simp
      | some c =>
          obtain ⟨hc, -, hcopen⟩ := Transaction.openAttempt?_fresh_eq_some
            (Transaction.own_merged h.sound.store.orderly (h.sound.tx? htx).own) hfirst
          have hne : a ≠ c := by
            -- in the place of the afterimage the closed row is to be seen
            rintro rfl
            rw [Transaction.overlaid, Transaction.get?_merged, hb, Option.some_or] at hc
            rw [← Option.some.inj hc, hclosed] at hcopen
            exact absurd hcopen (by decide)
          by_cases hlt : c.id < a.id <;> simp [Option.filter, hlt, hne]

/-- The highest number of a pair is the one that is to be seen. -/
theorem latestNumber_eq (h : console.Tidy) (htx : console.tx? name = some tx) (e q : Int) :
    tx.latestNumber console.service.store e q =
      Transaction.fresh.latestNumber (tx.overlaid console.service.store) e q := by
  rw [Transaction.latestNumber, h.visible_pair htx]
  rfl

/-- Under an identifier is seen what is to be seen. -/
theorem attempt?_eq (h : console.Tidy) (htx : console.tx? name = some tx) (id : Int) :
    tx.attempt? console.service.store id =
      Transaction.fresh.attempt? (tx.overlaid console.service.store) id := by
  have hwithin := h.sound.tx? htx
  have hmerged : Transaction.fresh.attempt? (tx.overlaid console.service.store) id =
      (tx.merged console.service.store).get? id :=
    Transaction.head?_filter_id (Transaction.own_merged h.sound.store.orderly hwithin.own) id
  rw [Transaction.attempt?_eq_merged h.sound.store.orderly hwithin.own, hmerged]

end Console.Tidy

namespace Console

/-- **What a transaction sees of its own writes.**  Let a service be reached in any way, and let
edits and transactions be at work on it, in any interleaving, that keep rows in their places.
Whatever a transaction has staged by then, it sees under an identifier what would be committed
there, and the highest number of a pair as it would be.  The open attempt of a pair that it sees is
the one that there would be as well, unless it has closed the committed one: that one is seen still,
as long as none of the open ones that there would be stands before it. -/
theorem own_writes_seen {start : Service} (hreached : start.Reached) {commands : List Command}
    (hplaces : (ofService start).keepsPlaces commands = true) {name : String} {tx : Transaction}
    (htx : ((ofService start).after commands).tx? name = some tx) :
    let store := ((ofService start).after commands).service.store
    (∀ id, tx.attempt? store id = Transaction.fresh.attempt? (tx.overlaid store) id) ∧
    (∀ e q, tx.latestNumber store e q = Transaction.fresh.latestNumber (tx.overlaid store) e q) ∧
    (∀ e q, tx.openAttempt? store e q =
      match tx.afterimage? store e q with
      | none => Transaction.fresh.openAttempt? (tx.overlaid store) e q
      | some a => ((Transaction.fresh.openAttempt? (tx.overlaid store) e q).filter
          fun b => decide (b.id < a.id)).or (some a)) ∧
    (∀ e q, tx.openAttempt? store e q = Transaction.fresh.openAttempt? (tx.overlaid store) e q ↔
      ∀ a, tx.afterimage? store e q = some a →
        ∃ b, Transaction.fresh.openAttempt? (tx.overlaid store) e q = some b ∧ b.id < a.id) := by
  intro store
  have htidy : ((ofService start).after commands).Tidy :=
    (Tidy.ofService hreached.sound).after_keepsPlaces hplaces
  exact ⟨htidy.attempt?_eq htx, htidy.latestNumber_eq htx, htidy.openAttempt?_eq htx,
    htidy.openAttempt?_eq_iff htx⟩

/-- A transaction looks at the one attempt that is open, and closes it. -/
def closedUnseen : List Command :=
  let started : Attempt :=
    NewAttempt.toAttempt ⟨1, 1, 1, Binary64.zero, Service.blank.clock⟩ 1
  [.begin "a", .step "a" (.insert ⟨1, 1, 1, Binary64.zero, Service.blank.clock⟩), .step "a" .commit,
    .begin "b", .step "b" (.lockAttempt 1), .step "b" (.save { started with status := .graded })]

/-- Nothing would be open, but the attempt is seen in progress still; under its identifier it is
seen graded. -/
theorem own_writes_seen_closedUnseen :
    let console := (ofService Service.blank).after closedUnseen
    Service.blank.Reached ∧ (ofService Service.blank).keepsPlaces closedUnseen = true ∧
      ∃ tx a b, console.tx? "b" = some tx ∧
        Transaction.fresh.openAttempt? (tx.overlaid console.service.store) 1 1 = none ∧
        tx.openAttempt? console.service.store 1 1 = some a ∧ a.id = 1 ∧ a.status = .inProgress ∧
        tx.attempt? console.service.store 1 = some b ∧ b.status = .graded := by
  intro console
  have hreached : Service.blank.Reached := ⟨Service.blank, [], rfl, rfl⟩
  have hplaces : (ofService Service.blank).keepsPlaces closedUnseen = true := by decide +kernel
  have hseen : (console.tx? "b").any (fun tx =>
      (Transaction.fresh.openAttempt? (tx.overlaid console.service.store) 1 1).isNone &&
        (tx.afterimage? console.service.store 1 1).any
          (fun a => a.id = 1 && a.status = .inProgress) &&
        (Transaction.fresh.attempt? (tx.overlaid console.service.store) 1).any
          (·.status = .graded)) =
      true := by decide +kernel
  simp only [Option.any_eq_true, Bool.and_eq_true, Option.isNone_iff_eq_none, decide_eq_true_eq]
    at hseen
  obtain ⟨tx, htx, ⟨hnone, a, himage, hid, hopen⟩, b, hb, hgraded⟩ := hseen
  obtain ⟨hunder, -, hfirst, -⟩ := own_writes_seen hreached hplaces htx
  refine ⟨hreached, hplaces, tx, a, b, htx, hnone, ?_, hid, hopen, (hunder 1).trans hb, hgraded⟩
  have hstill := hfirst 1 1
  rw [himage, hnone] at hstill
  exact hstill

end Console

end QuizAttempts
