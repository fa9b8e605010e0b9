/-
**What a transaction sees of an enrollment, and what it may write.**

Whoever holds the lock of an enrollment asks three things of its attempts: which one is open, what
the highest number is, and what stands under an identifier.  As long as nothing is staged, the
answers are about the committed rows of that enrollment and about nothing else, so they are the
same in any two stores that agree on those rows, whatever else the stores hold.

Under the lock two things are staged.  The open attempt may be closed; then one more attempt may
be opened, with the number after the highest.  Both leave an orderly table behind, so neither the
insert nor the commit is refused.

Main definitions:

* `Service.Alike` — services that agree on the attempts of an enrollment, and on the clock;
* `Service.running?`, `Service.latest` — the open attempt of a pair, and its highest number;
* `Service.write`, `Service.allocate` — a service with rows laid over its attempts, and with one
  more identifier given out;
* `Transaction.Ready` — what is staged before the next attempt is opened.

Main results:

* `Service.Alike.visible` — **only the rows of the enrollment are seen**;
* `Transaction.get?_visible_eq_merged` — staged rows are seen in the place of committed ones, as
  long as both are asked for or neither;
* `Transaction.attempt?_eq_merged`, `Service.running?_eq_some`, `Service.le_latest` — what the
  three questions are answered with;
* `Transaction.Ready.commit`, `Transaction.Ready.insert`, `Transaction.Ready.commit_next` —
  **closing an attempt and opening the next are never refused**.
-/
import QuizAttempts.Proofs.Orderly

set_option autoImplicit false

namespace QuizAttempts

/-! ### Alike -/

/-- **Services that agree on the attempts of an enrollment, and on the clock.** -/
structure Service.Alike (e : Int) (s t : Service) : Prop where
  clock : t.clock = s.clock
  rows : ∀ (id : Int) (a : Attempt), a.enrollmentId = e →
    (t.store.attempts.get? id = some a ↔ s.store.attempts.get? id = some a)

namespace Service

variable {e : Int} {s t : Service}

theorem Alike.refl (e : Int) (s : Service) : s.Alike e s := ⟨rfl, fun _ _ _ => Iff.rfl⟩

theorem Alike.trans {u : Service} (h : s.Alike e t) (h' : t.Alike e u) : s.Alike e u :=
  ⟨h'.clock.trans h.clock, fun id a ha => (h'.rows id a ha).trans (h.rows id a ha)⟩

/-- **Only the rows of the enrollment are seen**, when they are what is asked for. -/
theorem Alike.visible (h : s.Alike e t) (tx : Transaction) {p : Attempt → Bool}
    (hp : ∀ a, p a = true → a.enrollmentId = e) : tx.visible t.store p = tx.visible s.store p := by
  unfold Transaction.visible
  rw [Table.filter_congr fun id a ha => h.rows id a (hp a ha)]

theorem Alike.openAttempt? (h : s.Alike e t) (tx : Transaction) (q : Int) :
    tx.openAttempt? t.store e q = tx.openAttempt? s.store e q := by
  unfold Transaction.openAttempt?
  rw [h.visible tx fun a ha => (Attempt.isOf_iff.1 (Bool.and_eq_true_iff.1 ha).1).1]

theorem Alike.latestNumber (h : s.Alike e t) (tx : Transaction) (q : Int) :
    tx.latestNumber t.store e q = tx.latestNumber s.store e q := by
  unfold Transaction.latestNumber
  rw [h.visible tx fun a ha => (Attempt.isOf_iff.1 ha).1]

/-- An attempt that is looked up by its identifier and has to be one of the enrollment. -/
theorem Alike.filter_get? (h : s.Alike e t) (id q : Int) :
    (t.store.attempts.get? id).filter (·.isOf e q) =
      (s.store.attempts.get? id).filter (·.isOf e q) := by
  refine Option.ext fun a => ?_
  rw [Option.filter_eq_some_iff, Option.filter_eq_some_iff]
  exact and_congr_left fun ha => h.rows id a (Attempt.isOf_iff.1 ha).1

end Service

/-! ### What is seen with nothing staged -/

namespace Transaction

variable {tx : Transaction} {store : Store}

theorem visible_of_unstaged (h : tx.staged = Table.empty) (p : Attempt → Bool) :
    tx.visible store p = store.attempts.filter p := by
  rw [visible, h]
  rfl

/-- What a transaction sees under a key: the staged row if it has the property, and else the
committed one if that has it. -/
theorem get?_visible (tx : Transaction) (store : Store) (p : Attempt → Bool) (key : Int) :
    (tx.visible store p).get? key =
      ((tx.staged.get? key).filter p).or ((store.attempts.get? key).filter p) := by
  rw [visible, Table.get?_overlay, Table.get?_filter, Table.get?_filter]

/-- **What a transaction sees is what it would leave behind**, where staging a row has not changed
whether it has the property. -/
theorem get?_visible_eq_merged {p : Attempt → Bool} {key : Int}
    (h : ∀ {a b : Attempt}, store.attempts.get? key = some a →
      tx.staged.get? key = some b → p a = p b) :
    (tx.visible store p).get? key = ((tx.merged store).filter p).get? key := by
  rw [get?_visible, Table.get?_filter, get?_merged]
  cases hb : tx.staged.get? key with
  | none => rfl
  | some b =>
      cases ha : store.attempts.get? key with
      | none => simp
      | some a => cases hp : p b <;> simp [Option.filter, h ha hb, hp]

/-- Among rows under their own identifiers only one has an identifier. -/
theorem head?_filter_id {rows : Table Attempt}
    (hown : ∀ {key : Int} {a : Attempt}, rows.get? key = some a → a.id = key) (id : Int) :
    (rows.filter (·.id == id)).values.head? = rows.get? id := by
  have hone : rows.filter (·.id == id) =
      ((rows.get? id).map fun a => Table.empty.insert id a).getD Table.empty := by
    refine Table.ext fun key => Option.ext fun a => ?_
    rw [Table.get?_filter, Option.filter_eq_some_iff, beq_iff_eq]
    cases hrow : rows.get? id with
    | none =>
        simp only [Option.map_none, Option.getD_none, Table.get?_empty, reduceCtorEq, iff_false,
          not_and]
        intro ha hid
        rw [← hid, hown ha, ha] at hrow
        simp at hrow
    | some b =>
        simp only [Option.map_some, Option.getD_some, Table.get?_insert, Table.get?_empty]
        constructor
        · rintro ⟨ha, hid⟩
          have hkey : key = id := by rw [← hid, hown ha]
          rw [if_pos hkey]
          rw [hkey, hrow] at ha
          exact ha
        · intro ha
          split at ha
          · rename_i hkey
            obtain rfl := Option.some.inj ha
            exact ⟨hkey ▸ hrow, hown hrow⟩
          · simp at ha
  rw [hone]
  cases rows.get? id <;> rfl

/-- What a transaction would leave behind stands under its own identifiers. -/
theorem own_merged (hs : Orderly store.attempts)
    (ht : ∀ {key : Int} {a : Attempt}, tx.staged.get? key = some a → a.id = key) {key : Int}
    {a : Attempt} (ha : (tx.merged store).get? key = some a) : a.id = key := by
  rw [get?_merged, Option.or_eq_some_iff] at ha
  exact ha.elim ht fun h => hs.own h.2

/-- **Under an identifier a transaction sees what it would leave behind there.** -/
theorem attempt?_eq_merged (hs : Orderly store.attempts)
    (ht : ∀ {key : Int} {a : Attempt}, tx.staged.get? key = some a → a.id = key) (id : Int) :
    tx.attempt? store id = (tx.merged store).get? id := by
  have hvisible : tx.visible store (·.id == id) = (tx.merged store).filter (·.id == id) := by
    refine Table.ext fun key => get?_visible_eq_merged fun {a b} ha hb => ?_
    rw [hs.own ha, ht hb]
  rw [attempt?, hvisible, head?_filter_id (own_merged hs ht)]

/-- With nothing staged, the open attempt that is seen of a pair is a committed one. -/
theorem openAttempt?_fresh_eq_some
    (hown : ∀ {key : Int} {a : Attempt}, store.attempts.get? key = some a → a.id = key) {e q : Int}
    {a : Attempt} (h : fresh.openAttempt? store e q = some a) :
    store.attempts.get? a.id = some a ∧ a.isOf e q = true ∧ a.isOpen = true := by
  obtain ⟨key, hkey⟩ := Table.mem_values.1 (List.mem_of_head? h)
  rw [visible_fresh, Table.get?_filter, Option.filter_eq_some_iff, Bool.and_eq_true_iff] at hkey
  obtain ⟨hrow, hpair, hopen⟩ := hkey
  rw [hown hrow]
  exact ⟨hrow, hpair, hopen⟩

/-- With nothing staged, the attempt that is seen under an identifier is the committed one. -/
theorem attempt?_of_unstaged (hs : Orderly store.attempts) (h : tx.staged = Table.empty)
    (id : Int) : tx.attempt? store id = store.attempts.get? id := by
  have hown : ∀ {key : Int} {a : Attempt}, tx.staged.get? key = some a → a.id = key := by
    intro key a ha
    rw [h] at ha
    simp at ha
  rw [attempt?_eq_merged hs hown, merged_of_unstaged h]

end Transaction

namespace Service

variable {s : Service} {e q : Int}

/-- **The open attempt of an enrollment at a quiz.** -/
def running? (s : Service) (e q : Int) : Option Attempt :=
  Transaction.fresh.openAttempt? s.store e q

/-- **The highest number of an attempt of an enrollment at a quiz.** -/
def latest (s : Service) (e q : Int) : Int := Transaction.fresh.latestNumber s.store e q

theorem openAttempt?_of_unstaged {tx : Transaction} (h : tx.staged = Table.empty) :
    tx.openAttempt? s.store e q = s.running? e q := by
  unfold running? Transaction.openAttempt?
  rw [Transaction.visible_of_unstaged h, Transaction.visible_of_unstaged rfl]

theorem running?_eq_some (hs : Orderly s.store.attempts) {a : Attempt}
    (h : s.running? e q = some a) :
    s.store.attempts.get? a.id = some a ∧ a.isOf e q = true ∧ a.isOpen = true :=
  Transaction.openAttempt?_fresh_eq_some hs.own h

theorem Alike.running? {t : Service} (h : s.Alike e t) (q : Int) :
    t.running? e q = s.running? e q := h.openAttempt? _ q

theorem Alike.latest {t : Service} (h : s.Alike e t) (q : Int) : t.latest e q = s.latest e q :=
  h.latestNumber _ q

theorem running?_eq_none (h : s.running? e q = none) {id : Int} {a : Attempt}
    (ha : s.store.attempts.get? id = some a) (hpair : a.isOf e q = true) : a.isOpen = false := by
  rw [running?, Transaction.openAttempt?, List.head?_eq_none_iff] at h
  rw [Bool.eq_false_iff]
  intro hopen
  have hmem : a ∈ (Transaction.fresh.visible s.store fun a => a.isOf e q && a.isOpen).values := by
    rw [Table.mem_values]
    refine ⟨id, ?_⟩
    rw [Transaction.visible_fresh, Table.get?_filter, Option.filter_eq_some_iff]
    exact ⟨ha, by rw [hpair, hopen]; rfl⟩
  rw [h] at hmem
  simp at hmem

/-- The numbers that a transaction sees of a pair. -/
theorem mem_numbers {p : Attempt → Bool} {rows : Table Attempt} {n : Int} :
    n ∈ ((rows.filter p).values.map (·.number)) ↔
      ∃ (id : Int) (a : Attempt), rows.get? id = some a ∧ p a = true ∧ a.number = n := by
  simp only [List.mem_map, Table.mem_values, Table.get?_filter, Option.filter_eq_some_iff]
  constructor
  · rintro ⟨a, ⟨id, ha, hp⟩, hn⟩
    exact ⟨id, a, ha, hp, hn⟩
  · rintro ⟨id, a, ha, hp, hn⟩
    exact ⟨a, ⟨id, ha, hp⟩, hn⟩

/-- No number of the pair is higher. -/
theorem le_latest {id : Int} {a : Attempt} (ha : s.store.attempts.get? id = some a)
    (hpair : a.isOf e q = true) : a.number ≤ s.latest e q := by
  have hmem : a.number ∈ ((s.store.attempts.filter (·.isOf e q)).values.map (·.number)) :=
    mem_numbers.2 ⟨id, a, ha, hpair, rfl⟩
  rw [latest, Transaction.latestNumber, Transaction.visible_fresh]
  cases hmax : ((s.store.attempts.filter (·.isOf e q)).values.map (·.number)).max? with
  | none =>
      rw [List.max?_eq_none_iff] at hmax
      rw [hmax] at hmem
      simp at hmem
  | some m => exact (List.max?_eq_some_iff.1 hmax).2 _ hmem

/-- The highest number is that of an attempt, or zero when there is none. -/
theorem latest_eq (s : Service) (e q : Int) :
    (∃ (id : Int) (a : Attempt), s.store.attempts.get? id = some a ∧ a.isOf e q = true ∧
      a.number = s.latest e q) ∨
    s.latest e q = 0 ∧ ∀ (id : Int) (a : Attempt), s.store.attempts.get? id = some a →
      a.isOf e q = false := by
  rw [latest, Transaction.latestNumber, Transaction.visible_fresh]
  cases hmax : ((s.store.attempts.filter (·.isOf e q)).values.map (·.number)).max? with
  | none =>
      refine Or.inr ⟨rfl, fun id a ha => ?_⟩
      rw [List.max?_eq_none_iff] at hmax
      rw [Bool.eq_false_iff]
      intro hpair
      have hmem : a.number ∈ ((s.store.attempts.filter (·.isOf e q)).values.map (·.number)) :=
        mem_numbers.2 ⟨id, a, ha, hpair, rfl⟩
      rw [hmax] at hmem
      simp at hmem
  | some m => exact Or.inl (mem_numbers.1 (List.max?_eq_some_iff.1 hmax).1)

end Service

/-! ### What is written -/

namespace Transaction

variable {tx : Transaction} {store : Store} {e q : Int}

/-- **The final state of an open attempt is staged.** -/
theorem save?_of_open (hs : Orderly store.attempts) (htx : tx.staged = Table.empty) {a b : Attempt}
    (ha : store.attempts.get? a.id = some a) (hopen : a.isOpen = true) (hb : b.Closes a) :
    tx.save? store b = some (tx.stage b) := by
  rw [save?, attempt?_of_unstaged hs htx, hb.id, ha]
  simp [hopen]

/-- **What may be staged under the lock of an enrollment before its next attempt is opened**: the
closing of attempts, after which none of the pair is open. -/
structure Ready (tx : Transaction) (store : Store) (e q : Int) : Prop where
  within : tx.Within store
  orderly : Orderly (tx.merged store)
  continues : ∀ {id : Int} {b : Attempt}, tx.staged.get? id = some b →
    ∃ a, store.attempts.get? id = some a ∧ a.isOf e q = true ∧ b.Continues a
  closed : ∀ {id : Int} {a : Attempt}, (tx.merged store).get? id = some a →
    a.isOf e q = true → a.isOpen = false

/-- Nothing is staged, and nothing is open. -/
theorem Ready.of_unstaged (hs : store.Sound) (htx : tx.staged = Table.empty)
    (hclosed : ∀ {id : Int} {a : Attempt}, store.attempts.get? id = some a →
      a.isOf e q = true → a.isOpen = false) : tx.Ready store e q := by
  have hempty : ∀ {id : Int} {b : Attempt}, tx.staged.get? id ≠ some b := by
    intro id b hb
    rw [htx] at hb
    simp at hb
  refine ⟨⟨fun hb => absurd hb hempty, fun hb => absurd hb hempty⟩, ?_,
    fun hb => absurd hb hempty, ?_⟩
  · rw [merged_of_unstaged htx]
    exact hs.orderly
  · rw [merged_of_unstaged htx]
    exact hclosed

/-- The closing of the open attempt is staged. -/
theorem Ready.of_closed (hs : store.Sound) (htx : tx.staged = Table.empty) {a b : Attempt}
    (ha : store.attempts.get? a.id = some a) (hpair : a.isOf e q = true) (hopen : a.isOpen = true)
    (hb : b.Closes a) : (tx.stage b).Ready store e q := by
  have hwithin : tx.Within store := by
    constructor <;> intro id c hc <;> rw [htx] at hc <;> simp at hc
  have hmerged : (tx.stage b).merged store = store.attempts.insert b.id b := by
    rw [merged_stage, merged_of_unstaged htx]
  refine ⟨hwithin.stage ?_, ?_, fun {id c} hc => ?_, fun {id c} hc hcpair => ?_⟩
  · rw [hb.id]
    exact hs.allocated ha
  · rw [hmerged]
    exact hs.orderly.insert_closed ha hb
  · rw [staged_stage, htx, Table.get?_insert] at hc
    split at hc
    · rename_i hid
      rw [← Option.some.inj hc, hid, hb.id]
      exact ⟨a, ha, hpair, hb.continues⟩
    · simp at hc
  · rw [hmerged, Table.get?_insert] at hc
    split at hc
    · rw [← Option.some.inj hc]
      exact hb.closed
    · -- another open row of the pair would have stood beside `a`
      rename_i hid
      rw [Bool.eq_false_iff]
      intro hcopen
      obtain ⟨he, hq⟩ := Attempt.isOf_iff.1 hpair
      have hcpair' : c.isOf a.enrollmentId a.quizId = true := by rwa [he, hq]
      exact hid (by rw [hb.id, hs.orderly.openRow ha hc hcpair' hopen hcopen])

/-- **Closing an attempt is committed.** -/
theorem Ready.commit (h : tx.Ready store e q) (hs : store.Sound) :
    tx.commit store = .ok { store with attempts := store.attempts.overlay tx.staged } :=
  commit_of_orderly hs.orderly h.within.own h.orderly

/-- Giving out an identifier hinders nothing. -/
theorem Ready.allocate (h : tx.Ready store e q) : tx.Ready store.allocate e q :=
  ⟨h.within.mono (Nat.le_succ _), h.orderly, h.continues, h.closed⟩

/-- What is staged does not hide the numbers of the pair. -/
theorem Ready.visible (h : tx.Ready store e q) :
    tx.visible store (·.isOf e q) = (tx.merged store).filter (·.isOf e q) := by
  refine Table.ext fun id => ?_
  rw [Transaction.visible, Table.get?_overlay, Table.get?_filter, Table.get?_filter,
    Table.get?_filter, get?_merged]
  cases hb : tx.staged.get? id with
  | none => simp
  | some b =>
      obtain ⟨a, -, hpair, hcont⟩ := h.continues hb
      have hbpair : b.isOf e q = true := by rw [hcont.isOf, hpair]
      simp [Option.filter, hbpair]

/-- The rows of the pair, in sight and committed, have the same numbers. -/
theorem Ready.mem_numbers (h : tx.Ready store e q) (n : Int) :
    n ∈ (((tx.merged store).filter (·.isOf e q)).values.map (·.number)) ↔
      n ∈ ((store.attempts.filter (·.isOf e q)).values.map (·.number)) := by
  rw [Service.mem_numbers, Service.mem_numbers]
  constructor
  · rintro ⟨id, b, hb, hpair, hn⟩
    rw [get?_merged, Option.or_eq_some_iff] at hb
    rcases hb with hb | ⟨-, hb⟩
    · obtain ⟨a, ha, hpair', hcont⟩ := h.continues hb
      exact ⟨id, a, ha, hpair', by rw [← hcont.number, hn]⟩
    · exact ⟨id, b, hb, hpair, hn⟩
  · rintro ⟨id, a, ha, hpair, hn⟩
    cases hb : tx.staged.get? id with
    | none => exact ⟨id, a, by rw [get?_merged, hb, ha]; rfl, hpair, hn⟩
    | some b =>
        obtain ⟨a', ha', hpair', hcont⟩ := h.continues hb
        obtain rfl : a' = a := Option.some.inj (ha'.symm.trans ha)
        exact ⟨id, b, by rw [get?_merged, hb]; rfl, by rw [hcont.isOf, hpair],
          by rw [hcont.number, hn]⟩

/-- What is staged does not hide the highest number. -/
theorem Ready.latestNumber {s : Service} (h : tx.Ready s.store e q) :
    tx.latestNumber s.store e q = s.latest e q := by
  rw [Transaction.latestNumber, h.visible, Service.latest, Transaction.latestNumber, visible_fresh]
  have hmax : ∀ m,
      ((((tx.merged s.store).filter (·.isOf e q)).values.map (·.number)).max? = some m ↔
        ((s.store.attempts.filter (·.isOf e q)).values.map (·.number)).max? = some m) := by
    intro m
    simp only [List.max?_eq_some_iff, h.mem_numbers]
  rw [Option.ext hmax]

/-- No number of the pair is higher, whatever is staged. -/
theorem Ready.le_latest {s : Service} (h : tx.Ready s.store e q) {id : Int} {a : Attempt}
    (ha : (tx.merged s.store).get? id = some a) (hpair : a.isOf e q = true) :
    a.number ≤ s.latest e q := by
  have hmem : a.number ∈ ((s.store.attempts.filter (·.isOf e q)).values.map (·.number)) :=
    (h.mem_numbers _).1 (Service.mem_numbers.2 ⟨id, a, ha, hpair, rfl⟩)
  obtain ⟨id', a', ha', hpair', hn⟩ := Service.mem_numbers.1 hmem
  rw [← hn]
  exact Service.le_latest ha' hpair'

/-- **The next attempt is staged**: its number is unused, and nothing of the pair is open. -/
theorem Ready.insert {s : Service} (h : tx.Ready s.store e q) {new : NewAttempt}
    (he : new.enrollmentId = e) (hq : new.quizId = q) (hn : s.latest e q < new.number) :
    tx.insert s.store new = (s.store.allocate,
      .ok (tx.stage (new.toAttempt (s.store.allocated + 1)),
        new.toAttempt (s.store.allocated + 1))) := by
  have hroom : ∀ a ∈ (tx.visible s.store (·.isOf e q)).values,
      (new.toAttempt (s.store.allocated + 1)).collides a = false := by
    intro a hmem
    obtain ⟨id, hid⟩ := Table.mem_values.1 hmem
    rw [h.visible, Table.get?_filter, Option.filter_eq_some_iff] at hid
    obtain ⟨ha, hpair⟩ := hid
    have hle := h.le_latest ha hpair
    have hclosed := h.closed ha hpair
    rw [Bool.eq_false_iff]
    intro hc
    obtain ⟨-, -, hnumber | ⟨-, hopen⟩⟩ := Attempt.collides_iff.1 hc
    · have hsame : new.number = a.number := hnumber
      omega
    · rw [hopen] at hclosed
      exact absurd hclosed (by decide)
  simp only [Transaction.insert, he, hq]
  rw [if_neg]
  · rfl
  · simp only [List.any_eq_true, not_exists, not_and]
    intro a ha
    rw [show (new.toAttempt s.store.allocate.allocated).collides a = false from hroom a ha]
    decide

/-- **The next attempt is committed**, together with what was staged before. -/
theorem Ready.commit_next {s : Service} (h : tx.Ready s.store e q) (hs : s.store.Sound)
    {a : Attempt} (hpair : a.isOf e q = true) (hn : s.latest e q < a.number) :
    (tx.stage a).commit s.store =
      .ok { s.store with attempts := s.store.attempts.overlay (tx.stage a).staged } := by
  have hown : ∀ {id : Int} {b : Attempt}, (tx.stage a).staged.get? id = some b → b.id = id := by
    intro id b hb
    rw [staged_stage, Table.get?_insert] at hb
    split at hb
    · rename_i hid
      rw [← Option.some.inj hb, hid]
    · exact h.within.own hb
  refine commit_of_orderly hs.orderly hown ?_
  rw [merged_stage]
  refine h.orderly.insert_new fun {i b} hb _ hbpair => ?_
  obtain ⟨he, hq⟩ := Attempt.isOf_iff.1 hpair
  rw [he, hq] at hbpair
  have hle := h.le_latest hb hbpair
  exact ⟨by omega, fun _ => h.closed hb hbpair⟩

end Transaction

/-! ### Services with more in them -/

namespace Service

/-- **The service with rows laid over its attempts.** -/
def write (s : Service) (rows : Table Attempt) : Service :=
  { s with store := { s.store with attempts := s.store.attempts.overlay rows } }

/-- The service with one more identifier given out. -/
def allocate (s : Service) : Service := { s with store := s.store.allocate }

theorem get?_write (s : Service) (rows : Table Attempt) (id : Int) :
    (s.write rows).store.attempts.get? id = (rows.get? id).or (s.store.attempts.get? id) :=
  Table.get?_overlay _ _ _

/-- **Rows that do not touch an enrollment are not seen there.** -/
theorem Alike.write {s : Service} {e : Int} {rows : Table Attempt}
    (hnew : ∀ {id : Int} {b : Attempt}, rows.get? id = some b → b.enrollmentId ≠ e)
    (hold : ∀ {id : Int} {a b : Attempt}, rows.get? id = some b →
      s.store.attempts.get? id = some a → a.enrollmentId ≠ e) :
    s.Alike e (s.write rows) := by
  refine ⟨rfl, fun id a ha => ?_⟩
  rw [get?_write, Option.or_eq_some_iff]
  constructor
  · rintro (hb | ⟨-, hrow⟩)
    · exact absurd ha (hnew hb)
    · exact hrow
  · intro hrow
    cases hb : rows.get? id with
    | none => exact Or.inr ⟨rfl, hrow⟩
    | some b => exact absurd ha (hold hb hrow)

theorem Alike.allocate (e : Int) (s : Service) : s.Alike e s.allocate :=
  ⟨rfl, fun _ _ _ => Iff.rfl⟩

end Service

end QuizAttempts
