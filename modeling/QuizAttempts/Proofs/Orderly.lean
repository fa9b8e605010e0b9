/-
**Tables of attempts in which nothing collides.**

The attempts of an enrollment at a quiz have different numbers, and at most one of them is open.
Nobody is stopped from staging rows that break this: a transaction need not lock anything, what it
compared its rows with may be out of date by the time it ends, and the final state of an attempt
may be saved with any pair, number and status.  What keeps the committed table orderly is the
comparison at the end alone.  It looks at the staged rows only, and that is enough, because two
rows of which neither was staged were committed before and stood beside one another already.

Main definitions:

* `Attempt.Continues`, `Attempt.Closes`, `Attempt.Keeps` — what may become of a row;
* `Orderly` — every row stands under its own identifier, and no two rows collide;
* `Store.Sound`, `Transaction.Within`, `Session.Sound` — the same for a store and for whoever
  works on it: no identifier is larger than the last one that was given out;
* `Store.Grows` — nothing that was there is gone.

Main results:

* `Transaction.commit_eq_ok_iff` — a transaction is committed exactly when what it leaves behind is
  orderly;
* `Session.Sound.exec` — **whatever a program does, the store stays sound and grows**.
-/
import QuizAttempts.Service

set_option autoImplicit false

namespace QuizAttempts

/-! ### Rows that collide -/

theorem Attempt.isOf_iff {a : Attempt} {e q : Int} :
    a.isOf e q = true ↔ a.enrollmentId = e ∧ a.quizId = q := by
  simp [isOf]

theorem Attempt.collides_iff {a b : Attempt} :
    a.collides b = true ↔ a.id ≠ b.id ∧ b.isOf a.enrollmentId a.quizId = true ∧
      (a.number = b.number ∨ a.isOpen = true ∧ b.isOpen = true) := by
  simp [collides, and_assoc]

/-- **`b` continues `a`**: the same row of the same pair, with its number and its beginning, and not
opened again. -/
structure Attempt.Continues (b a : Attempt) : Prop where
  id : b.id = a.id
  enrollmentId : b.enrollmentId = a.enrollmentId
  quizId : b.quizId = a.quizId
  number : b.number = a.number
  startedAt : b.startedAt = a.startedAt
  isOpen : b.isOpen = true → a.isOpen = true

theorem Attempt.Continues.refl (a : Attempt) : a.Continues a :=
  ⟨rfl, rfl, rfl, rfl, rfl, fun h => h⟩

theorem Attempt.Continues.isOf {a b : Attempt} (h : b.Continues a) (e q : Int) :
    b.isOf e q = a.isOf e q := by
  simp only [Attempt.isOf, h.enrollmentId, h.quizId]

/-- **`b` closes `a`**: it continues it, and is not open. -/
structure Attempt.Closes (b a : Attempt) : Prop where
  continues : b.Continues a
  closed : b.isOpen = false

theorem Attempt.Closes.id {a b : Attempt} (h : b.Closes a) : b.id = a.id := h.continues.id

theorem Attempt.closes_expired (a : Attempt) (now : Timestamp) : (a.expired now).Closes a :=
  ⟨⟨rfl, rfl, rfl, rfl, rfl, fun h => by simp at h⟩, rfl⟩

theorem Attempt.closes_graded (a : Attempt) (grade : Grade) (now : Timestamp) :
    (a.graded grade now).Closes a :=
  ⟨⟨rfl, rfl, rfl, rfl, rfl, fun h => by simp at h⟩, rfl⟩

/-- **`b` keeps `a`**: it is the very same, unless `a` was open and `b` closes it. -/
def Attempt.Keeps (b a : Attempt) : Prop := b = a ∨ a.isOpen = true ∧ b.Closes a

theorem Attempt.Keeps.refl (a : Attempt) : a.Keeps a := Or.inl rfl

theorem Attempt.Keeps.trans {a b c : Attempt} (h : c.Keeps b) (h' : b.Keeps a) : c.Keeps a := by
  rcases h with rfl | ⟨hopen, hcloses⟩
  · exact h'
  · rcases h' with rfl | ⟨-, hclosed⟩
    · exact Or.inr ⟨hopen, hcloses⟩
    · -- what was closed is not open, and so it is not closed once more
      simp [hclosed.closed] at hopen

theorem Attempt.Keeps.continues {a b : Attempt} (h : b.Keeps a) : b.Continues a := by
  rcases h with rfl | ⟨-, hcloses⟩
  · exact .refl b
  · exact hcloses.continues

/-- What is closed is never written again. -/
theorem Attempt.Keeps.eq_of_closed {a b : Attempt} (h : b.Keeps a) (hclosed : a.isOpen = false) :
    b = a := by
  rcases h with rfl | ⟨hopen, -⟩
  · rfl
  · simp [hopen] at hclosed

/-- **Every row stands under its own identifier, and no two rows collide.** -/
structure Orderly (rows : Table Attempt) : Prop where
  own : ∀ {id : Int} {a : Attempt}, rows.get? id = some a → a.id = id
  /-- A pair gives each number to one row. -/
  number : ∀ {i j : Int} {a b : Attempt}, rows.get? i = some a → rows.get? j = some b →
    b.isOf a.enrollmentId a.quizId = true → a.number = b.number → i = j
  /-- A pair has one open row at most. -/
  openRow : ∀ {i j : Int} {a b : Attempt}, rows.get? i = some a → rows.get? j = some b →
    b.isOf a.enrollmentId a.quizId = true → a.isOpen = true → b.isOpen = true → i = j

namespace Orderly

variable {rows : Table Attempt}

theorem empty : Orderly Table.empty where
  own h := by simp at h
  number h := by simp at h
  openRow h := by simp at h

theorem of_not_collides (hown : ∀ {id : Int} {a : Attempt}, rows.get? id = some a → a.id = id)
    (h : ∀ {i j : Int} {a b : Attempt}, rows.get? i = some a → rows.get? j = some b →
      a.collides b = false) : Orderly rows where
  own := hown
  number {i j a b} ha hb hpair hn := Decidable.byContradiction fun hij => by
    have hid : a.id ≠ b.id := by rwa [hown ha, hown hb]
    have hc : a.collides b = true := Attempt.collides_iff.2 ⟨hid, hpair, Or.inl hn⟩
    simp [h ha hb] at hc
  openRow {i j a b} ha hb hpair ho ho' := Decidable.byContradiction fun hij => by
    have hid : a.id ≠ b.id := by rwa [hown ha, hown hb]
    have hc : a.collides b = true := Attempt.collides_iff.2 ⟨hid, hpair, Or.inr ⟨ho, ho'⟩⟩
    simp [h ha hb] at hc

theorem not_collides (h : Orderly rows) {i j : Int} {a b : Attempt} (ha : rows.get? i = some a)
    (hb : rows.get? j = some b) : a.collides b = false := by
  rw [Bool.eq_false_iff]
  intro hc
  obtain ⟨hid, hpair, hn | ⟨ho, ho'⟩⟩ := Attempt.collides_iff.1 hc
  · exact hid (by rw [h.own ha, h.own hb, h.number ha hb hpair hn])
  · exact hid (by rw [h.own ha, h.own hb, h.openRow ha hb hpair ho ho'])

/-- A row of a table in which `a` was closed as `b` continues a row of the table before. -/
theorem continues_of_insert {a b : Attempt} (ha : rows.get? a.id = some a) (hb : b.Closes a)
    {i : Int} {c : Attempt} (hc : (rows.insert b.id b).get? i = some c) :
    ∃ c', rows.get? i = some c' ∧ c.Continues c' := by
  rw [Table.get?_insert] at hc
  split at hc
  · rename_i hi
    rw [← Option.some.inj hc]
    exact ⟨a, by rw [hi, hb.id, ha], hb.continues⟩
  · exact ⟨c, hc, Attempt.Continues.refl c⟩

/-- **Closing an attempt keeps a table orderly**: the row keeps its place and is not open. -/
theorem insert_closed (h : Orderly rows) {a b : Attempt} (ha : rows.get? a.id = some a)
    (hb : b.Closes a) : Orderly (rows.insert b.id b) := by
  refine ⟨fun hc => ?_, fun hc hd hcd hn => ?_, fun hc hd hcd ho ho' => ?_⟩
  · obtain ⟨c', hc', hcont⟩ := continues_of_insert ha hb hc
    rw [hcont.id, h.own hc']
  · obtain ⟨c', hc', hcont⟩ := continues_of_insert ha hb hc
    obtain ⟨d', hd', hcont'⟩ := continues_of_insert ha hb hd
    refine h.number hc' hd' ?_ (by rw [← hcont.number, ← hcont'.number, hn])
    rwa [← hcont.enrollmentId, ← hcont.quizId, ← hcont'.isOf]
  · obtain ⟨c', hc', hcont⟩ := continues_of_insert ha hb hc
    obtain ⟨d', hd', hcont'⟩ := continues_of_insert ha hb hd
    refine h.openRow hc' hd' ?_ (hcont.isOpen ho) (hcont'.isOpen ho')
    rwa [← hcont.enrollmentId, ← hcont.quizId, ← hcont'.isOf]

/-- **A row with an unused number beside no open one keeps a table orderly.** -/
theorem insert_new (h : Orderly rows) {a : Attempt}
    (hnew : ∀ {i : Int} {b : Attempt}, rows.get? i = some b → i ≠ a.id →
      b.isOf a.enrollmentId a.quizId = true →
        b.number ≠ a.number ∧ (a.isOpen = true → b.isOpen = false)) :
    Orderly (rows.insert a.id a) := by
  have hcases : ∀ {i c}, (rows.insert a.id a).get? i = some c →
      i = a.id ∧ c = a ∨ i ≠ a.id ∧ rows.get? i = some c := by
    intro i c hc
    rw [Table.get?_insert] at hc
    split at hc
    · rename_i hi
      exact Or.inl ⟨hi, (Option.some.inj hc).symm⟩
    · rename_i hi
      exact Or.inr ⟨hi, hc⟩
  have hflip : ∀ {c d : Attempt}, d.isOf c.enrollmentId c.quizId = true →
      c.isOf d.enrollmentId d.quizId = true := by
    intro c d hcd
    obtain ⟨he, hq⟩ := Attempt.isOf_iff.1 hcd
    exact Attempt.isOf_iff.2 ⟨he.symm, hq.symm⟩
  refine ⟨fun hc => ?_, fun hc hd hcd hn => ?_, fun hc hd hcd ho ho' => ?_⟩
  · rcases hcases hc with ⟨rfl, rfl⟩ | ⟨-, hc⟩
    · rfl
    · exact h.own hc
  · rcases hcases hc with ⟨rfl, rfl⟩ | ⟨hi, hcrow⟩ <;>
      rcases hcases hd with ⟨rfl, rfl⟩ | ⟨hj, hdrow⟩
    · rfl
    · exact absurd hn.symm (hnew hdrow hj hcd).1
    · exact absurd hn (hnew hcrow hi (hflip hcd)).1
    · exact h.number hcrow hdrow hcd hn
  · rcases hcases hc with ⟨rfl, rfl⟩ | ⟨hi, hcrow⟩ <;>
      rcases hcases hd with ⟨rfl, rfl⟩ | ⟨hj, hdrow⟩
    · rfl
    · simp [(hnew hdrow hj hcd).2 ho] at ho'
    · simp [(hnew hcrow hi (hflip hcd)).2 ho'] at ho
    · exact h.openRow hcrow hdrow hcd ho ho'

end Orderly

/-! ### What a transaction leaves behind -/

/-- **The attempts are orderly, and their identifiers have been given out.** -/
structure Store.Sound (store : Store) : Prop where
  orderly : Orderly store.attempts
  allocated : ∀ {id : Int} {a : Attempt}, store.attempts.get? id = some a → id ≤ store.allocated

/-- The staged rows stand under their own identifiers, which have been given out. -/
structure Transaction.Within (tx : Transaction) (store : Store) : Prop where
  own : ∀ {id : Int} {a : Attempt}, tx.staged.get? id = some a → a.id = id
  allocated : ∀ {id : Int} {a : Attempt}, tx.staged.get? id = some a → id ≤ store.allocated

namespace Transaction

variable {tx : Transaction} {store : Store}

@[simp] theorem staged_fresh : fresh.staged = Table.empty := rfl

@[simp] theorem staged_stage (a : Attempt) : (tx.stage a).staged = tx.staged.insert a.id a := rfl

theorem Within.fresh (store : Store) : Within Transaction.fresh store where
  own h := by simp at h
  allocated h := by simp at h

theorem Within.mono {after : Store} (h : tx.Within store)
    (hle : store.allocated ≤ after.allocated) :
    tx.Within after where
  own := h.own
  allocated ha := by
    have := h.allocated ha
    omega

theorem Within.stage (h : tx.Within store) {a : Attempt} (ha : a.id ≤ store.allocated) :
    (tx.stage a).Within store := by
  constructor
  all_goals
    intro id b hb
    rw [staged_stage, Table.get?_insert] at hb
    split at hb
  · rename_i hid
    rw [← Option.some.inj hb, hid]
  · exact h.own hb
  · rename_i hid
    rwa [hid]
  · exact h.allocated hb

theorem get?_merged (tx : Transaction) (store : Store) (id : Int) :
    (tx.merged store).get? id = (tx.staged.get? id).or (store.attempts.get? id) :=
  Table.get?_overlay _ _ _

@[simp] theorem merged_of_unstaged (h : tx.staged = Table.empty) :
    tx.merged store = store.attempts := by
  rw [merged, h]
  rfl

/-- Staging one more row writes one more row. -/
theorem merged_stage (a : Attempt) :
    (tx.stage a).merged store = (tx.merged store).insert a.id a := by
  refine Table.ext fun id => ?_
  rw [get?_merged, staged_stage, Table.get?_insert, Table.get?_insert, get?_merged]
  split <;> simp

theorem collision?_eq_none_iff :
    tx.collision? store = none ↔ ∀ {i j : Int} {a b : Attempt}, tx.staged.get? i = some a →
      (tx.merged store).get? j = some b → a.collides b = false := by
  simp only [collision?, List.find?_eq_none, List.any_eq_true, Table.mem_values, not_exists,
    not_and]
  constructor
  · intro h i j a b ha hb
    simpa using h a ⟨i, ha⟩ b ⟨j, hb⟩
  · rintro h a ⟨i, ha⟩ b ⟨j, hb⟩
    simpa using h ha hb

/-- **No staged row collides exactly when nothing does**: two committed rows stood beside one
another before. -/
theorem collision?_eq_none_iff_orderly (hs : Orderly store.attempts)
    (hown : ∀ {id : Int} {a : Attempt}, tx.staged.get? id = some a → a.id = id) :
    tx.collision? store = none ↔ Orderly (tx.merged store) := by
  rw [collision?_eq_none_iff]
  have hstaged : ∀ {i a}, tx.staged.get? i = some a → (tx.merged store).get? i = some a := by
    intro i a ha
    rw [get?_merged, ha, Option.some_or]
  have hsplit : ∀ {i a}, (tx.merged store).get? i = some a →
      tx.staged.get? i = some a ∨ store.attempts.get? i = some a := by
    intro i a ha
    rw [get?_merged, Option.or_eq_some_iff] at ha
    exact ha.imp id And.right
  constructor
  · intro h
    refine Orderly.of_not_collides (fun ha => (hsplit ha).elim hown hs.own) ?_
    intro i j a b ha hb
    rcases hsplit ha with ha' | ha'
    · exact h ha' hb
    · rcases hsplit hb with hb' | hb'
      · rw [collides_comm]
        exact h hb' ha
      · exact hs.not_collides ha' hb'
  · intro h i j a b ha hb
    exact h.not_collides (hstaged ha) hb

/-- **A transaction is committed exactly when what it leaves behind is orderly.** -/
theorem commit_eq_ok_iff (hs : Orderly store.attempts)
    (hown : ∀ {id : Int} {a : Attempt}, tx.staged.get? id = some a → a.id = id) {after : Store} :
    tx.commit store = .ok after ↔
      Orderly (tx.merged store) ∧ after = { store with attempts := tx.merged store } := by
  rw [← collision?_eq_none_iff_orderly hs hown, commit]
  cases tx.collision? store with
  | none => simp [eq_comm]
  | some a => simp

theorem commit_of_orderly (hs : Orderly store.attempts)
    (hown : ∀ {id : Int} {a : Attempt}, tx.staged.get? id = some a → a.id = id)
    (h : Orderly (tx.merged store)) :
    tx.commit store = .ok { store with attempts := tx.merged store } :=
  (commit_eq_ok_iff hs hown).2 ⟨h, rfl⟩

/-- The row that a transaction saves is one that it can see. -/
theorem attempt?_eq_some {id : Int} {a : Attempt} (h : tx.attempt? store id = some a) :
    a.id = id ∧ ∃ key, tx.staged.get? key = some a ∨ store.attempts.get? key = some a := by
  obtain ⟨key, hkey⟩ := Table.mem_values.1 (List.mem_of_head? h)
  rw [visible, Table.get?_overlay, Option.or_eq_some_iff, Table.get?_filter, Table.get?_filter,
    Option.filter_eq_some_iff, Option.filter_eq_some_iff] at hkey
  rcases hkey with ⟨hrow, hid⟩ | ⟨-, hrow, hid⟩
  · exact ⟨by simpa using hid, key, Or.inl hrow⟩
  · exact ⟨by simpa using hid, key, Or.inr hrow⟩

theorem save?_eq_some {a : Attempt} {after : Transaction} (h : tx.save? store a = some after) :
    after = tx.stage a ∧ ∃ current, tx.attempt? store a.id = some current ∧
      current.isOpen = true := by
  simp only [save?] at h
  split at h
  · rename_i current hcurrent
    split at h
    · rename_i hopen
      exact ⟨(Option.some.inj h).symm, current, hcurrent, hopen⟩
    · simp at h
  · simp at h

theorem Within.save? (hs : store.Sound) (ht : tx.Within store) {a : Attempt} {after : Transaction}
    (h : tx.save? store a = some after) : after.Within store := by
  obtain ⟨rfl, current, hcurrent, -⟩ := save?_eq_some h
  obtain ⟨hid, key, hrow⟩ := attempt?_eq_some hcurrent
  refine ht.stage ?_
  rcases hrow with hrow | hrow
  · rw [← hid, ht.own hrow]
    exact ht.allocated hrow
  · rw [← hid, hs.orderly.own hrow]
    exact hs.allocated hrow

/-- An insert gives out one identifier, and stages the row under it if there is room. -/
theorem insert_eq (tx : Transaction) (store : Store) (new : NewAttempt) :
    (tx.insert store new).1 = store.allocate ∧
      ((tx.insert store new).2 = .error ⟨new.number⟩ ∨
        (tx.insert store new).2 = .ok (tx.stage (new.toAttempt (store.allocated + 1)),
          new.toAttempt (store.allocated + 1))) := by
  simp only [insert]
  split <;> simp [NewAttempt.toAttempt, Store.allocate]

theorem Within.insert (ht : tx.Within store) {new : NewAttempt} {a : Attempt} {after : Transaction}
    (h : (tx.insert store new).2 = .ok (after, a)) :
    after.Within store.allocate ∧ a.id = store.allocate.allocated := by
  rcases (insert_eq tx store new).2 with heq | heq
  · simp [heq] at h
  · rw [heq] at h
    obtain ⟨rfl, rfl⟩ := Prod.mk.inj (Except.ok.inj h)
    exact ⟨(ht.mono (Nat.le_succ _)).stage (by simp [NewAttempt.toAttempt, Store.allocate]),
      by simp [NewAttempt.toAttempt, Store.allocate]⟩

end Transaction

/-! ### Growing -/

/-- **Nothing that was there is gone**: identifiers stay given out, and committed rows are replaced,
never removed. -/
structure Store.Grows (before after : Store) : Prop where
  allocated : before.allocated ≤ after.allocated
  rows : ∀ id : Int, (before.attempts.get? id).isSome → (after.attempts.get? id).isSome

namespace Store

variable {before after : Store}

theorem Grows.refl (store : Store) : store.Grows store := ⟨Nat.le_refl _, fun _ => id⟩

theorem Grows.trans {middle : Store} (h : before.Grows middle) (h' : middle.Grows after) :
    before.Grows after :=
  ⟨Nat.le_trans h.allocated h'.allocated, fun id hid => h'.rows id (h.rows id hid)⟩

theorem Grows.of_eq (hrows : after.attempts = before.attempts)
    (hids : after.allocated = before.allocated) : before.Grows after :=
  ⟨Nat.le_of_eq hids.symm, fun id hid => by rwa [hrows]⟩

theorem Grows.allocate (store : Store) : store.Grows store.allocate :=
  ⟨Nat.le_succ _, fun _ => id⟩

theorem Sound.of_eq (h : before.Sound) (hrows : after.attempts = before.attempts)
    (hids : after.allocated = before.allocated) : after.Sound where
  orderly := hrows ▸ h.orderly
  allocated ha := by
    rw [hrows] at ha
    rw [hids]
    exact h.allocated ha

theorem Sound.allocate (h : before.Sound) : before.allocate.Sound where
  orderly := h.orderly
  allocated {id a} ha := by
    have hle : id ≤ before.allocated := h.allocated ha
    simp only [Store.allocate]
    omega

end Store

/-- **A commit keeps a store sound, and it grows.** -/
theorem Transaction.commit_sound {tx : Transaction} {store after : Store} (hs : store.Sound)
    (ht : tx.Within store) (h : tx.commit store = .ok after) :
    after.Sound ∧ store.Grows after := by
  obtain ⟨horderly, rfl⟩ := (commit_eq_ok_iff hs.orderly ht.own).1 h
  refine ⟨⟨horderly, fun ha => ?_⟩, ⟨Nat.le_refl _, fun id hid => ?_⟩⟩
  · rw [get?_merged, Option.or_eq_some_iff] at ha
    rcases ha with ha | ⟨-, ha⟩
    · exact ht.allocated ha
    · exact hs.allocated ha
  · rw [get?_merged, Option.isSome_or, hid, Bool.or_true]

/-! ### What a program leaves behind -/

/-- A sound store and what is staged over it. -/
structure Session.Sound (s : Session) : Prop where
  store : s.service.store.Sound
  tx : s.tx.Within s.service.store

namespace Session

variable {s s' : Session} {others : List Int}

theorem Sound.fresh {service : Service} (h : service.store.Sound) :
    Sound ⟨service, Transaction.fresh⟩ := ⟨h, Transaction.Within.fresh _⟩

/-- What touches neither the attempts nor what is staged over them keeps both as they are. -/
theorem Sound.of_eq (h : s.Sound) (hrows : s'.service.store.attempts = s.service.store.attempts)
    (hids : s'.service.store.allocated = s.service.store.allocated)
    (hstaged : s'.tx.staged = s.tx.staged) :
    s'.Sound ∧ s.service.store.Grows s'.service.store :=
  ⟨⟨h.store.of_eq hrows hids, ⟨fun ha => h.tx.own (hstaged ▸ ha),
    fun ha => by rw [hids]; exact h.tx.allocated (hstaged ▸ ha)⟩⟩, Store.Grows.of_eq hrows hids⟩

theorem Sound.insert (h : s.Sound) (new : NewAttempt) :
    (s.insert new).1.Sound ∧ s.service.store.Grows (s.insert new).1.service.store := by
  unfold Session.insert
  split
  · exact h.of_eq rfl rfl rfl
  · obtain ⟨hstore, hresult⟩ := Transaction.insert_eq s.tx s.service.store new
    split
    · rename_i store tx a heq
      rw [heq] at hstore
      obtain rfl : store = s.service.store.allocate := hstore
      have hwithin := h.tx.insert (congrArg Prod.snd heq)
      exact ⟨⟨h.store.allocate, hwithin.1⟩, Store.Grows.allocate _⟩
    · rename_i store taken heq
      rw [heq] at hstore
      obtain rfl : store = s.service.store.allocate := hstore
      exact ⟨⟨h.store.allocate, h.tx.mono (Nat.le_succ _)⟩, Store.Grows.allocate _⟩

theorem Sound.save (h : s.Sound) (final : Attempt) :
    (s.save final).1.Sound ∧ s.service.store.Grows (s.save final).1.service.store := by
  unfold Session.save
  split
  · rename_i tx heq
    exact ⟨⟨h.store, h.tx.save? h.store heq⟩, Store.Grows.refl _⟩
  · exact ⟨h, Store.Grows.refl _⟩

theorem Sound.commit (h : s.Sound) :
    s.commit.1.Sound ∧ s.service.store.Grows s.commit.1.service.store := by
  unfold Session.commit
  split
  · rename_i store heq
    obtain ⟨hsound, hgrows⟩ := Transaction.commit_sound h.store h.tx heq
    exact ⟨⟨hsound, Transaction.Within.fresh _⟩, hgrows⟩
  · exact ⟨⟨h.store, Transaction.Within.fresh _⟩, Store.Grows.refl _⟩

theorem Sound.publish (h : s.Sound) (quiz : Int) :
    (s.publish quiz).1.Sound ∧ s.service.store.Grows (s.publish quiz).1.service.store := by
  unfold Session.publish
  split
  · rename_i store heq
    refine h.of_eq (Store.attempts_publish? heq) ?_ rfl
    obtain ⟨stored, -, rfl⟩ := Option.map_eq_some_iff.1 heq
    rfl
  · exact ⟨h, Store.Grows.refl _⟩

theorem lock?_staged {tx after : Transaction} {store : Store} {student course : Int}
    {enrollment : Option Enrollment}
    (h : tx.lock? store others student course = some (after, enrollment)) :
    after.staged = tx.staged := by
  unfold Transaction.lock? at h
  split at h
  · exact (congrArg Transaction.staged (Prod.mk.inj (Option.some.inj h)).1).symm
  · split at h
    · exact (congrArg Transaction.staged (Prod.mk.inj (Option.some.inj h)).1).symm
    · split at h
      · simp at h
      · exact (congrArg Transaction.staged (Prod.mk.inj (Option.some.inj h)).1).symm

/-- **One operation** keeps a session sound, and the store grows. -/
theorem Sound.perform (h : s.Sound) {op : Op} {reply : op.Reply}
    (hp : s.perform others op = some (s', reply)) :
    s'.Sound ∧ s.service.store.Grows s'.service.store := by
  cases op with
  | insert new =>
      obtain rfl : (s.insert new).1 = s' := congrArg Prod.fst (Option.some.inj hp)
      exact h.insert new
  | save final =>
      obtain rfl : (s.save final).1 = s' := congrArg Prod.fst (Option.some.inj hp)
      exact h.save final
  | commit =>
      obtain rfl : s.commit.1 = s' := congrArg Prod.fst (Option.some.inj hp)
      exact h.commit
  | publish quiz =>
      obtain rfl : (s.publish quiz).1 = s' := congrArg Prod.fst (Option.some.inj hp)
      exact h.publish quiz
  | rollback =>
      obtain rfl : s.rollback = s' := congrArg Prod.fst (Option.some.inj hp)
      exact ⟨⟨h.store, Transaction.Within.fresh _⟩, Store.Grows.refl _⟩
  | lockEnrollment student course =>
      obtain ⟨⟨tx, enrollment⟩, hlock, heq⟩ := Option.map_eq_some_iff.1 hp
      obtain ⟨rfl, -⟩ := Prod.mk.inj heq
      exact h.of_eq rfl rfl (lock?_staged hlock)
  | completeLesson enrollment lesson =>
      obtain rfl : s.completeLesson enrollment lesson = s' :=
        congrArg Prod.fst (Option.some.inj hp)
      unfold completeLesson
      split
      · exact ⟨h, Store.Grows.refl _⟩
      · exact h.of_eq rfl rfl rfl
  | announce event =>
      obtain rfl : s.announce event = s' := congrArg Prod.fst (Option.some.inj hp)
      unfold announce
      split
      · exact ⟨h, Store.Grows.refl _⟩
      · exact h.of_eq rfl rfl rfl
  | _ =>
      obtain ⟨rfl, -⟩ := Prod.mk.inj (Option.some.inj hp)
      exact h.of_eq rfl rfl rfl

/-- **Whatever a program does, the store stays sound and grows.** -/
theorem Sound.exec {α : Type} (h : s.Sound) (p : Program α) :
    (p.exec others s).1.Sound ∧ s.service.store.Grows (p.exec others s).1.service.store := by
  induction p generalizing s with
  | step op next ih =>
      simp only [Program.exec]
      split
      · rename_i s' reply hp
        obtain ⟨hsound, hgrows⟩ := h.perform hp
        obtain ⟨hsound', hgrows'⟩ := ih reply hsound
        exact ⟨hsound', hgrows.trans hgrows'⟩
      · exact ⟨h, Store.Grows.refl _⟩
  | _ => exact ⟨h, Store.Grows.refl _⟩

end Session

theorem Service.run_sound {α : Type} {service : Service} (h : service.store.Sound)
    (others : List Int) (p : Program α) :
    (service.run others p).1.store.Sound ∧ service.store.Grows (service.run others p).1.store := by
  obtain ⟨hsound, hgrows⟩ := (Session.Sound.fresh h).exec p
  exact ⟨hsound.store, hgrows⟩

end QuizAttempts
