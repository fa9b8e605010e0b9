/-
**A cache answers by the latest insert and its age.**

A cache of payloads forgets in three ways: a payload is put in over another one, it is taken out, or
a look-up comes too late for it and throws it out.  The last is decided twice in one look-up, with
the clock read anew, and the time of an entry may run out between the two.  None of this shows.
What a look-up is answered after any calls is told by the latest insert for the quiz alone: its
payload, if it was not taken out since and its time is not over; the look-ups in between make no
difference.  What they do make a difference to is how much is kept, and there too the calls tell
which quizzes have an entry.

Calls carry what the clock says in them.  A look-up that finds no entry does not read the clock, and
one that finds a fresh entry reads it once; the readings that are not made may then be any that keep
the order.

Main definitions:

* `TakeCache.Call`, `TakeCache.after` — calls, and a cache after them;
* `TakeCache.Chronological` — the clock never runs backwards;
* `TakeCache.LatestInsert` — **the latest insert for a quiz, if nothing was taken out since**;
* `TakeCache.Kept` — no look-up since has come too late for it.

Main results:

* `TakeCache.latestInsert_concat`, `TakeCache.kept_concat` — what one more call changes;
* `TakeCache.Holds.perform`, `TakeCache.holds_after` — **the entries are those that are kept**;
* `TakeCache.faithful_after` — what every call answers, after any calls.
-/
import Mathlib.Data.Finset.Card
import QuizAttempts.TakeCache

set_option autoImplicit false

namespace QuizAttempts

/-- A table has as many keys as rows. -/
theorem Table.exists_keys {α : Type} (t : Table α) :
    ∃ keys : Finset Int, (∀ key, key ∈ keys ↔ ∃ a, t.get? key = some a) ∧ t.size = keys.card := by
  refine ⟨(t.rows.map (·.1)).toFinset, fun key => ?_, ?_⟩
  · simp [Table.get?_eq_some_iff]
  · have hnodup : (t.rows.map (·.1)).Nodup :=
      List.pairwise_map.2 (t.ascending.imp fun hlt => Int.ne_of_lt hlt)
    rw [List.toFinset_card_of_nodup hnodup, List.length_map, Table.size]

namespace TakeCache

/-! ### Calls -/

/-- A call on a cache, with what the clock says in it. -/
inductive Call where
  | insert (quiz : Int) (payload : TakePayload) (now : Nat)
  | get (quiz : Int) (now later : Nat)
  | invalidate (quiz : Int)
  | size
  | isEmpty

namespace Call

/-- What the clock says in a call, in the order in which it is read. -/
def readings : Call → List Nat
  | insert _ _ now => [now]
  | get _ now later => [now, later]
  | _ => []

/-- The quiz that a call is about. -/
def quiz? : Call → Option Int
  | insert quiz _ _ | get quiz _ _ | invalidate quiz => some quiz
  | _ => none

/-- The quiz whose payload a call replaces or takes out, whatever the time. -/
def settled? : Call → Option Int
  | insert quiz _ _ | invalidate quiz => some quiz
  | _ => none

/-- The call looks a quiz up when the time of its entry is over. -/
def ComesLate (keptFor : Nat) (quiz : Int) (entry : CachedPayload) : Call → Prop
  | get other now _ => other = quiz ∧ entry.cachedAt + keptFor ≤ now
  | _ => False

section About

variable {call : Call} {quiz : Int}

theorem quiz?_of_settled? (h : call.settled? = some quiz) : call.quiz? = some quiz := by
  cases call with
  | insert | invalidate => exact h
  | _ => simp [settled?] at h

theorem ComesLate.quiz? {keptFor : Nat} {entry : CachedPayload}
    (h : call.ComesLate keptFor quiz entry) : call.quiz? = some quiz := by
  cases call with
  | get => exact congrArg some h.1
  | _ => exact h.elim

end About

end Call

/-- **The clock never runs backwards.** -/
def Chronological (calls : List Call) : Prop := (calls.flatMap Call.readings).Pairwise (· ≤ ·)

instance (calls : List Call) : Decidable (Chronological calls) :=
  inferInstanceAs (Decidable (List.Pairwise _ _))

/-- The cache after a call. -/
def perform (cache : TakeCache) : Call → TakeCache
  | .insert quiz payload now => cache.insert quiz payload now
  | .get quiz now later => (cache.get quiz now later).2
  | .invalidate quiz => cache.invalidate quiz
  | .size | .isEmpty => cache

/-- **The cache after calls.** -/
def after (cache : TakeCache) (calls : List Call) : TakeCache := calls.foldl perform cache

theorem after_concat (cache : TakeCache) (calls : List Call) (call : Call) :
    cache.after (calls ++ [call]) = (cache.after calls).perform call := by
  rw [after, List.foldl_append]
  rfl

@[simp] theorem keptFor_perform (cache : TakeCache) (call : Call) :
    (cache.perform call).keptFor = cache.keptFor := by
  cases call with
  | get quiz now later => exact cache.keptFor_get quiz now later
  | _ => rfl

@[simp] theorem keptFor_after (cache : TakeCache) (calls : List Call) :
    (cache.after calls).keptFor = cache.keptFor := by
  induction calls using List.reverseRecOn with
  | nil => rfl
  | append_singleton calls call ih => rw [after_concat, keptFor_perform, ih]

/-- A call changes the entry of the quiz that it is about, and no other. -/
theorem get?_perform_of_ne {cache : TakeCache} {call : Call} {quiz : Int}
    (h : call.quiz? ≠ some quiz) :
    (cache.perform call).entries.get? quiz = cache.entries.get? quiz := by
  have hne {other : Int} (hother : call.quiz? = some other) : quiz ≠ other := by
    rintro rfl
    exact h hother
  cases call with
  | insert other payload now => exact Table.get?_insert_of_ne (hne rfl)
  | get other now later => exact cache.get?_get_of_ne (hne rfl) now later
  | invalidate other => exact cache.get?_invalidate_of_ne (hne rfl)
  | size | isEmpty => rfl

/-! ### The latest insert -/

/-- **The latest insert for a quiz**: a payload was put in for it, and in the calls `since` then
none was put in for it or taken out. -/
structure LatestInsert (calls : List Call) (quiz : Int) (entry : CachedPayload)
    (since : List Call) : Prop where
  split : ∃ before, calls = before ++ .insert quiz entry.payload entry.cachedAt :: since
  unsettled : ∀ call ∈ since, call.settled? ≠ some quiz

/-- **What is kept**: the payload of the latest insert, if no look-up since has come late. -/
def Kept (keptFor : Nat) (calls : List Call) (quiz : Int) (entry : CachedPayload) : Prop :=
  ∃ since, LatestInsert calls quiz entry since ∧ ∀ call ∈ since, ¬ call.ComesLate keptFor quiz entry

section Concat

variable {keptFor : Nat} {calls since : List Call} {call : Call} {quiz : Int}
  {entry : CachedPayload}

/-- **The latest insert is the last call, or the last call does not settle the quiz.** -/
theorem latestInsert_concat :
    LatestInsert (calls ++ [call]) quiz entry since ↔
      (call = .insert quiz entry.payload entry.cachedAt ∧ since = []) ∨
      ∃ earlier, since = earlier ++ [call] ∧ call.settled? ≠ some quiz ∧
        LatestInsert calls quiz entry earlier := by
  constructor
  · rintro ⟨⟨before, hsplit⟩, hunsettled⟩
    rcases List.eq_nil_or_concat' since with rfl | ⟨earlier, last, rfl⟩
    · obtain ⟨-, hlast⟩ := List.append_inj' hsplit rfl
      exact Or.inl ⟨List.singleton_inj.1 hlast, rfl⟩
    · rw [← List.cons_append, ← List.append_assoc] at hsplit
      obtain ⟨hcalls, hlast⟩ := List.append_inj' hsplit rfl
      obtain rfl := List.singleton_inj.1 hlast
      rw [List.forall_mem_append, List.forall_mem_singleton] at hunsettled
      exact Or.inr ⟨earlier, rfl, hunsettled.2, ⟨before, hcalls⟩, hunsettled.1⟩
  · rintro (⟨rfl, rfl⟩ | ⟨earlier, rfl, hcall, ⟨before, rfl⟩, hunsettled⟩)
    · exact ⟨⟨calls, rfl⟩, by simp⟩
    · refine ⟨⟨before, by simp⟩, ?_⟩
      rw [List.forall_mem_append, List.forall_mem_singleton]
      exact ⟨hunsettled, hcall⟩

/-- **What is kept after one more call**: what it puts in, and what it neither settles nor comes
late for. -/
theorem kept_concat :
    Kept keptFor (calls ++ [call]) quiz entry ↔
      call = .insert quiz entry.payload entry.cachedAt ∨
      (call.settled? ≠ some quiz ∧ ¬ call.ComesLate keptFor quiz entry ∧
        Kept keptFor calls quiz entry) := by
  constructor
  · rintro ⟨since, hlatest, htimely⟩
    rcases latestInsert_concat.1 hlatest with ⟨hcall, -⟩ | ⟨earlier, rfl, hcall, hearlier⟩
    · exact Or.inl hcall
    · rw [List.forall_mem_append, List.forall_mem_singleton] at htimely
      exact Or.inr ⟨hcall, htimely.2, earlier, hearlier, htimely.1⟩
  · rintro (hcall | ⟨hcall, hlate, earlier, hearlier, htimely⟩)
    · exact ⟨[], latestInsert_concat.2 (Or.inl ⟨hcall, rfl⟩), by simp⟩
    · refine ⟨earlier ++ [call],
        latestInsert_concat.2 (Or.inr ⟨earlier, rfl, hcall, hearlier⟩), ?_⟩
      rw [List.forall_mem_append, List.forall_mem_singleton]
      exact ⟨htimely, hlate⟩

end Concat

/-! ### Ages -/

/-- An entry is fresh until its time is over. -/
theorem isFresh_iff {cache : TakeCache} {entry : CachedPayload} {now : Nat}
    (h : entry.cachedAt ≤ now) :
    cache.isFresh entry now = true ↔ now < entry.cachedAt + cache.keptFor := by
  simp only [isFresh, decide_eq_true_eq]
  omega

section Chronological

variable {keptFor now later : Nat} {calls since more : List Call} {quiz other : Int}
  {entry : CachedPayload}

theorem Chronological.left (h : Chronological (calls ++ more)) : Chronological calls := by
  rw [Chronological, List.flatMap_append] at h
  exact (List.pairwise_append.1 h).1

/-- A look-up reads the clock twice, after all calls before it. -/
theorem Chronological.get (h : Chronological (calls ++ [.get other now later])) :
    now ≤ later ∧ ∀ call ∈ calls, ∀ reading ∈ call.readings, reading ≤ now := by
  rw [Chronological, List.flatMap_append] at h
  obtain ⟨-, hlast, hbefore⟩ := List.pairwise_append.1 h
  refine ⟨?_, fun call hcall reading hreading => ?_⟩
  · simpa [Call.readings] using hlast
  · exact hbefore reading (List.mem_flatMap.2 ⟨call, hcall, hreading⟩) now (by simp [Call.readings])

/-- What a look-up may find was put in before. -/
theorem LatestInsert.cachedAt_le (hlatest : LatestInsert calls quiz entry since)
    (h : Chronological (calls ++ [.get other now later])) : entry.cachedAt ≤ now := by
  obtain ⟨before, rfl⟩ := hlatest.split
  exact h.get.2 (.insert quiz entry.payload entry.cachedAt) (by simp) _ (by simp [Call.readings])

/-- An entry whose time is not over is kept: no look-up has come late for it before. -/
theorem LatestInsert.kept (hlatest : LatestInsert calls quiz entry since)
    (h : Chronological (calls ++ [.get other now later]))
    (hyoung : now < entry.cachedAt + keptFor) :
    Kept keptFor calls quiz entry := by
  refine ⟨since, hlatest, fun call hcall hlate => ?_⟩
  have hmem : call ∈ calls := by
    obtain ⟨before, rfl⟩ := hlatest.split
    simp [hcall]
  cases call with
  | get found moment again =>
      -- this look-up came before the one at `now`, so it is late only if that one is
      have hover : entry.cachedAt + keptFor ≤ moment := hlate.2
      have hle : moment ≤ now := h.get.2 _ hmem moment (by simp [Call.readings])
      omega
  | _ => exact hlate

/-- What is kept is found fresh by a look-up that does not come late for it, and by no other. -/
theorem Kept.isFresh_iff {cache : TakeCache} (hkept : Kept cache.keptFor calls quiz entry)
    (h : Chronological (calls ++ [.get quiz now later])) :
    cache.isFresh entry now = true ↔
      ¬ (Call.get quiz now later).ComesLate cache.keptFor quiz entry := by
  obtain ⟨since, hlatest, -⟩ := hkept
  rw [TakeCache.isFresh_iff (hlatest.cachedAt_le h), Call.ComesLate]
  simp

end Chronological

/-! ### What is in the cache -/

/-- **The entries of a cache are those that are kept.** -/
def Holds (cache : TakeCache) (calls : List Call) : Prop :=
  ∀ quiz entry, cache.entries.get? quiz = some entry ↔ Kept cache.keptFor calls quiz entry

/-- **One call keeps the entries and what is kept in step.** -/
theorem Holds.perform {cache : TakeCache} {calls : List Call} {call : Call} (h : cache.Holds calls)
    (hclock : Chronological (calls ++ [call])) : (cache.perform call).Holds (calls ++ [call]) := by
  intro quiz entry
  rw [keptFor_perform, kept_concat, ← h quiz entry]
  by_cases habout : call.quiz? = some quiz
  · cases call with
    | insert other payload now =>
        obtain rfl := Option.some.inj habout
        obtain ⟨payload', cachedAt⟩ := entry
        simp [TakeCache.perform, TakeCache.insert, Call.settled?]
    | get other now later =>
        obtain rfl := Option.some.inj habout
        rw [TakeCache.perform, get?_get_self hclock.get.1, fresh?_eq_some_iff]
        constructor
        · rintro ⟨hentry, hfresh⟩
          have hkept := (h other entry).1 hentry
          exact Or.inr ⟨by simp [Call.settled?], (hkept.isFresh_iff hclock).1 hfresh, hentry⟩
        · rintro (hinsert | ⟨-, htimely, hentry⟩)
          · simp at hinsert
          · have hkept := (h other entry).1 hentry
            exact ⟨hentry, (hkept.isFresh_iff hclock).2 htimely⟩
    | invalidate other =>
        obtain rfl := Option.some.inj habout
        simp [TakeCache.perform, TakeCache.invalidate, Table.get?_erase, Call.settled?]
    | size | isEmpty => simp [Call.quiz?] at habout
  · -- a call about another quiz neither settles this one nor comes late for it
    rw [get?_perform_of_ne habout]
    constructor
    · intro hentry
      exact Or.inr ⟨fun hsettled => habout (Call.quiz?_of_settled? hsettled),
        fun hlate => habout hlate.quiz?, hentry⟩
    · rintro (rfl | ⟨-, -, hentry⟩)
      · exact absurd rfl habout
      · exact hentry

/-- **After any calls, the entries are those that are kept.** -/
theorem holds_after {keptFor : Nat} {calls : List Call} (hclock : Chronological calls) :
    ((empty keptFor).after calls).Holds calls := by
  -- induction on the calls from their end: the last one is made on what the others leave
  induction calls using List.reverseRecOn with
  | nil =>
      intro quiz entry
      constructor
      · intro h
        simp [after, empty] at h
      · rintro ⟨since, ⟨⟨before, h⟩, -⟩, -⟩
        simp at h
  | append_singleton calls call ih =>
      rw [after_concat]
      exact (ih hclock.left).perform hclock

/-- **A look-up is answered with the payload of the latest insert**, as long as its time is not
over. -/
theorem fst_get_after {keptFor now later : Nat} {calls : List Call} {quiz : Int}
    {payload : TakePayload} (hclock : Chronological (calls ++ [.get quiz now later])) :
    (((empty keptFor).after calls).get quiz now later).1 = some payload ↔
      ∃ entry since, LatestInsert calls quiz entry since ∧ now < entry.cachedAt + keptFor ∧
        entry.payload = payload := by
  have hholds : ((empty keptFor).after calls).Holds calls := holds_after hclock.left
  have hkeptFor : ((empty keptFor).after calls).keptFor = keptFor := keptFor_after _ _
  rw [fst_get, Option.map_eq_some_iff]
  constructor
  · rintro ⟨entry, hentry, rfl⟩
    obtain ⟨hentry, hfresh⟩ := fresh?_eq_some_iff.1 hentry
    obtain ⟨since, hlatest, -⟩ := (hholds quiz entry).1 hentry
    rw [isFresh_iff (hlatest.cachedAt_le hclock), hkeptFor] at hfresh
    exact ⟨entry, since, hlatest, hfresh, rfl⟩
  · rintro ⟨entry, since, hlatest, hyoung, rfl⟩
    refine ⟨entry, fresh?_eq_some_iff.2 ⟨(hholds quiz entry).2 ?_, ?_⟩, rfl⟩
    · rw [hkeptFor]
      exact hlatest.kept hclock hyoung
    · rw [isFresh_iff (hlatest.cachedAt_le hclock), hkeptFor]
      exact hyoung

/-- **A cache answers by the latest insert and its age.**  A look-up is answered with the payload of
the latest insert for its quiz, if nothing was taken out since and the time is not over when the
clock is first read, and with nothing otherwise.  What it does not serve is not there afterwards;
where entries are kept for no time, it serves nothing and takes the entry out.  No call changes the
entries of other quizzes, and there are as many entries as quizzes for which something is kept. -/
theorem faithful_after (keptFor : Nat) (calls : List Call) (hclock : Chronological calls) :
    let cache := (empty keptFor).after calls
    (∀ quiz now later, Chronological (calls ++ [.get quiz now later]) →
      (∀ payload, (cache.get quiz now later).1 = some payload ↔
        ∃ entry since, LatestInsert calls quiz entry since ∧ now < entry.cachedAt + keptFor ∧
          entry.payload = payload) ∧
      ((cache.get quiz now later).1 = none ↔
        (cache.get quiz now later).2.entries.get? quiz = none) ∧
      (keptFor = 0 → cache.get quiz now later = (none, cache.invalidate quiz))) ∧
    (∀ call quiz, call.quiz? ≠ some quiz →
      (cache.perform call).entries.get? quiz = cache.entries.get? quiz) ∧
    ∃ quizzes : Finset Int, (∀ quiz, quiz ∈ quizzes ↔ ∃ entry, Kept keptFor calls quiz entry) ∧
      cache.size = quizzes.card ∧ (cache.isEmpty = true ↔ quizzes = ∅) := by
  intro cache
  have hkeptFor : cache.keptFor = keptFor := keptFor_after _ _
  refine ⟨fun quiz now later hget => ⟨fun payload => fst_get_after hget, ?_, ?_⟩,
    fun call quiz => get?_perform_of_ne, ?_⟩
  · rw [fst_get, get?_get_self hget.get.1, Option.map_eq_none_iff]
  · intro hzero
    exact get_of_none hget.get.1 (fresh?_of_keptFor (hkeptFor.trans hzero) quiz now)
  · obtain ⟨quizzes, hmem, hcard⟩ := cache.entries.exists_keys
    refine ⟨quizzes, fun quiz => ?_, hcard, ?_⟩
    · rw [hmem, ← hkeptFor]
      exact exists_congr fun entry => holds_after hclock quiz entry
    · rw [isEmpty, beq_iff_eq, size, hcard, Finset.card_eq_zero]

/-- A payload is replaced, and a look-up comes late for the payload of another quiz. -/
def refreshed : List Call :=
  [.insert 1 ⟨1, "old", none, none, []⟩ 0, .insert 2 ⟨2, "other", none, none, []⟩ 3,
    .insert 1 ⟨1, "new", none, none, []⟩ 6, .isEmpty, .get 2 13 14, .size]

/-- The new payload is served in the last moment of its time, which is over when the clock would be
read again, and it is the only one that is kept. -/
theorem faithful_after_refreshed :
    let cache := (empty 10).after refreshed
    Chronological refreshed ∧ Chronological (refreshed ++ [.get 1 15 16]) ∧
      (cache.get 1 15 16).1 = some ⟨1, "new", none, none, []⟩ ∧
      ∃ quizzes : Finset Int, (∀ quiz, quiz ∈ quizzes ↔ ∃ entry, Kept 10 refreshed quiz entry) ∧
        quizzes.card = 1 := by
  intro cache
  have hclock : Chronological refreshed := by decide
  have hget : Chronological (refreshed ++ [.get 1 15 16]) := by decide
  obtain ⟨hanswers, -, quizzes, hkept, hsize, -⟩ := faithful_after 10 refreshed hclock
  have hlatest : LatestInsert refreshed 1 ⟨⟨1, "new", none, none, []⟩, 6⟩
      [.isEmpty, .get 2 13 14, .size] := by
    refine ⟨⟨refreshed.take 2, rfl⟩, fun call hcall => ?_⟩
    simp only [List.mem_cons, List.not_mem_nil, or_false] at hcall
    rcases hcall with rfl | rfl | rfl <;> simp [Call.settled?]
  refine ⟨hclock, hget, ?_, quizzes, hkept, hsize.symm⟩
  exact ((hanswers 1 15 16 hget).1 _).2 ⟨_, _, hlatest, by decide, rfl⟩

end TakeCache

end QuizAttempts
