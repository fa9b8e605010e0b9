/-
**A cache of take payloads.**

A payload is kept for some time after it was put in, and it is not taken out when its quiz
changes, so an edit shows once the time is over.  Time is a number of nanoseconds on a clock of
the machine that never runs backwards.  Looking a payload up reads that clock twice: once to
decide whether the entry is fresh, and, when it was not found fresh, once more to decide whether
it is to be thrown out.

Main definitions:

* `TakeCache` — entries with the moments at which they were put in, and how long they are kept;
* `TakeCache.isFresh` — an entry is younger than that;
* `TakeCache.get`, `TakeCache.insert`, `TakeCache.invalidate`, `TakeCache.size`,
  `TakeCache.isEmpty` — the operations.

Main results:

* `TakeCache.get_of_fresh` — a fresh entry is served and nothing is thrown out;
* `TakeCache.get_of_stale` — a stale entry is not served, and it is gone afterwards;
* `TakeCache.get_of_none` — **a look-up that serves nothing leaves what invalidating leaves**.
-/
import QuizAttempts.Table
import QuizAttempts.TakePayload

set_option autoImplicit false

namespace QuizAttempts

/-- A payload and the moment at which it was put in. -/
structure CachedPayload where
  payload : TakePayload
  cachedAt : Nat
  deriving DecidableEq

/-- Payloads by quiz. -/
structure TakeCache where
  entries : Table CachedPayload
  /-- How long an entry is kept, in nanoseconds. -/
  keptFor : Nat
  deriving DecidableEq

namespace TakeCache

/-- The cache without entries. -/
def empty (keptFor : Nat) : TakeCache := ⟨Table.empty, keptFor⟩

/-- The entry is younger than the time for which it is kept. -/
def isFresh (cache : TakeCache) (entry : CachedPayload) (now : Nat) : Bool :=
  now - entry.cachedAt < cache.keptFor

/-- The entry of a quiz, if it is fresh. -/
def fresh? (cache : TakeCache) (quiz : Int) (now : Nat) : Option CachedPayload :=
  (cache.entries.get? quiz).filter fun entry => cache.isFresh entry now

/-- Throws the entry of a quiz out, if it is stale. -/
def evict (cache : TakeCache) (quiz : Int) (now : Nat) : TakeCache :=
  match cache.entries.get? quiz with
  | some entry =>
      if cache.isFresh entry now then cache
      else { cache with entries := cache.entries.erase quiz }
  | none => cache

/-- **A look-up**: what is fresh at `now` is served; otherwise the entry is thrown out if it is
stale at `later`, when the clock is read again. -/
def get (cache : TakeCache) (quiz : Int) (now later : Nat) : Option TakePayload × TakeCache :=
  match cache.fresh? quiz now with
  | some entry => (some entry.payload, cache)
  | none => (none, cache.evict quiz later)

/-- Puts a payload in, in place of the one that was there. -/
def insert (cache : TakeCache) (quiz : Int) (payload : TakePayload) (now : Nat) : TakeCache :=
  { cache with entries := cache.entries.insert quiz ⟨payload, now⟩ }

/-- Takes the payload of a quiz out. -/
def invalidate (cache : TakeCache) (quiz : Int) : TakeCache :=
  { cache with entries := cache.entries.erase quiz }

/-- The number of entries. -/
def size (cache : TakeCache) : Nat := cache.entries.size

/-- There are no entries. -/
def isEmpty (cache : TakeCache) : Bool := cache.size == 0

/-! ### What is fresh -/

theorem fresh?_eq_some_iff {cache : TakeCache} {quiz : Int} {now : Nat} {entry : CachedPayload} :
    cache.fresh? quiz now = some entry ↔
      cache.entries.get? quiz = some entry ∧ cache.isFresh entry now = true :=
  Option.filter_eq_some_iff

/-- Nothing is fresh where entries are kept for no time. -/
theorem fresh?_of_keptFor {cache : TakeCache} (h : cache.keptFor = 0) (quiz : Int) (now : Nat) :
    cache.fresh? quiz now = none := by
  rw [fresh?, Option.filter_eq_none_iff]
  intro entry _
  simp [isFresh, h]

/-- What is stale stays stale. -/
theorem isFresh_eq_false_of_le {cache : TakeCache} {entry : CachedPayload} {now later : Nat}
    (hle : now ≤ later) (h : cache.isFresh entry now = false) :
    cache.isFresh entry later = false := by
  simp only [isFresh, decide_eq_false_iff_not] at h ⊢
  omega

/-! ### What is taken out -/

theorem get?_invalidate_of_ne {quiz other : Int} (h : other ≠ quiz) (cache : TakeCache) :
    (cache.invalidate quiz).entries.get? other = cache.entries.get? other := by
  rw [invalidate, Table.get?_erase, if_neg h]

/-- Nothing is taken out where there is nothing. -/
theorem invalidate_of_none {cache : TakeCache} {quiz : Int}
    (h : cache.entries.get? quiz = none) : cache.invalidate quiz = cache := by
  refine congrArg (TakeCache.mk · cache.keptFor) (Table.ext fun other => ?_)
  rw [Table.get?_erase]
  split
  · rename_i heq
    rw [heq, h]
  · rfl

/-- What is put in takes the place of what was taken out. -/
theorem insert_invalidate (cache : TakeCache) (quiz : Int) (payload : TakePayload) (now : Nat) :
    (cache.invalidate quiz).insert quiz payload now = cache.insert quiz payload now := by
  refine congrArg (TakeCache.mk · cache.keptFor) (Table.ext fun other => ?_)
  simp only [invalidate, Table.get?_insert, Table.get?_erase]
  split <;> rfl

/-- Throwing an entry out takes it out or changes nothing. -/
theorem evict_eq (cache : TakeCache) (quiz : Int) (now : Nat) :
    cache.evict quiz now = cache ∨ cache.evict quiz now = cache.invalidate quiz := by
  unfold evict
  split
  · split
    · exact Or.inl rfl
    · exact Or.inr rfl
  · exact Or.inl rfl

/-- What is put in takes the place of what was thrown out. -/
theorem insert_evict (cache : TakeCache) (quiz : Int) (payload : TakePayload) (now later : Nat) :
    (cache.evict quiz later).insert quiz payload now = cache.insert quiz payload now := by
  rcases cache.evict_eq quiz later with h | h <;> rw [h]
  exact cache.insert_invalidate quiz payload now

/-! ### What a look-up does -/

theorem get_of_fresh {cache : TakeCache} {quiz : Int} {entry : CachedPayload} {now : Nat}
    (h : cache.entries.get? quiz = some entry) (hfresh : cache.isFresh entry now = true)
    (later : Nat) : cache.get quiz now later = (some entry.payload, cache) := by
  rw [get, fresh?_eq_some_iff.2 ⟨h, hfresh⟩]

theorem get_of_stale {cache : TakeCache} {quiz : Int} {entry : CachedPayload} {now later : Nat}
    (h : cache.entries.get? quiz = some entry) (hnow : cache.isFresh entry now = false)
    (hlater : cache.isFresh entry later = false) :
    cache.get quiz now later = (none, cache.invalidate quiz) := by
  simp [get, fresh?, evict, invalidate, h, hnow, hlater, Option.filter]

@[simp] theorem get_empty (keptFor : Nat) (quiz : Int) (now later : Nat) :
    (empty keptFor).get quiz now later = (none, empty keptFor) := rfl

/-- **A look-up that serves nothing leaves what invalidating leaves**, however much time passes
between the two readings of the clock. -/
theorem get_of_none {cache : TakeCache} {quiz : Int} {now later : Nat} (hle : now ≤ later)
    (h : cache.fresh? quiz now = none) :
    cache.get quiz now later = (none, cache.invalidate quiz) := by
  cases hentry : cache.entries.get? quiz with
  | none => rw [get, h, evict, hentry, invalidate_of_none hentry]
  | some entry =>
      have hnow : cache.isFresh entry now = false := by
        simpa [fresh?, hentry, Option.filter_eq_none_iff] using h
      exact get_of_stale hentry hnow (isFresh_eq_false_of_le hle hnow)

/-- What is served is the payload of the entry that is fresh when the clock is read first. -/
theorem fst_get (cache : TakeCache) (quiz : Int) (now later : Nat) :
    (cache.get quiz now later).1 = (cache.fresh? quiz now).map (·.payload) := by
  unfold get
  cases cache.fresh? quiz now <;> rfl

/-- A look-up leaves the cache alone, or takes the entry out that it is about. -/
theorem snd_get_eq (cache : TakeCache) (quiz : Int) (now later : Nat) :
    (cache.get quiz now later).2 = cache ∨
      (cache.get quiz now later).2 = cache.invalidate quiz := by
  unfold get
  split
  · exact Or.inl rfl
  · exact cache.evict_eq quiz later

/-- What is not served is not there afterwards. -/
theorem get?_get_self {now later : Nat} (hle : now ≤ later) (cache : TakeCache) (quiz : Int) :
    (cache.get quiz now later).2.entries.get? quiz = cache.fresh? quiz now := by
  cases h : cache.fresh? quiz now with
  | none => rw [get_of_none hle h, invalidate, Table.get?_erase, if_pos rfl]
  | some entry =>
      rw [get, h]
      exact (fresh?_eq_some_iff.1 h).1

theorem get?_get_of_ne {quiz other : Int} (h : other ≠ quiz) (cache : TakeCache) (now later : Nat) :
    (cache.get quiz now later).2.entries.get? other = cache.entries.get? other := by
  rcases cache.snd_get_eq quiz now later with heq | heq <;> rw [heq]
  exact get?_invalidate_of_ne h cache

@[simp] theorem keptFor_get (cache : TakeCache) (quiz : Int) (now later : Nat) :
    (cache.get quiz now later).2.keptFor = cache.keptFor := by
  rcases cache.snd_get_eq quiz now later with heq | heq <;> rw [heq]
  rfl

end TakeCache

end QuizAttempts
