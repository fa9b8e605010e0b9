/-
**Tables: rows under integer keys, in ascending order.**

A table holds at most one row per key and lists its rows in the order of their keys.  Keeping the
rows sorted makes the list of rows a function of the look-up: two tables that answer every look-up
alike are equal, which is what lets a state be compared as a value.  Writing several rows at once
is an *overlay*: the upper table's rows hide those of the lower one under the same keys.

Main definitions:

* `Table` — rows with strictly ascending keys;
* `Table.get?`, `Table.insert`, `Table.overlay`, `Table.filter`, `Table.map` — look-up, one write,
  many writes, the rows with a property, and all rows changed;
* `Table.values`, `Table.find?` — the rows in order, and the first with a property.

Main results:

* `Table.get?_insert` — a write changes the look-up under its key and nowhere else;
* `Table.get?_overlay` — **an overlay answers from above first**;
* `Table.ext` — tables that answer alike are equal;
* `Table.get?_filter`, `Table.filter_congr` — a selection depends on the selected rows only.
-/

set_option autoImplicit false

namespace QuizAttempts

/-- Rows under strictly ascending integer keys. -/
structure Table (α : Type) where
  rows : List (Int × α)
  ascending : rows.Pairwise fun a b => a.1 < b.1
  deriving DecidableEq

namespace Table

variable {α : Type}

/-- The table without rows. -/
def empty : Table α := ⟨[], List.Pairwise.nil⟩

instance : EmptyCollection (Table α) := ⟨empty⟩

instance : Inhabited (Table α) := ⟨empty⟩

/-- The row under a key. -/
def get? (t : Table α) (key : Int) : Option α := t.rows.lookup key

/-- The rows in the order of their keys. -/
def values (t : Table α) : List α := t.rows.map (·.2)

/-- The number of rows. -/
def size (t : Table α) : Nat := t.rows.length

/-- The first row with a property. -/
def find? (t : Table α) (p : α → Bool) : Option α := t.values.find? p

/-- Looking up a key in rows compares it with the first key. -/
theorem lookup_cons_row (row : Int × α) (rows : List (Int × α)) (key : Int) :
    (row :: rows).lookup key = if key = row.1 then some row.2 else rows.lookup key := by
  obtain ⟨k, b⟩ := row
  rw [List.lookup_cons]
  by_cases h : key = k
  · subst h
    simp
  · have : (key == k) = false := by simpa using h
    simp [this, h]

/-! ### One write -/

/-- Writes a row into a list of rows. -/
def insertRow (key : Int) (a : α) : List (Int × α) → List (Int × α)
  | [] => [(key, a)]
  | row :: rows =>
      if key < row.1 then (key, a) :: row :: rows
      else if key = row.1 then (key, a) :: rows
      else row :: insertRow key a rows

theorem mem_insertRow {key : Int} {a : α} {rows : List (Int × α)} {row : Int × α}
    (h : row ∈ insertRow key a rows) : row = (key, a) ∨ row ∈ rows := by
  induction rows with
  | nil => simpa [insertRow] using h
  | cons head rows ih =>
      simp only [insertRow] at h
      split at h
      · simpa using h
      · split at h
        · rcases List.mem_cons.1 h with h | h
          · exact Or.inl h
          · exact Or.inr (List.mem_cons_of_mem _ h)
        · rcases List.mem_cons.1 h with h | h
          · exact Or.inr (h ▸ List.mem_cons_self ..)
          · exact (ih h).imp id (List.mem_cons_of_mem _)

theorem pairwise_insertRow {key : Int} {a : α} {rows : List (Int × α)}
    (h : rows.Pairwise fun a b => a.1 < b.1) :
    (insertRow key a rows).Pairwise fun a b => a.1 < b.1 := by
  induction rows with
  | nil => simp [insertRow]
  | cons head rows ih =>
      obtain ⟨hhead, hrows⟩ := List.pairwise_cons.1 h
      simp only [insertRow]
      split
      · rename_i hlt
        refine List.pairwise_cons.2 ⟨fun row hrow => ?_, h⟩
        rcases List.mem_cons.1 hrow with rfl | hrow
        · exact hlt
        · exact Int.lt_trans hlt (hhead row hrow)
      · split
        · rename_i heq
          subst heq
          exact List.pairwise_cons.2 ⟨hhead, hrows⟩
        · refine List.pairwise_cons.2 ⟨fun row hrow => ?_, ih hrows⟩
          rcases mem_insertRow hrow with rfl | hrow
          · show head.1 < key
            omega
          · exact hhead row hrow

theorem lookup_insertRow (key : Int) (a : α) (rows : List (Int × α)) (other : Int) :
    (insertRow key a rows).lookup other = if other = key then some a else rows.lookup other := by
  induction rows with
  | nil => simp only [insertRow, lookup_cons_row]
  | cons head rows ih =>
      simp only [insertRow]
      split
      · simp only [lookup_cons_row]
      · split
        · rename_i heq
          simp only [lookup_cons_row, ← heq]
          by_cases h : other = key <;> simp [h]
        · rename_i hne
          simp only [lookup_cons_row, ih]
          by_cases hk : other = head.1
          · have : other ≠ key := fun h => hne (h.symm.trans hk)
            simp [hk, hk ▸ this]
          · simp [hk]

/-- **One write**: the row under a key, replacing the one that was there. -/
def insert (t : Table α) (key : Int) (a : α) : Table α :=
  ⟨insertRow key a t.rows, pairwise_insertRow t.ascending⟩

@[simp] theorem get?_empty (key : Int) : (empty : Table α).get? key = none := rfl

theorem get?_insert (t : Table α) (key : Int) (a : α) (other : Int) :
    (t.insert key a).get? other = if other = key then some a else t.get? other :=
  lookup_insertRow key a t.rows other

@[simp] theorem get?_insert_self (t : Table α) (key : Int) (a : α) :
    (t.insert key a).get? key = some a := by
  simp [get?_insert]

theorem get?_insert_of_ne {t : Table α} {key other : Int} {a : α} (h : other ≠ key) :
    (t.insert key a).get? other = t.get? other := by
  simp [get?_insert, h]

/-! ### Removing and selecting -/

/-- The table without the row under a key. -/
def erase (t : Table α) (key : Int) : Table α :=
  ⟨t.rows.filter (·.1 ≠ key), t.ascending.filter _⟩

/-- The rows with a property. -/
def filter (t : Table α) (p : α → Bool) : Table α :=
  ⟨t.rows.filter fun row => p row.2, t.ascending.filter _⟩

/-! ### Many writes -/

/-- **Many writes**: the rows of `upper` over those of `lower`. -/
def overlay (lower upper : Table α) : Table α :=
  upper.rows.foldl (fun t row => t.insert row.1 row.2) lower

/-- Whatever is written last under a key is found. -/
theorem get?_foldl_insert (rows : List (Int × α)) (t : Table α) (key : Int) :
    (rows.foldl (fun t row => t.insert row.1 row.2) t).get? key =
      (rows.reverse.lookup key).or (t.get? key) := by
  induction rows generalizing t with
  | nil => simp
  | cons row rows ih =>
      rw [List.foldl_cons, ih, List.reverse_cons, get?_insert, List.lookup_append,
        lookup_cons_row, List.lookup_nil]
      cases rows.reverse.lookup key with
      | some b => rfl
      | none => by_cases h : key = row.1 <;> simp [h]

/-- A key that is looked up in rows is the key of a row. -/
theorem mem_of_lookup_eq_some {rows : List (Int × α)} {key : Int} {a : α}
    (h : rows.lookup key = some a) : (key, a) ∈ rows := by
  induction rows with
  | nil => simp at h
  | cons row rows ih =>
      obtain ⟨k, b⟩ := row
      rw [List.lookup_cons] at h
      by_cases hk : key = k
      · subst hk
        simp only [beq_self_eq_true] at h
        obtain rfl := Option.some.inj h
        exact List.mem_cons_self ..
      · have : (key == k) = false := by simpa using hk
        rw [this] at h
        exact List.mem_cons_of_mem _ (ih h)

/-- A row with ascending keys is found under its key. -/
theorem lookup_eq_some_of_mem {rows : List (Int × α)} (hasc : rows.Pairwise fun a b => a.1 < b.1)
    {key : Int} {a : α} (h : (key, a) ∈ rows) : rows.lookup key = some a := by
  induction rows with
  | nil => simp at h
  | cons row rows ih =>
      obtain ⟨hrow, hrows⟩ := List.pairwise_cons.1 hasc
      obtain ⟨k, b⟩ := row
      rw [List.lookup_cons]
      rcases List.mem_cons.1 h with heq | h
      · obtain ⟨rfl, rfl⟩ := Prod.mk.inj heq
        simp
      · have : k < key := hrow _ h
        have hne : (key == k) = false := by
          simp only [beq_eq_false_iff_ne]
          omega
        rw [hne]
        exact ih hrows h

/-- A look-up is membership. -/
theorem get?_eq_some_iff {t : Table α} {key : Int} {a : α} :
    t.get? key = some a ↔ (key, a) ∈ t.rows :=
  ⟨mem_of_lookup_eq_some, lookup_eq_some_of_mem t.ascending⟩

/-- Looking from the end finds the same row, for the keys are distinct. -/
theorem lookup_reverse (t : Table α) (key : Int) :
    t.rows.reverse.lookup key = t.get? key := by
  cases h : t.get? key with
  | some a =>
      have hmem : (key, a) ∈ t.rows.reverse := by
        simpa using get?_eq_some_iff.1 h
      cases hr : t.rows.reverse.lookup key with
      | some b =>
          have hb : (key, b) ∈ t.rows := by simpa using mem_of_lookup_eq_some hr
          rw [← get?_eq_some_iff, h] at hb
          exact hb.symm
      | none =>
          rw [List.lookup_eq_none_iff] at hr
          exact absurd (hr _ hmem) (by simp)
  | none =>
      rw [List.lookup_eq_none_iff]
      intro row hrow
      have hrow : row ∈ t.rows := by simpa using hrow
      have := List.lookup_eq_none_iff.1 h row hrow
      exact this

/-- **An overlay answers from above first.** -/
theorem get?_overlay (lower upper : Table α) (key : Int) :
    (lower.overlay upper).get? key = (upper.get? key).or (lower.get? key) := by
  rw [overlay, get?_foldl_insert, lookup_reverse]

/-! ### Extensionality -/

theorem mem_rows_iff_of_get?_eq {s t : Table α} (h : ∀ key, s.get? key = t.get? key)
    (row : Int × α) : row ∈ s.rows ↔ row ∈ t.rows := by
  obtain ⟨key, a⟩ := row
  rw [← get?_eq_some_iff, ← get?_eq_some_iff, h]

/-- Rows in ascending order are determined by their membership. -/
theorem eq_of_mem_iff : ∀ {xs ys : List (Int × α)},
    xs.Pairwise (fun a b => a.1 < b.1) → ys.Pairwise (fun a b => a.1 < b.1) →
    (∀ row, row ∈ xs ↔ row ∈ ys) → xs = ys
  | [], [], _, _, _ => rfl
  | [], y :: _, _, _, h => absurd ((h y).2 (List.mem_cons_self ..)) (by simp)
  | x :: _, [], _, _, h => absurd ((h x).1 (List.mem_cons_self ..)) (by simp)
  | x :: xs, y :: ys, hx, hy, h => by
      obtain ⟨hx1, hx2⟩ := List.pairwise_cons.1 hx
      obtain ⟨hy1, hy2⟩ := List.pairwise_cons.1 hy
      have hxy : x = y := by
        rcases List.mem_cons.1 ((h x).1 (List.mem_cons_self ..)) with rfl | hmem
        · rfl
        · rcases List.mem_cons.1 ((h y).2 (List.mem_cons_self ..)) with heq | hmem'
          · exact heq.symm
          · exact absurd (Int.lt_trans (hy1 _ hmem) (hx1 _ hmem')) (Int.lt_irrefl _)
      subst hxy
      refine congrArg _ (eq_of_mem_iff hx2 hy2 fun row => ⟨fun hr => ?_, fun hr => ?_⟩)
      · rcases List.mem_cons.1 ((h row).1 (List.mem_cons_of_mem _ hr)) with rfl | hr'
        · exact absurd (hx1 _ hr) (Int.lt_irrefl _)
        · exact hr'
      · rcases List.mem_cons.1 ((h row).2 (List.mem_cons_of_mem _ hr)) with rfl | hr'
        · exact absurd (hy1 _ hr) (Int.lt_irrefl _)
        · exact hr'

/-- **Tables that answer every look-up alike are equal.** -/
theorem ext {s t : Table α} (h : ∀ key, s.get? key = t.get? key) : s = t := by
  have hrows := eq_of_mem_iff s.ascending t.ascending (mem_rows_iff_of_get?_eq h)
  cases s
  cases t
  simp only at hrows
  subst hrows
  rfl

/-! ### Rows and selections -/

/-- The rows are what the keys look up. -/
theorem mem_values {t : Table α} {a : α} : a ∈ t.values ↔ ∃ key, t.get? key = some a := by
  simp only [values, List.mem_map, get?_eq_some_iff]
  constructor
  · rintro ⟨⟨key, b⟩, hrow, rfl⟩
    exact ⟨key, hrow⟩
  · rintro ⟨key, hrow⟩
    exact ⟨(key, a), hrow, rfl⟩

/-- A selection answers with the rows that have the property. -/
theorem get?_filter (t : Table α) (p : α → Bool) (key : Int) :
    (t.filter p).get? key = (t.get? key).filter p := by
  refine Option.ext fun a => ?_
  rw [get?_eq_some_iff, Option.filter_eq_some_iff, get?_eq_some_iff]
  simp [filter]

/-- What is taken out is not found, and everything else is. -/
theorem get?_erase (t : Table α) (key other : Int) :
    (t.erase key).get? other = if other = key then none else t.get? other := by
  refine Option.ext fun a => ?_
  rw [get?_eq_some_iff]
  by_cases h : other = key
  · simp [erase, h]
  · simp [erase, h, get?_eq_some_iff]

/-- The rows changed, each under the key that it had. -/
def map {β : Type} (t : Table α) (f : α → β) : Table β :=
  ⟨t.rows.map fun row => (row.1, f row.2), List.pairwise_map.2 t.ascending⟩

/-- What is found among changed rows is the changed row. -/
theorem get?_map {β : Type} (t : Table α) (f : α → β) (key : Int) :
    (t.map f).get? key = (t.get? key).map f := by
  refine Option.ext fun b => ?_
  rw [get?_eq_some_iff, Option.map_eq_some_iff]
  simp only [map, List.mem_map, Prod.mk.injEq, Prod.exists, get?_eq_some_iff]
  constructor
  · rintro ⟨_, a, hrow, rfl, rfl⟩
    exact ⟨a, hrow, rfl⟩
  · rintro ⟨a, hrow, rfl⟩
    exact ⟨key, a, hrow, rfl, rfl⟩

/-- Changing the rows after a write is changing the row that is written. -/
theorem map_insert {β : Type} (t : Table α) (f : α → β) (key : Int) (a : α) :
    (t.insert key a).map f = (t.map f).insert key (f a) := by
  refine ext fun other => ?_
  rw [get?_map, get?_insert, get?_insert, get?_map]
  split <;> rfl

/-- Tables that agree on the rows with a property have the same selection. -/
theorem filter_congr {s t : Table α} {p : α → Bool}
    (h : ∀ key a, p a = true → (s.get? key = some a ↔ t.get? key = some a)) :
    s.filter p = t.filter p := by
  refine ext fun key => Option.ext fun a => ?_
  rw [get?_filter, get?_filter, Option.filter_eq_some_iff, Option.filter_eq_some_iff]
  exact and_congr_left fun hp => h key a hp

end Table

end QuizAttempts
