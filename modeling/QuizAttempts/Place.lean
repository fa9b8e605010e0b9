/-
**The order of questions.**

A question has a place: an order index, and its identifier to settle ties.  Questions are shown,
graded and listed by their places; questions that share a place stay in the order in which they
are stored. Taking, storing and grading sort on their own, so the sort is defined once, over any
kind of row that has a place, and sorting what is already sorted changes nothing.

Main definitions:

* `placeLe` — the lexicographic order of places;
* `inPlace` — a list sorted by places, stably.

Main results:

* `placeLe_trans`, `placeLe_total` — the order is total;
* `inPlace_perm` — sorting loses and invents nothing;
* `inPlace_inPlace` — **sorting twice is sorting once**;
* `filter_inPlace` — **rows that share a place keep their order**;
* `eq_inPlace` — so there is one way to sort a list;
* `map_inPlace` — changing rows without moving them.
-/

set_option autoImplicit false

namespace QuizAttempts

/-- A place is not behind another. -/
def placeLe (p q : Int × Int) : Bool := p.1 < q.1 || (p.1 == q.1 && p.2 ≤ q.2)

theorem placeLe_iff {p q : Int × Int} :
    placeLe p q = true ↔ p.1 < q.1 ∨ p.1 = q.1 ∧ p.2 ≤ q.2 := by
  simp [placeLe]

theorem placeLe_trans {p q r : Int × Int} (hpq : placeLe p q = true) (hqr : placeLe q r = true) :
    placeLe p r = true := by
  rw [placeLe_iff] at *
  omega

theorem placeLe_antisymm {p q : Int × Int} (hpq : placeLe p q = true) (hqp : placeLe q p = true) :
    p = q := by
  rw [placeLe_iff] at hpq hqp
  exact Prod.ext (by omega) (by omega)

theorem placeLe_total (p q : Int × Int) : (placeLe p q || placeLe q p) = true := by
  rw [Bool.or_eq_true, placeLe_iff, placeLe_iff]
  omega

/-- **A list sorted by places**; rows that share a place keep their order. -/
def inPlace {α : Type} (place : α → Int × Int) (rows : List α) : List α :=
  rows.mergeSort fun a b => placeLe (place a) (place b)

theorem inPlace_perm {α : Type} (place : α → Int × Int) (rows : List α) :
    (inPlace place rows).Perm rows :=
  List.mergeSort_perm _ _

@[simp] theorem mem_inPlace {α : Type} {place : α → Int × Int} {rows : List α} {a : α} :
    a ∈ inPlace place rows ↔ a ∈ rows :=
  (inPlace_perm place rows).mem_iff

theorem pairwise_inPlace {α : Type} (place : α → Int × Int) (rows : List α) :
    (inPlace place rows).Pairwise fun a b => placeLe (place a) (place b) = true :=
  List.pairwise_mergeSort (fun a b c hab hbc =>
    placeLe_trans (p := place a) (q := place b) (r := place c) hab hbc)
    (fun a b => placeLe_total (place a) (place b)) rows

/-- **Sorting twice is sorting once.** -/
theorem inPlace_inPlace {α : Type} (place : α → Int × Int) (rows : List α) :
    inPlace place (inPlace place rows) = inPlace place rows :=
  List.mergeSort_of_pairwise (pairwise_inPlace place rows)

/-- **Rows that share a place keep their order.** -/
theorem filter_inPlace {α : Type} (place : α → Int × Int) (rows : List α) (p : Int × Int) :
    (inPlace place rows).filter (fun a => place a = p) = rows.filter fun a => place a = p := by
  have hshared : (rows.filter fun a => place a = p).Pairwise fun a b =>
      placeLe (place a) (place b) = true := by
    refine List.pairwise_of_forall_mem_list fun a ha b hb => ?_
    obtain rfl : place a = p := by simpa using (List.mem_filter.1 ha).2
    have hb : place b = place a := by simpa using (List.mem_filter.1 hb).2
    rw [hb]
    simpa using placeLe_total (place a) (place a)
  have hkept : (rows.filter fun a => place a = p).Sublist (inPlace place rows) :=
    List.sublist_mergeSort (fun a b c hab hbc =>
      placeLe_trans (p := place a) (q := place b) (r := place c) hab hbc)
      (fun a b => placeLe_total (place a) (place b)) hshared List.filter_sublist
  have hsub := hkept.filter fun a => place a = p
  rw [List.filter_filter] at hsub
  simp only [Bool.and_self] at hsub
  exact (hsub.eq_of_length ((inPlace_perm place rows).filter _).length_eq.symm).symm

/-- Two lists in ascending order are equal if they have the same rows at every place, in the same
order. -/
theorem eq_of_filter_place {α : Type} {place : α → Int × Int} : ∀ {rows other : List α},
    rows.Pairwise (fun a b => placeLe (place a) (place b) = true) →
    other.Pairwise (fun a b => placeLe (place a) (place b) = true) →
    (∀ p, rows.filter (fun a => place a = p) = other.filter fun a => place a = p) → rows = other
  | [], [], _, _, _ => rfl
  | [], b :: other, _, _, h => by simpa using h (place b)
  | a :: rows, [], _, _, h => by simpa using h (place a)
  | a :: rows, b :: other, hrows, hother, h => by
      have hb : b ∈ (a :: rows).filter fun c => place c = place b := by simp [h (place b)]
      have ha : a ∈ (b :: other).filter fun c => place c = place a := by simp [← h (place a)]
      -- each head is a row of the other list, so neither place is behind the other
      have hplace : place a = place b := by
        rcases List.mem_cons.1 (List.mem_filter.1 ha).1 with rfl | hmem
        · rfl
        · rcases List.mem_cons.1 (List.mem_filter.1 hb).1 with rfl | hmem'
          · rfl
          · exact placeLe_antisymm ((List.pairwise_cons.1 hrows).1 b hmem')
              ((List.pairwise_cons.1 hother).1 a hmem)
      have hheads := h (place b)
      simp only [List.filter_cons, hplace, decide_true, if_true, List.cons.injEq] at hheads
      obtain ⟨rfl, hrest⟩ := hheads
      refine congrArg _ (eq_of_filter_place (List.pairwise_cons.1 hrows).2
        (List.pairwise_cons.1 hother).2 fun p => ?_)
      by_cases hp : place a = p
      · rw [← hp]
        exact hrest
      · simpa [List.filter_cons, hp] using h p

/-- **There is one way to sort a list** that leaves rows that share a place in their order. -/
theorem eq_inPlace {α : Type} {place : α → Int × Int} {rows other : List α}
    (hascending : other.Pairwise fun a b => placeLe (place a) (place b) = true)
    (hstable : ∀ p, other.filter (fun a => place a = p) = rows.filter fun a => place a = p) :
    other = inPlace place rows := by
  refine eq_of_filter_place hascending (pairwise_inPlace place rows) fun p => ?_
  rw [hstable p, filter_inPlace]

/-- **What leaves the places alone** may be done before sorting or after. -/
theorem map_inPlace {α β : Type} {place : α → Int × Int} {place' : β → Int × Int} {f : α → β}
    (h : ∀ a, place' (f a) = place a) (rows : List α) :
    (inPlace place rows).map f = inPlace place' (rows.map f) :=
  List.map_mergeSort fun a _ b _ => by rw [h a, h b]

end QuizAttempts
