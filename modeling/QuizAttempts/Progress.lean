/-
**Which lessons are completed.**

An enrollment completes a lesson once; completing it again changes nothing.  What is completed is
a set of pairs of an enrollment and a lesson, kept in ascending order, so that sets with the same
members are the same value, however they came about.

Main definitions:

* `Progress` — completed lessons;
* `Progress.complete` — one more of them.

Main results:

* `Progress.mem_complete` — **a completed lesson is added to the others**;
* `Progress.ext` — sets with the same members are equal;
* `Progress.complete_comm` — the order in which lessons are completed does not show.
-/

set_option autoImplicit false

namespace QuizAttempts

/-- One pair comes before another. -/
def pairLt (p q : Int × Int) : Prop := p.1 < q.1 ∨ p.1 = q.1 ∧ p.2 < q.2

instance (p q : Int × Int) : Decidable (pairLt p q) := inferInstanceAs (Decidable (_ ∨ _))

theorem pairLt_trans {p q r : Int × Int} (hpq : pairLt p q) (hqr : pairLt q r) : pairLt p r := by
  simp only [pairLt] at *
  omega

theorem pairLt_irrefl (p : Int × Int) : ¬ pairLt p p := by
  simp [pairLt]

theorem eq_of_not_pairLt {p q : Int × Int} (hpq : ¬ pairLt p q) (hqp : ¬ pairLt q p) : p = q := by
  simp only [pairLt] at *
  exact Prod.ext (by omega) (by omega)

/-- Completed lessons: pairs of an enrollment and a lesson, in ascending order. -/
structure Progress where
  pairs : List (Int × Int)
  ascending : pairs.Pairwise pairLt
  deriving DecidableEq

namespace Progress

/-- Nothing is completed. -/
def empty : Progress := ⟨[], List.Pairwise.nil⟩

instance : EmptyCollection Progress := ⟨empty⟩

/-- The enrollment has completed the lesson. -/
instance : Membership (Int × Int) Progress := ⟨fun progress pair => pair ∈ progress.pairs⟩

@[simp] theorem mem_pairs {progress : Progress} {pair : Int × Int} :
    pair ∈ progress.pairs ↔ pair ∈ progress := Iff.rfl

@[simp] theorem not_mem_empty (pair : Int × Int) : ¬ pair ∈ empty := by
  simp [← mem_pairs, empty]

/-- Puts a pair into its place, unless it is there. -/
def insertPair (pair : Int × Int) : List (Int × Int) → List (Int × Int)
  | [] => [pair]
  | head :: pairs =>
      if pairLt pair head then pair :: head :: pairs
      else if pairLt head pair then head :: insertPair pair pairs
      else head :: pairs

theorem mem_insertPair {pair other : Int × Int} {pairs : List (Int × Int)} :
    other ∈ insertPair pair pairs ↔ other = pair ∨ other ∈ pairs := by
  induction pairs with
  | nil => simp [insertPair]
  | cons head pairs ih =>
      simp only [insertPair]
      split
      · simp
      · split
        · simp only [List.mem_cons, ih]
          exact or_left_comm
        · rename_i h1 h2
          obtain rfl := eq_of_not_pairLt h1 h2
          simp

theorem pairwise_insertPair {pair : Int × Int} {pairs : List (Int × Int)}
    (h : pairs.Pairwise pairLt) : (insertPair pair pairs).Pairwise pairLt := by
  induction pairs with
  | nil => simp [insertPair]
  | cons head pairs ih =>
      obtain ⟨hhead, hpairs⟩ := List.pairwise_cons.1 h
      simp only [insertPair]
      split
      · rename_i hlt
        refine List.pairwise_cons.2 ⟨fun other hother => ?_, h⟩
        rcases List.mem_cons.1 hother with rfl | hother
        · exact hlt
        · exact pairLt_trans hlt (hhead other hother)
      · split
        · rename_i hlt
          refine List.pairwise_cons.2 ⟨fun other hother => ?_, ih hpairs⟩
          rcases mem_insertPair.1 hother with rfl | hother
          · exact hlt
          · exact hhead other hother
        · exact h

/-- **One more completed lesson**, or the same set when it was completed before. -/
def complete (progress : Progress) (enrollment lesson : Int) : Progress :=
  ⟨insertPair (enrollment, lesson) progress.pairs, pairwise_insertPair progress.ascending⟩

@[simp] theorem mem_complete {progress : Progress} {enrollment lesson : Int} {pair : Int × Int} :
    pair ∈ progress.complete enrollment lesson ↔ pair = (enrollment, lesson) ∨ pair ∈ progress :=
  mem_insertPair

/-- Pairs in ascending order are determined by their membership. -/
theorem eq_of_mem_iff : ∀ {ps qs : List (Int × Int)}, ps.Pairwise pairLt → qs.Pairwise pairLt →
    (∀ pair, pair ∈ ps ↔ pair ∈ qs) → ps = qs
  | [], [], _, _, _ => rfl
  | [], q :: _, _, _, h => absurd ((h q).2 (List.mem_cons_self ..)) (by simp)
  | p :: _, [], _, _, h => absurd ((h p).1 (List.mem_cons_self ..)) (by simp)
  | p :: ps, q :: qs, hp, hq, h => by
      obtain ⟨hp1, hp2⟩ := List.pairwise_cons.1 hp
      obtain ⟨hq1, hq2⟩ := List.pairwise_cons.1 hq
      have hpq : p = q := by
        rcases List.mem_cons.1 ((h p).1 (List.mem_cons_self ..)) with rfl | hmem
        · rfl
        · rcases List.mem_cons.1 ((h q).2 (List.mem_cons_self ..)) with heq | hmem'
          · exact heq.symm
          · exact absurd (pairLt_trans (hq1 _ hmem) (hp1 _ hmem')) (pairLt_irrefl _)
      subst hpq
      refine congrArg _ (eq_of_mem_iff hp2 hq2 fun pair => ⟨fun hr => ?_, fun hr => ?_⟩)
      · rcases List.mem_cons.1 ((h pair).1 (List.mem_cons_of_mem _ hr)) with rfl | hr'
        · exact absurd (hp1 _ hr) (pairLt_irrefl _)
        · exact hr'
      · rcases List.mem_cons.1 ((h pair).2 (List.mem_cons_of_mem _ hr)) with rfl | hr'
        · exact absurd (hq1 _ hr) (pairLt_irrefl _)
        · exact hr'

/-- **Sets with the same members are equal.** -/
theorem ext {s t : Progress} (h : ∀ pair, pair ∈ s ↔ pair ∈ t) : s = t := by
  have hpairs := eq_of_mem_iff s.ascending t.ascending h
  cases s
  cases t
  simp only at hpairs
  subst hpairs
  rfl

/-- The order in which lessons are completed does not show. -/
theorem complete_comm (progress : Progress) (e l e' l' : Int) :
    (progress.complete e l).complete e' l' = (progress.complete e' l').complete e l :=
  ext fun pair => by
    simp only [mem_complete]
    exact or_left_comm

end Progress

end QuizAttempts
