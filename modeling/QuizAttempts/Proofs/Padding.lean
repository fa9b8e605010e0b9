/-
**White space around a text.**

A text is what is left of it when white space is taken from its ends, with white space before and
after.  What is left begins and ends with something else, and the white space around it can be
anything without changing what is left.

Main definitions:

* `Blank` — nothing but white space;
* `Bare` — no white space at the ends.

Main results:

* `trim_padded` — **white space at the ends does not change what is left**;
* `bare_trim`, `Bare.trim_eq` — what is left is bare, and what is bare is left as it is;
* `exists_padding` — every text is what is left of it, padded.
-/
import Mathlib.Data.List.DropRight
import QuizAttempts.Text.Blank

set_option autoImplicit false

namespace QuizAttempts

/-- Nothing but white space. -/
def Blank (pad : List Char) : Prop := ∀ c ∈ pad, isBlank c = true

/-- The text neither begins nor ends with white space. -/
structure Bare (text : List Char) : Prop where
  start : ∀ c rest, text = c :: rest → isBlank c = false
  stop : ∀ c rest, text = rest ++ [c] → isBlank c = false

variable {text front back : List Char}

theorem trim_eq_rdropWhile (text : List Char) :
    trim text = (text.dropWhile isBlank).rdropWhile isBlank := rfl

theorem trim_of_blank (h : Blank text) : trim text = [] := by
  rw [trim_eq_rdropWhile, List.dropWhile_eq_nil_iff.2 h]
  rfl

/-! ### Padding -/

theorem trim_append_blank (hback : Blank back) (text : List Char) :
    trim (text ++ back) = trim text := by
  induction back using List.reverseRecOn with
  | nil => rw [List.append_nil]
  | append_singleton back c ih =>
      have hc : isBlank c = true := hback c (by simp)
      have hback' : Blank back := fun d hd => hback d (by simp [hd])
      rw [← ih hback', ← List.append_assoc, trim_eq_rdropWhile, trim_eq_rdropWhile,
        List.dropWhile_append]
      split
      · rename_i hnil
        rw [List.isEmpty_iff.1 hnil, List.dropWhile_cons_of_pos hc]
        rfl
      · exact List.rdropWhile_concat_pos _ _ _ hc

/-- **White space at the ends does not change what is left.** -/
theorem trim_padded (hfront : Blank front) (hback : Blank back) (text : List Char) :
    trim (front ++ text ++ back) = trim text := by
  rw [trim_append_blank hback, trim_eq_rdropWhile, List.dropWhile_append_of_pos hfront]
  rfl

/-- Every text is what is left of it, with white space before and after. -/
theorem exists_padding (text : List Char) :
    ∃ front back, Blank front ∧ Blank back ∧ text = front ++ trim text ++ back := by
  refine ⟨text.takeWhile isBlank, (text.dropWhile isBlank).rtakeWhile isBlank,
    fun c hc => List.mem_takeWhile_imp hc, fun c hc => List.mem_rtakeWhile_imp hc, ?_⟩
  rw [trim_eq_rdropWhile, List.append_assoc, List.rdropWhile_append_rtakeWhile,
    List.takeWhile_append_dropWhile]

/-! ### Bare texts -/

/-- **What is left is bare.** -/
theorem bare_trim (text : List Char) : Bare (trim text) := by
  refine ⟨fun c rest heq => ?_, fun c rest heq => ?_⟩
  · -- what is taken from the end of a text does not change how it begins
    obtain ⟨back, hback⟩ := List.rdropWhile_prefix isBlank (text.dropWhile isBlank)
    have hfirst := List.head?_dropWhile_not isBlank text
    rw [← hback, ← trim_eq_rdropWhile, heq] at hfirst
    exact hfirst
  · have hne : trim text ≠ [] := by simp [heq]
    have hlast := List.rdropWhile_last_not isBlank (text.dropWhile isBlank) hne
    simp only [← trim_eq_rdropWhile, heq, List.getLast_append_singleton] at hlast
    exact Bool.eq_false_iff.2 hlast

/-- What is bare is left as it is. -/
theorem Bare.trim_eq (h : Bare text) : trim text = text := by
  rcases List.eq_nil_or_concat text with rfl | ⟨front, last, rfl⟩
  · rfl
  have hlast : ¬ isBlank last = true :=
    Bool.eq_false_iff.1 (h.stop last front List.concat_eq_append)
  have hstart : (front.concat last).dropWhile isBlank = front.concat last := by
    cases hfront : front.concat last with
    | nil => rfl
    | cons first rest =>
        exact List.dropWhile_cons_of_neg (Bool.eq_false_iff.1 (h.start first rest hfront))
  rw [trim_eq_rdropWhile, hstart, List.concat_eq_append, List.rdropWhile_concat_neg _ _ _ hlast]

end QuizAttempts
