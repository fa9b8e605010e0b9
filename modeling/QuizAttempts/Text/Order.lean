/-
**The order of texts.**

Texts are compared character by character, by code point; a text comes before its continuations.

Main definitions:

* `textLe` — one text is not behind another.

Main results:

* `textLe_total` — any two texts can be compared.
-/

set_option autoImplicit false

namespace QuizAttempts

/-- **One text is not behind another**, character by character. -/
def textLe : List Char → List Char → Bool
  | [], _ => true
  | _ :: _, [] => false
  | c :: s, d :: t => c.toNat < d.toNat || (c.toNat == d.toNat && textLe s t)

@[simp] theorem textLe_nil (t : List Char) : textLe [] t = true := rfl

theorem textLe_total (s t : List Char) : (textLe s t || textLe t s) = true := by
  induction s generalizing t with
  | nil => simp
  | cons c s ih =>
      cases t with
      | nil => simp [textLe]
      | cons d t =>
          have h := ih t
          simp only [textLe, Bool.or_eq_true, Bool.and_eq_true, decide_eq_true_eq,
            beq_iff_eq] at h ⊢
          rcases Nat.lt_trichotomy c.toNat d.toNat with hlt | heq | hgt
          · exact Or.inl (Or.inl hlt)
          · exact h.imp (fun hst => Or.inr ⟨heq, hst⟩) fun hts => Or.inr ⟨heq.symm, hts⟩
          · exact Or.inr (Or.inl hgt)

end QuizAttempts
