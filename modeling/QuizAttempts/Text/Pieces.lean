/-
**Texts in pieces.**

Marks cut a text into pieces.  There is one piece more than there are marks, and each of them may
be empty.

Main definitions:

* `pieces` — the pieces of a text.

Main results:

* `length_pieces` — **one piece more than marks**;
* `not_isMark_of_mem_pieces` — no mark is left in a piece.
-/
set_option autoImplicit false

namespace QuizAttempts

/-- **The pieces of a text between marks.** -/
def pieces (isMark : Char → Bool) : List Char → List (List Char)
  | [] => [[]]
  | c :: text =>
      if isMark c then [] :: pieces isMark text
      else
        match pieces isMark text with
        | piece :: rest => (c :: piece) :: rest
        | [] => [[c]]

@[simp] theorem pieces_nil (isMark : Char → Bool) : pieces isMark [] = [[]] := rfl

theorem pieces_cons_mark {isMark : Char → Bool} {c : Char} (h : isMark c = true)
    (text : List Char) : pieces isMark (c :: text) = [] :: pieces isMark text := by
  simp [pieces, h]

theorem length_pieces (isMark : Char → Bool) (text : List Char) :
    (pieces isMark text).length = text.countP isMark + 1 := by
  induction text with
  | nil => rfl
  | cons c text ih =>
      by_cases h : isMark c = true
      · simp [pieces, h, ih]
      · cases hp : pieces isMark text with
        | nil => simp [hp] at ih
        | cons piece rest => simpa [pieces, h, hp] using ih

theorem not_isMark_of_mem_pieces {isMark : Char → Bool} {text piece : List Char}
    (hp : piece ∈ pieces isMark text) : ∀ c ∈ piece, isMark c = false := by
  induction text generalizing piece with
  | nil => simp_all
  | cons d text ih =>
      by_cases h : isMark d = true
      · rw [pieces_cons_mark h] at hp
        rcases List.mem_cons.1 hp with rfl | hp
        · simp
        · exact ih hp
      · cases hs : pieces isMark text with
        | nil => simp_all [pieces]
        | cons first rest =>
            simp only [pieces, h, hs, Bool.false_eq_true, if_false] at hp
            rcases List.mem_cons.1 hp with rfl | hp
            · intro c hc
              rcases List.mem_cons.1 hc with rfl | hc
              · simpa using h
              · exact ih (by simp [hs]) c hc
            · exact ih (by simp [hs, hp])

end QuizAttempts
