/-
**Which texts are right: the key, retouched.**

A text is compared with a key when white space has been taken from the ends of both and both have
been lower-cased.  The two do not get in each other's way, although how a letter is lower-cased may
depend on its neighbours and a letter may become two.  So a text may be padded with white space or
lower-cased without becoming right or wrong; and the texts that are right are those that come from
the key by such changes, made and undone.

Main definitions:

* `compared` — what is compared of a text;
* `Retouched` — **one change that does not matter**;
* `SubmittedAnswer.withText` — an answer that gives the text.

Main results:

* `compared_padded`, `compared_lowered` — what is compared does not change;
* `compared_eq_iff` — **texts are compared up to retouching**;
* `QuestionKind.credited_up_to_retouching` — the right texts are the key, retouched.
-/
import Mathlib.Logic.Relation
import QuizAttempts.Grading
import QuizAttempts.Proofs.Folding

set_option autoImplicit false

namespace QuizAttempts

/-! ### What is compared -/

/-- **What is compared of a text**: it is lower-cased, without the white space at its ends. -/
def compared (text : List Char) : List Char := lowercase (trim text)

theorem sameAnswer_iff {given expected : String} :
    sameAnswer given expected = true ↔ compared given.toList = compared expected.toList := by
  rw [sameAnswer, beq_iff_eq]
  rfl

theorem compared_padded {front back : List Char} (hfront : Blank front) (hback : Blank back)
    (text : List Char) : compared (front ++ text ++ back) = compared text := by
  rw [compared, trim_padded hfront hback, compared]

theorem compared_lowered (text : List Char) : compared (lowercase text) = compared text := by
  rw [compared, trim_lowercase, lowercase_lowercase, compared]

/-! ### Retouching -/

/-- **One change that does not matter**: white space is put before and after a text, or the text is
lower-cased. -/
inductive Retouched (text : String) : String → Prop
  | padded {front back : List Char} (hfront : Blank front) (hback : Blank back) :
      Retouched text (String.ofList (front ++ text.toList ++ back))
  | lowered : Retouched text (String.ofList (lowercase text.toList))

theorem Retouched.compared_eq {text other : String} (h : Retouched text other) :
    compared other.toList = compared text.toList := by
  cases h with
  | padded hfront hback => rw [String.toList_ofList, compared_padded hfront hback]
  | lowered => rw [String.toList_ofList, compared_lowered]

/-- A text becomes what is compared of it: white space is taken from its ends, and the rest is
lower-cased. -/
theorem retouched_compared (text : String) :
    Relation.EqvGen Retouched text (String.ofList (compared text.toList)) := by
  obtain ⟨front, back, hfront, hback, heq⟩ := exists_padding text.toList
  have hpadded : Retouched (String.ofList (trim text.toList)) text := by
    have h : Retouched (String.ofList (trim text.toList)) _ := .padded hfront hback
    rwa [String.toList_ofList, ← heq, String.ofList_toList] at h
  have hlowered : Retouched (String.ofList (trim text.toList))
      (String.ofList (compared text.toList)) := by
    have h : Retouched (String.ofList (trim text.toList)) _ := .lowered
    rwa [String.toList_ofList] at h
  exact .trans _ _ _ (.symm _ _ (.rel _ _ hpadded)) (.rel _ _ hlowered)

/-- **Texts are compared up to retouching.** -/
theorem compared_eq_iff {text other : String} :
    compared text.toList = compared other.toList ↔ Relation.EqvGen Retouched text other := by
  constructor
  · intro heq
    have hother := retouched_compared other
    rw [← heq] at hother
    exact .trans _ _ _ (retouched_compared text) (.symm _ _ hother)
  · intro h
    induction h with
    | rel text other h => exact h.compared_eq.symm
    | refl text => rfl
    | symm text other _ ih => exact ih.symm
    | trans text mid other _ _ ih ih' => exact ih.trans ih'

/-! ### Right and wrong -/

/-- The answer with the text, whatever text it gave before. -/
def SubmittedAnswer.withText (answer : SubmittedAnswer) (text : String) : SubmittedAnswer :=
  { answer with answerText := some text }

/-- The text of an answer is right when what is compared of it is what is compared of the key. -/
theorem QuestionKind.credits_text_iff {kind : QuestionKind} {key : String}
    (hkind : kind = .trueFalse (some key) ∨ kind = .shortAnswer (some key))
    (answer : SubmittedAnswer) (text : String) :
    kind.credits (some (answer.withText text)) = true ↔
      compared text.toList = compared key.toList := by
  rcases hkind with rfl | rfl <;> exact sameAnswer_iff

/-- **The right texts are the key, retouched.**  Let a question ask for a text, and have a key.
Then a text is as right as it is with white space of any kind before and after it, and as right as
it is when it is lower-cased; and a text is right exactly when it comes from the key by such
changes, made and undone. -/
theorem QuestionKind.credited_up_to_retouching {kind : QuestionKind} {key : String}
    (hkind : kind = .trueFalse (some key) ∨ kind = .shortAnswer (some key))
    (answer : SubmittedAnswer) (text : String) :
    (∀ front back, Blank front → Blank back →
      kind.credits (some (answer.withText (String.ofList (front ++ text.toList ++ back)))) =
        kind.credits (some (answer.withText text))) ∧
    kind.credits (some (answer.withText (String.ofList (lowercase text.toList)))) =
      kind.credits (some (answer.withText text)) ∧
    (kind.credits (some (answer.withText text)) = true ↔ Relation.EqvGen Retouched key text) := by
  refine ⟨fun front back hfront hback => ?_, ?_, ?_⟩
  · rw [Bool.eq_iff_iff, credits_text_iff hkind, credits_text_iff hkind, String.toList_ofList,
      compared_padded hfront hback]
  · rw [Bool.eq_iff_iff, credits_text_iff hkind, credits_text_iff hkind, String.toList_ofList,
      compared_lowered]
  · rw [credits_text_iff hkind, eq_comm, compared_eq_iff]

/-- A key in capitals, with a dotted I, which becomes two characters, and a sigma, which is final.
It is right without the white space at its end, in small letters, and between other white space. -/
theorem QuestionKind.credited_up_to_retouching_dottedCapital :
    let kind : QuestionKind := .shortAnswer (some "İΔΟΣ ")
    let answer : SubmittedAnswer := ⟨1, none, none⟩
    Blank ['\u3000'] ∧ Blank ['\n'] ∧ kind.credits (some (answer.withText "İΔΟΣ")) = true ∧
      String.ofList (lowercase "İΔΟΣ".toList) = "i\u0307δος" ∧
      kind.credits (some (answer.withText "i\u0307δος")) = true ∧
      kind.credits (some (answer.withText "\u3000İΔΟΣ\n")) = true ∧
      Relation.EqvGen Retouched "İΔΟΣ " "İΔΟΣ" := by
  intro kind answer
  have hfront : Blank ['\u3000'] := by simp [Blank, isBlank]
  have hback : Blank ['\n'] := by simp [Blank, isBlank]
  have hright : kind.credits (some (answer.withText "İΔΟΣ")) = true := by decide +kernel
  have hlower : String.ofList (lowercase "İΔΟΣ".toList) = "i\u0307δος" := by decide +kernel
  obtain ⟨hpadded, hlowered, hcomes⟩ :=
    credited_up_to_retouching (Or.inr rfl : kind = .trueFalse (some "İΔΟΣ ") ∨ _) answer "İΔΟΣ"
  refine ⟨hfront, hback, hright, hlower, ?_, ?_, hcomes.1 hright⟩
  · rw [← hlower, hlowered, hright]
  · have h := hpadded _ _ hfront hback
    rw [hright] at h
    exact h

end QuizAttempts
