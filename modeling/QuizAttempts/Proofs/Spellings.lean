/-
**True or false: grading by what the texts denote.**

A true-or-false question is checked in one way and graded in another.  The key and an answer are
accepted when they are one of two words without the white space around them and up to the case of
ASCII letters; an answer is right when it is the key after both have been lower-cased in full
Unicode.  The second comparison looks at every letter there is, and some letter from elsewhere might
well become one of these words.  None does: each letter of the two words is the lower-case form of
itself and of its ASCII capital, and of nothing else.  So what is compared are the booleans that the
texts denote.

Main definitions:

* `truthWord` — the word for a boolean;
* `InEitherCase` — a letter, small or capital;
* `Denotes`, `Says` — **the text denotes a boolean**;
* `Question.Admits` — an answer to the question that was accepted.

Main results:

* `inEitherCase_of_mem_between` — nothing else becomes a letter of the two words;
* `lowercaseAfter_eq_iff`, `map_lowerAscii_eq_iff` — a text becomes one of the words when it is that
  word, each letter small or capital, in whatever way it is lower-cased;
* `denotes_iff_compared`, `denotes_iff_truth?` — both comparisons are about what a text denotes;
* `Question.graded_by_truth` — **a true-or-false question is graded by booleans**.
-/
import QuizAttempts.Proofs.Retouching
import QuizAttempts.Proofs.Solutions

set_option autoImplicit false

namespace QuizAttempts

/-! ### What a text denotes -/

/-- The word for a boolean. -/
def truthWord : Bool → List Char
  | true => ['t', 'r', 'u', 'e']
  | false => ['f', 'a', 'l', 's', 'e']

/-- The letter, small as it is given or capital. -/
def InEitherCase (small c : Char) : Prop := c = small ∨ c = Char.ofNat (small.toNat - 32)

/-- **The text denotes a boolean**: it is the word for it, each letter small or capital, with white
space of any kind before and after. -/
def Denotes (text : String) (b : Bool) : Prop :=
  ∃ front word back, Blank front ∧ Blank back ∧ text.toList = front ++ word ++ back ∧
    List.Forall₂ InEitherCase (truthWord b) word

/-- A text that may be absent is there and denotes a boolean. -/
def Says (text : Option String) (b : Bool) : Prop :=
  ∃ written, text = some written ∧ Denotes written b

/-! ### One letter -/

/-- The letters of the two words. -/
def truthLetters : List Char := ['t', 'r', 'u', 'e', 'f', 'a', 'l', 's']

theorem mem_truthLetters {b : Bool} {d : Char} (h : d ∈ truthWord b) : d ∈ truthLetters := by
  have hall : ∀ b, (truthWord b).all (truthLetters.contains ·) = true := by decide
  simpa using List.all_eq_true.1 (hall b) d h

theorem truthWord_inj {b b' : Bool} : truthWord b = truthWord b' ↔ b = b' := by
  cases b <;> cases b' <;> simp [truthWord]

variable {c d : Char} {before after text word : List Char} {b : Bool}

/-- The small letter and the capital are lower-cased to the small one, in either way, and neither is
white space. -/
theorem lowered_of_inEitherCase (hd : d ∈ truthLetters) (h : InEitherCase d c) :
    (∀ before after, lowercaseBetween before c after = [d]) ∧ lowerAscii c = d ∧
      isBlank c = false := by
  have hall : truthLetters.all (fun d => [d, Char.ofNat (d.toNat - 32)].all fun c =>
      c != 'Σ' && lowercaseChar c == [d] && lowerAscii c == d && !isBlank c) = true := by
    decide +kernel
  have hc : c ∈ [d, Char.ofNat (d.toNat - 32)] := List.mem_pair.2 h
  have hlowered := List.all_eq_true.1 (List.all_eq_true.1 hall d hd) c hc
  simp only [Bool.and_eq_true, bne_iff_ne, beq_iff_eq, Bool.not_eq_true'] at hlowered
  obtain ⟨⟨⟨hsigma, hchar⟩, hascii⟩, hblank⟩ := hlowered
  refine ⟨fun before after => ?_, hascii, hblank⟩
  rw [lowercaseBetween, if_neg hsigma, hchar]

/-- A character that stands for a code point has it, unless it is the one that stands for what is
none. -/
theorem toNat_of_eq_ofNat {n : Nat} (h : d = Char.ofNat n) (hd : d ≠ '\x00') : d.toNat = n := by
  by_cases hchar : n.isValidChar
  · rw [Char.ofNat, dif_pos hchar] at h
    rw [h]
    rfl
  · rw [Char.ofNat, dif_neg hchar] at h
    exact absurd h hd

/-- **Nothing else becomes a letter of the two words** when a text is lower-cased. -/
theorem inEitherCase_of_mem_between (hd : d ∈ truthLetters)
    (h : d ∈ lowercaseBetween before c after) : InEitherCase d c := by
  rcases mem_lowercaseBetween h with hspecial | ⟨-, heq⟩
  · have hapart : specialForms.all (! truthLetters.contains ·) = true := by decide
    have hnot := List.all_eq_true.1 hapart d hspecial
    simp [hd] at hnot
  · have hzero : d ≠ '\x00' := by
      rintro rfl
      exact absurd hd (by decide)
    have hletter := toNat_of_eq_ofNat heq hzero
    rcases lowercasePoint_cases c.toNat with ⟨run, hmem, hcovers, hpoint⟩ | ⟨-, hpoint⟩
    · have hruns : lowercaseRuns.all (fun run => run.distance == 32 ||
          truthLetters.all fun d => apart run.lowered (d.toNat, d.toNat)) = true := by
        decide +kernel
      have hrun := List.all_eq_true.1 hruns run hmem
      simp only [Bool.or_eq_true, beq_iff_eq] at hrun
      rcases hrun with hdistance | hapart
      · -- as far apart as the two cases of a letter in ASCII
        have hcapital : d.toNat - 32 = c.toNat := by omega
        refine Or.inr ?_
        rw [hcapital, Char.ofNat_toNat]
      · -- the lower-case forms of any other run are elsewhere
        obtain ⟨hlow, hhigh⟩ := CaseRun.lowered_bounds hcovers
        have hd' := apart_iff.1 (List.all_eq_true.1 hapart d hd)
        omega
    · rw [hpoint, Char.ofNat_toNat] at heq
      exact Or.inl heq.symm

/-- The same of lower-casing in ASCII. -/
theorem lowerAscii_eq_iff (hd : d ∈ truthLetters) : lowerAscii c = d ↔ InEitherCase d c := by
  refine ⟨fun h => ?_, fun h => (lowered_of_inEitherCase hd h).2.1⟩
  rw [lowerAscii] at h
  split at h
  · have hzero : d ≠ '\x00' := by
      rintro rfl
      exact absurd hd (by decide)
    have hletter := toNat_of_eq_ofNat h.symm hzero
    have hcapital : d.toNat - 32 = c.toNat := by omega
    refine Or.inr ?_
    rw [hcapital, Char.ofNat_toNat]
  · exact Or.inl h

/-! ### A word -/

/-- **A text is lower-cased to one of the two words** when it is that word, each letter small or
capital. -/
theorem lowercaseAfter_eq_iff (hword : ∀ d ∈ word, d ∈ truthLetters) (before text : List Char) :
    lowercaseAfter before text = word ↔ List.Forall₂ InEitherCase word text := by
  induction text generalizing before word with
  | nil => simp [eq_comm]
  | cons c text ih =>
      rw [lowercaseAfter_cons, List.forall₂_cons_right_iff]
      constructor
      · intro heq
        obtain ⟨d, others, hfirst⟩ :=
          List.exists_cons_of_ne_nil (lowercaseBetween_ne_nil before c text)
        have hmem : d ∈ lowercaseBetween before c text := hfirst ▸ List.mem_cons_self
        rw [hfirst, List.cons_append] at heq
        subst heq
        obtain ⟨hd, hothers⟩ := List.forall_mem_cons.1 hword
        have hcase := inEitherCase_of_mem_between hd hmem
        rw [(lowered_of_inEitherCase hd hcase).1, List.cons.injEq] at hfirst
        obtain ⟨-, rfl⟩ := hfirst
        exact ⟨d, lowercaseAfter (c :: before) text, hcase, (ih hothers _).1 rfl, rfl⟩
      · rintro ⟨d, others, hcase, hrest, rfl⟩
        obtain ⟨hd, hothers⟩ := List.forall_mem_cons.1 hword
        rw [(lowered_of_inEitherCase hd hcase).1, (ih hothers _).2 hrest, List.singleton_append]

/-- The same of lower-casing in ASCII. -/
theorem map_lowerAscii_eq_iff (hword : ∀ d ∈ word, d ∈ truthLetters) (text : List Char) :
    text.map lowerAscii = word ↔ List.Forall₂ InEitherCase word text := by
  induction text generalizing word with
  | nil => simp [eq_comm]
  | cons c text ih =>
      rw [List.map_cons, List.forall₂_cons_right_iff]
      constructor
      · rintro rfl
        obtain ⟨hd, hothers⟩ := List.forall_mem_cons.1 hword
        exact ⟨_, _, (lowerAscii_eq_iff hd).1 rfl, (ih hothers).1 rfl, rfl⟩
      · rintro ⟨d, others, hcase, hrest, rfl⟩
        obtain ⟨hd, hothers⟩ := List.forall_mem_cons.1 hword
        rw [(lowerAscii_eq_iff hd).2 hcase, (ih hothers).2 hrest]

/-- What is one of the two words has no white space in it. -/
theorem isBlank_of_forall₂ (hword : ∀ d ∈ word, d ∈ truthLetters)
    (h : List.Forall₂ InEitherCase word text) : ∀ c ∈ text, isBlank c = false := by
  induction h with
  | nil => simp
  | cons hcase _ ih =>
      obtain ⟨hd, hothers⟩ := List.forall_mem_cons.1 hword
      exact List.forall_mem_cons.2 ⟨(lowered_of_inEitherCase hd hcase).2.2, ih hothers⟩

theorem Bare.of_forall (h : ∀ c ∈ text, isBlank c = false) : Bare text :=
  ⟨fun c _ heq => h c (by simp [heq]), fun c _ heq => h c (by simp [heq])⟩

/-! ### Both comparisons -/

/-- A text denotes a boolean by what is left of it without the white space at its ends. -/
theorem denotes_iff {text : String} :
    Denotes text b ↔ List.Forall₂ InEitherCase (truthWord b) (trim text.toList) := by
  constructor
  · rintro ⟨front, word, back, hfront, hback, heq, hword⟩
    rw [heq, trim_padded hfront hback,
      (Bare.of_forall (isBlank_of_forall₂ (fun _ => mem_truthLetters) hword)).trim_eq]
    exact hword
  · intro hword
    obtain ⟨front, back, hfront, hback, heq⟩ := exists_padding text.toList
    exact ⟨front, _, back, hfront, hback, heq, hword⟩

/-- **What is compared of a text** when it is graded is the word for a boolean exactly when the text
denotes it. -/
theorem denotes_iff_compared {text : String} :
    Denotes text b ↔ compared text.toList = truthWord b := by
  rw [denotes_iff, compared, lowercase, lowercaseAfter_eq_iff fun _ => mem_truthLetters]

theorem sameLetters_truthWord_iff :
    sameLetters text (truthWord b) = true ↔ List.Forall₂ InEitherCase (truthWord b) text := by
  have hsmall : (truthWord b).map lowerAscii = truthWord b := by cases b <;> decide
  rw [sameLetters, beq_iff_eq, hsmall, map_lowerAscii_eq_iff fun _ => mem_truthLetters]

/-- A text denotes at most one boolean. -/
theorem Denotes.unique {text : String} {b' : Bool} (h : Denotes text b) (h' : Denotes text b') :
    b = b' := by
  rw [denotes_iff_compared] at h h'
  exact truthWord_inj.1 (h.symm.trans h')

/-- **What is accepted** is what denotes a boolean, and it is taken for the one that it denotes. -/
theorem denotes_iff_truth? {text : String} : Denotes text b ↔ truth? text.toList = some b := by
  have htrue : sameLetters (trim text.toList) "true".toList = true ↔ Denotes text true := by
    rw [denotes_iff, ← sameLetters_truthWord_iff]
    rfl
  have hfalse : sameLetters (trim text.toList) "false".toList = true ↔ Denotes text false := by
    rw [denotes_iff, ← sameLetters_truthWord_iff]
    rfl
  by_cases hT : Denotes text true
  · rw [truth?, if_pos (htrue.2 hT), Option.some.injEq]
    exact ⟨hT.unique, fun h => h ▸ hT⟩
  · rw [truth?, if_neg (mt htrue.1 hT)]
    by_cases hF : Denotes text false
    · rw [if_pos (hfalse.2 hF), Option.some.injEq]
      exact ⟨hF.unique, fun h => h ▸ hF⟩
    · rw [if_neg (mt hfalse.1 hF)]
      cases b <;> simp [hT, hF]

theorem exists_denotes_iff {text : String} :
    (truth? text.toList).isSome = true ↔ ∃ b, Denotes text b := by
  simp only [denotes_iff_truth?, Option.isSome_iff_exists]

theorem Says.unique {given : Option String} {b' : Bool} (h : Says given b) (h' : Says given b') :
    b = b' := by
  obtain ⟨written, rfl, hb⟩ := h
  obtain ⟨other, heq, hb'⟩ := h'
  obtain rfl := Option.some.inj heq
  exact hb.unique hb'

/-! ### Right and wrong -/

/-- **The answer is admitted to the question**: it is part of a submission that is accepted for a
quiz, and the question is the one that the quiz has under the identifier in the answer. -/
def Question.Admits (q : Question) (answer : SubmittedAnswer) : Prop :=
  ∃ (quiz : Quiz) (answers : List SubmittedAnswer) (index : AnswerIndex),
    quiz.indexAnswers answers = .ok index ∧ answer ∈ answers ∧
      quiz.question? answer.questionId = some q

theorem Question.Admits.fits {q : Question} {answer : SubmittedAnswer} (h : q.Admits answer) :
    q.kind.Fits answer := by
  obtain ⟨quiz, answers, index, hindex, hmem, hquestion⟩ := h
  obtain ⟨other, hother, hfits⟩ :=
    (Quiz.indexAnswers_eq_ok_iff.1 ⟨index, hindex⟩).suitable answer hmem
  obtain rfl := Option.some.inj (hquestion.symm.trans hother)
  exact hfits

namespace QuestionKind

variable {key : Option String} {answer : SubmittedAnswer}

/-- A key that was checked denotes a boolean. -/
theorem exists_says_of_check (h : (trueFalse key).check = .ok ()) : ∃ b, Says key b := by
  obtain ⟨text, rfl, htruth⟩ := exists_truth_of_check h
  obtain ⟨b, hb⟩ := exists_denotes_iff.1 htruth
  exact ⟨b, text, rfl, hb⟩

/-- So does an answer of the right form. -/
theorem Fits.exists_says (h : (trueFalse key).Fits answer) : ∃ b, Says answer.answerText b := by
  obtain ⟨-, text, htext, htruth⟩ := h
  obtain ⟨b, hb⟩ := exists_denotes_iff.1 (isSome_truth?_iff.2 htruth)
  exact ⟨b, text, htext, hb⟩

/-- **An answer is credited when it says what the key says.** -/
theorem credits_iff_says (hkey : Says key b) :
    (trueFalse key).credits (some answer) = true ↔ Says answer.answerText b := by
  obtain ⟨written, rfl, hb⟩ := hkey
  rw [denotes_iff_compared] at hb
  show matchesKey answer.answerText (some written) = true ↔ _
  cases htext : answer.answerText with
  | none => simp [matchesKey, Says]
  | some text =>
      show sameAnswer text written = true ↔ _
      rw [sameAnswer_iff, hb, ← denotes_iff_compared]
      simp [Says]

end QuestionKind

/-- **A true-or-false question is graded by booleans.**  Let the question have passed its check.
Then its key denotes one boolean, and so does every answer that is admitted to it.  An answer is
credited exactly when the key and its text denote the same boolean, and of two that are admitted and
denote different ones, one is credited and the other is not. -/
theorem Question.graded_by_truth {q : Question} {key : Option String}
    (hkind : q.kind = .trueFalse key) (hcheck : q.check = .ok ()) :
    (∃! b, Says key b) ∧ (∀ answer, q.Admits answer → ∃! b, Says answer.answerText b) ∧
    (∀ answer, q.kind.credits (some answer) = true ↔
      ∃ b, Says key b ∧ Says answer.answerText b) ∧
    ∀ answer other b b', q.Admits answer → q.Admits other → Says answer.answerText b →
      Says other.answerText b' → b ≠ b' →
        q.kind.credits (some other) = !q.kind.credits (some answer) := by
  have hkindCheck := (Question.check_eq_ok.1 hcheck).2
  rw [hkind] at hkindCheck ⊢
  obtain ⟨k, hk⟩ := QuestionKind.exists_says_of_check hkindCheck
  refine ⟨⟨k, hk, fun b hb => hb.unique hk⟩, fun answer hadmits => ?_, fun answer => ?_,
    fun answer other b b' _ _ hb hb' hne => ?_⟩
  · have hfits := hadmits.fits
    rw [hkind] at hfits
    obtain ⟨b, hb⟩ := hfits.exists_says
    exact ⟨b, hb, fun b' hb' => hb'.unique hb⟩
  · rw [QuestionKind.credits_iff_says hk]
    constructor
    · exact fun h => ⟨k, hk, h⟩
    · rintro ⟨b, hb, h⟩
      exact hk.unique hb ▸ h
  · -- there are two booleans, and the key denotes one of those of the answers
    have hother : k = b' ↔ ¬ k = b := by cases k <;> cases b <;> cases b' <;> simp at hne ⊢
    have hcredited : ∀ (answer : SubmittedAnswer) (b : Bool), Says answer.answerText b →
        ((QuestionKind.trueFalse key).credits (some answer) = true ↔ k = b) := by
      intro answer b hb
      rw [QuestionKind.credits_iff_says hk]
      exact ⟨fun h => h.unique hb, fun h => h ▸ hb⟩
    rw [Bool.eq_iff_iff, hcredited other b' hb', hother, ← hcredited answer b hb]
    simp

/-- A key in capitals with white space around it.  Of the two answers, which are spelled otherwise
and stand between other white space, one is credited. -/
theorem Question.graded_by_truth_spelledLoosely :
    let q : Question := ⟨2, 1, "", Binary64.ofInt 2, 0, .trueFalse (some " FALSE\n")⟩
    let answer : SubmittedAnswer := ⟨2, none, some "\u3000fAlSe"⟩
    let other : SubmittedAnswer := ⟨2, none, some "TrUE\u2003"⟩
    q.check = .ok () ∧ q.Admits answer ∧ q.Admits other ∧ Says answer.answerText false ∧
      Says other.answerText true ∧ q.kind.credits (some answer) = true ∧
      q.kind.credits (some other) = false := by
  intro q answer other
  have hcheck : q.check = .ok () := by decide +kernel
  let quiz : Quiz := { Quiz.spelledLoosely with questions := [q] }
  have hadmits : ∀ given, (quiz.indexAnswers [given]).isOk = true →
      quiz.question? given.questionId = some q → q.Admits given := by
    intro given hok hquestion
    cases hindex : quiz.indexAnswers [given] with
    | error flaw => simp [hindex, Except.isOk, Except.toBool] at hok
    | ok index => exact ⟨quiz, [given], index, hindex, List.mem_singleton_self given, hquestion⟩
  have hanswer : q.Admits answer := hadmits answer (by decide +kernel) rfl
  have hother : q.Admits other := hadmits other (by decide +kernel) rfl
  have hfalse : Says answer.answerText false :=
    ⟨_, rfl, denotes_iff_truth?.2 (by decide +kernel)⟩
  have htrue : Says other.answerText true := ⟨_, rfl, denotes_iff_truth?.2 (by decide +kernel)⟩
  have hkey : Says (some " FALSE\n") false := ⟨_, rfl, denotes_iff_truth?.2 (by decide +kernel)⟩
  obtain ⟨-, -, hcredited, hone⟩ := graded_by_truth rfl hcheck
  have hright := (hcredited answer).2 ⟨false, hkey, hfalse⟩
  refine ⟨hcheck, hanswer, hother, hfalse, htrue, hright, ?_⟩
  rw [hone answer other false true hanswer hother hfalse htrue (by decide), hright]
  rfl

end QuizAttempts
