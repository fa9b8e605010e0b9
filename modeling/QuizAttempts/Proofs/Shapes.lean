/-
**Which questions can be graded, and what is said of the others.**

The check of a question goes through the choices once and remembers the identifiers and the texts
that it has passed, the one as written and the other without white space at the ends.  What it
remembers is what came before and nothing else, so what is said of a choice depends on the choices
before it: a question passes when its points are a number that can be earned and its kind is in
shape.  Else the first rule that it breaks is reported, in the order of points, number of choices,
each choice in turn, and number of correct choices.

Main definitions:

* `Worded`, `SpellsTruth` — texts that say something, and texts that spell a boolean;
* `ToldApart`, `Choice.Joins` — **choices that can be told apart**, and one more beside others;
* `Question.WellFormed` — **the shape of a question**;
* `Choice.Violates`, `QuestionKind.Violates`, `Question.Violates` — the first rule that is broken;
* `Seen` — what the check remembers of the choices before.

Main results:

* `Choice.joins_or_violates`, `toldApart_or_violated` — the rules leave no case open;
* `Seen.passes`, `Seen.reports` — one choice is passed or reported;
* `ToldApart.passed` — choices that can be told apart are passed, and remembered;
* `Question.shape_checked` — **the check of a question**.
-/
import Mathlib.Data.List.Induction
import QuizAttempts.Proofs.Padding
import QuizAttempts.Proofs.Solutions

set_option autoImplicit false

namespace QuizAttempts

/-! ### Texts -/

/-- The text says something: not all of it is white space. -/
def Worded (text : String) : Prop := ∃ c ∈ text.toList, isBlank c = false

/-- **The text spells a boolean**, in any case, with white space around. -/
def SpellsTruth (text : String) : Prop :=
  sameLetters (trim text.toList) "true".toList = true ∨
    sameLetters (trim text.toList) "false".toList = true

theorem worded_iff {text : String} : Worded text ↔ isBlankText text.toList = false := by
  simp [Worded, isBlankText]

/-- A text that spells a boolean says something. -/
theorem SpellsTruth.worded {text : String} (h : SpellsTruth text) : Worded text := by
  rw [worded_iff, Bool.eq_false_iff]
  intro hblank
  rw [SpellsTruth, trim_of_blank (List.all_eq_true.1 hblank)] at h
  exact absurd h (by decide)

/-- A key that says something can be used, and no other. -/
theorem usableKey?_of_worded {text : String} (h : Worded text) :
    usableKey? (some text) = some text := usableKey?_eq_some.2 ⟨rfl, worded_iff.1 h⟩

theorem usableKey?_of_not_worded {key : Option String}
    (h : ∀ text, key = some text → ¬ Worded text) : usableKey? key = none := by
  simpa [usableKey?, worded_iff] using h

/-! ### Choices -/

/-- **Choices that can be told apart**: all say something, no two have one identifier as it is
written, and no two one text when white space is taken from its ends. -/
structure ToldApart (choices : List Choice) : Prop where
  worded : ∀ choice ∈ choices, Worded choice.id ∧ Worded choice.text
  ids : choices.Pairwise fun a b => a.id ≠ b.id
  texts : choices.Pairwise fun a b => trim a.text.toList ≠ trim b.text.toList

/-- One more choice, beside others that it can be told from. -/
structure Choice.Joins (before : List Choice) (choice : Choice) : Prop where
  worded : Worded choice.id ∧ Worded choice.text
  id : ∀ earlier ∈ before, earlier.id ≠ choice.id
  text : ∀ earlier ∈ before, trim earlier.text.toList ≠ trim choice.text.toList

/-- **What is wrong with a choice that comes after others**: its identifier or its text is blank; or
neither is, and an earlier choice has its identifier; or none has, and an earlier one has its
text. -/
inductive Choice.Violates (before : List Choice) (choice : Choice) : QuestionFlaw → Prop
  | blank (hblank : ¬ (Worded choice.id ∧ Worded choice.text)) :
      Violates before choice .blankChoice
  | id (hworded : Worded choice.id ∧ Worded choice.text)
      (hearlier : ∃ earlier ∈ before, earlier.id = choice.id) :
      Violates before choice (.repeatedChoiceId choice.id)
  | text (hworded : Worded choice.id ∧ Worded choice.text)
      (hfirst : ∀ earlier ∈ before, earlier.id ≠ choice.id)
      (hearlier : ∃ earlier ∈ before, trim earlier.text.toList = trim choice.text.toList) :
      Violates before choice (.repeatedChoiceText choice.text)

variable {before after choices : List Choice} {choice : Choice} {flaw : QuestionFlaw}

/-- A choice joins those before it, or something is wrong with it. -/
theorem Choice.joins_or_violates (before : List Choice) (choice : Choice) :
    choice.Joins before ∨ ∃ flaw, choice.Violates before flaw := by
  by_cases hworded : Worded choice.id ∧ Worded choice.text
  · by_cases hid : ∃ earlier ∈ before, earlier.id = choice.id
    · exact Or.inr ⟨_, .id hworded hid⟩
    · have hfirst : ∀ earlier ∈ before, earlier.id ≠ choice.id :=
        fun earlier hmem heq => hid ⟨earlier, hmem, heq⟩
      by_cases htext : ∃ earlier ∈ before, trim earlier.text.toList = trim choice.text.toList
      · exact Or.inr ⟨_, .text hworded hfirst htext⟩
      · exact Or.inl ⟨hworded, hfirst, fun earlier hmem heq => htext ⟨earlier, hmem, heq⟩⟩
  · exact Or.inr ⟨_, .blank hworded⟩

theorem ToldApart.nil : ToldApart [] := ⟨by simp, .nil, .nil⟩

theorem pairwise_concat {α : Type} {r : α → α → Prop} {xs : List α} {x : α} :
    (xs ++ [x]).Pairwise r ↔ xs.Pairwise r ∧ ∀ y ∈ xs, r y x := by
  simp [List.pairwise_append]

/-- One more choice can be told apart when it joins the others. -/
theorem toldApart_concat :
    ToldApart (before ++ [choice]) ↔ ToldApart before ∧ choice.Joins before := by
  constructor
  · rintro ⟨hworded, hids, htexts⟩
    rw [pairwise_concat] at hids htexts
    exact ⟨⟨fun c hc => hworded c (by simp [hc]), hids.1, htexts.1⟩,
      ⟨hworded choice (by simp), hids.2, htexts.2⟩⟩
  · rintro ⟨⟨hworded, hids, htexts⟩, hjoins⟩
    refine ⟨fun c hc => ?_, pairwise_concat.2 ⟨hids, hjoins.id⟩,
      pairwise_concat.2 ⟨htexts, hjoins.text⟩⟩
    rcases List.mem_append.1 hc with hc | hc
    · exact hworded c hc
    · obtain rfl := List.mem_singleton.1 hc
      exact hjoins.worded

/-- **Choices can be told apart, or there is a first with which something is wrong.** -/
theorem toldApart_or_violated (choices : List Choice) : ToldApart choices ∨
    ∃ before choice after flaw, choices = before ++ choice :: after ∧ ToldApart before ∧
      choice.Violates before flaw := by
  induction choices using List.reverseRecOn with
  | nil => exact Or.inl .nil
  | append_singleton passed last ih =>
      rcases ih with hpassed | ⟨before, choice, after, flaw, rfl, hbefore, hviolates⟩
      · rcases Choice.joins_or_violates passed last with hjoins | ⟨flaw, hviolates⟩
        · exact Or.inl (toldApart_concat.2 ⟨hpassed, hjoins⟩)
        · exact Or.inr ⟨passed, last, [], flaw, rfl, hpassed, hviolates⟩
      · exact Or.inr ⟨before, choice, after ++ [last], flaw, by simp, hbefore, hviolates⟩

/-! ### What the check remembers -/

/-- **What the check remembers of the choices before**: their identifiers as written, and their
texts without the white space around them. -/
structure Seen (before : List Choice) (ids : List String) (texts : List (List Char)) : Prop where
  ids : ∀ id, id ∈ ids ↔ ∃ earlier ∈ before, earlier.id = id
  texts : ∀ text, text ∈ texts ↔ ∃ earlier ∈ before, trim earlier.text.toList = text

theorem Seen.nothing : Seen [] [] [] := ⟨by simp, by simp⟩

variable {ids : List String} {texts : List (List Char)}

theorem blank_iff_not_worded :
    (isBlankText choice.id.toList || isBlankText choice.text.toList) = true ↔
      ¬ (Worded choice.id ∧ Worded choice.text) := by
  rw [worded_iff, worded_iff, ← Bool.or_eq_false_iff, Bool.not_eq_false]

/-- **A choice that joins the others is passed**, and remembered with them. -/
theorem Seen.passes (h : Seen before ids texts) (hjoins : choice.Joins before)
    (after : List Choice) :
    checkChoices ids texts (choice :: after) =
        checkChoices (choice.id :: ids) (trim choice.text.toList :: texts) after ∧
      Seen (before ++ [choice]) (choice.id :: ids) (trim choice.text.toList :: texts) := by
  have hid : choice.id ∉ ids := fun hmem => by
    obtain ⟨earlier, hearlier, heq⟩ := (h.ids _).1 hmem
    exact hjoins.id earlier hearlier heq
  have htext : trim choice.text.toList ∉ texts := fun hmem => by
    obtain ⟨earlier, hearlier, heq⟩ := (h.texts _).1 hmem
    exact hjoins.text earlier hearlier heq
  constructor
  · rw [checkChoices, if_neg (mt blank_iff_not_worded.1 (not_not_intro hjoins.worded)),
      if_neg (by simpa using hid), if_neg (by simpa using htext)]
  · refine ⟨fun id => ?_, fun text => ?_⟩
    · rw [List.mem_cons, h.ids id]
      simp [or_and_right, exists_or, or_comm, eq_comm]
    · rw [List.mem_cons, h.texts text]
      simp [or_and_right, exists_or, or_comm, eq_comm]

/-- **What is wrong with a choice is reported**, whatever comes after it. -/
theorem Seen.reports (h : Seen before ids texts) (hviolates : choice.Violates before flaw)
    (after : List Choice) : checkChoices ids texts (choice :: after) = .error flaw := by
  rw [checkChoices]
  cases hviolates with
  | blank hblank => rw [if_pos (blank_iff_not_worded.2 hblank)]
  | id hworded hearlier =>
      rw [if_neg (mt blank_iff_not_worded.1 (not_not_intro hworded)),
        if_pos (by simpa using (h.ids _).2 hearlier)]
  | text hworded hfirst hearlier =>
      have hid : choice.id ∉ ids := fun hmem => by
        obtain ⟨earlier, hmem, heq⟩ := (h.ids _).1 hmem
        exact hfirst earlier hmem heq
      rw [if_neg (mt blank_iff_not_worded.1 (not_not_intro hworded)), if_neg (by simpa using hid),
        if_pos (by simpa using (h.texts _).2 hearlier)]

/-- **Choices that can be told apart are passed**: the check goes on to what comes after them, and
remembers them. -/
theorem ToldApart.passed (h : ToldApart before) (after : List Choice) :
    ∃ ids texts, Seen before ids texts ∧
      checkChoices [] [] (before ++ after) = checkChoices ids texts after := by
  -- from the end, so that what is remembered is all that comes before the last choice
  induction before using List.reverseRecOn generalizing after with
  | nil => exact ⟨[], [], .nothing, rfl⟩
  | append_singleton before choice ih =>
      obtain ⟨hbefore, hjoins⟩ := toldApart_concat.1 h
      obtain ⟨ids, texts, hseen, hcheck⟩ := ih hbefore (choice :: after)
      obtain ⟨hpass, hseen⟩ := hseen.passes hjoins after
      exact ⟨_, _, hseen, by rw [List.append_assoc, List.singleton_append, hcheck, hpass]⟩

theorem ToldApart.checkChoices_eq (h : ToldApart choices) :
    checkChoices [] [] choices = .ok () := by
  obtain ⟨ids, texts, -, hcheck⟩ := h.passed []
  rwa [List.append_nil] at hcheck

theorem ToldApart.checkChoices_eq_error (h : ToldApart before)
    (hviolates : choice.Violates before flaw) (after : List Choice) :
    checkChoices [] [] (before ++ choice :: after) = .error flaw := by
  obtain ⟨ids, texts, hseen, hcheck⟩ := h.passed (choice :: after)
  rw [hcheck, hseen.reports hviolates]

/-! ### Kinds -/

/-- **The kind of a question is in shape**: it has two choices or more, which can be told apart, and
one of them is correct; or a key that spells a boolean; or a key that says something.  Of an essay
nothing is asked. -/
def QuestionKind.WellFormed : QuestionKind → Prop
  | multipleChoice choices => 2 ≤ choices.length ∧ ToldApart choices ∧
      (choices.filter (·.isCorrect)).length = 1
  | trueFalse key => ∃ text, key = some text ∧ SpellsTruth text
  | shortAnswer key => ∃ text, key = some text ∧ Worded text
  | essay => True

/-- **The first rule that the kind of a question breaks.**  The number of choices comes first, then
the first choice with which something is wrong, then the number of those that are correct, which is
told. -/
inductive QuestionKind.Violates : QuestionKind → QuestionFlaw → Prop
  | few {choices : List Choice} (hfew : choices.length < 2) :
      Violates (.multipleChoice choices) .tooFewChoices
  | choice {before after : List Choice} {choice : Choice} {flaw : QuestionFlaw}
      (hmany : 2 ≤ (before ++ choice :: after).length) (hbefore : ToldApart before)
      (hviolates : choice.Violates before flaw) :
      Violates (.multipleChoice (before ++ choice :: after)) flaw
  | correct {choices : List Choice} (hmany : 2 ≤ choices.length) (hapart : ToldApart choices)
      (hcount : (choices.filter (·.isCorrect)).length ≠ 1) :
      Violates (.multipleChoice choices)
        (.correctChoices (choices.filter (·.isCorrect)).length)
  | noTruth {key : Option String} (hkey : ∀ text, key = some text → ¬ Worded text) :
      Violates (.trueFalse key) .noTruthKey
  | noBoolean {text : String} (hworded : Worded text) (htruth : ¬ SpellsTruth text) :
      Violates (.trueFalse (some text)) .truthKeyNoBoolean
  | noShort {key : Option String} (hkey : ∀ text, key = some text → ¬ Worded text) :
      Violates (.shortAnswer key) .noShortKey

namespace QuestionKind

variable {kind : QuestionKind}

theorem wellFormed_or_violates (kind : QuestionKind) :
    kind.WellFormed ∨ ∃ flaw, kind.Violates flaw := by
  cases kind with
  | multipleChoice choices =>
      rcases Nat.lt_or_ge choices.length 2 with hfew | hmany
      · exact Or.inr ⟨_, .few hfew⟩
      rcases toldApart_or_violated choices with
        hapart | ⟨before, choice, after, flaw, rfl, hbefore, hviolates⟩
      · by_cases hcount : (choices.filter (·.isCorrect)).length = 1
        · exact Or.inl ⟨hmany, hapart, hcount⟩
        · exact Or.inr ⟨_, .correct hmany hapart hcount⟩
      · exact Or.inr ⟨flaw, .choice hmany hbefore hviolates⟩
  | trueFalse key =>
      by_cases hkey : ∃ text, key = some text ∧ Worded text
      · obtain ⟨text, rfl, hworded⟩ := hkey
        by_cases htruth : SpellsTruth text
        · exact Or.inl ⟨text, rfl, htruth⟩
        · exact Or.inr ⟨_, .noBoolean hworded htruth⟩
      · exact Or.inr ⟨_, .noTruth fun text heq hworded => hkey ⟨text, heq, hworded⟩⟩
  | shortAnswer key =>
      by_cases hkey : ∃ text, key = some text ∧ Worded text
      · exact Or.inl hkey
      · exact Or.inr ⟨_, .noShort fun text heq hworded => hkey ⟨text, heq, hworded⟩⟩
  | essay => exact Or.inl trivial

/-- What is in shape passes. -/
theorem WellFormed.check_eq (h : kind.WellFormed) : kind.check = .ok () := by
  cases kind with
  | multipleChoice choices =>
      obtain ⟨hmany, hapart, hcount⟩ := h
      rw [check, if_neg (Nat.not_lt.2 hmany), hapart.checkChoices_eq, correctCount,
        List.countP_eq_length_filter, hcount]
      rfl
  | trueFalse key =>
      obtain ⟨text, rfl, htruth⟩ := h
      rw [check, usableKey?_of_worded htruth.worded]
      exact if_pos (isSome_truth?_iff.2 htruth)
  | shortAnswer key =>
      obtain ⟨text, rfl, hworded⟩ := h
      rw [check, usableKey?_of_worded hworded]
      rfl
  | essay => rfl

/-- The first rule that is broken is reported. -/
theorem Violates.check_eq (h : kind.Violates flaw) : kind.check = .error flaw := by
  cases h with
  | few hfew => rw [check, if_pos hfew]
  | choice hmany hbefore hviolates =>
      rw [check, if_neg (Nat.not_lt.2 hmany), hbefore.checkChoices_eq_error hviolates]
      rfl
  | correct hmany hapart hcount =>
      rw [check, if_neg (Nat.not_lt.2 hmany), hapart.checkChoices_eq, correctCount,
        List.countP_eq_length_filter]
      exact if_neg hcount
  | noTruth hkey => rw [check, usableKey?_of_not_worded hkey]
  | noBoolean hworded htruth =>
      rw [check, usableKey?_of_worded hworded]
      exact if_neg (mt isSome_truth?_iff.1 htruth)
  | noShort hkey =>
      rw [check, usableKey?_of_not_worded hkey]
      rfl

end QuestionKind

/-! ### Questions -/

namespace Question

/-- **The question can be graded**: its points are finite and not less than nothing, and its kind is
in shape. -/
structure WellFormed (q : Question) : Prop where
  finite : q.points.isFinite = true
  nonneg : q.points.lt Binary64.zero = false
  kind : q.kind.WellFormed

/-- **The first rule that a question breaks**: that of the points, or one of its kind. -/
inductive Violates (q : Question) : QuestionFlaw → Prop
  | points (hpoints : ¬ (q.points.isFinite = true ∧ q.points.lt Binary64.zero = false)) :
      Violates q .badPoints
  | kind {flaw : QuestionFlaw}
      (hpoints : q.points.isFinite = true ∧ q.points.lt Binary64.zero = false)
      (hviolates : q.kind.Violates flaw) : Violates q flaw

variable {q : Question}

theorem isPoints_iff {x : Binary64} :
    isPoints x = true ↔ x.isFinite = true ∧ x.lt Binary64.zero = false := by
  simp [isPoints]

theorem wellFormed_or_violates (q : Question) : q.WellFormed ∨ ∃ flaw, q.Violates flaw := by
  by_cases hpoints : q.points.isFinite = true ∧ q.points.lt Binary64.zero = false
  · rcases q.kind.wellFormed_or_violates with hkind | ⟨flaw, hviolates⟩
    · exact Or.inl ⟨hpoints.1, hpoints.2, hkind⟩
    · exact Or.inr ⟨flaw, .kind hpoints hviolates⟩
  · exact Or.inr ⟨_, .points hpoints⟩

theorem WellFormed.check_eq (h : q.WellFormed) : q.check = .ok () := by
  rw [check, if_pos (isPoints_iff.2 ⟨h.finite, h.nonneg⟩), h.kind.check_eq]

theorem Violates.check_eq (h : q.Violates flaw) : q.check = .error flaw := by
  cases h with
  | points hpoints => rw [check, if_neg (mt isPoints_iff.1 hpoints)]
  | kind hpoints hviolates => rw [check, if_pos (isPoints_iff.2 hpoints), hviolates.check_eq]

/-- **The check of a question.**  A question passes exactly when it is well-formed; and a flaw is
reported exactly when it is of the first rule that the question breaks. -/
theorem shape_checked (q : Question) :
    (q.check = .ok () ↔ q.WellFormed) ∧ ∀ flaw, q.check = .error flaw ↔ q.Violates flaw := by
  refine ⟨⟨fun hcheck => ?_, fun h => h.check_eq⟩,
    fun flaw => ⟨fun hcheck => ?_, fun h => h.check_eq⟩⟩
  · rcases q.wellFormed_or_violates with h | ⟨flaw, h⟩
    · exact h
    · simp [h.check_eq] at hcheck
  · rcases q.wellFormed_or_violates with h | ⟨other, h⟩
    · simp [h.check_eq] at hcheck
    · obtain rfl := Except.error.inj (h.check_eq.symm.trans hcheck)
      exact h

/-- Identifiers that differ by white space are different and texts that do are not: something is
wrong with the last of three choices only, and that none is correct is not said. -/
example : (Question.mk 1 1 "" Binary64.zero 0
      (.multipleChoice [⟨"a", "yes", false⟩, ⟨"a ", "no", false⟩, ⟨" a", " yes", false⟩])).check =
    .error (.repeatedChoiceText " yes") := by
  decide +kernel

end Question

end QuizAttempts
