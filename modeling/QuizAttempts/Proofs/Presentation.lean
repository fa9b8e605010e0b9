/-
**What is shown is what is graded.**

A payload is made from a quiz with its questions in their places, a submission is checked against
the questions as they are loaded, and grading puts them in their places once more.  Each goes
through the questions on its own, and a question is looked up by its identifier in yet another way.
They agree all the same.  There is one way to put questions in their places, so what is shown and
what is graded stand in one order, question by question, even where several questions share a place.
And where no two questions have the same identifier, the choices that are shown of a question are
those that may be selected in an answer to it.

The cache comes between the two: it may serve an older version.  Here it holds nothing of the quiz,
or what was made from the version that is stored.

Main definitions:

* `Service.KeepsCurrent` — nothing older than the stored version is kept of a quiz;
* `PublicQuestion.choosing` — the answer that selects a choice of a question that is shown.

Main results:

* `Quiz.questions_takePayload`, `Quiz.questionIds_of_grade` — **both stand in one order**;
* `TakePayload.origin_of_mem_render` — the question of the quiz behind one that is shown;
* `Quiz.accepts_choosing_iff`, `Quiz.indexAnswers_of_unknownChoice` — which choices may be selected;
* `Service.taken_is_graded` — **what is shown is what is graded**.
-/
import QuizAttempts.Proofs.Objections
import QuizAttempts.Proofs.Reordering
import QuizAttempts.Proofs.Solutions
import QuizAttempts.Proofs.Staleness

set_option autoImplicit false

namespace QuizAttempts

/-! ### One order -/

/-- **The questions of a payload** are those of the quiz in their places. -/
theorem Quiz.questions_takePayload (quiz : Quiz) :
    quiz.takePayload.questions = (inPlace Question.place quiz.questions).map (·.toPublic) :=
  (map_inPlace (fun q => q.place_toPublic) quiz.questions).symm

/-- Without its choices a question is shown as it is, however the choices are shuffled. -/
theorem Shuffle.ids_shuffleChoices (shuffle : Shuffle) (drawn : Nat)
    (questions : List PublicQuestion) :
    (shuffle.shuffleChoices drawn questions).map (·.id) = questions.map (·.id) := by
  have hframe := congrArg (List.map PublicQuestion.id)
    (shuffle.shuffleChoices_eq_map drawn questions)
  rw [List.map_map, List.map_map] at hframe
  exact hframe

/-- Where questions are not shuffled, they stand in the order of the payload. -/
theorem TakePayload.ids_render (base : TakePayload) (shuffle : Shuffle) (sc : Bool) :
    (base.render shuffle false sc).questions.map (·.id) = base.questions.map (·.id) := by
  cases sc with
  | false => rfl
  | true => exact shuffle.ids_shuffleChoices 0 base.questions

/-- **The records of a grade** are those of the questions in their places. -/
theorem Quiz.questionIds_of_grade {quiz : Quiz} {index : AnswerIndex} {grade : Grade}
    (h : quiz.grade index = .ok grade) :
    grade.answers.map (·.questionId) = (inPlace Question.place quiz.questions).map (·.id) := by
  obtain ⟨hchecked, hgrades⟩ := grade_eq_ok_iff.1 h
  rw [(grades_iff hchecked).1 hgrades]
  show ((inPlace Question.place quiz.questions).map _).map _ = _
  rw [List.map_map]
  rfl

/-! ### The questions that are shown -/

/-- The answer that selects a choice of a question. -/
def PublicQuestion.choosing (shown : PublicQuestion) (option : String) : SubmittedAnswer :=
  ⟨shown.id, some option, none⟩

theorem exists_related_of_mem {α β : Type} {r : α → β → Prop} {xs : List α} {ys : List β}
    (h : List.Forall₂ r xs ys) {a : α} (ha : a ∈ xs) : ∃ b ∈ ys, r a b := by
  induction h with
  | nil => simp at ha
  | cons hab _ ih =>
      rcases List.mem_cons.1 ha with rfl | ha
      · exact ⟨_, List.mem_cons_self, hab⟩
      · obtain ⟨b, hb, hr⟩ := ih ha
        exact ⟨b, List.mem_cons_of_mem _ hb, hr⟩

/-- **The question behind one that is shown**: it has its identifier and type, and its choices up to
their order. -/
theorem TakePayload.origin_of_mem_render {quiz : Quiz} {shuffle : Shuffle} {sq sc : Bool}
    {shown : PublicQuestion} (h : shown ∈ (quiz.takePayload.render shuffle sq sc).questions) :
    ∃ q ∈ quiz.questions, q.id = shown.id ∧ q.kind.typeName = shown.typeName ∧
      ∀ option, option ∈ shown.choices.map (·.id) ↔ option ∈ q.kind.choices.map (·.id) := by
  obtain ⟨-, drawn, hdrawn, hperm, -⟩ := quiz.takePayload.isShuffleOf_render shuffle sq sc
  obtain ⟨base, hbase, hcopy⟩ := exists_related_of_mem hdrawn (hperm.mem_iff.1 h)
  rw [quiz.questions_takePayload] at hbase
  obtain ⟨q, hq, rfl⟩ := List.mem_map.1 hbase
  refine ⟨q, mem_inPlace.1 hq, ?_, ?_, fun option => ?_⟩
  · exact (congrArg PublicQuestion.id hcopy.frame).symm
  · exact (congrArg PublicQuestion.typeName hcopy.frame).symm
  · rw [(hcopy.choices.map (·.id)).mem_iff]
    show option ∈ (q.kind.choices.map (·.toPublic)).map (·.id) ↔ _
    rw [List.map_map]
    rfl

theorem QuestionKind.eq_multipleChoice_of_typeName {kind : QuestionKind}
    (h : kind.typeName = "multiple_choice") : kind = .multipleChoice kind.choices := by
  cases kind <;> simp [typeName, choices] at h ⊢

/-! ### The choices that may be selected -/

namespace Quiz

variable {quiz : Quiz} {q : Question} {answer : SubmittedAnswer} {before : List SubmittedAnswer}

/-- Where identifiers are distinct, an answer suits the quiz when it fits the question that has its
identifier. -/
theorem suits_iff (hdistinct : (quiz.questions.map (·.id)).Nodup) (hq : q ∈ quiz.questions)
    (hid : answer.questionId = q.id) : quiz.Suits answer ↔ q.kind.Fits answer := by
  have hfound : quiz.question? answer.questionId = some q := hid ▸ find?_id_of_mem hdistinct hq
  simp [Suits, hfound]

/-- What is selected of a multiple-choice question has to be one of its choices. -/
theorem fits_choosing_iff {shown : PublicQuestion} {option : String}
    (hkind : q.kind = .multipleChoice q.kind.choices) :
    q.kind.Fits (shown.choosing option) ↔ option ∈ q.kind.choices.map (·.id) := by
  rw [hkind, QuestionKind.Fits, QuestionKind.choices_multipleChoice, List.mem_map]
  simp [PublicQuestion.choosing, eq_comm (a := option)]

/-- **A choice may be selected** in an answer after others exactly when it is one of the
question. -/
theorem accepts_choosing_iff (hdistinct : (quiz.questions.map (·.id)).Nodup)
    (hq : q ∈ quiz.questions) (hkind : q.kind = .multipleChoice q.kind.choices)
    {shown : PublicQuestion} (hid : q.id = shown.id) (option : String)
    (hbefore : quiz.Accepts before) (hfirst : ∀ earlier ∈ before, earlier.questionId ≠ shown.id) :
    quiz.Accepts (before ++ [shown.choosing option]) ↔ option ∈ q.kind.choices.map (·.id) := by
  rw [accepts_concat, suits_iff hdistinct hq hid.symm, fits_choosing_iff hkind]
  exact ⟨fun h => h.2.1, fun h => ⟨hbefore, h, hfirst⟩⟩

/-- **Any other is reported**, whatever comes after it. -/
theorem indexAnswers_of_unknownChoice (hdistinct : (quiz.questions.map (·.id)).Nodup)
    (hq : q ∈ quiz.questions) (hkind : q.kind = .multipleChoice q.kind.choices)
    {shown : PublicQuestion} (hid : q.id = shown.id) {option : String}
    (hother : option ∉ q.kind.choices.map (·.id)) (hbefore : quiz.Accepts before)
    (hfirst : ∀ earlier ∈ before, earlier.questionId ≠ shown.id) (after : List SubmittedAnswer) :
    quiz.indexAnswers (before ++ shown.choosing option :: after) =
      .error (.answer shown.id .unknownChoice) := by
  have hfound : quiz.question? (shown.choosing option).questionId = some q :=
    (show (shown.choosing option).questionId = q.id from hid.symm) ▸ find?_id_of_mem hdistinct hq
  have hflaw : q.kind.answerFlaw? (shown.choosing option) = some .unknownChoice := by
    have hnone : ¬ q.kind.choices.any (·.id == option) = true := by
      rintro hany
      obtain ⟨choice, hchoice, heq⟩ := List.any_eq_true.1 hany
      exact hother (List.mem_map.2 ⟨choice, hchoice, beq_iff_eq.1 heq⟩)
    rw [hkind]
    exact if_neg hnone
  have hviolates : quiz.Violates before (shown.choosing option) _ :=
    .form hfound hfirst (mt (fits_choosing_iff hkind).1 hother) hflaw
  exact hviolates.reported hbefore after

end Quiz

/-! ### Between the two -/

namespace Service

/-- **Nothing older than the stored version is kept of a quiz**: no payload, or the one that is made
from that version. -/
def KeepsCurrent (s : Service) (quizId : Int) (stored : Quiz) : Prop :=
  ∀ entry, s.cache.entries.get? quizId = some entry → entry.payload = stored.sorted.takePayload

variable {s : Service} {others : List Int} {quizId : Int} {actor : Actor} {stored : Quiz}

/-- What is served then is made from that version, whether it was kept or not. -/
theorem KeepsCurrent.served (h : s.KeepsCurrent quizId stored) :
    s.served quizId stored.sorted = stored.sorted.takePayload := by
  unfold Service.served
  cases hfresh : s.cache.fresh? quizId s.instant with
  | none => rfl
  | some entry => exact h entry (TakeCache.fresh?_eq_some_iff.1 hfresh).1

/-- **What a take shows** then is a copy of it. -/
theorem KeepsCurrent.payload_eq (h : s.KeepsCurrent quizId stored)
    (hstored : s.store.quizzes.get? quizId = some stored)
    {shuffle : Shuffle} {payload : TakePayload}
    (htake : (s.run others (Request.take quizId actor shuffle).program).2 =
      .done (.payload payload)) :
    payload = stored.sorted.takePayload.render shuffle stored.shuffleQuestions
      stored.shuffleOptions := by
  rw [run_take] at htake
  obtain ⟨quiz, hsight, hdone⟩ := unlessRefused_eq_done htake
  have hquiz : s.store.quiz? quizId = some stored.sorted := by rw [Store.quiz?, hstored]; rfl
  obtain rfl := Option.some.inj (hquiz.symm.trans (Store.quiz?_of_sight hsight))
  rw [decideTake, h.served] at hdone
  exact (Reply.payload.inj (Outcome.done.inj hdone)).symm

/-- **What is graded**: the records of a submission that succeeds, as they are answered and as they
are kept, are those of the questions in their places. -/
theorem questionIds_of_submit (hs : s.store.Sound)
    (hstored : s.store.quizzes.get? quizId = some stored) {attemptId : Int}
    {answers : List SubmittedAnswer} {view : AttemptView}
    (hdone : (s.run others (Request.submit quizId attemptId answers actor).program).2 =
      .done (.view view)) :
    view.answers.map (·.questionId) = (inPlace Question.place stored.questions).map (·.id) ∧
    ∃ row,
      (s.run others (Request.submit quizId attemptId answers actor).program).1.store.attempts.get?
        attemptId = some row ∧
      row.answers.map (·.questionId) = (inPlace Question.place stored.questions).map (·.id) := by
  have hrun := s.run_of_not_blocked others (Request.submit quizId attemptId answers actor).program
    (by simp [hdone])
  rw [hrun] at hdone ⊢
  rcases run_submit_cases hs quizId attemptId answers actor with
    ⟨why, -, hrefused⟩ | ⟨a, ha, hlate | ⟨-, version, index, grade, hversion, -, hgrade, hgraded⟩⟩
  · simp [hrefused] at hdone
  · simp [hlate] at hdone
  obtain rfl := Option.some.inj (hstored.symm.trans hversion)
  have hids : grade.answers.map (·.questionId) =
      (inPlace Question.place stored.questions).map (·.id) := by
    rw [Quiz.questionIds_of_grade hgrade, Quiz.sorted, inPlace_inPlace]
  have hid : a.id = attemptId := hs.orderly.own ha
  rw [hgraded] at hdone ⊢
  obtain rfl := Reply.view.inj (Outcome.done.inj hdone)
  refine ⟨?_, a.graded grade s.clock, ?_, hids⟩
  · show (grade.answers.map _).map _ = _
    rw [List.map_map]
    exact hids
  · have hrows : (s.credited stored.sorted a grade actor).store.attempts =
        s.store.attempts.insert a.id (a.graded grade s.clock) :=
      (Service.credits_credited s stored.sorted a grade actor).attempts
    rw [hrows, ← hid, Table.get?_insert_self]

/-- **What is shown is what is graded.**  Let a quiz be taken while nothing older than the stored
version is kept of it.

If its questions are not to be shuffled, they are shown in the order in which the records stand of
any submission that succeeds, here or elsewhere, on a quiz of the same questions: as it is answered
and as it is kept.  And whether anything is shuffled or not, where no two questions have the same
identifier, the choices that are shown of a multiple-choice question are those that may be selected
in an answer to it, beside accepted answers to other questions; any other is reported. -/
theorem taken_is_graded (hstored : s.store.quizzes.get? quizId = some stored)
    (hkept : s.KeepsCurrent quizId stored) {shuffle : Shuffle} {payload : TakePayload}
    (htake : (s.run others (Request.take quizId actor shuffle).program).2 =
      .done (.payload payload)) :
    (stored.shuffleQuestions = false →
      ∀ (t : Service) (busy : List Int) (version : Quiz) (attemptId : Int)
        (answers : List SubmittedAnswer) (student : Actor) (view : AttemptView),
        t.store.Sound → t.store.quizzes.get? quizId = some version →
        version.questions = stored.questions →
        let result := t.run busy (Request.submit quizId attemptId answers student).program
        result.2 = .done (.view view) →
          payload.questions.map (·.id) = view.answers.map (·.questionId) ∧
          ∃ row, result.1.store.attempts.get? attemptId = some row ∧
            payload.questions.map (·.id) = row.answers.map (·.questionId)) ∧
    ((stored.questions.map (·.id)).Nodup → ∀ shown ∈ payload.questions,
      shown.typeName = "multiple_choice" → ∀ quiz : Quiz, quiz.questions.Perm stored.questions →
        ∀ before index, quiz.indexAnswers before = .ok index →
          (∀ earlier ∈ before, earlier.questionId ≠ shown.id) → ∀ option,
            ((∃ index, quiz.indexAnswers (before ++ [shown.choosing option]) = .ok index) ↔
              option ∈ shown.choices.map (·.id)) ∧
            (option ∉ shown.choices.map (·.id) → ∀ after,
              quiz.indexAnswers (before ++ shown.choosing option :: after) =
                .error (.answer shown.id .unknownChoice))) := by
  obtain rfl := hkept.payload_eq hstored htake
  constructor
  · intro hstill t busy version attemptId answers student view ht hversion hsame result hdone
    have hshown : (stored.sorted.takePayload.render shuffle stored.shuffleQuestions
        stored.shuffleOptions).questions.map (·.id) =
        (inPlace Question.place version.questions).map (·.id) := by
      rw [hstill, TakePayload.ids_render, Quiz.questions_takePayload, List.map_map, Quiz.sorted,
        inPlace_inPlace, hsame]
      rfl
    rw [hshown]
    obtain ⟨hview, row, hrow, hids⟩ := questionIds_of_submit ht hversion hdone
    exact ⟨hview.symm, row, hrow, hids.symm⟩
  · intro hdistinct shown hmem htype quiz hquestions before index hbefore hfirst option
    obtain ⟨q, hq, hid, hname, hchoices⟩ := TakePayload.origin_of_mem_render hmem
    have hkind := QuestionKind.eq_multipleChoice_of_typeName (hname.trans htype)
    have hq' : q ∈ quiz.questions := hquestions.mem_iff.2 (mem_inPlace.1 hq)
    have hdistinct' : (quiz.questions.map (·.id)).Nodup :=
      (hquestions.map _).nodup_iff.2 hdistinct
    have hbefore' := Quiz.indexAnswers_eq_ok_iff.1 ⟨index, hbefore⟩
    rw [hchoices, Quiz.indexAnswers_eq_ok_iff]
    exact ⟨Quiz.accepts_choosing_iff hdistinct' hq' hkind hid option hbefore' hfirst,
      fun hother => Quiz.indexAnswers_of_unknownChoice hdistinct' hq' hkind hid hother
        hbefore' hfirst⟩

/-- A student who begins an attempt is shown two questions in the order of the records.  In another
quiz the student is shown the choices `a` and `b`, of which the second may be selected; `c` is
reported. -/
theorem taken_is_graded_begun :
    let s := ((Console.ofService Service.blank).after begun).service
    let t := ((Console.ofService Service.blank).after (examination none)).service
    let take := (Request.take 1 learner .still).program
    let submit := (Request.submit 1 1 [⟨2, none, some "?"⟩, ⟨1, none, some "true"⟩] learner).program
    let shown : PublicQuestion :=
      ⟨1, "multiple_choice", "?", Binary64.ofInt 2, 0, [⟨"a", "yes"⟩, ⟨"b", "no"⟩]⟩
    (∃ payload view, (s.run [] take).2 = .done (.payload payload) ∧
      (s.run [] submit).2 = .done (.view view) ∧ payload.questions.map (·.id) = [1, 2] ∧
      view.answers.map (·.questionId) = [1, 2]) ∧
    (t.run [] take).2 = .done (.payload ⟨1, "", none, none, [shown]⟩) ∧
    ∃ quiz, t.store.quizzes.get? 1 = some quiz ∧
      (∃ index, quiz.indexAnswers [shown.choosing "b"] = .ok index) ∧
      quiz.indexAnswers [shown.choosing "c"] = .error (.answer 1 .unknownChoice) := by
  intro s t take submit shown
  have hs : s.store.Sound := (Console.Sound.after (.ofService Store.Sound.empty) begun).1.store
  have hstored : s.store.quizzes.get? 1 = some twoQuestions := by decide +kernel
  have hcache : s.cache.entries = Table.empty ∧ t.cache.entries = Table.empty := by decide +kernel
  refine ⟨?_, ?_⟩
  · have hquiz : s.store.quiz? 1 = some twoQuestions := by
      rw [Store.quiz?, hstored, Option.map_some, sorted_twoQuestions]
    have hsight : s.store.sight 1 learner = .ok twoQuestions := by
      rw [Store.sight, hquiz]
      rfl
    have htake : (s.run [] take).2 = .done (.payload twoQuestions.takePayload) := by
      rw [run_take, hsight]
      rfl
    obtain ⟨a, hrun⟩ := run_begun
    obtain ⟨index, hindex⟩ : ∃ index, twoQuestions.indexAnswers
        [⟨2, none, some "?"⟩, ⟨1, none, some "true"⟩] = .ok index := ⟨_, rfl⟩
    have hchecked : twoQuestions.checkPublishable = .ok () := by decide +kernel
    obtain ⟨grade, hgrade⟩ := Quiz.grade_of_checked hchecked index
    have hsubmit : ∃ view, (s.run [] submit).2 = .done (.view view) := by
      simp only [submit, s, hrun, decideGrading, hindex, hgrade]
      exact ⟨_, rfl⟩
    obtain ⟨view, hview⟩ := hsubmit
    have hsame := ((taken_is_graded hstored (by simp [KeepsCurrent, hcache.1]) htake).1 rfl s []
      twoQuestions 1 _ learner view hs hstored rfl hview).1
    have hids : twoQuestions.takePayload.questions.map (·.id) = [1, 2] := by
      have hplaced : inPlace Question.place twoQuestions.questions = twoQuestions.questions :=
        congrArg Quiz.questions sorted_twoQuestions
      rw [Quiz.questions_takePayload, hplaced]
      rfl
    exact ⟨_, view, htake, hview, hids, hsame.symm.trans hids⟩
  · have htake : (t.run [] take).2 = .done (.payload ⟨1, "", none, none, [shown]⟩) := by
      decide +kernel
    have hdistinct : (t.store.quizzes.get? 1).any
        (fun quiz => decide (quiz.questions.map (·.id)).Nodup) = true := by decide +kernel
    obtain ⟨quiz, hquiz, hdistinct⟩ := (Option.any_eq_true _ _).1 hdistinct
    refine ⟨htake, quiz, hquiz, ?_⟩
    have hchoices := (taken_is_graded hquiz (by simp [KeepsCurrent, hcache.2]) htake).2
      (of_decide_eq_true hdistinct) shown (List.mem_singleton_self shown) rfl quiz
      (List.Perm.refl _) [] _ quiz.indexAnswers_nil (by simp)
    exact ⟨(hchoices "b").1.2 (by simp [shown]), (hchoices "c").2 (by simp [shown]) []⟩

end Service

end QuizAttempts
