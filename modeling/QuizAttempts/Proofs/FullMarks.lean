/-
**Who has everything right scores all there is.**

What a quiz is worth in all is summed three times: when an attempt is started, and twice when it is
submitted, once over what was earned and once over what could be.  Sums of points depend on the
order of the questions to the last bit, and a quiz may hold its questions in any.  But each of the
three reads the quiz from the store, where it comes in the order of places, and putting that in the
order of places once more changes nothing.  So all three go through the same points in the same
order, and where everything is right they come to the same number, bit for bit; the third is what
the start said as long as the quiz has not been put in anew.  That it has been published meanwhile
makes no difference.

Main definitions:

* `Store.worth?` — **what a quiz is worth in all**, as a start and a submission read it;
* `Console.started?` — the attempt that a command starts.

Main results:

* `Quiz.full_score` — all of it right scores the maximum;
* `AcceptedSubmission.Leaves.full` — what an accepted submission leaves;
* `Console.AtRest.started` — what a start leaves;
* `Console.worth_run`, `Console.worth_after` — what a quiz is worth stays the same until it is put
  in anew;
* `Console.full_marks_after` — **full marks are all there is, in every history**.
-/
import QuizAttempts.Proofs.Accepted
import QuizAttempts.Proofs.Grades
import QuizAttempts.Proofs.Marking
import QuizAttempts.Proofs.Staleness

set_option autoImplicit false

namespace QuizAttempts

/-! ### One submission -/

/-- **What a quiz is worth in all**, with two decimals, as a start and a submission read it. -/
def Store.worth? (store : Store) (q : Int) : Option Binary64 :=
  (store.quiz? q).map (·.maxScore.roundHundredths)

/-- An amount is a number. -/
theorem Binary64.HasRank.ne_nan {x : Binary64} {a : Nat} (h : x.HasRank a) : x ≠ Binary64.nan := by
  rintro rfl
  simp [HasRank, rank] at h

/-- **All of it right scores the maximum**, which is a number, where the quiz is held in its
order. -/
theorem Quiz.full_score {quiz : Quiz} {index : AnswerIndex} {grade : Grade}
    (hgrade : quiz.sorted.grade index = .ok grade) :
    grade.maxScore = quiz.sorted.maxScore.roundHundredths ∧ grade.maxScore ≠ Binary64.nan ∧
      ((∀ record ∈ grade.answers, record.isCorrect = true) → grade.score = grade.maxScore) := by
  obtain ⟨hquestions, -⟩ := grade_eq_ok_iff.1 hgrade
  obtain ⟨b, hmax⟩ := hasRank_maxScore hquestions
  -- the order in which what was earned is summed is the one in which the maximum is
  rw [grade_eq hquestions, sorted_sorted] at hgrade
  obtain rfl := Except.ok.inj hgrade
  refine ⟨rfl, hmax.roundHundredths.ne_nan, fun hright => ?_⟩
  rw [score_gradeOf, earned_eq_points fun q hq => hright _ (List.mem_map_of_mem hq)]
  rfl

/-- **What an accepted submission leaves**: the maximum is what the quiz was worth, and all of it
right has scored that. -/
theorem AcceptedSubmission.Leaves.full {x : AcceptedSubmission} {b : Attempt} (h : x.Leaves b) :
    x.service.store.worth? x.quizId = some b.maxScore ∧ b.maxScore ≠ Binary64.nan ∧
      ((∀ record ∈ b.answers, record.isCorrect = true) → b.score = some b.maxScore) := by
  obtain ⟨quiz, a, grade, haccepts, rfl, -⟩ := h
  obtain ⟨stored, -, hsorted⟩ := Option.map_eq_some_iff.1 haccepts.stored
  obtain ⟨index, -, hgrade⟩ := haccepts.graded
  rw [← hsorted] at hgrade
  obtain ⟨hmax, hnumber, hfull⟩ := Quiz.full_score hgrade
  refine ⟨?_, hnumber, fun hright => congrArg some (hfull hright)⟩
  rw [Store.worth?, haccepts.stored, ← hsorted]
  exact congrArg some hmax.symm

/-! ### One start -/

/-- The attempt that a request starts, by the way it ended. -/
def Service.started? : Request → Outcome Reply → Option Attempt
  | .start _ _, .done (.started a) => some a
  | _, _ => none

/-- **The attempt that a command starts**, if it does. -/
def Console.started? (console : Console) (command : Command) : Option Attempt :=
  command.request?.bind fun request => Service.started? request
    (console.service.run console.locked request.program).2

/-- **What a start leaves**: the attempt that it is answered with is in the store, and its maximum
is what the quiz is worth. -/
theorem Service.ComesTo.started {s t : Service} {request : Request} {outcome : Outcome Reply}
    (h : s.ComesTo request outcome t) (hfiled : s.store.Filed) {a : Attempt}
    (hstarted : Service.started? request outcome = some a) :
    s.store.worth? a.quizId = some a.maxScore ∧ t.store.attempts.get? a.id = some a := by
  cases h with
  | idle _ _ hwork =>
      -- a start that writes nothing has no result
      cases request with
      | start =>
          cases outcome with
          | done reply => simp [Request.isWriting, Outcome.result?] at hwork
          | _ => simp [Service.started?] at hstarted
      | _ => simp [Service.started?] at hstarted
  | @opened quizId _ quiz enrollment _ _ hstored _ _ _ hrows =>
      obtain rfl : s.nextAttempt quiz enrollment = a := Option.some.inj hstarted
      obtain ⟨stored, hquiz, rfl⟩ := Option.map_eq_some_iff.1 hstored
      have hid : stored.id = quizId := hfiled quizId stored hquiz
      refine ⟨?_, ?_⟩
      · show s.store.worth? stored.id = _
        rw [hid, Store.worth?, hstored]
        rfl
      · rw [hrows.attempts]
        exact Table.get?_insert_self _ _ _
  | closed _ hends => cases hends <;> simp [Service.started?] at hstarted
  | published | graded => simp [Service.started?] at hstarted

namespace Console

theorem AtRest.started {console : Console} (h : console.AtRest) {command : Command} {a : Attempt}
    (hstarted : console.started? command = some a) :
    console.service.store.worth? a.quizId = some a.maxScore ∧
      (console.run command).1.service.store.attempts.get? a.id = some a ∧
      ∃ request, command.request? = some request := by
  obtain ⟨request, hrequest, hstarted⟩ := Option.bind_eq_some_iff.1 hstarted
  rw [h.locked_eq] at hstarted
  have hcomes := Service.run_comesTo h.sound h.filed request
  obtain ⟨hworth, hrow⟩ := hcomes.started h.filed hstarted
  refine ⟨hworth, ?_, request, hrequest⟩
  rw [Console.run_request hrequest, h.locked_eq]
  exact hrow

/-! ### Until it is put in anew -/

/-- **What a quiz is worth stays the same** when it is not put in anew. -/
theorem worth_run (console : Console) {command : Command} {q : Int}
    (hedit : ∀ quiz, command = .putQuiz quiz → quiz.id ≠ q) :
    (console.run command).1.service.store.worth? q = console.service.store.worth? q := by
  have hgiven : ∀ quiz, Happening.given command = .given (.putQuiz quiz) → quiz.id ≠ q :=
    fun quiz hput => hedit quiz (Happening.given.inj hput)
  unfold Store.worth? Store.quiz?
  rw [Option.map_map, Option.map_map]
  exact console.looks_undergo (fun _ => rfl) hgiven

theorem worth_after (console : Console) {commands : List Command} {q : Int}
    (hedit : ∀ quiz, .putQuiz quiz ∈ commands → quiz.id ≠ q) :
    (console.after commands).service.store.worth? q = console.service.store.worth? q := by
  induction commands generalizing console with
  | nil => rfl
  | cons command commands ih =>
      rw [after_cons, ih _ fun quiz hput => hedit quiz (List.mem_cons_of_mem _ hput)]
      exact console.worth_run fun quiz hput => hedit quiz (hput ▸ List.mem_cons_self)

/-! ### Every history -/

/-- **What an accepted submission meets**: the service as it is, with the attempt in its store. -/
theorem AtRest.accepted {console : Console} (h : console.AtRest) {command : Command}
    (hmanaged : command.isManaged = true) {x : AcceptedSubmission}
    (hx : console.accepted? command = some x) :
    x.service = console.service ∧
      ∃ a, console.service.store.attempts.get? x.attemptId = some a ∧ a.quizId = x.quizId := by
  have hadvances := h.run_advances hmanaged
  rw [hx] at hadvances
  cases hadvances with
  | graded hservice haccepts =>
      exact ⟨hservice, _, haccepts.id ▸ haccepts.own.row, haccepts.quizId_eq h.filed⟩

/-- **Full marks are all there is, in every history** of requests and edits that begins without
attempts.  The attempt of every accepted submission stands as it was left; its maximum is a number,
and if all its records are right then its score is the same number.  If the attempt was started in
this history, and nobody has put the quiz in anew between the start and the submission, then the
maximum is the one that the start gave it. -/
theorem full_marks_after {start : Service} (hrows : start.store.attempts = Table.empty)
    (hfiled : start.store.Filed) (commands : List Command)
    (hmanaged : ∀ command ∈ commands, command.isManaged = true) :
    let rows := ((ofService start).after commands).service.store.attempts
    (∀ x ∈ (ofService start).acceptedIn commands, ∃ b, rows.get? x.attemptId = some b ∧
      x.Leaves b ∧ b.maxScore ≠ Binary64.nan ∧
      ((∀ record ∈ b.answers, record.isCorrect = true) → b.score = some b.maxScore)) ∧
    ∀ earlier opening between closing later a x,
      commands = earlier ++ opening :: (between ++ closing :: later) →
      ((ofService start).after earlier).started? opening = some a →
      ((ofService start).after (earlier ++ opening :: between)).accepted? closing = some x →
      x.attemptId = a.id → (∀ quiz, .putQuiz quiz ∈ between → quiz.id ≠ a.quizId) →
      x ∈ (ofService start).acceptedIn commands ∧
        ∃ b, rows.get? a.id = some b ∧ x.Leaves b ∧ b.maxScore = a.maxScore := by
  intro rows
  have hrest := AtRest.of_empty hrows hfiled
  have hkept := hrest.isKept_after hmanaged
  refine ⟨fun x hx => ?_, ?_⟩
  · obtain ⟨-, b, hb, hleaves⟩ := hkept x hx
    exact ⟨b, hb, hleaves, hleaves.full.2⟩
  · rintro earlier opening between closing later a x rfl hstarted hx hid hedit
    have hmem : x ∈ (ofService start).acceptedIn
        (earlier ++ opening :: (between ++ closing :: later)) := by
      rw [← List.cons_append, ← List.append_assoc, acceptedIn_append, acceptedIn, hx]
      simp
    simp only [List.forall_mem_append, List.forall_mem_cons] at hmanaged
    obtain ⟨hearlier, hopening, hbetween, hclosing, -⟩ := hmanaged
    -- what the start leaves is there until the submission
    have hbefore := hrest.rests_after hearlier
    obtain ⟨hworth, hrow, request, hrequest⟩ := hbefore.started hstarted
    have hopened := (hbefore.run hopening).1
    have hthere := hopened.rests_after hbetween
    obtain ⟨c, hc, hkeeps⟩ := hopened.kept_after hbetween hrow
    rw [after_append, after_cons] at hx
    obtain ⟨hservice, met, hmet, hquiz⟩ := hthere.accepted hclosing hx
    obtain rfl : c = met := Option.some.inj (hc.symm.trans (hid ▸ hmet))
    have hsame : x.quizId = a.quizId := hquiz.symm.trans hkeeps.continues.quizId
    obtain ⟨-, b, hb, hleaves⟩ := hkept x hmem
    refine ⟨hmem, b, hid ▸ hb, hleaves, ?_⟩
    -- and so is what the quiz is worth
    have hstays : x.service.store.worth? x.quizId = some a.maxScore := by
      rw [hservice, hsame, worth_after _ hedit, worth_run _ fun quiz hput => ?_, hworth]
      simp [hput, Command.request?] at hrequest
    exact Option.some.inj (hleaves.full.1.symm.trans hstays)

/-- What happens between the start and the submission: the quiz is published once more, and another
one put in. -/
def meanwhile : List Command := [.publish 1, .putQuiz { fourKinds with id := 2 }]

/-- A student starts an examination, and later answers it right. -/
def allAnsweredRight : List Command :=
  examination none ++ .request (.start 1 learner) :: (meanwhile ++
    [.request (.submit 1 1 [⟨1, some "a", none⟩] learner)])

/-- The student scores the two points that the start had promised. -/
theorem full_marks_after_allAnsweredRight :
    let rows := ((ofService Service.blank).after allAnsweredRight).service.store.attempts
    Service.blank.store.attempts = Table.empty ∧ Service.blank.store.Filed ∧
      (∀ command ∈ allAnsweredRight, command.isManaged = true) ∧
      ∃ a x b, ((ofService Service.blank).after (examination none)).started?
          (.request (.start 1 learner)) = some a ∧
        x ∈ (ofService Service.blank).acceptedIn allAnsweredRight ∧
        rows.get? a.id = some b ∧ x.Leaves b ∧ b.score = some b.maxScore ∧
        b.maxScore = a.maxScore ∧ a.maxScore = Binary64.ofInt 2 := by
  intro rows
  have hfiled := Service.filed_blank
  have hmanaged : ∀ command ∈ allAnsweredRight, command.isManaged = true := by decide +kernel
  obtain ⟨hfull, hspan⟩ := full_marks_after rfl hfiled allAnsweredRight hmanaged
  have hstarts : (((ofService Service.blank).after (examination none)).started?
      (.request (.start 1 learner))).any fun a =>
        decide (a.id = 1 ∧ a.quizId = 1 ∧ a.maxScore = Binary64.ofInt 2) := by decide +kernel
  have hsubmits : (((ofService Service.blank).after (examination none ++
      .request (.start 1 learner) :: meanwhile)).accepted?
        (.request (.submit 1 1 [⟨1, some "a", none⟩] learner))).any fun x =>
        decide (x.attemptId = 1) := by decide +kernel
  have hright : (rows.get? 1).any fun b => b.answers.all (·.isCorrect) := by decide +kernel
  obtain ⟨a, hstarted, ha⟩ := (Option.any_eq_true _ _).1 hstarts
  obtain ⟨x, hx, hid⟩ := (Option.any_eq_true _ _).1 hsubmits
  obtain ⟨haid, haquiz, hamax⟩ := of_decide_eq_true ha
  have hxid := of_decide_eq_true hid
  have hedit : ∀ quiz, .putQuiz quiz ∈ meanwhile → quiz.id ≠ a.quizId := by
    intro quiz hput
    simp only [meanwhile, List.mem_cons, List.not_mem_nil, or_false, Command.putQuiz.injEq,
      reduceCtorEq, false_or] at hput
    rw [hput, haquiz]
    decide
  obtain ⟨hmem, b, hb, hleaves, hmax⟩ :=
    hspan (examination none) _ meanwhile _ [] a x rfl hstarted hx (hxid.trans haid.symm) hedit
  obtain ⟨c, hc, -, -, hscore⟩ := hfull x hmem
  obtain rfl : b = c := Option.some.inj (hb.symm.trans (haid.trans hxid.symm ▸ hc))
  have hall : ∀ record ∈ b.answers, record.isCorrect = true := by
    rw [← haid, hb] at hright
    simpa using hright
  exact ⟨rfl, hfiled, hmanaged, a, x, b, hstarted, hmem, hb, hleaves, hscore hall, hmax, hamax⟩

end Console

end QuizAttempts
