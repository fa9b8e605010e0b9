/-
**What the record of an attempt says, and that it is final.**

An attempt is recorded in one of three ways.  While it is in progress nothing is known of its
result.  Once graded the result is there as a whole: it is the one of the submission that was
accepted for the attempt, with the records that grading its answers gave, or it is the one of an
attempt that ran out of time, which is worth nothing and was never submitted.  There is no record
in between, whatever is edited, whichever way the clock is moved and whoever is broken meanwhile.

A record is never removed, is always the one of the same attempt, and once graded it is never
written again.

Main definitions:

* `Attempt.IsUnfilled`, `Attempt.IsGradedBy`, `Attempt.IsTimedOut` — **the three records**.

Main results:

* `Service.Origin.recorded` — where a row comes from, it is one of the three;
* `Console.recorded_after` — the records after every history.
-/
import QuizAttempts.Proofs.Accepted

set_option autoImplicit false

namespace QuizAttempts

/-! ### The three records -/

/-- **An attempt in progress**: nothing is known of its result. -/
structure Attempt.IsUnfilled (a : Attempt) : Prop where
  status : a.status = .inProgress
  submittedAt : a.submittedAt = none
  gradedAt : a.gradedAt = none
  score : a.score = none
  percentage : a.percentage = none
  isPassed : a.isPassed = none
  timeTaken : a.timeTaken = none
  answers : a.answers = []

/-- **An attempt that was graded by a submission**, at the moment at which it was submitted. -/
structure Attempt.IsGradedBy (a : Attempt) (x : AcceptedSubmission) : Prop where
  id : a.id = x.attemptId
  status : a.status = .graded
  submittedAt : a.submittedAt = some x.service.clock
  gradedAt : a.gradedAt = some x.service.clock
  timeTaken : ∃ seconds, 0 ≤ seconds ∧ a.timeTaken = some seconds
  grade : ∃ quiz index grade, x.service.store.quiz? x.quizId = some quiz ∧
    quiz.indexAnswers x.answers = .ok index ∧ quiz.grade index = .ok grade ∧
    a.score = some grade.score ∧ a.percentage = some grade.percentage ∧
    a.isPassed = some grade.isPassed ∧ a.answers = grade.answers

/-- **An attempt that ran out of time**: it is worth nothing, and was never submitted. -/
structure Attempt.IsTimedOut (a : Attempt) : Prop where
  status : a.status = .graded
  submittedAt : a.submittedAt = none
  gradedAt : ∃ moment, a.gradedAt = some moment
  timeTaken : ∃ seconds, 0 ≤ seconds ∧ a.timeTaken = some seconds
  score : a.score = some Binary64.zero
  percentage : a.percentage = some Binary64.zero
  isPassed : a.isPassed = some false
  answers : a.answers = []

/-- One of the three, where the submissions are among those that were accepted. -/
def Attempt.IsRecorded (a : Attempt) (accepted : List AcceptedSubmission) : Prop :=
  a.IsUnfilled ∨ (∃ x ∈ accepted, a.IsGradedBy x) ∨ a.IsTimedOut

theorem Service.isUnfilled_nextAttempt (s : Service) (quiz : Quiz) (enrollment : Enrollment) :
    (s.nextAttempt quiz enrollment).IsUnfilled :=
  ⟨rfl, rfl, rfl, rfl, rfl, rfl, rfl, rfl⟩

/-- Closing an attempt of whose result nothing is known leaves it without answers. -/
theorem Attempt.IsUnfilled.expired {a : Attempt} (h : a.IsUnfilled) (now : Timestamp) :
    (a.expired now).IsTimedOut where
  status := rfl
  submittedAt := h.submittedAt
  gradedAt := ⟨now, rfl⟩
  timeTaken := ⟨a.elapsed now, now.secondsSince_nonneg a.startedAt, rfl⟩
  score := rfl
  percentage := rfl
  isPassed := rfl
  answers := h.answers

theorem AcceptedSubmission.Leaves.isGradedBy {x : AcceptedSubmission} {b : Attempt}
    (h : x.Leaves b) : b.IsGradedBy x := by
  obtain ⟨quiz, a, grade, haccepts, rfl, -⟩ := h
  obtain ⟨index, hindex, hgrade⟩ := haccepts.graded
  exact ⟨haccepts.id, rfl, rfl, rfl,
    ⟨a.elapsed x.service.clock, x.service.clock.secondsSince_nonneg a.startedAt, rfl⟩,
    quiz, index, grade, haccepts.stored, hindex, hgrade, rfl, rfl, rfl, rfl⟩

theorem Attempt.IsRecorded.isUnfilled {a : Attempt} {accepted : List AcceptedSubmission}
    (h : a.IsRecorded accepted) (hopen : a.isOpen = true) : a.IsUnfilled := by
  rcases h with hunfilled | ⟨x, -, hgraded⟩ | htimedOut
  · exact hunfilled
  · simp [Attempt.isOpen, hgraded.status] at hopen
  · simp [Attempt.isOpen, htimedOut.status] at hopen

/-! ### One command -/

/-- **Where a row comes from, it is one of the three records**, if all rows were. -/
theorem Service.Origin.recorded {s : Service} {accepted : Option AcceptedSubmission} {id : Int}
    {b : Attempt} (h : s.Origin accepted id b) {past : List AcceptedSubmission}
    (hpast : ∀ (id : Int) (a : Attempt), s.store.attempts.get? id = some a → a.IsRecorded past) :
    b.IsRecorded (past ++ accepted.toList) := by
  cases h with
  | stood hb =>
      rcases hpast id b hb with hunfilled | ⟨x, hx, hgraded⟩ | htimedOut
      · exact Or.inl hunfilled
      · exact Or.inr (Or.inl ⟨x, List.mem_append_left _ hx, hgraded⟩)
      · exact Or.inr (Or.inr htimedOut)
  | opened hb =>
      rw [hb]
      exact Or.inl (s.isUnfilled_nextAttempt _ _)
  | closed hown _ hb =>
      obtain ⟨quiz, -, hopen, -⟩ := hown
      rw [hb]
      exact Or.inr (Or.inr (((hpast _ _ hopen.row).isUnfilled hopen.isOpen).expired s.clock))
  | @left x hx _ hleaves =>
      refine Or.inr (Or.inl ⟨x, ?_, hleaves.isGradedBy⟩)
      simp [hx]

namespace Console

/-! ### Histories -/

/-- Every row is one of the three records. -/
theorem AtRest.isRecorded_after {console : Console} (h : console.AtRest)
    (past : List AcceptedSubmission)
    (hpast : ∀ (id : Int) (a : Attempt), console.service.store.attempts.get? id = some a →
      a.IsRecorded past) {commands : List Command}
    (hmanaged : ∀ command ∈ commands, command.isManaged = true) (id : Int) (a : Attempt)
    (ha : (console.after commands).service.store.attempts.get? id = some a) :
    a.IsRecorded (past ++ console.acceptedIn commands) := by
  refine (h.after_advances (fun _ => True) (fun past s => ∀ id a,
    s.store.attempts.get? id = some a → a.IsRecorded past) ?_ past hpast hmanaged
    fun _ _ => trivial).2 id a ha
  intro past s t accepted _ _ _ hadvances hpast id b hb
  exact (hadvances.origin hb).recorded hpast

/-- **The records after every history** of requests and edits that begins without attempts.  Every
attempt is recorded in one of the three ways, and every attempt of any moment on the way is still
there: it is the same attempt, with its number and its beginning, and not opened again, and if it
was graded then its record is the same to the last detail. -/
theorem recorded_after {start : Service} (hrows : start.store.attempts = Table.empty)
    (hfiled : start.store.Filed) (commands : List Command)
    (hmanaged : ∀ command ∈ commands, command.isManaged = true) :
    let rows := ((ofService start).after commands).service.store.attempts
    (∀ id a, rows.get? id = some a → a.id = id ∧
      (a.IsUnfilled ∨ (∃ x ∈ (ofService start).acceptedIn commands, a.IsGradedBy x) ∨
        a.IsTimedOut)) ∧
    ∀ earlier, earlier <+: commands → ∀ id a,
      ((ofService start).after earlier).service.store.attempts.get? id = some a →
        ∃ b, rows.get? id = some b ∧ b.Continues a ∧ (a.status = .graded → b = a) := by
  have hrest := AtRest.of_empty hrows hfiled
  constructor
  · intro id a ha
    refine ⟨(hrest.rests_after hmanaged).sound.orderly.own ha, ?_⟩
    refine hrest.isRecorded_after [] ?_ hmanaged id a ha
    intro id b hb
    exact absurd hb (Store.get?_ne_some hrows id b)
  · intro earlier hearlier id a ha
    obtain ⟨later, rfl⟩ := hearlier
    have hbefore := hrest.rests_after fun command h => hmanaged command (List.mem_append_left _ h)
    obtain ⟨b, hb, hkeeps⟩ :=
      hbefore.kept_after (fun command h => hmanaged command (List.mem_append_right _ h)) ha
    rw [after_append]
    refine ⟨b, hb, hkeeps.continues, ?_⟩
    intro hgraded
    exact hkeeps.eq_of_closed (by simp [Attempt.isOpen, hgraded])

/-- Each of the three attempts is recorded in another way. -/
theorem recorded_after_threeAttempts :
    Service.blank.store.attempts = Table.empty ∧ Service.blank.store.Filed ∧
      (∀ command ∈ threeAttempts, command.isManaged = true) ∧
      let rows := ((ofService Service.blank).after threeAttempts).service.store.attempts
      ∃ a b c, rows.get? 1 = some a ∧ rows.get? 2 = some b ∧ rows.get? 3 = some c ∧
        (∃ x ∈ (ofService Service.blank).acceptedIn threeAttempts, a.IsGradedBy x) ∧
        b.IsTimedOut ∧ c.IsUnfilled := by
  have hfiled := Service.filed_blank
  have hmanaged : ∀ command ∈ threeAttempts, command.isManaged = true := by decide +kernel
  obtain ⟨hrecorded, -⟩ := recorded_after rfl hfiled threeAttempts hmanaged
  generalize hrows : ((ofService Service.blank).after threeAttempts).service.store.attempts = rows
    at hrecorded
  have hsummary : [1, 2, 3].map (fun id => (rows.get? id).map fun a =>
      (a.status, a.submittedAt.isSome)) =
      [some (.graded, true), some (.graded, false), some (.inProgress, false)] := by
    rw [← hrows]
    decide +kernel
  simp only [List.map_cons, List.map_nil, List.cons.injEq, Option.map_eq_some_iff,
    Prod.mk.injEq, and_true] at hsummary
  obtain ⟨⟨a, ha, hagraded, hasubmitted⟩, ⟨b, hb, hbgraded, hbsubmitted⟩, c, hc, hcopen, -⟩ :=
    hsummary
  refine ⟨rfl, hfiled, hmanaged, a, b, c, ha, hb, hc, ?_, ?_, ?_⟩
  · rcases (hrecorded 1 a ha).2 with hunfilled | hgraded | htimedOut
    · simp [hunfilled.status] at hagraded
    · exact hgraded
    · simp [htimedOut.submittedAt] at hasubmitted
  · rcases (hrecorded 2 b hb).2 with hunfilled | ⟨x, -, hgraded⟩ | htimedOut
    · simp [hunfilled.status] at hbgraded
    · simp [hgraded.submittedAt] at hbsubmitted
    · exact htimedOut
  · rcases (hrecorded 3 c hc).2 with hunfilled | ⟨x, -, hgraded⟩ | htimedOut
    · exact hunfilled
    · simp [hgraded.status] at hcopen
    · simp [htimedOut.status] at hcopen

end Console

end QuizAttempts
