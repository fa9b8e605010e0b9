/-
**Late work is never credited, and work that is in time is never closed as overdue.**

Nobody watches the clock: whether an attempt is overdue is asked when a request comes by, and what
is recorded then is the moment of the asking.  So the record alone tells whether the limit was kept.
Whoever was credited had not used more than the limit, to the nanosecond, and whoever was closed as
overdue had; the seconds that are recorded are the whole ones of the same span.  The clock may have
been moved either way in between, for only the beginning and the moment of the grading count.

This is about quizzes whose limit was one and the same all the time.  An attempt is measured by the
limit that its quiz has when it is asked for.

Main definitions:

* `Attempt.IsTimely` — the record of an attempt keeps to a limit;
* `Console.LimitedBy` — the limit of a quiz throughout a history.

Main results:

* `Timestamp.secondsSince_le`, `Timestamp.le_secondsSince` — the whole seconds of a span;
* `Service.Origin.isTimely` — where a row comes from, it keeps to the limit;
* `Attempt.IsTimely.minutes`, `Attempt.IsTimely.submitted` — what the record says then;
* `Console.timely_after` — **the limits after every history**.
-/
import QuizAttempts.Proofs.Accepted

set_option autoImplicit false

namespace QuizAttempts

/-! ### Whole seconds -/

namespace Timestamp

variable {later earlier : Timestamp} {minutes : Int}

/-- Nobody has used any time before the beginning. -/
theorem secondsSince_of_neg (h : later.since earlier < 0) : later.secondsSince earlier = 0 := by
  have hneg : 0 ≤ (-later.since earlier).tdiv nanosPerSecond :=
    Int.tdiv_nonneg (by omega) (Int.natCast_nonneg _)
  rw [Int.neg_tdiv] at hneg
  rw [secondsSince]
  omega

theorem secondsSince_of_nonneg (h : 0 ≤ later.since earlier) :
    later.secondsSince earlier = later.since earlier / nanosPerSecond := by
  have hpos : 0 ≤ later.since earlier / nanosPerSecond := Int.ediv_nonneg h (Int.natCast_nonneg _)
  rw [secondsSince, Int.tdiv_eq_ediv_of_nonneg h]
  omega

/-- Within a number of minutes there are no more whole seconds than that. -/
theorem secondsSince_le (h : later.since earlier ≤ minutes * 60 * nanosPerSecond) :
    later.secondsSince earlier ≤ max 0 (60 * minutes) := by
  rcases Int.lt_or_le (later.since earlier) 0 with hneg | hpos
  · rw [secondsSince_of_neg hneg]
    omega
  · rw [secondsSince_of_nonneg hpos]
    simp only [nanosPerSecond] at *
    omega

/-- Beyond a number of minutes there are as many whole seconds at least. -/
theorem le_secondsSince (h : minutes * 60 * nanosPerSecond < later.since earlier) :
    60 * minutes ≤ later.secondsSince earlier := by
  rcases Int.lt_or_le (later.since earlier) 0 with hneg | hpos
  · rw [secondsSince_of_neg hneg]
    simp only [nanosPerSecond] at *
    omega
  · rw [secondsSince_of_nonneg hpos]
    simp only [nanosPerSecond] at *
    omega

end Timestamp

/-! ### One row -/

/-- **The record of an attempt keeps to a limit.** -/
structure Attempt.IsTimely (limit : Option Int) (a : Attempt) : Prop where
  running : a.isOpen = true → a.submittedAt = none
  inTime : ∀ moment, a.submittedAt = some moment →
    a.isOverdue limit moment = false ∧ a.timeTaken = some (a.elapsed moment)
  overdue : a.isOpen = false → a.submittedAt = none → ∃ moment, a.gradedAt = some moment ∧
    a.isOverdue limit moment = true ∧ a.timeTaken = some (a.elapsed moment)

theorem Service.isTimely_nextAttempt (s : Service) (quiz : Quiz) (enrollment : Enrollment)
    (limit : Option Int) : (s.nextAttempt quiz enrollment).IsTimely limit :=
  ⟨fun _ => rfl, fun moment h => by simp [nextAttempt, NewAttempt.toAttempt] at h,
    fun h => by simp [nextAttempt] at h⟩

theorem Attempt.IsTimely.expired {limit : Option Int} {a : Attempt} (h : a.IsTimely limit)
    (hopen : a.isOpen = true) {now : Timestamp} (hoverdue : a.isOverdue limit now = true) :
    (a.expired now).IsTimely limit where
  running hopen' := by simp at hopen'
  inTime moment hsubmitted := by
    have hnone : a.submittedAt = some moment := hsubmitted
    rw [h.running hopen] at hnone
    simp at hnone
  overdue _ _ := ⟨now, rfl, hoverdue, rfl⟩

theorem Attempt.isTimely_graded {limit : Option Int} (a : Attempt) (grade : Grade) {now : Timestamp}
    (hinTime : a.isOverdue limit now = false) : (a.graded grade now).IsTimely limit where
  running hopen := by simp at hopen
  inTime moment hsubmitted := by
    obtain rfl : now = moment := Option.some.inj hsubmitted
    exact ⟨hinTime, rfl⟩
  overdue _ hsubmitted := by simp [Attempt.graded] at hsubmitted

/-- **A limit of minutes**: whoever submitted had used no more, and whoever was graded without
having submitted had used more. -/
theorem Attempt.IsTimely.minutes {minutes : Int} {a : Attempt} (h : a.IsTimely (some minutes)) :
    (∀ moment, a.submittedAt = some moment →
      moment.since a.startedAt ≤ minutes * 60 * nanosPerSecond ∧
      ∃ seconds, a.timeTaken = some seconds ∧ seconds ≤ max 0 (60 * minutes)) ∧
    (a.status = .graded → a.submittedAt = none → ∃ moment, a.gradedAt = some moment ∧
      minutes * 60 * nanosPerSecond < moment.since a.startedAt ∧
      ∃ seconds, a.timeTaken = some seconds ∧ 60 * minutes ≤ seconds) := by
  constructor
  · intro moment hsubmitted
    obtain ⟨hinTime, htaken⟩ := h.inTime moment hsubmitted
    have hle : moment.since a.startedAt ≤ minutes * 60 * nanosPerSecond :=
      Int.not_lt.1 (of_decide_eq_false hinTime)
    exact ⟨hle, _, htaken, Timestamp.secondsSince_le hle⟩
  · intro hgraded hnever
    have hclosed : a.isOpen = false := by simp [isOpen, hgraded]
    obtain ⟨moment, hmoment, hoverdue, htaken⟩ := h.overdue hclosed hnever
    have hlt : minutes * 60 * nanosPerSecond < moment.since a.startedAt :=
      of_decide_eq_true hoverdue
    exact ⟨moment, hmoment, hlt, _, htaken, Timestamp.le_secondsSince hlt⟩

/-- Without a limit nothing is ever overdue, and so whoever was graded has submitted. -/
theorem Attempt.IsTimely.submitted {a : Attempt} (h : a.IsTimely none)
    (hgraded : a.status = .graded) : ∃ moment, a.submittedAt = some moment := by
  cases hsubmitted : a.submittedAt with
  | some moment => exact ⟨moment, rfl⟩
  | none =>
      have hclosed : a.isOpen = false := by simp [isOpen, hgraded]
      obtain ⟨moment, -, hoverdue, -⟩ := h.overdue hclosed hsubmitted
      simp [isOverdue] at hoverdue

/-- **Where a row comes from, it keeps to the limit**, if all rows did and that is the limit of its
quiz at the moment. -/
theorem Service.Origin.isTimely {s : Service} {accepted : Option AcceptedSubmission} {id : Int}
    {b : Attempt} (h : s.Origin accepted id b) (hfiled : s.store.Filed) {limit : Option Int}
    (hlimit : ∀ quiz, s.store.quizzes.get? b.quizId = some quiz → quiz.timeLimit = limit)
    (hpast : ∀ (id : Int) (a : Attempt), s.store.attempts.get? id = some a →
      a.quizId = b.quizId → a.IsTimely limit) : b.IsTimely limit := by
  cases h with
  | stood hb => exact hpast id b hb rfl
  | opened hb =>
      rw [hb]
      exact s.isTimely_nextAttempt _ _ _
  | @closed quizId actor a hown _ hb =>
      have hquizId : b.quizId = quizId := by rw [hb, ← hown.quizId_eq hfiled]; rfl
      obtain ⟨quiz, hquiz, hopen, hoverdue⟩ := hown
      rw [hlimit quiz (hquizId ▸ hquiz)] at hoverdue
      rw [hb] at hpast ⊢
      exact (hpast a.id a hopen.row rfl).expired hopen.isOpen hoverdue
  | @left x _ hservice hleaves =>
      obtain rfl := hservice
      obtain ⟨quiz, a, grade, haccepts, rfl, -⟩ := hleaves
      have hquizId : (a.graded grade x.service.clock).quizId = x.quizId := haccepts.quizId_eq hfiled
      obtain ⟨stored, hstored, rfl⟩ := Option.map_eq_some_iff.1 haccepts.stored
      have hinTime : a.isOverdue stored.timeLimit x.service.clock = false := haccepts.inTime
      rw [hlimit stored (hquizId ▸ hstored)] at hinTime
      exact a.isTimely_graded grade hinTime

namespace Console

/-! ### Histories -/

/-- **A quiz has one limit all the time** that a history takes, whenever it is there. -/
def LimitedBy (console : Console) (commands : List Command) (quizId : Int) (limit : Option Int) :
    Prop :=
  ∀ earlier, earlier <+: commands → ∀ quiz,
    (console.after earlier).service.store.quizzes.get? quizId = some quiz → quiz.timeLimit = limit

/-- All records of attempts at a quiz keep to the limit that it has all the time. -/
theorem AtRest.isTimely_after {console : Console} (h : console.AtRest) {q : Int}
    {limit : Option Int}
    (hpast : ∀ (id : Int) (a : Attempt), console.service.store.attempts.get? id = some a →
      a.quizId = q → a.IsTimely limit) {commands : List Command}
    (hmanaged : ∀ command ∈ commands, command.isManaged = true)
    (hlimit : console.LimitedBy commands q limit) (id : Int) (a : Attempt)
    (ha : (console.after commands).service.store.attempts.get? id = some a) (hq : a.quizId = q) :
    a.IsTimely limit := by
  refine (h.after_advances
    (fun s => ∀ quiz, s.store.quizzes.get? q = some quiz → quiz.timeLimit = limit)
    (fun _ s => ∀ id a, s.store.attempts.get? id = some a → a.quizId = q → a.IsTimely limit)
    ?_ [] hpast hmanaged hlimit).2 id a ha hq
  intro past s t accepted _ hfiled hduring hadvances hpast id b hb hq
  exact (hadvances.origin hb).isTimely hfiled (hq ▸ hduring) (hq ▸ hpast)

/-- **The limits after every history** of requests and edits that begins without attempts.  At a
quiz whose limit was a number of minutes all the time, whoever submitted had used no more than
these, and whoever was graded without having submitted had used more.  At a quiz without a limit all
the time everybody who was graded has submitted. -/
theorem timely_after {start : Service} (hrows : start.store.attempts = Table.empty)
    (hfiled : start.store.Filed) (commands : List Command)
    (hmanaged : ∀ command ∈ commands, command.isManaged = true) (q : Int) :
    let rows := ((ofService start).after commands).service.store.attempts
    (∀ minutes, (ofService start).LimitedBy commands q (some minutes) →
      ∀ id a, rows.get? id = some a → a.quizId = q →
        (∀ moment, a.submittedAt = some moment →
          moment.since a.startedAt ≤ minutes * 60 * nanosPerSecond ∧
          ∃ seconds, a.timeTaken = some seconds ∧ seconds ≤ max 0 (60 * minutes)) ∧
        (a.status = .graded → a.submittedAt = none → ∃ moment, a.gradedAt = some moment ∧
          minutes * 60 * nanosPerSecond < moment.since a.startedAt ∧
          ∃ seconds, a.timeTaken = some seconds ∧ 60 * minutes ≤ seconds)) ∧
    ((ofService start).LimitedBy commands q none →
      ∀ id a, rows.get? id = some a → a.quizId = q → a.status = .graded →
        ∃ moment, a.submittedAt = some moment) := by
  have htimely : ∀ limit, (ofService start).LimitedBy commands q limit → ∀ id a,
      ((ofService start).after commands).service.store.attempts.get? id = some a →
        a.quizId = q → a.IsTimely limit := by
    intro limit hlimit
    refine (AtRest.of_empty hrows hfiled).isTimely_after ?_ hmanaged hlimit
    intro id a ha
    exact absurd ha (Store.get?_ne_some hrows id a)
  constructor
  · intro minutes hlimit id a ha hq
    exact (htimely (some minutes) hlimit id a ha hq).minutes
  · intro hlimit id a ha hq hgraded
    exact (htimely none hlimit id a ha hq).submitted hgraded

/-- Exactly one minute is in time, and a nanosecond more is not; both are sixty whole seconds. -/
theorem timely_after_threeAttempts :
    Service.blank.store.attempts = Table.empty ∧ Service.blank.store.Filed ∧
      (∀ command ∈ threeAttempts, command.isManaged = true) ∧
      (ofService Service.blank).LimitedBy threeAttempts 1 (some 1) ∧
      let rows := ((ofService Service.blank).after threeAttempts).service.store.attempts
      ∃ a b submitted closed, rows.get? 1 = some a ∧ rows.get? 2 = some b ∧
        a.submittedAt = some submitted ∧ submitted.since a.startedAt ≤ 60000000000 ∧
        b.submittedAt = none ∧ b.gradedAt = some closed ∧
        60000000000 < closed.since b.startedAt := by
  have hfiled := Service.filed_blank
  have hmanaged : ∀ command ∈ threeAttempts, command.isManaged = true := by decide +kernel
  have hlimits : ∀ earlier ∈ threeAttempts.inits,
      (((ofService Service.blank).after earlier).service.store.quizzes.get? 1).all
        (·.timeLimit = some 1) = true := by decide +kernel
  have hlimit : (ofService Service.blank).LimitedBy threeAttempts 1 (some 1) := by
    intro earlier hearlier quiz hquiz
    have hall := hlimits earlier ((List.mem_inits _ _).2 hearlier)
    simpa [hquiz] using hall
  have htimely := (timely_after rfl hfiled threeAttempts hmanaged 1).1 1 hlimit
  generalize hrows : ((ofService Service.blank).after threeAttempts).service.store.attempts = rows
    at htimely
  have hsummary : [1, 2].map (fun id => (rows.get? id).map fun a =>
      (a.quizId, a.status, a.submittedAt.isSome)) =
      [some (1, .graded, true), some (1, .graded, false)] := by
    rw [← hrows]
    decide +kernel
  simp only [List.map_cons, List.map_nil, List.cons.injEq, Option.map_eq_some_iff,
    Prod.mk.injEq, and_true, Option.isSome_iff_exists, Option.isSome_eq_false_iff,
    Option.isNone_iff_eq_none] at hsummary
  obtain ⟨⟨a, ha, haquiz, -, submitted, hsubmitted⟩, b, hb, hbquiz, hbgraded, hbnever⟩ := hsummary
  have hinTime := (htimely 1 a ha haquiz).1 submitted hsubmitted
  obtain ⟨closed, hclosed, hlate, -⟩ := (htimely 2 b hb hbquiz).2 hbgraded hbnever
  exact ⟨rfl, hfiled, hmanaged, hlimit, a, b, submitted, closed, ha, hb, hsubmitted, hinTime.1,
    hbnever, hclosed, hlate⟩

end Console

end QuizAttempts
