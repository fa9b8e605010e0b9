/-
**Students do not see or touch one another's attempts.**

All attempts stand in one table and are numbered from one counter, and a request that names an
attempt looks it up before it asks whose it is.  Nothing of that shows.  What a student is told, and
what becomes of the student's attempts, depends on the attempts of the student's own enrollment and
on how the service is set up; the attempts of others, the lessons they have completed and the events
they have caused make no difference, except for the identifier that a new attempt is given.  An
attempt of somebody else is answered for as if it were not there.  And no request of a student
changes a row of any other pair.

Main definitions:

* `Store.rowsOf` — the attempts of an enrollment;
* `Service.SameSight` — services that agree on what a student may see;
* `Service.EndsAlike` — **two runs that differ in the identifier of a new attempt at most**;
* `Store.OnePerCourse`, `Store.InCourse` — the enrollments of a student, and the quizzes of a
  course;
* `Service.Spares` — the rows of all other pairs are as they were.

Main results:

* `Service.SameSight.decideStart` and its like — what is decided is decided alike;
* `Service.ComesTo.spares` — **a request writes to one pair**;
* `Service.isolated` — both at once, for every request of a student about attempts.
-/
import QuizAttempts.Proofs.Numbering
import QuizAttempts.Proofs.Operations

set_option autoImplicit false

namespace QuizAttempts

/-! ### What a student may see -/

/-- The attempts of an enrollment. -/
def Store.rowsOf (store : Store) (e : Int) : Table Attempt :=
  store.attempts.filter (·.enrollmentId == e)

theorem Store.get?_rowsOf {store : Store} {e id : Int} {a : Attempt} :
    (store.rowsOf e).get? id = some a ↔ store.attempts.get? id = some a ∧ a.enrollmentId = e := by
  rw [rowsOf, Table.get?_filter, Option.filter_eq_some_iff, beq_iff_eq]

/-- **Services that agree on what a student may see**: they are set up alike, as many inserts will
collide, and the attempts of the enrollment are the same. -/
structure Service.SameSight (e : Int) (s t : Service) : Prop where
  setting : s.SameSetting t
  pending : t.pendingCollisions = s.pendingCollisions
  rows : t.store.rowsOf e = s.store.rowsOf e

theorem Service.Alike.of_rowsOf {e : Int} {s t : Service} (hclock : t.clock = s.clock)
    (hrows : t.store.rowsOf e = s.store.rowsOf e) : s.Alike e t where
  clock := hclock
  rows id a ha := by
    have hsame : (t.store.rowsOf e).get? id = some a ↔ (s.store.rowsOf e).get? id = some a := by
      rw [hrows]
    rw [Store.get?_rowsOf, Store.get?_rowsOf] at hsame
    simpa [ha] using hsame

/-- **Two runs that a student cannot tell apart**, but for the identifier of a new attempt, which is
`i` in the one and `j` in the other. -/
inductive Service.EndsAlike (e i j : Int) : Service × Outcome Reply → Service × Outcome Reply → Prop
  | same {s t : Service} {outcome : Outcome Reply} (hrows : t.store.rowsOf e = s.store.rowsOf e) :
      EndsAlike e i j (s, outcome) (t, outcome)
  | opened {s t : Service} {rows : Table Attempt} {new : NewAttempt} (hi : rows.get? i = none)
      (hj : rows.get? j = none) (hs : s.store.rowsOf e = rows.insert i (new.toAttempt i))
      (ht : t.store.rowsOf e = rows.insert j (new.toAttempt j)) :
      EndsAlike e i j (s, .done (.started (new.toAttempt i)))
        (t, .done (.started (new.toAttempt j)))

/-! ### What is decided alike -/

section Setting

variable {s t : Service}

theorem Service.SameSetting.entry (h : s.SameSetting t) (quizId : Int) (actor : Actor) :
    t.store.entry quizId actor = s.store.entry quizId actor := by
  simp only [Store.entry, h.quiz?, h.lesson?]

theorem Service.SameSetting.admission (h : s.SameSetting t) (quizId : Int) (actor : Actor) :
    t.store.admission quizId actor = s.store.admission quizId actor := by
  simp only [Store.admission, Store.access, h.entry, h.enrollmentOf?]

theorem Service.SameSetting.reviewing (h : s.SameSetting t) (quizId : Int) (actor : Actor) :
    t.store.reviewing quizId actor = s.store.reviewing quizId actor := by
  simp only [Store.reviewing, Store.quizSettings?, h.quizzes, h.lesson?, h.enrollmentOf?]

end Setting

section Alike

variable {e : Int} {s t : Service} {quiz : Quiz} {enrollment : Enrollment}

/-- Services that agree on the attempts of an enrollment have the same attempts of it. -/
theorem Service.Alike.rowsOf (h : s.Alike e t) : t.store.rowsOf e = s.store.rowsOf e :=
  Table.filter_congr fun id a ha => h.rows id a (beq_iff_eq.1 ha)

theorem Service.Alike.attemptsOf (h : s.Alike e t) (q : Int) :
    t.store.attemptsOf e q = s.store.attemptsOf e q := by
  unfold Store.attemptsOf
  rw [Table.filter_congr fun id a ha => h.rows id a (Attempt.isOf_iff.1 ha).1]

/-- A row of the enrollment is written in both. -/
theorem Service.Alike.puts (h : s.Alike e t) (a : Attempt) : (s.puts a).Alike e (t.puts a) where
  clock := h.clock
  rows id b hb := by
    show (t.store.attempts.insert a.id a).get? id = some b ↔
      (s.store.attempts.insert a.id a).get? id = some b
    rw [Table.get?_insert, Table.get?_insert]
    split
    · exact Iff.rfl
    · exact h.rows id b hb

theorem Service.Alike.isBusy (h : s.Alike enrollment.id t) :
    t.isBusy quiz enrollment = s.isBusy quiz enrollment := by
  rw [Service.isBusy, h.running?, h.clock, Service.isBusy]

theorem Service.Alike.swept (h : s.Alike enrollment.id t) (quiz : Quiz) :
    (s.swept quiz enrollment).Alike enrollment.id (t.swept quiz enrollment) := by
  unfold Service.swept Service.overdue?
  rw [h.running?, h.clock]
  split
  · exact h.puts _
  · exact h

theorem Service.Alike.nextNew (h : s.Alike enrollment.id t) :
    t.nextNew quiz enrollment = s.nextNew quiz enrollment := by
  rw [Service.nextNew, h.latest, h.clock, Service.nextNew]

theorem Service.Alike.credited (h : s.Alike e t) (quiz : Quiz) (a : Attempt) (grade : Grade)
    (actor : Actor) :
    (s.credited quiz a grade actor).store.rowsOf e =
      ((s.puts (a.graded grade s.clock)).store.rowsOf e) ∧
    (t.credited quiz a grade actor).store.rowsOf e =
      ((s.puts (a.graded grade s.clock)).store.rowsOf e) := by
  have hputs := (h.puts (a.graded grade s.clock)).rowsOf
  constructor
  · rw [Service.credited, Store.rowsOf, Service.store_tell]
    rfl
  · rw [Service.credited, Store.rowsOf, Service.store_tell, h.clock]
    exact hputs

end Alike

/-- A row of the enrollment is one of its rows. -/
theorem Store.rowsOf_insert {store after : Store} {a : Attempt} {e : Int}
    (h : after.attempts = store.attempts.insert a.id a) (ha : a.enrollmentId = e) :
    after.rowsOf e = (store.rowsOf e).insert a.id a := by
  refine Table.ext fun id => Option.ext fun b => ?_
  rw [get?_rowsOf, h, Table.get?_insert, Table.get?_insert]
  split
  · rename_i hid
    constructor
    · exact fun hb => hb.1
    · intro hb
      exact ⟨hb, by rw [← Option.some.inj hb, ha]⟩
  · exact get?_rowsOf.symm

namespace Service.SameSight

variable {s t : Service} {enrollment : Enrollment}

theorem alike {e : Int} (h : s.SameSight e t) : s.Alike e t := .of_rowsOf h.setting.clock h.rows

/-- No row of a swept service stands under the next identifier. -/
theorem get?_rowsOf_next {s : Service} (hs : s.store.Sound) (quiz : Quiz) (enrollment : Enrollment)
    (e : Int) : ((s.swept quiz enrollment).store.rowsOf e).get? (s.store.allocated + 1) = none := by
  rw [Option.eq_none_iff_forall_ne_some]
  intro a ha
  obtain ⟨b, hb, -⟩ := (s.continues_swept hs quiz enrollment).rows (Store.get?_rowsOf.1 ha).1
  have hle := hs.allocated hb
  omega

/-- **Starts end alike.** -/
theorem decideStart (h : s.SameSight enrollment.id t) (hs : s.store.Sound) (ht : t.store.Sound)
    (quiz : Quiz) (tries : Nat) :
    EndsAlike enrollment.id (s.store.allocated + 1) (t.store.allocated + 1)
      (s.decideStart quiz enrollment tries) (t.decideStart quiz enrollment tries) := by
  have halike := h.alike
  have hswept := halike.swept quiz
  unfold Service.decideStart
  rw [halike.isBusy, halike.latest, h.pending]
  split
  · exact .same h.rows
  · split
    · exact .same hswept.rowsOf
    · split
      · split
        · have hnew : t.nextAttempt quiz enrollment =
              (s.nextNew quiz enrollment).toAttempt (t.store.allocated + 1) := by
            rw [Service.nextAttempt, halike.nextNew]
          have hrow : ∀ u : Service,
              ((u.withPending 0).opened quiz enrollment).store.rowsOf enrollment.id =
                ((u.swept quiz enrollment).store.rowsOf enrollment.id).insert
                  (u.store.allocated + 1) (u.nextAttempt quiz enrollment) := by
            intro u
            have hopened : ((u.withPending 0).opened quiz enrollment).store.attempts =
                ((u.withPending 0).swept quiz enrollment).store.attempts.insert
                  (u.nextAttempt quiz enrollment).id (u.nextAttempt quiz enrollment) := rfl
            rw [u.swept_withPending] at hopened
            exact Store.rowsOf_insert hopened rfl
          have hother := hrow t
          rw [hswept.rowsOf, hnew] at hother
          rw [hnew]
          refine .opened (get?_rowsOf_next hs quiz enrollment _) ?_ (hrow s) hother
          rw [← hswept.rowsOf]
          exact get?_rowsOf_next ht quiz enrollment _
        · exact .same h.rows
      · exact .same h.rows

/-- **Submissions end alike.** -/
theorem decideSubmit (h : s.SameSight enrollment.id t) (quiz : Quiz) (attemptId : Int)
    (answers : List SubmittedAnswer) (actor : Actor) (i j : Int) :
    EndsAlike enrollment.id i j (s.decideSubmit quiz enrollment attemptId answers actor)
      (t.decideSubmit quiz enrollment attemptId answers actor) := by
  have halike := h.alike
  unfold Service.decideSubmit
  rw [halike.filter_get?]
  split
  · exact .same h.rows
  · rename_i a _
    split
    · unfold Service.decideGrading
      rw [halike.clock]
      split
      · exact .same h.rows
      · split
        · exact .same (halike.puts _).rowsOf
        · split
          · exact .same h.rows
          · rename_i grade _
            obtain ⟨hleft, hright⟩ := halike.credited quiz a grade actor
            exact .same (hright.trans hleft.symm)
    · exact .same h.rows

/-- **Lists end alike.** -/
theorem decideList (h : s.SameSight enrollment.id t) (quiz : Quiz) (i j : Int) :
    EndsAlike enrollment.id i j (s.decideList quiz enrollment) (t.decideList quiz enrollment) := by
  have hswept := h.alike.swept quiz
  simp only [Service.decideList, hswept.attemptsOf]
  exact .same hswept.rowsOf

/-- **Looks at one attempt end alike.** -/
theorem decideGet (h : s.SameSight enrollment.id t) (quiz : Quiz) (attemptId i j : Int) :
    EndsAlike enrollment.id i j (s.decideGet quiz enrollment attemptId)
      (t.decideGet quiz enrollment attemptId) := by
  have hswept := h.alike.swept quiz
  simp only [Service.decideGet, hswept.filter_get?]
  split <;> exact .same hswept.rowsOf

end Service.SameSight

/-! ### Whose enrollment -/

/-- **At most one enrollment** for a student in a course. -/
def Store.OnePerCourse (store : Store) : Prop :=
  ∀ a ∈ store.enrollments.values, ∀ b ∈ store.enrollments.values,
    a.studentId = b.studentId → a.courseId = b.courseId → a = b

/-- A quiz belongs to a course, if it is there. -/
def Store.InCourse (store : Store) (quizId course : Int) : Prop :=
  ∀ quiz lesson, store.quizzes.get? quizId = some quiz →
    store.lesson? quiz.lessonId = some lesson → lesson.courseId = course

/-- **Whoever is enrolled is enrolled under the one enrollment** of the course. -/
theorem Store.OnePerCourse.eq {store : Store} (h : store.OnePerCourse) {enrollment : Enrollment}
    (hmem : enrollment ∈ store.enrollments.values) {quizId : Int}
    (hcourse : store.InCourse quizId enrollment.courseId) {quiz : Quiz} {actor : Actor}
    (hactor : actor.userId = enrollment.studentId) (hstored : store.quizzes.get? quizId = some quiz)
    {other : Enrollment} (henrolls : store.Enrolls quiz actor other) : other = enrollment := by
  obtain ⟨lesson, hplaced, hfound⟩ := henrolls
  have hfound : store.enrollments.values.find? (·.isOf actor.userId lesson.courseId) = some other :=
    hfound
  have hpair : other.studentId = actor.userId ∧ other.courseId = lesson.courseId := by
    simpa [Enrollment.isOf] using List.find?_some hfound
  refine h other (List.mem_of_find?_eq_some hfound) enrollment hmem ?_ ?_
  · rw [hpair.1, hactor]
  · rw [hpair.2, hcourse quiz lesson hstored hplaced]

/-! ### Whose rows are written -/

/-- **The rows of all other pairs are as they were.** -/
def Service.Spares (e q : Int) (s after : Service) : Prop :=
  ∀ (id : Int) (a : Attempt), a.isOf e q = false →
    (after.store.attempts.get? id = some a ↔ s.store.attempts.get? id = some a)

/-- A row of a pair that is put in place of another row of it. -/
theorem Table.spares_insert {rows : Table Attempt} {e q id : Int} {a b : Attempt}
    (hpair : a.isOf e q = true) (hold : ∀ c, rows.get? a.id = some c → c.isOf e q = true)
    (hb : b.isOf e q = false) :
    (rows.insert a.id a).get? id = some b ↔ rows.get? id = some b := by
  rw [Table.get?_insert]
  split
  · rename_i hid
    constructor
    · intro h
      rw [Option.some.inj h, hb] at hpair
      simp at hpair
    · intro h
      rw [hold b (hid ▸ h)] at hb
      simp at hb
  · exact Iff.rfl

section Spares

variable {s t : Service} {enrollment : Enrollment} {quizId : Int} {actor : Actor}

/-- An open attempt of a caller is one of the pair, if the caller has one enrollment. -/
theorem Store.OwnOpen.isOf {store : Store} {quiz : Quiz} {a : Attempt}
    (h : store.OwnOpen quiz actor a)
    (honly : ∀ other, store.Enrolls quiz actor other → other = enrollment) :
    a.isOf enrollment.id quiz.id = true := by
  obtain ⟨other, henrolls, hpair⟩ := h.own
  rwa [honly other henrolls] at hpair

/-- Putting an open attempt of a caller in another state spares all others. -/
theorem Store.OwnOpen.spares (hfiled : s.store.Filed) {quiz : Quiz}
    (hstored : s.store.quizzes.get? quizId = some quiz) {a final : Attempt}
    (h : s.store.OwnOpen quiz actor a)
    (honly : ∀ other, s.store.Enrolls quiz actor other → other = enrollment)
    (hcloses : final.Closes a) (hrows : t.store.attempts = s.store.attempts.insert a.id final) :
    s.Spares enrollment.id quizId t := by
  have hpair := h.isOf honly
  rw [hfiled quizId quiz hstored] at hpair
  intro id b hb
  rw [hrows, ← hcloses.id]
  refine Table.spares_insert ((hcloses.continues.isOf _ _).trans hpair) (fun c hc => ?_) hb
  rw [hcloses.id, h.row] at hc
  rwa [← Option.some.inj hc]

/-- Sweeping spares all others, and puts nothing under an identifier that was not given out. -/
theorem Service.Swept.spares (hs : s.store.Sound) (hfiled : s.store.Filed) {rows : Table Attempt}
    (h : s.Swept quizId actor rows)
    (honly : ∀ quiz other, s.store.quizzes.get? quizId = some quiz →
      s.store.Enrolls quiz actor other → other = enrollment) :
    (∀ (id : Int) (a : Attempt), a.isOf enrollment.id quizId = false →
      (rows.get? id = some a ↔ s.store.attempts.get? id = some a)) ∧
    rows.get? (s.store.allocated + 1) = none := by
  have hfresh : s.store.attempts.get? (s.store.allocated + 1) = none := by
    rw [Option.eq_none_iff_forall_ne_some]
    intro a ha
    have hle := hs.allocated ha
    omega
  cases h with
  | same => exact ⟨fun _ _ _ => Iff.rfl, hfresh⟩
  | @closed a hown =>
      obtain ⟨quiz, hstored, hopen, -⟩ := hown
      have hle := hs.allocated hopen.row
      refine ⟨hopen.spares (t := s.puts (a.expired s.clock)) hfiled hstored
        (fun other => honly quiz other hstored) (Attempt.closes_expired a s.clock) rfl, ?_⟩
      rw [Table.get?_insert_of_ne (by omega), hfresh]

/-- **A request writes to one pair**: that of the caller's enrollment and of the quiz. -/
theorem Service.ComesTo.spares {request : Request} {outcome : Outcome Reply}
    (h : s.ComesTo request outcome t) (hs : s.store.Sound) (hfiled : s.store.Filed)
    (honly : ∀ quiz other, s.store.quizzes.get? request.quizId = some quiz →
      s.store.Enrolls quiz request.actor other → other = enrollment) :
    s.Spares enrollment.id request.quizId t := by
  have hsame : t.store.attempts = s.store.attempts → s.Spares enrollment.id request.quizId t :=
    fun heq id a _ => by rw [heq]
  cases h with
  | idle _ hrecords => exact hsame hrecords.attempts
  | published hpublish => exact hsame (Store.attempts_publish? hpublish)
  | @closed _ _ _ a hown _ hrows =>
      obtain ⟨quiz, hstored, hopen, -⟩ := hown
      exact hopen.spares hfiled hstored (fun other => honly quiz other hstored)
        (Attempt.closes_expired a s.clock) hrows.attempts
  | @opened _ _ quiz other _ _ hquiz henrolls hswept _ hrows =>
      obtain ⟨stored, hstored, rfl⟩ := Option.map_eq_some_iff.1 hquiz
      obtain rfl : other = enrollment := honly stored other hstored henrolls
      obtain ⟨hspares, hfresh⟩ := hswept.spares hs hfiled honly
      have hpair := s.isOf_nextAttempt stored.sorted other
      rw [show stored.sorted.id = stored.id from rfl, hfiled _ stored hstored] at hpair
      intro id b hb
      rw [hrows.attempts, ← hspares id b hb]
      refine Table.spares_insert hpair (fun c hc => ?_) hb
      exact absurd (hc.symm.trans hfresh) (by simp)
  | @graded _ _ _ _ quiz a grade _ haccepts hcredits =>
      obtain ⟨stored, hstored, rfl⟩ := Option.map_eq_some_iff.1 haccepts.stored
      have hopen : s.store.OwnOpen stored _ a :=
        ⟨haccepts.own.own, haccepts.own.row, haccepts.own.isOpen⟩
      exact hopen.spares hfiled hstored (fun other => honly stored other hstored)
        (Attempt.closes_graded a grade s.clock) hcredits.attempts

end Spares

/-! ### Attempts of others -/

/-- No attempt of an enrollment stands under an identifier: there is none, or it is somebody
else's. -/
def Store.Hides (store : Store) (e id : Int) : Prop :=
  ∀ a, store.attempts.get? id = some a → a.enrollmentId ≠ e

/-- What is hidden from an enrollment is not found there. -/
theorem Store.Hides.filter {store : Store} {e id : Int} (h : store.Hides e id) (q : Int) :
    (store.attempts.get? id).filter (·.isOf e q) = none := by
  rw [Option.eq_none_iff_forall_ne_some]
  intro a ha
  obtain ⟨hrow, hpair⟩ := Option.filter_eq_some_iff.1 ha
  exact h a hrow (Attempt.isOf_iff.1 hpair).1

theorem Store.Continues.hides {before after : Store} (h : after.Continues before) {e id : Int}
    (hhides : before.Hides e id) : after.Hides e id := by
  intro b hb
  obtain ⟨a, ha, hcont⟩ := h.rows hb
  rw [hcont.enrollmentId]
  exact hhides a ha

/-- The same request about the attempt of another identifier, if it is about one. -/
def Request.about : Request → Int → Request
  | .submit quiz _ answers actor, id => .submit quiz id answers actor
  | .get quiz _ actor, id => .get quiz id actor
  | request, _ => request

/-! ### One request -/

section Run

variable {s t : Service} {enrollment : Enrollment} {request : Request}

/-- Whoever is admitted works under the enrollment, if it is the only one. -/
theorem Store.snd_of_admission {store : Store} {quizId : Int} {actor : Actor}
    {admitted : Quiz × Enrollment} (h : store.admission quizId actor = .ok admitted)
    (honly : ∀ quiz other, store.quizzes.get? quizId = some quiz →
      store.Enrolls quiz actor other → other = enrollment) : admitted.2 = enrollment := by
  obtain ⟨stored, hstored, -, henrolls⟩ := Store.Enters.of_admission h
  exact honly stored _ hstored henrolls

/-- Whoever looks at attempts looks at those of the enrollment, if it is the only one. -/
theorem Store.snd_of_reviewing {store : Store} {quizId : Int} {actor : Actor}
    {found : Quiz × Enrollment} (h : store.reviewing quizId actor = .ok found)
    (honly : ∀ quiz other, store.quizzes.get? quizId = some quiz →
      store.Enrolls quiz actor other → other = enrollment) : found.2 = enrollment := by
  obtain ⟨stored, hstored, -, henrolls⟩ := Store.enrolls_of_reviewing h
  exact honly stored _ hstored henrolls

/-- **A request about attempts ends alike** in services that agree on what the student may see. -/
theorem Service.SameSight.run (h : s.SameSight enrollment.id t) (hs : s.store.Sound)
    (ht : t.store.Sound) (hkind : request.isOnAttempts = true)
    (honly : ∀ quiz other, s.store.quizzes.get? request.quizId = some quiz →
      s.store.Enrolls quiz request.actor other → other = enrollment) :
    EndsAlike enrollment.id (s.store.allocated + 1) (t.store.allocated + 1)
      (s.run [] request.program) (t.run [] request.program) := by
  cases request with
  | start quizId actor =>
      rw [run_start hs, run_start ht, h.setting.admission]
      cases hadmitted : s.store.admission quizId actor with
      | error why => exact .same h.rows
      | ok admitted =>
          obtain rfl := Store.snd_of_admission hadmitted honly
          exact h.decideStart hs ht admitted.1 mostTries
  | submit quizId attemptId answers actor =>
      rw [run_submit hs, run_submit ht, h.setting.admission]
      cases hadmitted : s.store.admission quizId actor with
      | error why => exact .same h.rows
      | ok admitted =>
          obtain rfl := Store.snd_of_admission hadmitted honly
          exact h.decideSubmit admitted.1 attemptId answers actor _ _
  | list quizId actor =>
      rw [run_list hs, run_list ht, h.setting.reviewing]
      cases hfound : s.store.reviewing quizId actor with
      | error why => exact .same h.rows
      | ok found =>
          obtain rfl := Store.snd_of_reviewing hfound honly
          exact h.decideList found.1 _ _
  | get quizId attemptId actor =>
      rw [run_get hs, run_get ht, h.setting.reviewing]
      cases hfound : s.store.reviewing quizId actor with
      | error why => exact .same h.rows
      | ok found =>
          obtain rfl := Store.snd_of_reviewing hfound honly
          exact h.decideGet found.1 attemptId _ _
  | take | publish => simp [Request.isOnAttempts] at hkind

/-- **An attempt that is hidden is answered for as if it were not there**, whichever it is. -/
theorem Service.run_about (hs : s.store.Sound)
    (honly : ∀ quiz other, s.store.quizzes.get? request.quizId = some quiz →
      s.store.Enrolls quiz request.actor other → other = enrollment) {i j : Int}
    (hi : s.store.Hides enrollment.id i) (hj : s.store.Hides enrollment.id j) :
    s.run [] (request.about i).program = s.run [] (request.about j).program := by
  cases request with
  | submit quizId attemptId answers actor =>
      simp only [Request.about, run_submit hs]
      cases hadmitted : s.store.admission quizId actor with
      | error why => rfl
      | ok admitted =>
          obtain rfl := Store.snd_of_admission hadmitted honly
          simp only [unlessRefused_ok, decideSubmit, hi.filter, hj.filter]
  | get quizId attemptId actor =>
      simp only [Request.about, run_get hs]
      cases hfound : s.store.reviewing quizId actor with
      | error why => rfl
      | ok found =>
          obtain rfl := Store.snd_of_reviewing hfound honly
          have hswept := s.continues_swept hs found.1 found.2
          simp only [unlessRefused_ok, decideGet, (hswept.hides hi).filter,
            (hswept.hides hj).filter]
  | _ => rfl

end Run

/-- **Isolation.**  Take two services that requests and edits have reached and that agree on what a
student may see: on how they are set up, the clock and the collisions to come included, and on the
attempts of the student's enrollment.  Whatever the student asks about attempts at a quiz of the
course, the answers are the same, and so are the attempts of the enrollment afterwards, but for the
identifier of a new attempt.  All rows of other pairs are as they were.  And the request is
answered, and done, in the same way for every identifier that is none of the student's, whether
somebody else's attempt stands under it or nothing does. -/
theorem Service.isolated {s t : Service} (hs : s.Managed) (ht : t.Managed) {enrollment : Enrollment}
    (hmem : enrollment ∈ s.store.enrollments.values) (hone : s.store.OnePerCourse)
    (hsight : s.SameSight enrollment.id t) {request : Request}
    (hkind : request.isOnAttempts = true) (hactor : request.actor.userId = enrollment.studentId)
    (hcourse : s.store.InCourse request.quizId enrollment.courseId) :
    EndsAlike enrollment.id (s.store.allocated + 1) (t.store.allocated + 1)
      (s.run [] request.program) (t.run [] request.program) ∧
    s.Spares enrollment.id request.quizId (s.run [] request.program).1 ∧
    ∀ i j, s.store.Hides enrollment.id i → s.store.Hides enrollment.id j →
      s.run [] (request.about i).program = s.run [] (request.about j).program := by
  obtain ⟨hsound, hfiled⟩ := Console.AtRest.of_managed hs
  obtain ⟨htsound, -⟩ := Console.AtRest.of_managed ht
  have honly : ∀ quiz other, s.store.quizzes.get? request.quizId = some quiz →
      s.store.Enrolls quiz request.actor other → other = enrollment :=
    fun quiz other hstored henrolls => hone.eq hmem hcourse hactor hstored henrolls
  exact ⟨hsight.run hsound htsound hkind honly,
    (run_comesTo hsound hfiled request).spares hsound hfiled honly,
    fun i j hi hj => run_about hsound honly hi hj⟩

/-- Sets up the classroom with two students. -/
def classmates : List Command :=
  classroom (some 1) ++ [.putEnrollment ⟨2, 2, 1, "active"⟩]

/-- The first student asks for the attempt of the other one, who has started or has not.  The answer
is the one for an attempt that does not exist. -/
theorem Service.isolated_classmates :
    let s := ((Console.ofService Service.blank).after classmates).service
    let t := ((Console.ofService Service.blank).after
      (classmates ++ [.request (.start 1 ⟨2, .student⟩)])).service
    let request := Request.get 1 1 learner
    t.Managed ∧ s.Managed ∧ ⟨1, 1, 1, "active"⟩ ∈ t.store.enrollments.values ∧
      t.store.OnePerCourse ∧ t.SameSight 1 s ∧ request.isOnAttempts = true ∧
      request.actor.userId = 1 ∧ t.store.InCourse request.quizId 1 ∧
      (t.store.attempts.get? 1).isSome = true ∧
      (t.run [] request.program).2 = .refused .noAttempt ∧
      EndsAlike 1 2 1 (t.run [] request.program) (s.run [] request.program) ∧
      t.run [] request.program = t.run [] (Request.get 1 7 learner).program := by
  intro s t request
  have hs : s.Managed := ⟨Service.blank, _, rfl, by decide +kernel, rfl⟩
  have ht : t.Managed := ⟨Service.blank, _, rfl, by decide +kernel, rfl⟩
  have hmem : (⟨1, 1, 1, "active"⟩ : Enrollment) ∈ t.store.enrollments.values := by decide +kernel
  have hone : t.store.OnePerCourse := by
    unfold Store.OnePerCourse
    decide +kernel
  have hsight : t.SameSight 1 s :=
    ⟨⟨by decide +kernel, by decide +kernel, by decide +kernel, by decide +kernel⟩,
      by decide +kernel, by decide +kernel⟩
  have hcourse : t.store.InCourse 1 1 := by
    have hall : (t.store.quizzes.get? 1).all (fun quiz =>
        (t.store.lesson? quiz.lessonId).all (·.courseId = 1)) = true := by decide +kernel
    intro quiz lesson hquiz hlesson
    simpa [hquiz, hlesson] using hall
  have hforeign : t.store.Hides 1 1 := by
    have hall : (t.store.attempts.get? 1).all (·.enrollmentId ≠ 1) = true := by decide +kernel
    intro a ha
    simpa [ha] using hall
  have hmissing : t.store.Hides 1 7 := by
    have hnone : t.store.attempts.get? 7 = none := by decide +kernel
    intro a ha
    simp [hnone] at ha
  have hkind : request.isOnAttempts = true := rfl
  have hactor : request.actor.userId = 1 := rfl
  obtain ⟨halike, -, habout⟩ := Service.isolated ht hs hmem hone hsight hkind hactor hcourse
  exact ⟨ht, hs, hmem, hone, hsight, hkind, hactor, hcourse, by decide +kernel, by decide +kernel,
    halike, habout 1 7 hforeign hmissing⟩

end QuizAttempts
