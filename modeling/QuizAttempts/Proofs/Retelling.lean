/-
**Submitting, showing and listing tell one story.**

A learner reads about an attempt in three ways: in the answer to the submission, by asking for the
attempt, and in the list of all attempts.  The first is made from the row that is about to be
written; the others come from the store, much later perhaps, when the quiz has been edited, and both
may close an overdue attempt first.  They agree all the same.  A row that a submission has closed is
never written again, so what can differ is only whether the quiz shows what is right: that hides
parts of the view and nothing of the row.  And showing and listing sweep the same pair in the same
way, so an attempt is shown exactly when it is listed.

Main definitions:

* `AttemptView.masked` — a view without what a quiz may hide;
* `AcceptedSubmission.Retells` — **a later view tells what the submission was answered with**;
* `Service.IsFound` — the row that is found by looking at attempts;
* `Console.Tells` — an attempt is shown, or listed, with a view;
* `Console.Reads` — **what a caller reads about the attempts at a quiz**.

Main results:

* `Attempt.masked_view` — hiding touches nothing else;
* `Service.get?_swept_of_closed`, `Service.swept_again` — looking at attempts leaves closed rows
  alone, and looking again changes nothing;
* `Service.shown_iff`, `Service.listed_iff` — **an attempt is shown and listed as it is found**;
* `Console.one_story_after` — the three ways after every history.
-/
import QuizAttempts.Proofs.Accepted

set_option autoImplicit false

namespace QuizAttempts

/-! ### Views -/

/-- The view of an answer without whether it is right and what it has earned. -/
def AnswerView.masked (view : AnswerView) : AnswerView :=
  { view with isCorrect := none, pointsEarned := none }

/-- **The view without what a quiz may hide.** -/
def AttemptView.masked (view : AttemptView) : AttemptView :=
  { view with answers := view.answers.map (·.masked) }

/-- **Hiding what is right touches nothing else.** -/
theorem Attempt.masked_view (a : Attempt) (showCorrect : Bool) :
    (a.view showCorrect).masked = a.view false := by
  have hmasked : ∀ record : AnswerRecord, (record.view showCorrect).masked = record.view false :=
    fun _ => rfl
  simp only [AttemptView.masked, view, List.map_map]
  exact congrArg (fun f => { a.view false with answers := a.answers.map f }) (funext hmasked)

/-- **A later view of an attempt tells what its submission was answered with**: the same, if the
quiz shows what is right as it did then, and otherwise the same but for that; which is absent if the
quiz hides it, and as it is stored if the quiz shows it. -/
structure AcceptedSubmission.Retells (x : AcceptedSubmission) (before present : Quiz)
    (row : Attempt) (view : AttemptView) : Prop where
  same : present.showCorrectAnswers = before.showCorrectAnswers → view = x.view
  apart : view.masked = x.view.masked
  hidden : present.showCorrectAnswers = false → ∀ answer ∈ view.answers,
    answer.isCorrect = none ∧ answer.pointsEarned = none
  shown : present.showCorrectAnswers = true →
    view.answers.map (fun answer => (answer.isCorrect, answer.pointsEarned)) =
      row.answers.map fun record => (some record.isCorrect, some record.pointsEarned)

/-- What a submission has left is retold by every view of it. -/
theorem AcceptedSubmission.retells_view {x : AcceptedSubmission} {before : Quiz} (present : Quiz)
    {row : Attempt} (hview : x.view = row.view before.showCorrectAnswers) :
    x.Retells before present row (row.view present.showCorrectAnswers) where
  same h := by rw [h, hview]
  apart := by rw [hview, row.masked_view, row.masked_view]
  hidden h := by
    intro answer hanswer
    obtain ⟨record, -, rfl⟩ := List.mem_map.1 hanswer
    rw [h]
    exact ⟨rfl, rfl⟩
  shown h := by
    rw [h]
    exact List.map_map

/-! ### Looking at attempts -/

section Looking

variable {s : Service} {quiz : Quiz} {enrollment : Enrollment}

/-- **Looking at attempts leaves closed rows alone.** -/
theorem Service.get?_swept_of_closed (hs : s.store.Sound) {id : Int} {a : Attempt}
    (ha : s.store.attempts.get? id = some a) (hclosed : a.isOpen = false) :
    (s.swept quiz enrollment).store.attempts.get? id = some a := by
  rcases s.swept_cases quiz enrollment with heq | ⟨b, hrunning, -, heq⟩
  · rw [heq, ha]
  · obtain ⟨hb, -, hopen⟩ := running?_eq_some hs.orderly hrunning
    have hne : id ≠ b.id := by
      rintro rfl
      obtain rfl := Option.some.inj (hb.symm.trans ha)
      simp [hclosed] at hopen
    rw [heq]
    exact (Table.get?_insert_of_ne hne).trans ha

/-- **Looking again changes nothing**: there is no overdue attempt left. -/
theorem Service.swept_again (hs : s.store.Sound) :
    (s.swept quiz enrollment).swept quiz enrollment = s.swept quiz enrollment := by
  rcases s.swept_cases quiz enrollment with heq | ⟨a, hrunning, -, heq⟩
  · rw [heq, heq]
  · obtain ⟨ha, hpair, hopen⟩ := running?_eq_some hs.orderly hrunning
    have horderly : Orderly (s.puts (a.expired s.clock)).store.attempts :=
      hs.orderly.insert_closed ha (Attempt.closes_expired a s.clock)
    have hnone : (s.puts (a.expired s.clock)).running? enrollment.id quiz.id = none := by
      cases hagain : (s.puts (a.expired s.clock)).running? enrollment.id quiz.id with
      | none => rfl
      | some b =>
          obtain ⟨hb, hbpair, hbopen⟩ := running?_eq_some horderly hagain
          rw [puts, Table.get?_insert] at hb
          split at hb
          · obtain rfl := Option.some.inj hb
            simp at hbopen
          · -- the pair had one open row only
            rename_i hne
            obtain ⟨he, hq⟩ := Attempt.isOf_iff.1 hpair
            exact absurd (hs.orderly.openRow ha hb (by rwa [he, hq]) hopen hbopen).symm hne
    rw [heq, swept_of_none hnone]

end Looking

/-- **What looking at attempts comes to**: everything is refused for one reason, or the same rows
are listed and shown. -/
theorem Service.run_looking {s : Service} (hs : s.store.Sound) (hfiled : s.store.Filed)
    (quizId : Int) (actor : Actor) :
    (∃ why, s.run [] (Request.list quizId actor).program = (s, .refused why) ∧
      ∀ id, s.run [] (Request.get quizId id actor).program = (s, .refused why)) ∨
    ∃ quiz enrollment, s.store.quizzes.get? quizId = some quiz ∧ quiz.id = quizId ∧
      s.store.Enrolls quiz actor enrollment ∧
      s.run [] (Request.list quizId actor).program = s.decideList quiz enrollment ∧
      ∀ id, s.run [] (Request.get quizId id actor).program = s.decideGet quiz enrollment id := by
  simp only [run_list hs, run_get hs]
  cases hreviewing : s.store.reviewing quizId actor with
  | error why => exact Or.inl ⟨why, rfl, fun _ => rfl⟩
  | ok found =>
      obtain ⟨quiz, hquiz, hsettings, henrolls⟩ := Store.enrolls_of_reviewing hreviewing
      obtain ⟨settings, enrollment⟩ := found
      obtain rfl : settings = quiz.settings := hsettings
      exact Or.inr ⟨quiz, enrollment, hquiz, hfiled quizId quiz hquiz, henrolls, rfl, fun _ => rfl⟩

/-- An attempt is shown in a service that was swept by a list as in the one before. -/
theorem Service.run_get_after_list {s : Service} (hs : s.store.Sound) (quizId id : Int)
    (actor : Actor) :
    ((s.run [] (Request.list quizId actor).program).1.run []
      (Request.get quizId id actor).program).2 =
      (s.run [] (Request.get quizId id actor).program).2 := by
  rw [run_get (run_sound hs [] _).1, run_get hs, run_list hs]
  cases hreviewing : s.store.reviewing quizId actor with
  | error why => rw [unlessRefused_error, hreviewing]
  | ok found =>
      obtain ⟨quiz, enrollment⟩ := found
      have hagain : (s.swept quiz enrollment).store.reviewing quizId actor =
          .ok (quiz, enrollment) := by
        rw [store_swept]
        exact hreviewing
      simp only [unlessRefused_ok, decideList, hagain, decideGet, swept_again hs]

/-- **The row of a pair under an identifier**, as a caller finds it who looks at attempts. -/
def Service.IsFound (s : Service) (quiz : Quiz) (enrollment : Enrollment) (id : Int)
    (a : Attempt) : Prop :=
  (s.swept quiz enrollment).store.attempts.get? id = some a ∧ a.isOf enrollment.id quiz.id = true

/-- **An attempt is shown** with the view of the row that is found. -/
theorem Service.shown_iff {s : Service} {quiz : Quiz} {enrollment : Enrollment} {id : Int}
    {view : AttemptView} : (s.decideGet quiz enrollment id).2 = .done (.view view) ↔
      ∃ a, s.IsFound quiz enrollment id a ∧ a.view quiz.showCorrectAnswers = view := by
  have hfilter : ∀ a, s.IsFound quiz enrollment id a ↔
      ((s.swept quiz enrollment).store.attempts.get? id).filter (·.isOf enrollment.id quiz.id) =
        some a := fun a => by rw [Option.filter_eq_some_iff]; rfl
  simp only [decideGet, hfilter]
  split <;> rename_i hfound <;> simp [hfound]

/-- **An attempt is listed** with the view of the row that is found. -/
theorem Service.listed_iff {s : Service} (hs : s.store.Sound) {quiz : Quiz}
    {enrollment : Enrollment} {id : Int} {view : AttemptView} :
    (view ∈ ((s.swept quiz enrollment).store.attemptsOf enrollment.id quiz.id).map
      (·.view quiz.showCorrectAnswers) ∧ view.id = id) ↔
      ∃ a, s.IsFound quiz enrollment id a ∧ a.view quiz.showCorrectAnswers = view := by
  have hown : ∀ {key : Int} {a : Attempt},
      (s.swept quiz enrollment).store.attempts.get? key = some a → a.id = key := by
    intro key a ha
    obtain ⟨b, hb, hcontinues⟩ := (s.continues_swept hs quiz enrollment).rows ha
    rw [hcontinues.id, hs.orderly.own hb]
  simp only [List.mem_map, Store.mem_attemptsOf, IsFound]
  constructor
  · rintro ⟨⟨a, ⟨key, ha, hpair⟩, rfl⟩, hid⟩
    obtain rfl : key = id := (hown ha).symm.trans hid
    exact ⟨a, ⟨ha, hpair⟩, rfl⟩
  · rintro ⟨a, ⟨ha, hpair⟩, rfl⟩
    exact ⟨⟨a, ⟨id, ha, hpair⟩, rfl⟩, hown ha⟩

namespace Console

/-! ### What a caller reads -/

/-- The console after a request. -/
def afterRequest (console : Console) (request : Request) : Console :=
  (console.run (.request request)).1

/-- **An attempt is shown** to a caller. -/
def Shows (console : Console) (quizId id : Int) (actor : Actor) (view : AttemptView) : Prop :=
  (console.run (.request (.get quizId id actor))).2 = .done (.reply (.view view))

/-- **The attempts at a quiz are listed** for a caller. -/
def Lists (console : Console) (quizId : Int) (actor : Actor) (views : List AttemptView) : Prop :=
  (console.run (.request (.list quizId actor))).2 = .done (.reply (.views views))

/-- **An attempt is shown to a caller, or listed.** -/
def Tells (console : Console) (quizId id : Int) (actor : Actor) (view : AttemptView) : Prop :=
  console.Shows quizId id actor view ∨
    ∃ views, console.Lists quizId actor views ∧ view ∈ views ∧ view.id = id

/-- **What a caller reads about the attempts at a quiz**: nothing, for one reason, or the attempts
of their enrollment, one after another in the list and each by itself. -/
inductive Reads (console : Console) (quizId : Int) (actor : Actor) : Prop
  | refused {why : Refusal}
      (hlist : (console.run (.request (.list quizId actor))).2 = .refused why)
      (hget : ∀ id, (console.run (.request (.get quizId id actor))).2 = .refused why)
  | listed {quiz : Quiz} {enrollment : Enrollment} {k : Nat} {rows : List Attempt}
      {views : List AttemptView}
      (hquiz : console.service.store.quizzes.get? quizId = some quiz)
      (henrolls : console.service.store.Enrolls quiz actor enrollment)
      (hrows : rows = (console.afterRequest (.list quizId actor)).service.store.attemptsOf
        enrollment.id quizId)
      (hnumbers : rows.map (·.number) = (List.range k).map fun n : Nat => (n : Int) + 1)
      (hviews : views = rows.map (·.view quiz.showCorrectAnswers))
      (hlist : console.Lists quizId actor views)
      (hget : ∀ id view, console.Shows quizId id actor view ↔ view ∈ views ∧ view.id = id)

section Reading

variable {console : Console}

/-- At rest a request runs alone. -/
theorem AtRest.run_request (h : console.AtRest) (request : Request) :
    (console.afterRequest request).service = (console.service.run [] request.program).1 ∧
    (∀ why, (console.run (.request request)).2 = .refused why ↔
      (console.service.run [] request.program).2 = .refused why) ∧
    ∀ reply, (console.run (.request request)).2 = .done (.reply reply) ↔
      (console.service.run [] request.program).2 = .done reply := by
  simp only [afterRequest, Console.run, h.locked_eq]
  split <;> rename_i heq <;> simp [heq, withService]

/-- **What is shown or listed** is the view of the row that is found. -/
theorem AtRest.of_tells (h : console.AtRest) {quizId id : Int} {actor : Actor} {view : AttemptView}
    (htells : console.Tells quizId id actor view) :
    ∃ quiz enrollment a, console.service.store.quizzes.get? quizId = some quiz ∧
      quiz.id = quizId ∧ console.service.IsFound quiz enrollment id a ∧
      a.view quiz.showCorrectAnswers = view := by
  obtain ⟨-, -, hlist⟩ := h.run_request (.list quizId actor)
  obtain ⟨-, -, hget⟩ := h.run_request (.get quizId id actor)
  simp only [Tells, Shows, Lists, hlist, hget] at htells
  rcases Service.run_looking h.sound h.filed quizId actor with
    ⟨why, hlist, hget⟩ | ⟨quiz, enrollment, hquiz, hid, -, hlist, hget⟩
  · simp [hlist, hget] at htells
  · rw [hlist, hget] at htells
    suffices hfound : ∃ a, console.service.IsFound quiz enrollment id a ∧
        a.view quiz.showCorrectAnswers = view by
      obtain ⟨a, hfound, hview⟩ := hfound
      exact ⟨quiz, enrollment, a, hquiz, hid, hfound, hview⟩
    rcases htells with hshown | ⟨views, hlisted, hmem⟩
    · exact Service.shown_iff.1 hshown
    · obtain rfl := Reply.views.inj (Outcome.done.inj hlisted)
      exact (Service.listed_iff h.sound).1 hmem

/-- **What is shown or listed of an attempt retells its submission**, if the attempt stands as it
was left. -/
theorem AtRest.retells (h : console.AtRest) {x : AcceptedSubmission}
    (hfiled : x.service.store.Filed) (hkept : x.IsKept console.service) {quizId : Int}
    {actor : Actor} {view : AttemptView} (htells : console.Tells quizId x.attemptId actor view) :
    ∃ before present row, x.service.store.quiz? x.quizId = some before ∧
      console.service.store.quiz? x.quizId = some present ∧
      console.service.store.attempts.get? x.attemptId = some row ∧ x.Leaves row ∧
      x.Retells before present row view := by
  obtain ⟨row, hrow, hleaves⟩ := hkept
  obtain ⟨quiz, enrollment, a, hquiz, hid, ⟨hfound, hpair⟩, rfl⟩ := h.of_tells htells
  -- the row is closed, so looking at it has not changed it
  obtain rfl : row = a := Option.some.inj
    ((Service.get?_swept_of_closed h.sound hrow hleaves.isOpen).symm.trans hfound)
  have hquizId : x.quizId = quizId := by
    rw [← hleaves.quizId hfiled, ← hid, (Attempt.isOf_iff.1 hpair).2]
  have hpresent : console.service.store.quiz? x.quizId = some quiz.sorted := by
    rw [Store.quiz?, hquizId, hquiz, Option.map_some]
  have hleft := hleaves
  obtain ⟨before, b, grade, haccepts, -, hview⟩ := hleft
  exact ⟨before, quiz.sorted, row, haccepts.stored, hpresent, hrow, hleaves,
    AcceptedSubmission.retells_view quiz.sorted hview⟩

/-- **Whoever looks at attempts reads the same in both ways.** -/
theorem AtRest.reads (h : console.AtRest)
    (hnumbered : ∀ e q, ∃ k, console.service.store.Numbered e q k) (quizId : Int) (actor : Actor) :
    console.Reads quizId actor := by
  obtain ⟨hafter, hrefused, hlist⟩ := h.run_request (.list quizId actor)
  have hget := fun id => h.run_request (.get quizId id actor)
  rcases Service.run_looking h.sound h.filed quizId actor with
    ⟨why, hlisting, hgetting⟩ | ⟨quiz, enrollment, hquiz, hid, henrolls, hlisting, hgetting⟩
  · exact .refused ((hrefused why).2 (by rw [hlisting]))
      fun id => ((hget id).2.1 why).2 (by rw [hgetting])
  · have hmanaged : (Command.request (.list quizId actor)).isManaged = true := rfl
    obtain ⟨hrest, hmoves⟩ := h.run hmanaged
    obtain ⟨k, hk⟩ := Store.Numbered.moves (hnumbered enrollment.id quizId) hmoves
    have hswept : (console.afterRequest (.list quizId actor)).service =
        console.service.swept quiz enrollment := by rw [hafter, hlisting]; rfl
    refine .listed hquiz henrolls rfl (hk.attemptsOf hrest.sound.orderly) rfl
      ((hlist _).2 ?_) fun id view => ?_
    · rw [hlisting, hswept, ← hid]
      rfl
    · rw [Shows, (hget id).2.2, hgetting, Service.shown_iff, hswept]
      subst hid
      exact (Service.listed_iff h.sound).symm

/-- An attempt is shown right after a list as it is shown in its place. -/
theorem AtRest.shows_after_list (h : console.AtRest) (quizId id : Int) (actor : Actor)
    (view : AttemptView) : (console.afterRequest (.list quizId actor)).Shows quizId id actor view ↔
      console.Shows quizId id actor view := by
  obtain ⟨hafter, -⟩ := h.run_request (.list quizId actor)
  have hmanaged : (Command.request (.list quizId actor)).isManaged = true := rfl
  have hrest : (console.afterRequest (.list quizId actor)).AtRest := (h.run hmanaged).1
  rw [Shows, Shows, (hrest.run_request _).2.2, (h.run_request _).2.2, hafter,
    Service.run_get_after_list h.sound]

/-- Looking at attempts writes nothing but that it may close the overdue one of the caller. -/
theorem AtRest.swept_looking (h : console.AtRest) (quizId : Int) (actor : Actor) {request : Request}
    (hrequest : request = .list quizId actor ∨ ∃ id, request = .get quizId id actor) :
    console.service.Swept quizId actor
      (console.afterRequest request).service.store.attempts := by
  obtain ⟨hafter, -⟩ := h.run_request request
  rw [hafter]
  rcases Service.run_looking h.sound h.filed quizId actor with
    ⟨why, hlist, hget⟩ | ⟨quiz, enrollment, hquiz, -, henrolls, hlist, hget⟩
  · rcases hrequest with rfl | ⟨id, rfl⟩
    · rw [hlist]
      exact .same
    · rw [hget id]
      exact .same
  · have hswept := Service.swept_swept h.sound hquiz henrolls
    rcases hrequest with rfl | ⟨id, rfl⟩
    · rw [hlist]
      exact hswept
    · rw [hget id, Service.decideGet]
      split <;> exact hswept

end Reading

/-! ### Histories -/

/-- **Submitting, showing and listing tell one story** after every history of requests and edits
that begins without attempts.

A submission that was accepted is retold whenever its attempt is shown or listed later, to whomever:
exactly, if the quiz shows what is right as it did then, and otherwise the same but for that.  The
row is still the one that the submission has left.  Whoever lists attempts gets those of their
enrollment, one for each, numbered from one to some `k`; an attempt is shown exactly if it is
listed, in the place of the list or right after it, with the view that is listed; and neither way of
looking writes anything but that it may close the overdue attempt of the caller. -/
theorem one_story_after {start : Service} (hrows : start.store.attempts = Table.empty)
    (hfiled : start.store.Filed) (commands : List Command)
    (hmanaged : ∀ command ∈ commands, command.isManaged = true) :
    let console := (ofService start).after commands
    (∀ x ∈ (ofService start).acceptedIn commands, ∀ quizId actor view,
      console.Tells quizId x.attemptId actor view → ∃ before present row,
        x.service.store.quiz? x.quizId = some before ∧
        console.service.store.quiz? x.quizId = some present ∧
        console.service.store.attempts.get? x.attemptId = some row ∧ x.Leaves row ∧
        x.Retells before present row view) ∧
    (∀ quizId actor, console.Reads quizId actor ∧
      ∀ id view, (console.afterRequest (.list quizId actor)).Shows quizId id actor view ↔
        console.Shows quizId id actor view) ∧
    ∀ quizId actor request,
      (request = .list quizId actor ∨ ∃ id, request = .get quizId id actor) →
        console.service.Swept quizId actor
          (console.afterRequest request).service.store.attempts := by
  intro console
  have hstart := AtRest.of_empty hrows hfiled
  obtain ⟨hrest, hnumbered⟩ := hstart.after (fun e q => ⟨0, .of_empty hrows e q⟩) hmanaged
  refine ⟨fun x hx quizId actor view htells => ?_, fun quizId actor => ⟨?_, fun id view => ?_⟩,
    fun quizId actor request hrequest => ?_⟩
  · obtain ⟨hmet, hkept⟩ := hstart.isKept_after hmanaged x hx
    exact hrest.retells hmet hkept htells
  · exact hrest.reads hnumbered quizId actor
  · exact hrest.shows_after_list quizId id actor view
  · exact hrest.swept_looking quizId actor hrequest

/-- A student is graded at a quiz that hides what is right, which is edited to show it. -/
def revealed : List Command :=
  examination none ++
    [.request (.start 1 learner), .request (.submit 1 1 [⟨1, some "a", none⟩] learner)] ++
    (examination none).map fun
      | .putQuiz quiz => .putQuiz { quiz with showCorrectAnswers := true }
      | command => command

/-- What was hidden in the answer to the submission is shown later, and nothing else has changed. -/
theorem one_story_after_revealed :
    Service.blank.store.attempts = Table.empty ∧ Service.blank.store.Filed ∧
      (∀ command ∈ revealed, command.isManaged = true) ∧
      ∃ x ∈ (ofService Service.blank).acceptedIn revealed, ∃ view,
        x.view.answers.map (·.isCorrect) = [none] ∧
        ((ofService Service.blank).after revealed).Shows 1 x.attemptId learner view ∧
        view.answers.map (·.isCorrect) = [some true] ∧ view.masked = x.view.masked := by
  have hfiled := Service.filed_blank
  have hmanaged : ∀ command ∈ revealed, command.isManaged = true := by decide +kernel
  have haccepted : ((ofService Service.blank).acceptedIn revealed).map
      (fun x => (x.attemptId, x.view.answers.map (·.isCorrect))) = [(1, [none])] := by
    decide +kernel
  obtain ⟨x, hx, hsubmitted⟩ := List.mem_map.1 (haccepted ▸ List.mem_singleton_self _)
  obtain ⟨hid, hhidden⟩ := Prod.mk.inj hsubmitted
  have hrest : ((ofService Service.blank).after revealed).AtRest :=
    (AtRest.of_empty rfl hfiled).rests_after hmanaged
  have hget : (((ofService Service.blank).after revealed).service.store.attempts.get? 1).map
      (fun row => (Outcome.done (Reply.view (row.view true)),
        (row.view true).answers.map (·.isCorrect))) =
      some ((((ofService Service.blank).after revealed).service.run []
        (Request.get 1 1 learner).program).2, [some true]) := by decide +kernel
  obtain ⟨row, -, hrow⟩ := Option.map_eq_some_iff.1 hget
  obtain ⟨hdone, hright⟩ := Prod.mk.inj hrow
  have hshown : ((ofService Service.blank).after revealed).Shows 1 x.attemptId learner
      (row.view true) := by
    rw [Shows, hid]
    exact ((hrest.run_request (.get 1 1 learner)).2.2 _).2 hdone.symm
  obtain ⟨hretold, -, -⟩ := one_story_after rfl hfiled revealed hmanaged
  obtain ⟨_, _, _, -, -, -, -, hretells⟩ := hretold x hx 1 learner (row.view true) (Or.inl hshown)
  exact ⟨rfl, hfiled, hmanaged, x, hx, row.view true, hhidden, hshown, hright, hretells.apart⟩

end Console

end QuizAttempts
