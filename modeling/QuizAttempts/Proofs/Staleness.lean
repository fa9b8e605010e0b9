/-
**What a kept payload can be out of date by.**

The payload of a quiz is made when the quiz is taken for the first time and is served from then on,
until the quiz is published through its request.  Editing the quiz does not throw the payload away;
what is read anew each time are the two switches for shuffling.  So a learner may be shown an older
version, but it is always the version of the first take since the quiz was last published.  In
particular a draft that was looked at before it was edited and published is never shown again, and a
quiz that nobody edits after it was taken is shown as it is.

A copy is shuffled for one learner and is not kept: what is served is made from the version and from
the shuffle that is drawn for it, and from nothing that was drawn before.

Main definitions:

* `Console.Takes`, `Console.Flips` — a take that succeeds, and a request that publishes a draft;
* `Console.FirstTake` — **the first take since the quiz was last published**;
* `Console.NeverStale` — no entry of the cache times out;
* `TakePayload.IsShuffleOf` — the copies that the switches permit;
* `Console.uncached` — the console with a cache that keeps nothing.

Main results:

* `TakePayload.isShuffleOf_render` — a learner sees a permitted copy;
* `Console.affects`, `Console.affects_entry`, `Console.quizzes_undergo` — **what can happen to the
  cache, to one entry of it, and to the quizzes**;
* `Console.Pinned.step`, `Console.pinned_upTo` — what is kept is the version of the first take;
* `Console.offer_between` — what is offered changes by edits only;
* `Console.uncached_upTo` — without a cache the rest is as it is with one;
* `Console.taken_after` — **what is served, in every history**.
-/
import Mathlib.Data.List.Forall2
import QuizAttempts.Proofs.Decisions
import QuizAttempts.Proofs.Operations
import QuizAttempts.Proofs.Publication

set_option autoImplicit false

namespace QuizAttempts

/-! ### Permitted copies -/

/-- A question with its choices rearranged, if that is permitted. -/
structure PublicQuestion.IsShuffleOf (copy q : PublicQuestion) (shuffleChoices : Bool) : Prop where
  frame : { copy with choices := [] } = { q with choices := [] }
  choices : copy.choices.Perm q.choices
  still : shuffleChoices = false → copy.choices = q.choices

/-- **A copy that the switches permit**: the choices of each question are rearranged if the second
is on, then the questions if the first is on, and nothing else is changed. -/
structure TakePayload.IsShuffleOf (copy base : TakePayload)
    (shuffleQuestions shuffleChoices : Bool) : Prop where
  frame : { copy with questions := [] } = { base with questions := [] }
  questions : ∃ drawn : List PublicQuestion,
    List.Forall₂ (fun copy q => copy.IsShuffleOf q shuffleChoices) drawn base.questions ∧
    copy.questions.Perm drawn ∧ (shuffleQuestions = false → copy.questions = drawn)

/-- Drawing for the choices rearranges those of each question. -/
theorem Shuffle.forall₂_shuffleChoices (shuffle : Shuffle) (drawn : Nat)
    (questions : List PublicQuestion) :
    List.Forall₂ (fun copy q => copy.IsShuffleOf q true) (shuffle.shuffleChoices drawn questions)
      questions := by
  induction questions generalizing drawn with
  | nil => exact .nil
  | cons q questions ih =>
      exact .cons ⟨rfl, shuffle.choices_perm drawn q.choices, fun h => by simp at h⟩
        (ih (drawn + 1))

/-- **What a learner sees is a permitted copy.** -/
theorem TakePayload.isShuffleOf_render (base : TakePayload) (shuffle : Shuffle) (sq sc : Bool) :
    (base.render shuffle sq sc).IsShuffleOf base sq sc where
  frame := rfl
  questions := by
    refine ⟨if sc then shuffle.shuffleChoices 0 base.questions else base.questions, ?_, ?_, ?_⟩
    · cases sc with
      | true => exact shuffle.forall₂_shuffleChoices 0 base.questions
      | false => exact List.forall₂_same.2 fun q _ => ⟨rfl, List.Perm.refl _, fun _ => rfl⟩
    · cases sq with
      | true => exact shuffle.questions_perm _
      | false => exact List.Perm.refl _
    · rintro rfl
      rfl

/-! ### What is kept by taking -/

/-- What is served is kept afterwards. -/
theorem Service.get?_keeping (s : Service) (q : Int) (quiz : Quiz) :
    ∃ entry, (s.keeping q quiz).cache.entries.get? q = some entry ∧
      entry.payload = s.served q quiz := by
  unfold keeping served
  cases hfresh : s.cache.fresh? q s.instant with
  | some entry => exact ⟨entry, (TakeCache.fresh?_eq_some_iff.1 hfresh).1, rfl⟩
  | none => exact ⟨_, Table.get?_insert_self _ _ _, rfl⟩

/-- Taking a quiz keeps what is kept of the others. -/
theorem Service.get?_keeping_of_ne (s : Service) {q other : Int} (quiz : Quiz) (h : other ≠ q) :
    (s.keeping q quiz).cache.entries.get? other = s.cache.entries.get? other := by
  unfold keeping
  split
  · rfl
  · exact Table.get?_insert_of_ne h

/-! ### Taking and publishing in a history -/

namespace Console

/-- How a request ends. -/
def outcome (console : Console) (request : Request) : Outcome Reply :=
  (console.service.run console.locked request.program).2

/-- **A quiz is taken**: a request to take it is made and succeeds. -/
def Takes (console : Console) (happening : Happening) (q : Int) : Prop :=
  ∃ command actor shuffle reply, happening = .given command ∧
    command.request? = some (.take q actor shuffle) ∧
    console.outcome (.take q actor shuffle) = .done reply

/-- **A quiz is flipped**: a request to publish it is made, and it was not published before and is
published then. -/
def Flips (console : Console) (happening : Happening) (q : Int) : Prop :=
  (∃ command actor, happening = .given command ∧ command.request? = some (.publish q actor)) ∧
  (∃ quiz, console.service.store.quizzes.get? q = some quiz ∧ quiz.isPublished = false) ∧
  ∃ quiz, (console.undergo happening).service.store.quizzes.get? q = some quiz ∧
    quiz.isPublished = true

/-- Something is true of what happens at a place of a history, and of the console it happens to. -/
def At (start : Console) (history : List Happening) (n : Nat)
    (P : Console → Happening → Prop) : Prop :=
  ∃ happening, history[n]? = some happening ∧ P (start.upTo history n) happening

/-- A quiz is taken by what happens at a place of a history. -/
def TakesAt (start : Console) (history : List Happening) (q : Int) (n : Nat) : Prop :=
  start.At history n fun console happening => console.Takes happening q

/-- A quiz is flipped by what happens at a place of a history. -/
def FlipsAt (start : Console) (history : List Happening) (q : Int) (n : Nat) : Prop :=
  start.At history n fun console happening => console.Flips happening q

/-- **The first take of a quiz since it was last flipped**, as seen from a later place of a history;
or since the beginning, if it never was. -/
structure FirstTake (start : Console) (history : List Happening) (q : Int) (i n : Nat) : Prop where
  lt : i < n
  takes : start.TakesAt history q i
  unflipped : ∀ j, i ≤ j → j < n → ¬ start.FlipsAt history q j
  first : ∀ j, j < i → start.TakesAt history q j → ∃ k, j < k ∧ k < i ∧ start.FlipsAt history q k

/-- **No entry of the cache times out** in a history. -/
def NeverStale (start : Console) (history : List Happening) : Prop :=
  ∀ n q entry, (start.upTo history n).service.cache.entries.get? q = some entry →
    (start.upTo history n).service.cache.isFresh entry (start.upTo history n).service.instant = true

theorem neverStale_iff {start : Console} {history : List Happening} :
    start.NeverStale history ↔ ∀ n ∈ List.range (history.length + 1),
      ∀ row ∈ (start.upTo history n).service.cache.entries.rows,
        (start.upTo history n).service.cache.isFresh row.2 (start.upTo history n).service.instant =
          true := by
  constructor
  · exact fun h n _ row hrow => h n row.1 row.2 (Table.get?_eq_some_iff.2 hrow)
  · intro h n q entry hentry
    -- nothing happens after the end
    have hend : start.upTo history n = start.upTo history (min n history.length) := by
      rw [upTo, upTo, ← List.take_take, List.take_length]
    rw [hend] at hentry ⊢
    exact h _ (List.mem_range.2 (by omega)) (q, entry) (Table.get?_eq_some_iff.1 hentry)

instance (start : Console) (history : List Happening) : Decidable (start.NeverStale history) :=
  decidable_of_iff _ neverStale_iff.symm

/-- The console with a cache that keeps nothing. -/
def uncached (console : Console) : Console :=
  console.withService { console.service with cache := TakeCache.empty 0 }

/-! ### What can happen to the cache -/

/-- A request that takes no quiz is no take. -/
theorem not_takes {console : Console} {command : Command} {q : Int}
    (h : ∀ actor shuffle, command.request? ≠ some (.take q actor shuffle)) :
    ¬ console.Takes (.given command) q := by
  rintro ⟨other, actor, shuffle, -, heq, hrequest, -⟩
  obtain rfl := Happening.given.inj heq
  exact h actor shuffle hrequest

/-- A request that publishes no quiz is no flip. -/
theorem not_flips {console : Console} {command : Command} {q : Int}
    (h : ∀ actor, command.request? ≠ some (.publish q actor)) :
    ¬ console.Flips (.given command) q := by
  rintro ⟨⟨other, actor, heq, hrequest⟩, -⟩
  obtain rfl := Happening.given.inj heq
  exact h actor hrequest

/-- Where the quizzes are as they were, nothing was flipped. -/
theorem not_flips_of_same {console : Console} {happening : Happening}
    (h : (console.undergo happening).service.store.quizzes = console.service.store.quizzes)
    (q : Int) : ¬ console.Flips happening q := by
  rintro ⟨-, ⟨quiz, hquiz, hdraft⟩, ⟨other, hother, hpublished⟩⟩
  rw [h, hquiz] at hother
  rw [← Option.some.inj hother, hdraft] at hpublished
  simp at hpublished

/-- Time that passes takes and flips nothing. -/
theorem not_takes_passes {console : Console} {nanos : Nat} {q : Int} :
    ¬ console.Takes (.passes nanos) q := by
  rintro ⟨command, actor, shuffle, reply, heq, -⟩
  simp at heq

/-- No command but a request touches the cache. -/
theorem cache_of_no_request {console : Console} {command : Command} (h : command.request? = none) :
    (console.run command).1.service.cache = console.service.cache := by
  cases command with
  | putQuiz | putLesson | putEnrollment => rfl
  | publish quiz =>
      simp only [run]
      split <;> rfl
  | _ => exact (run_sameOffer h rfl).cache

/-- **What can happen to the cache**: nothing is taken or flipped, and it stays as it was; or one
quiz is taken, and its payload is kept; or one quiz is flipped, and its payload is thrown away. -/
inductive Affects (console : Console) (happening : Happening) : Prop
  | quiet (htakes : ∀ q, ¬ console.Takes happening q) (hflips : ∀ q, ¬ console.Flips happening q)
      (hcache : (console.undergo happening).service.cache = console.service.cache)
  | taken {taken : Int} {quiz : Quiz} (htakes : ∀ q, console.Takes happening q ↔ q = taken)
      (hflips : ∀ q, ¬ console.Flips happening q)
      (hquiz : console.service.store.quiz? taken = some quiz)
      (hkeeping : (console.undergo happening).service = console.service.keeping taken quiz)
  | flipped {flipped : Int} (htakes : ∀ q, ¬ console.Takes happening q)
      (hflips : ∀ q, console.Flips happening q ↔ q = flipped)
      (hcache : (console.undergo happening).service.cache =
        console.service.cache.invalidate flipped)

section Affects

variable {console : Console} {command : Command}

/-- A command that makes a request runs it. -/
theorem undergo_request (console : Console) {request : Request}
    (h : command.request? = some request) :
    (console.undergo (.given command)).service =
      (console.service.run console.locked request.program).1 :=
  congrArg Console.service (run_request h)

theorem affects_take {taken : Int} {actor : Actor} {shuffle : Shuffle}
    (h : command.request? = some (.take taken actor shuffle)) :
    console.Affects (.given command) := by
  have hflips : ∀ q, ¬ console.Flips (.given command) q :=
    fun q => not_flips fun actor' h' => by simp [h] at h'
  have htaken : ∀ q, console.Takes (.given command) q → q = taken ∧ ∃ reply,
      console.outcome (.take taken actor shuffle) = .done reply := by
    rintro q ⟨other, actor', shuffle', reply, heq, hother, hdone⟩
    obtain rfl := Happening.given.inj heq
    obtain ⟨rfl, rfl, rfl⟩ := Request.take.inj (Option.some.inj (h.symm.trans hother))
    exact ⟨rfl, reply, hdone⟩
  have hservice := undergo_request console h
  have hrun := console.service.run_take console.locked taken actor shuffle
  cases hsight : console.service.store.sight taken actor with
  | error why =>
      rw [hsight, unlessRefused_error] at hrun
      rw [hrun] at hservice
      refine .quiet (fun q hq => ?_) hflips (congrArg Service.cache hservice)
      obtain ⟨-, reply, hdone⟩ := htaken q hq
      rw [outcome, hrun] at hdone
      simp at hdone
  | ok quiz =>
      rw [hsight, unlessRefused_ok, Service.decideTake] at hrun
      rw [hrun] at hservice
      refine .taken (fun q => ⟨fun hq => (htaken q hq).1, ?_⟩) hflips
        (Store.quiz?_of_sight hsight) hservice
      rintro rfl
      exact ⟨command, actor, shuffle, _, rfl, h, congrArg Prod.snd hrun⟩

theorem affects_publish {flipped : Int} {actor : Actor}
    (h : command.request? = some (.publish flipped actor)) : console.Affects (.given command) := by
  have htakes : ∀ q, ¬ console.Takes (.given command) q :=
    fun q => not_takes fun actor' shuffle h' => by simp [h] at h'
  have hservice := undergo_request console h
  rcases console.service.run_publish_cases console.locked flipped actor with
    heq | ⟨stored, hstored, hdraft, -, heq⟩
  · rw [heq] at hservice
    exact .quiet htakes (not_flips_of_same (congrArg (·.store.quizzes) hservice))
      (congrArg Service.cache hservice)
  · rw [heq] at hservice
    refine .flipped htakes (fun q => ⟨?_, ?_⟩) (congrArg Service.cache hservice)
    · rintro ⟨⟨other, actor', heq, hother⟩, -⟩
      obtain rfl := Happening.given.inj heq
      exact (Request.publish.inj (Option.some.inj (h.symm.trans hother))).1.symm
    · rintro rfl
      refine ⟨⟨command, actor, rfl, h⟩, ⟨stored, hstored, hdraft⟩, stored.published, ?_, rfl⟩
      rw [hservice]
      exact Table.get?_insert_self _ _ _

end Affects

/-- **Everything that happens is of one of these kinds.** -/
theorem affects (console : Console) (happening : Happening) : console.Affects happening := by
  cases happening with
  | passes nanos =>
      exact .quiet (fun q => not_takes_passes) (not_flips_of_same rfl) rfl
  | given command =>
      cases hrequest : command.request? with
      | none =>
          exact .quiet (fun q => not_takes fun actor shuffle h => by simp [hrequest] at h)
            (fun q => not_flips fun actor h => by simp [hrequest] at h)
            (cache_of_no_request hrequest)
      | some request =>
          cases hkind : request.isOnAttempts with
          | true =>
              have hsame := Service.run_sameOffer hkind console.service console.locked
              rw [← undergo_request console hrequest] at hsame
              refine .quiet (fun q => not_takes fun actor shuffle h => ?_)
                (not_flips_of_same hsame.quizzes) hsame.cache
              rw [Option.some.inj (hrequest.symm.trans h)] at hkind
              simp [Request.isOnAttempts] at hkind
          | false =>
              cases request with
              | take taken actor shuffle => exact affects_take hrequest
              | publish flipped actor => exact affects_publish hrequest
              | start | submit | list | get => simp [Request.isOnAttempts] at hkind

/-- **What becomes of one entry**: it stays, or it is made by a take, or a flip throws it away. -/
theorem affects_entry (console : Console) (happening : Happening) (q : Int) :
    let after := (console.undergo happening).service
    (¬ console.Takes happening q ∧ ¬ console.Flips happening q ∧
      after.cache.entries.get? q = console.service.cache.entries.get? q) ∨
    (console.Takes happening q ∧ ¬ console.Flips happening q ∧
      ∃ quiz, console.service.store.quiz? q = some quiz ∧ after = console.service.keeping q quiz) ∨
    (¬ console.Takes happening q ∧ console.Flips happening q ∧
      after.cache.entries.get? q = none) := by
  intro after
  cases console.affects happening with
  | quiet htakes hflips hcache =>
      exact Or.inl ⟨htakes q, hflips q, congrArg (·.entries.get? q) hcache⟩
  | @taken taken quiz htakes hflips hquiz hkeeping =>
      by_cases heq : q = taken
      · subst heq
        exact Or.inr (Or.inl ⟨(htakes q).2 rfl, hflips q, quiz, hquiz, hkeeping⟩)
      · refine Or.inl ⟨mt (htakes q).1 heq, hflips q, ?_⟩
        exact (congrArg (·.cache.entries.get? q) hkeeping).trans
          (console.service.get?_keeping_of_ne quiz heq)
  | @flipped flipped htakes hflips hcache =>
      have hentry : after.cache.entries.get? q =
          if q = flipped then none else console.service.cache.entries.get? q :=
        (congrArg (·.entries.get? q) hcache).trans (Table.get?_erase _ _ _)
      by_cases heq : q = flipped
      · exact Or.inr (Or.inr ⟨htakes q, (hflips q).2 heq, by rw [hentry, if_pos heq]⟩)
      · exact Or.inl ⟨htakes q, mt (hflips q).1 heq, by rw [hentry, if_neg heq]⟩

/-! ### What is kept -/

/-- **What the cache holds for a quiz** before a place of a history: nothing, if every take of the
quiz was followed by a flip; else the payload of the version that was taken first since the last
flip. -/
inductive Pinned (start : Console) (history : List Happening) (q : Int) (n : Nat) :
    Option CachedPayload → Prop
  | cleared (h : ∀ j, j < n → start.TakesAt history q j →
      ∃ k, j < k ∧ k < n ∧ start.FlipsAt history q k) : Pinned start history q n none
  | kept {i : Nat} {version : Quiz} {entry : CachedPayload}
      (hfirst : start.FirstTake history q i n)
      (hversion : (start.upTo history i).service.store.quiz? q = some version)
      (hentry : entry.payload = version.takePayload) : Pinned start history q n (some entry)

section Pinned

variable {start : Console} {history : List Happening} {q : Int} {n : Nat}

/-- One thing happens at a place. -/
theorem at_iff {P : Console → Happening → Prop} {happening : Happening}
    (h : history[n]? = some happening) :
    start.At history n P ↔ P (start.upTo history n) happening := by
  constructor
  · rintro ⟨other, hother, hP⟩
    rwa [Option.some.inj (h.symm.trans hother)]
  · exact fun hP => ⟨happening, h, hP⟩

theorem takesAt_iff {happening : Happening} (h : history[n]? = some happening) :
    start.TakesAt history q n ↔ (start.upTo history n).Takes happening q := at_iff h

theorem flipsAt_iff {happening : Happening} (h : history[n]? = some happening) :
    start.FlipsAt history q n ↔ (start.upTo history n).Flips happening q := at_iff h

/-- Where a quiz is taken, none is put in. -/
theorem TakesAt.not_put {quiz : Quiz} (h : start.TakesAt history q n) :
    history[n]? ≠ some (.given (.putQuiz quiz)) := by
  obtain ⟨happening, hhappening, command, actor, shuffle, reply, rfl, hrequest, -⟩ := h
  intro hput
  obtain rfl := Happening.given.inj (Option.some.inj (hhappening.symm.trans hput))
  simp [Command.request?] at hrequest

/-- The first take stays the first one until the quiz is flipped. -/
theorem FirstTake.succ {i : Nat} (h : start.FirstTake history q i n)
    (hflips : ¬ start.FlipsAt history q n) : start.FirstTake history q i (n + 1) where
  lt := Nat.lt_succ_of_lt h.lt
  takes := h.takes
  unflipped j hj hjn := by
    rcases Nat.lt_succ_iff_lt_or_eq.1 hjn with hlt | rfl
    · exact h.unflipped j hj hlt
    · exact hflips
  first := h.first

/-- What is kept stays kept until the quiz is flipped. -/
theorem Pinned.succ {entry : CachedPayload} (h : start.Pinned history q n (some entry))
    (hflips : ¬ start.FlipsAt history q n) : start.Pinned history q (n + 1) (some entry) := by
  cases h with
  | kept hfirst hversion hentry => exact .kept (hfirst.succ hflips) hversion hentry

/-- Where the quiz is neither taken nor flipped, what the cache holds is what it held. -/
theorem Pinned.quiet {found : Option CachedPayload} (h : start.Pinned history q n found)
    (htakes : ¬ start.TakesAt history q n) (hflips : ¬ start.FlipsAt history q n) :
    start.Pinned history q (n + 1) found := by
  cases found with
  | some entry => exact h.succ hflips
  | none =>
      cases h with
      | cleared h =>
          refine .cleared fun j hj htaken => ?_
          rcases Nat.lt_succ_iff_lt_or_eq.1 hj with hlt | rfl
          · obtain ⟨k, hjk, hkn, hflip⟩ := h j hlt htaken
            exact ⟨k, hjk, Nat.lt_succ_of_lt hkn, hflip⟩
          · exact absurd htaken htakes

/-- A flip comes after all takes. -/
theorem Pinned.flipped (htakes : ¬ start.TakesAt history q n) (hflips : start.FlipsAt history q n) :
    start.Pinned history q (n + 1) none := by
  refine .cleared fun j hj htaken => ⟨n, ?_, Nat.lt_succ_self n, hflips⟩
  rcases Nat.lt_succ_iff_lt_or_eq.1 hj with hlt | rfl
  · exact hlt
  · exact absurd htaken htakes

/-- A take with nothing kept is the first one. -/
theorem Pinned.taken (h : start.Pinned history q n none) (htakes : start.TakesAt history q n)
    (hflips : ¬ start.FlipsAt history q n) {version : Quiz}
    (hversion : (start.upTo history n).service.store.quiz? q = some version) (now : Nat) :
    start.Pinned history q (n + 1) (some ⟨version.takePayload, now⟩) := by
  cases h with
  | cleared h =>
      refine .kept ⟨Nat.lt_succ_self n, htakes, fun j hj hjn => ?_, h⟩ hversion rfl
      obtain rfl : j = n := by omega
      exact hflips

/-- Where no entry times out, every entry is served. -/
theorem NeverStale.fresh?_eq (h : start.NeverStale history) (n : Nat) (q : Int) :
    (start.upTo history n).service.cache.fresh? q (start.upTo history n).service.instant =
      (start.upTo history n).service.cache.entries.get? q := by
  refine Option.ext fun entry => ?_
  rw [TakeCache.fresh?_eq_some_iff]
  exact ⟨fun hentry => hentry.1, fun hentry => ⟨hentry, h n q entry hentry⟩⟩

/-- **One thing happens.** -/
theorem Pinned.step (hfresh : start.NeverStale history) {happening : Happening}
    (hhappening : history[n]? = some happening)
    (h : start.Pinned history q n ((start.upTo history n).service.cache.entries.get? q)) :
    start.Pinned history q (n + 1)
      ((start.upTo history (n + 1)).service.cache.entries.get? q) := by
  rw [upTo_succ hhappening]
  rcases (start.upTo history n).affects_entry happening q with
    ⟨htakes, hflips, hentry⟩ | ⟨htakes, hflips, quiz, hquiz, hkeeping⟩ | ⟨htakes, hflips, hentry⟩
  · rw [hentry]
    exact h.quiet (mt (takesAt_iff hhappening).1 htakes) (mt (flipsAt_iff hhappening).1 hflips)
  · have hunflipped := mt (flipsAt_iff hhappening).1 hflips
    rw [hkeeping, Service.keeping, hfresh.fresh?_eq]
    cases hkept : (start.upTo history n).service.cache.entries.get? q with
    | some entry =>
        rw [hkept] at h
        show start.Pinned history q (n + 1) ((start.upTo history n).service.cache.entries.get? q)
        rw [hkept]
        exact h.succ hunflipped
    | none =>
        rw [hkept] at h
        show start.Pinned history q (n + 1) (Table.get? (Table.insert _ q _) q)
        rw [Table.get?_insert_self]
        exact h.taken ((takesAt_iff hhappening).2 htakes) hunflipped hquiz _
  · rw [hentry]
    exact .flipped (mt (takesAt_iff hhappening).1 htakes) ((flipsAt_iff hhappening).2 hflips)

/-- **What the cache holds, in every history** in which nothing times out. -/
theorem pinned_upTo (hempty : start.service.cache.entries = Table.empty)
    (hfresh : start.NeverStale history) (hn : n ≤ history.length) (q : Int) :
    start.Pinned history q n ((start.upTo history n).service.cache.entries.get? q) := by
  induction n with
  | zero =>
      rw [upTo_zero, hempty]
      exact .cleared fun j hj => absurd hj (Nat.not_lt_zero j)
  | succ n ih =>
      exact (ih (Nat.le_of_succ_le hn)).step hfresh (List.getElem?_eq_getElem hn)

end Pinned

/-! ### What is offered -/

/-- **What can happen to the quizzes**: nothing, or one is put in, or one is marked as published. -/
theorem quizzes_undergo (console : Console) (happening : Happening) :
    let after := (console.undergo happening).service.store.quizzes
    after = console.service.store.quizzes ∨
    (∃ quiz, happening = .given (.putQuiz quiz) ∧
      after = console.service.store.quizzes.insert quiz.id quiz) ∨
    ∃ id quiz, console.service.store.quizzes.get? id = some quiz ∧
      after = console.service.store.quizzes.insert id quiz.published := by
  cases happening with
  | passes nanos => exact Or.inl rfl
  | given command =>
      cases hrequest : command.request? with
      | none =>
          cases command with
          | putQuiz quiz => exact Or.inr (Or.inl ⟨quiz, rfl, rfl⟩)
          | putLesson | putEnrollment => exact Or.inl rfl
          | publish id =>
              simp only [undergo, run, Store.publish?]
              cases hstored : console.service.store.quizzes.get? id with
              | none => exact Or.inl rfl
              | some quiz => exact Or.inr (Or.inr ⟨id, quiz, hstored, rfl⟩)
          | _ => exact Or.inl (run_sameOffer hrequest rfl).quizzes
      | some request =>
          rw [undergo_request console hrequest]
          cases request with
          | take taken actor shuffle =>
              rw [Service.run_take]
              refine Or.inl ?_
              cases console.service.store.sight taken actor with
              | error why => rfl
              | ok quiz => exact congrArg Store.quizzes (console.service.store_keeping taken quiz)
          | publish id actor =>
              rcases console.service.run_publish_cases console.locked id actor with
                heq | ⟨stored, hstored, -, -, heq⟩
              · exact Or.inl (congrArg (·.store.quizzes) heq)
              · exact Or.inr (Or.inr ⟨id, stored, hstored, congrArg (·.store.quizzes) heq⟩)
          | _ => exact Or.inl (Service.run_sameOffer rfl console.service console.locked).quizzes

end Console

/-- The payload of the quiz as it is stored. -/
def Store.offer (store : Store) (q : Int) : Option TakePayload :=
  (store.quiz? q).map Quiz.takePayload

namespace Console

/-- **A quiz that is not put in anew looks as before** to whom it does not show whether it is
published. -/
theorem looks_undergo {α : Type} {look : Quiz → α}
    (hlook : ∀ quiz : Quiz, look quiz.published = look quiz)
    (console : Console) {happening : Happening} {q : Int}
    (hedit : ∀ quiz, happening = .given (.putQuiz quiz) → quiz.id ≠ q) :
    ((console.undergo happening).service.store.quizzes.get? q).map look =
      (console.service.store.quizzes.get? q).map look := by
  rcases console.quizzes_undergo happening with heq | ⟨quiz, hput, heq⟩ | ⟨id, quiz, hstored, heq⟩
  · rw [heq]
  · rw [heq, Table.get?_insert_of_ne (Ne.symm (hedit quiz hput))]
  · rw [heq, Table.get?_insert]
    split
    · rename_i hid
      rw [hid, hstored, Option.map_some, Option.map_some, hlook]
    · rfl

/-- **A quiz that is not put in anew is offered as before.** -/
theorem offer_undergo (console : Console) {happening : Happening} {q : Int}
    (hedit : ∀ quiz, happening = .given (.putQuiz quiz) → quiz.id ≠ q) :
    (console.undergo happening).service.store.offer q = console.service.store.offer q := by
  unfold Store.offer Store.quiz?
  rw [Option.map_map, Option.map_map]
  exact console.looks_undergo (fun _ => rfl) hedit

/-- **A quiz that nobody puts in between two places is offered alike at both.** -/
theorem offer_between (start : Console) {history : List Happening} {q : Int} {i n : Nat}
    (hedit : ∀ m quiz, i ≤ m → m < n → history[m]? = some (.given (.putQuiz quiz)) → quiz.id ≠ q)
    (hi : i ≤ n) (hn : n ≤ history.length) :
    (start.upTo history n).service.store.offer q =
      (start.upTo history i).service.store.offer q := by
  induction hi with
  | refl => rfl
  | @step n hi ih =>
      have hhappening : history[n]? = some history[n] := List.getElem?_eq_getElem hn
      rw [upTo_succ hhappening, offer_undergo, ih _ (Nat.le_of_succ_le hn)]
      · exact fun m quiz hm hmn => hedit m quiz hm (Nat.lt_succ_of_lt hmn)
      · intro quiz hput
        exact hedit n quiz hi (Nat.lt_succ_self n) (hput ▸ hhappening)

/-- What was put in is offered. -/
theorem offer_put {start : Console} {history : List Happening} {m : Nat} {quiz : Quiz}
    (h : history[m]? = some (.given (.putQuiz quiz))) :
    (start.upTo history (m + 1)).service.store.offer quiz.id = some quiz.sorted.takePayload := by
  rw [upTo_succ h]
  show (Option.map Quiz.sorted (Table.get? (Table.insert _ quiz.id quiz) quiz.id)).map _ = _
  rw [Table.get?_insert_self]
  rfl

/-! ### Without a cache -/

/-- Consoles with the same quizzes, lessons and enrollments. -/
structure SameCatalogue (c d : Console) : Prop where
  quizzes : d.service.store.quizzes = c.service.store.quizzes
  lessons : d.service.store.lessons = c.service.store.lessons
  enrollments : d.service.store.enrollments = c.service.store.enrollments

namespace SameCatalogue

variable {c d c' d' : Console}

theorem sight (h : SameCatalogue c d) (quizId : Int) (actor : Actor) :
    d.service.store.sight quizId actor = c.service.store.sight quizId actor := by
  simp only [Store.sight, Store.viewing, Store.taking, Store.quiz?, Store.lesson?,
    Store.enrollmentOf?, h.quizzes, h.lessons, h.enrollments]

theorem publication (h : SameCatalogue c d) (quizId : Int) (actor : Actor) :
    d.service.store.publication quizId actor = c.service.store.publication quizId actor := by
  simp only [Store.publication, Store.quiz?, Store.lesson?, h.quizzes, h.lessons]

theorem of_sameOffer (h : SameCatalogue c d) (hc : c.service.SameOffer c'.service)
    (hd : d.service.SameOffer d'.service) : SameCatalogue c' d' where
  quizzes := by rw [hd.quizzes, hc.quizzes, h.quizzes]
  lessons := by rw [hd.lessons, hc.lessons, h.lessons]
  enrollments := by rw [hd.enrollments, hc.enrollments, h.enrollments]

/-- A take leaves the catalogue alone, whatever the cache holds. -/
theorem keeping (h : SameCatalogue c d) (q : Int) (quiz : Quiz)
    (hc : c'.service = c.service.keeping q quiz) (hd : d'.service = d.service.keeping q quiz) :
    SameCatalogue c' d' := by
  refine ⟨?_, ?_, ?_⟩ <;> rw [hc, hd, Service.store_keeping, Service.store_keeping]
  · exact h.quizzes
  · exact h.lessons
  · exact h.enrollments

/-- A request changes the catalogue by what is in the catalogue. -/
theorem request (h : SameCatalogue c d) (request : Request)
    (hc : c'.service = (c.service.run c.locked request.program).1)
    (hd : d'.service = (d.service.run d.locked request.program).1) : SameCatalogue c' d' := by
  have hstay : c'.service = c.service → d'.service = d.service → SameCatalogue c' d' :=
    fun hc hd => h.of_sameOffer (hc ▸ .refl _) (hd ▸ .refl _)
  cases request with
  | take quizId actor shuffle =>
      rw [Service.run_take] at hc hd
      rw [h.sight] at hd
      cases hsight : c.service.store.sight quizId actor with
      | error why =>
          rw [hsight] at hc hd
          exact hstay hc hd
      | ok quiz =>
          rw [hsight] at hc hd
          exact h.keeping quizId quiz hc hd
  | publish quizId actor =>
      rw [Service.run_publish] at hc hd
      rw [h.publication] at hd
      cases hpublication : c.service.store.publication quizId actor with
      | error why =>
          rw [hpublication] at hc hd
          exact hstay hc hd
      | ok quiz =>
          rw [hpublication, unlessRefused_ok, Service.decidePublish] at hc hd
          rw [h.quizzes] at hd
          split at hc
          · rename_i hpublished
            rw [if_pos hpublished] at hd
            exact hstay hc hd
          · rename_i hpublished
            rw [if_neg hpublished] at hd
            split at hc <;> rename_i hchecked <;> simp only [hchecked] at hd
            · exact hstay hc hd
            · rename_i hmissing
              simp only [hmissing] at hd
              exact hstay hc hd
            · rename_i hstored
              simp only [hstored] at hd
              exact ⟨by rw [hc, hd]; exact congrArg (Table.insert · quizId _) h.quizzes,
                by rw [hc, hd]; exact h.lessons, by rw [hc, hd]; exact h.enrollments⟩
  | _ =>
      exact h.of_sameOffer (hc ▸ Service.run_sameOffer rfl c.service c.locked)
        (hd ▸ Service.run_sameOffer rfl d.service d.locked)

/-- **Whatever happens to both**, the catalogues stay the same. -/
theorem undergo (h : SameCatalogue c d) (happening : Happening) :
    SameCatalogue (c.undergo happening) (d.undergo happening) := by
  cases happening with
  | passes nanos => exact ⟨h.quizzes, h.lessons, h.enrollments⟩
  | given command =>
      cases hrequest : command.request? with
      | some request =>
          exact h.request request (undergo_request c hrequest) (undergo_request d hrequest)
      | none =>
          cases command with
          | putQuiz quiz =>
              exact ⟨congrArg (Table.insert · quiz.id quiz) h.quizzes, h.lessons, h.enrollments⟩
          | putLesson lesson =>
              exact ⟨h.quizzes, congrArg (Table.insert · lesson.id lesson) h.lessons, h.enrollments⟩
          | putEnrollment enrollment =>
              exact ⟨h.quizzes, h.lessons,
                congrArg (Table.insert · enrollment.id enrollment) h.enrollments⟩
          | publish id =>
              simp only [Console.undergo, run, Store.publish?, h.quizzes]
              cases c.service.store.quizzes.get? id with
              | none => exact h
              | some quiz =>
                  exact ⟨rfl, h.lessons, h.enrollments⟩
          | _ => exact h.of_sameOffer (run_sameOffer hrequest rfl) (run_sameOffer hrequest rfl)

end SameCatalogue

/-- For how long the cache keeps its entries never changes. -/
theorem keptFor_undergo (console : Console) (happening : Happening) :
    (console.undergo happening).service.cache.keptFor = console.service.cache.keptFor := by
  cases console.affects happening with
  | quiet htakes hflips hcache => rw [hcache]
  | flipped htakes hflips hcache =>
      rw [hcache]
      rfl
  | taken htakes hflips hquiz hkeeping =>
      rw [hkeeping, Service.keeping]
      split <;> rfl

/-- **Without a cache** the catalogue is at all times what it is with one, and nothing is kept. -/
theorem uncached_upTo (start : Console) (history : List Happening) (n : Nat) :
    SameCatalogue (start.upTo history n) (start.uncached.upTo history n) ∧
      (start.uncached.upTo history n).service.cache.keptFor = 0 :=
  upTo_related (R := fun c d => SameCatalogue c d ∧ d.service.cache.keptFor = 0)
    (c := start) (d := start.uncached)
    (fun {_ d} happening h =>
      ⟨h.1.undergo happening, (d.keptFor_undergo happening).trans h.2⟩)
    ⟨⟨rfl, rfl, rfl⟩, rfl⟩ history n

end Console

/-! ### What is served -/

/-- What keeps nothing serves the quiz as it is stored. -/
theorem Service.served_of_keptFor {s : Service} (h : s.cache.keptFor = 0) (q : Int) (quiz : Quiz) :
    s.served q quiz = quiz.takePayload := by
  rw [served, TakeCache.fresh?_of_keptFor h]

namespace Console

variable {start : Console} {history : List Happening}

/-- **What is served is the version of the first take.** -/
theorem served_upTo (hempty : start.service.cache.entries = Table.empty)
    (hfresh : start.NeverStale history) {n : Nat} {command : Command} {q : Int} {actor : Actor}
    {shuffle : Shuffle} {current : Quiz} (hcommand : history[n]? = some (.given command))
    (hrequest : command.request? = some (.take q actor shuffle))
    (hsight : (start.upTo history n).service.store.sight q actor = .ok current) :
    ∃ i version, start.FirstTake history q i (n + 1) ∧
      (start.upTo history i).service.store.quiz? q = some version ∧
      (start.upTo history n).service.served q current = version.takePayload := by
  have hservice : (start.upTo history (n + 1)).service =
      (start.upTo history n).service.keeping q current := by
    rw [upTo_succ hcommand, undergo_request _ hrequest, Service.run_take, hsight]
    rfl
  obtain ⟨entry, hkept, hserved⟩ := (start.upTo history n).service.get?_keeping q current
  obtain ⟨hn, -⟩ := List.getElem?_eq_some_iff.1 hcommand
  have hpinned := pinned_upTo hempty hfresh (Nat.succ_le_of_lt hn) q
  rw [hservice, hkept] at hpinned
  cases hpinned with
  | kept hfirst hversion hentry => exact ⟨_, _, hfirst, hversion, hserved.symm.trans hentry⟩

/-- **The version at a place is the one that was put in last.** -/
theorem offered_last {q : Int} {i : Nat} (hi : i ≤ history.length)
    {version edited : Quiz} (hversion : (start.upTo history i).service.store.quiz? q = some version)
    {m : Nat} (hm : m < i) (hput : history[m]? = some (.given (.putQuiz edited)))
    (hid : edited.id = q)
    (hlast : ∀ m' other, m < m' → m' < i → history[m']? = some (.given (.putQuiz other)) →
      other.id ≠ q) : version.takePayload = edited.sorted.takePayload := by
  have hsame := offer_between start (i := m + 1) (n := i) (q := q)
    (fun m' other hmm' => hlast m' other hmm') hm hi
  rw [← hid, offer_put hput, hid, Store.offer, hversion] at hsame
  exact Option.some.inj hsame

/-- **What is served, in every history** that begins with an empty cache and in which no entry of it
times out, whoever asks and whatever else happens.

A take that succeeds serves a permitted copy of one version of the quiz: of the one that was stored
when the quiz was taken for the first time since the last request that flipped it.  It is rearranged
by nothing but the shuffle that was drawn for this take, as the switches of the quiz say that is
stored now.  The version was stored after every flip, so what was looked at before one is not shown
after it; and it is the one that was put in last by then.

Where no quiz is put in after it was taken, every take ends as it does without a cache. -/
theorem taken_after (hempty : start.service.cache.entries = Table.empty)
    (hfresh : start.NeverStale history) :
    (∀ n command q actor shuffle reply, history[n]? = some (.given command) →
      command.request? = some (.take q actor shuffle) →
      (start.upTo history n).outcome (.take q actor shuffle) = .done reply →
      ∃ i version current payload, start.FirstTake history q i (n + 1) ∧
        (start.upTo history i).service.store.quiz? q = some version ∧
        (start.upTo history n).service.store.quiz? q = some current ∧
        reply = .payload payload ∧
        payload = version.takePayload.render shuffle current.shuffleQuestions
          current.shuffleOptions ∧
        payload.IsShuffleOf version.takePayload current.shuffleQuestions current.shuffleOptions ∧
        (∀ k, k ≤ n → start.FlipsAt history q k → k < i) ∧
        ∀ m edited, m < i → history[m]? = some (.given (.putQuiz edited)) → edited.id = q →
          (∀ m' other, m < m' → m' < i → history[m']? = some (.given (.putQuiz other)) →
            other.id ≠ q) →
          version.takePayload = edited.sorted.takePayload) ∧
    ((∀ j m quiz, history[m]? = some (.given (.putQuiz quiz)) → j < m →
        ¬ start.TakesAt history quiz.id j) →
      ∀ n command q actor shuffle, history[n]? = some (.given command) →
        command.request? = some (.take q actor shuffle) →
        (start.upTo history n).outcome (.take q actor shuffle) =
          (start.uncached.upTo history n).outcome (.take q actor shuffle)) := by
  refine ⟨fun n command q actor shuffle reply hcommand hrequest hdone => ?_,
    fun hunedited n command q actor shuffle hcommand hrequest => ?_⟩
  · rw [outcome, Service.run_take] at hdone
    cases hsight : (start.upTo history n).service.store.sight q actor with
    | error why => simp [hsight] at hdone
    | ok current =>
        obtain ⟨i, version, hfirst, hversion, hserved⟩ :=
          served_upTo hempty hfresh hcommand hrequest hsight
        rw [hsight, unlessRefused_ok, Service.decideTake, hserved] at hdone
        obtain ⟨hn, -⟩ := List.getElem?_eq_some_iff.1 hcommand
        have hi : i < n + 1 := hfirst.lt
        refine ⟨i, version, current, _, hfirst, hversion, Store.quiz?_of_sight hsight,
          (Outcome.done.inj hdone).symm, rfl, version.takePayload.isShuffleOf_render _ _ _,
          fun k hk hflips => ?_, fun m edited => offered_last (by omega) hversion⟩
        by_contra hik
        exact hfirst.unflipped k (Nat.le_of_not_lt hik) (Nat.lt_succ_of_le hk) hflips
  · obtain ⟨hsame, hkeptFor⟩ := start.uncached_upTo history n
    rw [outcome, outcome, Service.run_take, Service.run_take, hsame.sight]
    cases hsight : (start.upTo history n).service.store.sight q actor with
    | error why => rfl
    | ok current =>
        obtain ⟨i, version, hfirst, hversion, hserved⟩ :=
          served_upTo hempty hfresh hcommand hrequest hsight
        obtain ⟨hn, -⟩ := List.getElem?_eq_some_iff.1 hcommand
        -- the quiz is offered now as it was at its first take, for nobody has put it in since
        have hoffer := offer_between start (q := q) (fun m quiz him _ hput hid => by
          rcases Nat.lt_or_eq_of_le him with hlt | rfl
          · exact hunedited i m quiz hput hlt (hid ▸ hfirst.takes)
          · exact hfirst.takes.not_put hput) (Nat.le_of_lt_succ hfirst.lt) (Nat.le_of_lt hn)
        rw [Store.offer, Store.offer, hversion, Store.quiz?_of_sight hsight] at hoffer
        have hpayload : current.takePayload = version.takePayload := Option.some.inj hoffer
        simp only [unlessRefused_ok, Service.decideTake, hserved,
          Service.served_of_keptFor hkeptFor, hpayload]

/-- Puts the quizzes of some commands in, under another title. -/
def retitled (title : String) (commands : List Command) : List Command :=
  commands.map fun
    | .putQuiz quiz => .putQuiz { quiz with title := title }
    | command => command

/-- The instructor looks at the draft, puts a revised one in its place and publishes it; the student
takes it then, and once more when some time has passed. -/
def revised : List Happening :=
  let preview : Command := .request (.take 1 ⟨1, .instructor⟩ .still)
  let publish : Command := .request (.publish 1 ⟨1, .instructor⟩)
  let retake : Command := .request (.take 1 learner .still)
  (drafted ++ [preview] ++ retitled "revised" drafted ++ [publish, retake]).map .given ++
    [.passes 5, .given retake]

/-- The student takes a published quiz twice, and nobody edits it. -/
def retaken : List Happening :=
  (examination none).map .given ++
    [.given (.request (.take 1 learner .still)), .passes 5,
      .given (.request (.take 1 learner .still))]

/-- The draft was looked at and is served to nobody; and where nobody edits, the cache does not
show. -/
theorem taken_after_revised :
    let start := ofService { Service.blank with cache := TakeCache.empty 1000 }
    let retake := Request.take 1 learner .still
    start.service.cache.entries = Table.empty ∧ start.NeverStale revised ∧
      start.NeverStale retaken ∧
      (∃ i version, 7 < i ∧ start.FirstTake revised 1 i 11 ∧
        (start.upTo revised i).service.store.quiz? 1 = some version ∧
        version.takePayload.title = "revised") ∧
      (start.upTo retaken 5).outcome retake = (start.uncached.upTo retaken 5).outcome retake := by
  intro start retake
  have hrevised : start.NeverStale revised := by decide +kernel
  have hretaken : start.NeverStale retaken := by decide +kernel
  have hserved : ((start.upTo revised 10).outcome retake).result?.any
      (fun | .payload payload => payload.title == "revised" | _ => false) = true := by
    decide +kernel
  obtain ⟨reply, hreply, htitle⟩ := (Option.any_eq_true _ _).1 hserved
  have hdone : (start.upTo revised 10).outcome retake = .done reply := by
    cases h : (start.upTo revised 10).outcome retake <;> simp_all [Outcome.result?]
  obtain ⟨i, version, current, payload, hfirst, hversion, -, rfl, rfl, -, hflips, -⟩ :=
    (taken_after rfl hrevised).1 10 (.request retake) 1 learner .still reply rfl rfl hdone
  refine ⟨rfl, hrevised, hretaken, ⟨i, version, hflips 7 (by decide) ?_, hfirst, hversion,
    beq_iff_eq.1 htitle⟩, ?_⟩
  · -- the eighth thing that happens is the request of the instructor, and it flips the quiz
    let flip : Happening := .given (.request (.publish 1 ⟨1, .instructor⟩))
    have hbefore : ((start.upTo revised 7).service.store.quizzes.get? 1).any
        (! ·.isPublished) = true := by decide +kernel
    have hafter : (((start.upTo revised 7).undergo flip).service.store.quizzes.get? 1).any
        (·.isPublished) = true := by decide +kernel
    obtain ⟨quiz, hquiz, hdraft⟩ := (Option.any_eq_true _ _).1 hbefore
    obtain ⟨other, hother, hpublished⟩ := (Option.any_eq_true _ _).1 hafter
    exact ⟨flip, rfl, ⟨_, _, rfl, rfl⟩, ⟨quiz, hquiz, by simpa using hdraft⟩, other, hother,
      hpublished⟩
  · refine (taken_after rfl hretaken).2 (fun j m quiz hput hjm => ?_) 5 (.request retake) 1 learner
      .still rfl rfl
    -- the quiz is the first thing that is put in
    match m with
    | 0 => omega
    | 1 | 2 | 3 | 4 | 5 => simp [retaken, examination] at hput
    | m + 6 => simp [retaken, examination] at hput

end Console

end QuizAttempts
