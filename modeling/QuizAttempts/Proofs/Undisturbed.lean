/-
**A transaction that nobody disturbs is committed.**

Rows are compared twice.  An insert looks at the rows of its pair that are in sight, through the
selection that the transaction makes of the committed and of the staged ones; the commit looks at
the whole table that the transaction would leave behind.  A selection shows too much at times, when
a committed row is in sight still though a staged one has taken its place, but it never shows too
little: whatever would be left behind is in sight.  So what passes the first comparison would pass
the second one at that moment.  Closing an attempt in its place leaves room, and what others stage
is theirs.  As long as nobody else commits, then, the table that a transaction would leave behind
stays orderly with every row that it stages, inserts after closings included, and its commit is not
refused.

Whoever is refused at the end has therefore been disturbed: somebody else has committed in between.

Main definitions:

* `Program.commits`, `Console.commits` — a run in which something is committed, and a command;
* `Console.throughout` — what holds of every command of a history in the console that it meets;
* `Console.leavesTo` — **the work of a transaction**: it is not begun anew and comes to no end, and
  what it saves grades a row in its place;
* `Console.Clear` — a transaction would leave an orderly table behind.

Main results:

* `Program.attempts_exec`, `Console.attempts_run` — nothing but a commit writes attempts;
* `Transaction.orderly_insert`, `Transaction.orderly_save` — **what is staged leaves the table
  orderly**;
* `Console.Clear.run`, `Console.Clear.after` — so does one command, and every history in which
  nobody commits;
* `Console.committed_unless_disturbed` — **a commit succeeds, or somebody else has committed**.
-/
import QuizAttempts.Proofs.Careful
import QuizAttempts.Proofs.Moves

set_option autoImplicit false

namespace QuizAttempts

/-! ### What is staged leaves the table orderly -/

namespace Transaction

variable {tx after : Transaction} {store : Store}

/-- **Whatever a transaction would leave behind is in sight.** -/
theorem get?_visible_of_merged {p : Attempt → Bool} {id : Int} {a : Attempt}
    (ha : (tx.merged store).get? id = some a) (hp : p a = true) :
    (tx.visible store p).get? id = some a := by
  rw [get?_merged] at ha
  rw [get?_visible]
  cases hstaged : tx.staged.get? id with
  | some b =>
      rw [hstaged, Option.some_or] at ha
      rw [Option.some.inj ha]
      simp [Option.filter, hp]
  | none =>
      rw [hstaged, Option.none_or] at ha
      simp [ha, Option.filter, hp]

/-- **A fresh row that collides with nothing in sight** leaves the table orderly. -/
theorem orderly_insert (hs : Orderly store.attempts)
    (hown : ∀ {id : Int} {a : Attempt}, tx.staged.get? id = some a → a.id = id)
    (h : Orderly (tx.merged store)) {new : NewAttempt} {row : Attempt}
    (hinsert : (tx.insert store new).2 = .ok (after, row)) : Orderly (after.merged store) := by
  simp only [insert] at hinsert
  split at hinsert
  · simp at hinsert
  · rename_i hroom
    obtain ⟨rfl, rfl⟩ := Prod.mk.inj (Except.ok.inj hinsert)
    rw [merged_stage]
    refine h.insert_new fun {i b} hb hi hpair => ?_
    have hsight : b ∈ (tx.visible store (·.isOf new.enrollmentId new.quizId)).values :=
      Table.mem_values.2 ⟨i, get?_visible_of_merged hb hpair⟩
    have hid : (new.toAttempt store.allocate.allocated).id ≠ b.id := by
      rw [own_merged hs hown hb]
      exact fun heq => hi heq.symm
    have hfree : (new.toAttempt store.allocate.allocated).collides b = false :=
      Bool.eq_false_iff.2 fun hcollides => hroom (List.any_eq_true.2 ⟨b, hsight, hcollides⟩)
    refine ⟨fun hnumber => ?_, fun hopen => Bool.eq_false_iff.2 fun hbopen => ?_⟩
    · rw [Attempt.collides_iff.2 ⟨hid, hpair, Or.inl hnumber.symm⟩] at hfree
      simp at hfree
    · rw [Attempt.collides_iff.2 ⟨hid, hpair, Or.inr ⟨hopen, hbopen⟩⟩] at hfree
      simp at hfree

/-- **A row that is graded in its place** leaves the table orderly. -/
theorem orderly_save (hs : Orderly store.attempts)
    (hown : ∀ {id : Int} {a : Attempt}, tx.staged.get? id = some a → a.id = id)
    (h : Orderly (tx.merged store)) {final : Attempt} (hsave : tx.save? store final = some after)
    (hclosed : final.isOpen = false)
    (hplace : (tx.attempt? store final.id).all final.samePlace = true) :
    Orderly (after.merged store) := by
  obtain ⟨rfl, row, hrow, -⟩ := save?_eq_some hsave
  rw [hrow, Option.all_some] at hplace
  rw [attempt?_eq_merged hs hown] at hrow
  obtain ⟨-, he, hq, hnumber⟩ := Attempt.samePlace_iff.1 hplace
  rw [merged_stage]
  refine h.insert_new fun {i b} hb hi hpair => ⟨fun hsame => ?_, fun hopen => ?_⟩
  · rw [he, hq] at hpair
    exact hi (h.number hrow hb hpair (by rw [hsame, hnumber])).symm
  · rw [hclosed] at hopen
    simp at hopen

end Transaction

/-! ### Commits -/

/-- An operation commits what is staged. -/
def Session.commits (s : Session) : Op → Bool
  | .commit => (s.tx.commit s.service.store).isOk
  | _ => false

/-- **Something is committed** when a program is run. -/
def Program.commits {α : Type} (others : List Int) : Program α → Session → Bool
  | .step op next, s =>
      s.commits op ||
        match s.perform others op with
        | some (s', reply) => (next reply).commits others s'
        | none => false
  | _, _ => false

/-- What commits nothing writes no attempts. -/
theorem Session.attempts_perform {others : List Int} {s s' : Session} {op : Op} {reply : op.Reply}
    (h : s.perform others op = some (s', reply)) (hquiet : s.commits op = false) :
    s'.service.store.attempts = s.service.store.attempts := by
  rcases Session.perform_store h with
    hsame | ⟨new, -, hstore⟩ | ⟨rfl, hcommit⟩ | ⟨quiz, -, hstore⟩ | ⟨enrollment, lesson, -, hstore⟩
  · rw [hsame]
  · rw [hstore, Store.attempts_allocate]
  · simp [Session.commits, hcommit, Except.isOk, Except.toBool] at hquiet
  · exact Store.attempts_publish? hstore
  · rw [hstore, Store.attempts_complete]

/-- **A program that commits nothing writes no attempts.** -/
theorem Program.attempts_exec {α : Type} {others : List Int} {p : Program α} {s : Session}
    (hquiet : p.commits others s = false) :
    (p.exec others s).1.service.store.attempts = s.service.store.attempts := by
  induction p generalizing s with
  | step op next ih =>
      rw [Program.commits, Bool.or_eq_false_iff] at hquiet
      rw [Program.exec]
      cases hperform : s.perform others op with
      | none => rfl
      | some r =>
          obtain ⟨s', reply⟩ := r
          rw [hperform] at hquiet
          exact (ih reply hquiet.2).trans (Session.attempts_perform hperform hquiet.1)
  | _ => rfl

namespace Console

/-- **Something is committed by a command**: by a transaction that is under way, or by that of a
request. -/
def commits (console : Console) : Command → Bool
  | .step name .commit =>
      (console.tx? name).any fun tx => (tx.commit console.service.store).isOk
  | command => command.request?.any fun request =>
      request.program.commits console.locked ⟨console.service, Transaction.fresh⟩

variable {console : Console} {name : String} {tx : Transaction}

/-- No step but a commit writes attempts. -/
theorem attempts_runStep {step : TxStep} (hstep : step ≠ .commit) :
    (console.runStep name tx step).1.service.store.attempts = console.service.store.attempts := by
  cases step with
  | commit => exact absurd rfl hstep
  | insert new =>
      obtain ⟨hstore, -⟩ := Transaction.insert_eq tx console.service.store new
      simp only [runStep]
      split <;> rename_i heq <;> rw [heq] at hstore <;>
        obtain rfl : _ = console.service.store.allocate := hstore <;> rfl
  | lockEnrollment student course =>
      simp only [runStep]
      split <;> rfl
  | save final =>
      simp only [runStep]
      split <;> rfl
  | _ => rfl

/-- **A command that commits nothing writes no attempts.** -/
theorem attempts_run {command : Command} (hquiet : console.commits command = false) :
    (console.run command).1.service.store.attempts = console.service.store.attempts := by
  rcases console.run_cases command with ⟨request, hrequest, heq⟩ | ⟨-, hsame⟩ | ⟨other, -, heq⟩ |
    ⟨other, step, tx, rfl, htx, heq⟩
  · have hprogram : request.program.commits console.locked
        ⟨console.service, Transaction.fresh⟩ = false := by
      cases command with
      | step other step => simp [Command.request?] at hrequest
      | _ => simpa [commits, hrequest] using hquiet
    rw [heq]
    exact Program.attempts_exec hprogram
  · exact hsame.records.attempts
  · rw [heq]
    rfl
  · rw [heq]
    by_cases hstep : step = .commit
    · subst hstep
      simp only [commits, htx, Option.any_some] at hquiet
      simp only [runStep]
      split
      · rename_i hcommit
        simp [hcommit, Except.isOk, Except.toBool] at hquiet
      · rfl
    · exact attempts_runStep hstep

/-! ### Histories -/

/-- **Every command of a history has a property** in the console that it meets. -/
def throughout (P : Console → Command → Bool) (console : Console) : List Command → Bool
  | [] => true
  | command :: commands => P console command && (console.run command).1.throughout P commands

theorem throughout_cons {P : Console → Command → Bool} {command : Command}
    {commands : List Command} : console.throughout P (command :: commands) = true ↔
      P console command = true ∧ (console.run command).1.throughout P commands = true := by
  rw [throughout, Bool.and_eq_true]

/-- What holds throughout holds of each command. -/
theorem throughout_iff {P : Console → Command → Bool} {commands : List Command} :
    console.throughout P commands = true ↔ ∀ earlier command, earlier ++ [command] <+: commands →
      P (console.after earlier) command = true := by
  induction commands generalizing console with
  | nil => simp [throughout]
  | cons first commands ih =>
      rw [throughout_cons, ih]
      constructor
      · rintro ⟨hfirst, hrest⟩ earlier command hprefix
        cases earlier with
        | nil =>
            obtain ⟨rfl, -⟩ := List.cons_prefix_cons.1 hprefix
            exact hfirst
        | cons head earlier =>
            rw [List.cons_append, List.cons_prefix_cons] at hprefix
            obtain ⟨rfl, hprefix⟩ := hprefix
            exact hrest earlier command hprefix
      · intro h
        refine ⟨h [] first (List.cons_prefix_cons.2 ⟨rfl, List.nil_prefix⟩), ?_⟩
        intro earlier command hprefix
        exact h (first :: earlier) command (List.cons_prefix_cons.2 ⟨rfl, hprefix⟩)

/-- **The work of a transaction.**  Others do what they like.  Itself it is neither begun anew nor
ended, and what it saves is graded and stands in the place of the row that it sees. -/
def leavesTo (name : String) (console : Console) : Command → Bool
  | .begin other | .step other .commit | .step other .drop => other != name
  | .step other (.save final) => other != name || console.savesInPlace (.step other (.save final))
  | _ => true

/-- **The transaction is under way and would leave an orderly table behind.** -/
structure Clear (console : Console) (name : String) : Prop where
  sound : console.Sound
  orderly : ∃ tx, console.tx? name = some tx ∧ Orderly (tx.merged console.service.store)

namespace Clear

/-- A transaction that has just begun would leave what is there. -/
theorem begun (h : console.Sound) (name : String) : (console.run (.begin name)).1.Clear name := by
  refine ⟨(h.run _).1, Transaction.fresh, ?_, ?_⟩
  · show (console.withTx name Transaction.fresh).tx? name = some Transaction.fresh
    rw [tx?_withTx, if_pos rfl]
  · exact h.store.orderly

/-- The table that a transaction would leave behind is the same where the committed attempts and
what it has staged are. -/
theorem of_same {after : Console} (hafter : after.Sound)
    (hrows : after.service.store.attempts = console.service.store.attempts) {tx tx' : Transaction}
    (htx' : after.tx? name = some tx') (hstaged : tx'.staged = tx.staged)
    (horderly : Orderly (tx.merged console.service.store)) : after.Clear name := by
  refine ⟨hafter, tx', htx', ?_⟩
  rwa [Transaction.merged, hrows, hstaged]

/-- **One step of the transaction** itself. -/
theorem runStep (h : console.Sound) (htx : console.tx? name = some tx)
    (horderly : Orderly (tx.merged console.service.store)) {step : TxStep}
    (hleaves : console.leavesTo name (.step name step) = true) :
    (console.runStep name tx step).1.Clear name := by
  have hafter := (h.runStep htx step).1
  have hwithin := h.tx? htx
  cases step with
  | commit => simp [leavesTo] at hleaves
  | drop => simp [leavesTo] at hleaves
  | insert new =>
      obtain ⟨hstore, -⟩ := Transaction.insert_eq tx console.service.store new
      simp only [Console.runStep] at hafter ⊢
      split at hafter <;> rename_i heq <;> rw [heq] at hstore <;>
        obtain rfl : _ = console.service.store.allocate := hstore
      · have horderly' := Transaction.orderly_insert h.store.orderly hwithin.own horderly
          (congrArg Prod.snd heq)
        exact ⟨hafter, _, (tx?_withTx _).trans (if_pos rfl), horderly'⟩
      · exact of_same hafter rfl htx rfl horderly
  | save final =>
      simp only [leavesTo, bne_self_eq_false, Bool.false_or, savesInPlace, htx, Option.bind_some,
        Bool.and_eq_true, decide_eq_true_eq] at hleaves
      simp only [Console.runStep] at hafter ⊢
      split at hafter
      · rename_i heq
        have hclosed : final.isOpen = false := by simp [Attempt.isOpen, hleaves.1]
        exact ⟨hafter, _, (tx?_withTx _).trans (if_pos rfl),
          Transaction.orderly_save h.store.orderly hwithin.own horderly heq hclosed hleaves.2⟩
      · exact of_same hafter rfl htx rfl horderly
  | lockEnrollment student course =>
      simp only [Console.runStep] at hafter ⊢
      split at hafter
      · rename_i heq
        exact of_same hafter rfl ((tx?_withTx _).trans (if_pos rfl)) (Session.lock?_staged heq)
          horderly
      · exact of_same hafter rfl htx rfl horderly
  | _ => exact of_same hafter rfl htx rfl horderly

/-- A step of one transaction leaves the others as they are. -/
theorem tx?_runStep {other : String} (hne : name ≠ other) (tx : Transaction) (step : TxStep) :
    (console.runStep other tx step).1.tx? name = console.tx? name := by
  have hwith : ∀ tx' : Transaction, (console.withTx other tx').tx? name = console.tx? name :=
    fun tx' => (tx?_withTx tx').trans (if_neg hne)
  have hwithout : (console.without other).tx? name = console.tx? name :=
    tx?_without.trans (if_neg hne)
  cases step with
  | commit =>
      simp only [Console.runStep]
      split <;> exact hwithout
  | drop => exact hwithout
  | lockEnrollment student course =>
      simp only [Console.runStep]
      split
      · exact hwith _
      · rfl
  | insert new =>
      simp only [Console.runStep]
      split
      · exact hwith _
      · rfl
  | save final =>
      simp only [Console.runStep]
      split
      · exact hwith _
      · rfl
  | _ => rfl

/-- **One command** that leaves the transaction to its work and commits nothing. -/
theorem run (h : console.Clear name) {command : Command}
    (hleaves : console.leavesTo name command = true) (hquiet : console.commits command = false) :
    (console.run command).1.Clear name := by
  obtain ⟨tx, htx, horderly⟩ := h.orderly
  have hafter := (h.sound.run command).1
  have hrows := attempts_run hquiet
  rcases console.run_cases command with ⟨request, -, heq⟩ | ⟨-, hsame⟩ | ⟨other, rfl, heq⟩ |
    ⟨other, step, tx', rfl, htx', heq⟩
  · have htx' : (console.run command).1.tx? name = some tx := by
      rw [heq]
      exact htx
    exact of_same hafter hrows htx' rfl horderly
  · have htx' : (console.run command).1.tx? name = some tx := by
      rw [tx?, hsame.live]
      exact htx
    exact of_same hafter hrows htx' rfl horderly
  · have hne : name ≠ other := fun heq => by simp [leavesTo, heq] at hleaves
    have htx' : (console.run (.begin other)).1.tx? name = some tx := by
      rw [heq, tx?_withTx, if_neg hne, htx]
    exact of_same hafter hrows htx' rfl horderly
  · by_cases hne : name = other
    · subst hne
      obtain rfl : tx' = tx := Option.some.inj (htx'.symm.trans htx)
      rw [heq]
      exact runStep h.sound htx horderly hleaves
    · have htx'' : (console.run (.step other step)).1.tx? name = some tx := by
        rw [heq, tx?_runStep hne, htx]
      exact of_same hafter hrows htx'' rfl horderly

/-- **Every history** in which the transaction is left to its work and nobody commits. -/
theorem after (h : console.Clear name) {commands : List Command}
    (hleaves : console.throughout (leavesTo name) commands = true)
    (hquiet : console.throughout
      (fun console command => !console.commits command) commands = true) :
    (console.after commands).Clear name := by
  induction commands generalizing console with
  | nil => exact h
  | cons command commands ih =>
      obtain ⟨hleaves, hleaves'⟩ := throughout_cons.1 hleaves
      obtain ⟨hquiet, hquiet'⟩ := throughout_cons.1 hquiet
      exact ih (h.run hleaves (by simpa using hquiet)) hleaves' hquiet'

/-- **A transaction that would leave an orderly table behind is committed.** -/
theorem run_commit (h : console.Clear name) : ∃ tx, console.tx? name = some tx ∧
    console.run (.step name .commit) =
      ((console.without name).withStore
        { console.service.store with attempts := tx.merged console.service.store },
        .done .nothing) := by
  obtain ⟨tx, htx, horderly⟩ := h.orderly
  have hcommit := Transaction.commit_of_orderly h.sound.store.orderly (h.sound.tx? htx).own horderly
  refine ⟨tx, htx, ?_⟩
  simp only [Console.run, htx, Console.runStep, hcommit]

end Clear

/-! ### The main result -/

/-- **A commit succeeds, or somebody else has committed.**  Let a history begin with nothing in the
store, and a transaction somewhere in it, whatever others are under way.  It then inserts what it
likes, with or without success, saves graded rows in the places of those that it sees, and looks and
locks; others do what they like.

If nothing is committed meanwhile, neither by others nor by requests, then its commit writes all
that it has staged.  So if its commit is refused, there was a command in between by which somebody
else committed. -/
theorem committed_unless_disturbed {start : Service} (hstart : start.store = Store.empty)
    (before during : List Command) (name : String)
    (hleaves : ((ofService start).after (before ++ [.begin name])).throughout
      (leavesTo name) during = true) :
    let begun := (ofService start).after (before ++ [.begin name])
    let console := begun.after during
    (begun.throughout (fun console command => !console.commits command) during = true →
      ∃ tx, console.tx? name = some tx ∧ console.run (.step name .commit) =
        ((console.without name).withStore
          { console.service.store with attempts := tx.merged console.service.store },
          .done .nothing)) ∧
    ∀ why, (console.run (.step name .commit)).2 = .refused why →
      ∃ earlier command, earlier ++ [command] <+: during ∧ command ≠ .step name .commit ∧
        (begun.after earlier).commits command = true := by
  intro begun console
  have hempty : (ofService start).Sound := Sound.ofService (hstart ▸ Store.Sound.empty)
  have hclear : begun.Clear name := by
    have hbegun : begun = (((ofService start).after before).run (.begin name)).1 :=
      after_append _ before [.begin name]
    rw [hbegun]
    exact .begun (hempty.after before).1 name
  refine ⟨fun hquiet => (hclear.after hleaves hquiet).run_commit, fun why hrefused => ?_⟩
  refine Classical.byContradiction fun hnobody => ?_
  have hnone :
      begun.throughout (fun console command => !console.commits command) during = true := by
    refine throughout_iff.2 fun earlier command hprefix => ?_
    rw [Bool.not_eq_true', Bool.eq_false_iff]
    intro hcommits
    refine hnobody ⟨earlier, command, hprefix, ?_, hcommits⟩
    -- the transaction itself is not among those who commit
    rintro rfl
    have hunended := throughout_iff.1 hleaves earlier _ hprefix
    simp [leavesTo] at hunended
  obtain ⟨tx, -, hdone⟩ := (hclear.after hleaves hnone).run_commit
  rw [hdone] at hrefused
  simp at hrefused

/-- The first attempt of a pair, as it is inserted. -/
def firstOfPair : NewAttempt := ⟨1, 1, 1, Binary64.zero, Service.blank.clock⟩

/-- The second attempt of the pair. -/
def secondOfPair : NewAttempt := ⟨1, 1, 2, Binary64.zero, Service.blank.clock⟩

/-- A transaction inserts a second attempt beside an open one in vain, closes that one and inserts
again; another has inserted an attempt of another pair. -/
def closedAndReopened : List Command :=
  [.step "b" (.insert secondOfPair),
    .step "b" (.save { firstOfPair.toAttempt 1 with status := .graded }),
    .begin "c", .step "c" (.insert { firstOfPair with quizId := 2 }),
    .step "b" (.insert secondOfPair)]

/-- The other one does the same, and is first. -/
def reopenedByRival : List Command :=
  [.step "c" (.save { firstOfPair.toAttempt 1 with status := .graded }),
    .step "c" (.insert secondOfPair), .step "c" .commit]

/-- The transaction is committed if it is the first to be; it is refused when the other was, and
that one is found in between. -/
theorem committed_unless_disturbed_closedAndReopened :
    let before : List Command := [.begin "a", .step "a" (.insert firstOfPair), .step "a" .commit]
    let begun := (ofService Service.blank).after (before ++ [.begin "b"])
    let rivalled := closedAndReopened ++ reopenedByRival
    begun.throughout (leavesTo "b") closedAndReopened = true ∧
      begun.throughout (fun console command => !console.commits command) closedAndReopened = true ∧
      ((begun.after closedAndReopened).run (.step "b" .commit)).2 = .done .nothing ∧
      begun.throughout (leavesTo "b") rivalled = true ∧
      (∃ number, ((begun.after rivalled).run (.step "b" .commit)).2 = .refused (.taken number)) ∧
      ∃ earlier command, earlier ++ [command] <+: rivalled ∧ command ≠ .step "b" .commit ∧
        (begun.after earlier).commits command = true := by
  intro before begun rivalled
  have hleaves : begun.throughout (leavesTo "b") closedAndReopened = true := by decide +kernel
  have hquiet : begun.throughout (fun console command => !console.commits command)
      closedAndReopened = true := by decide +kernel
  have hleaves' : begun.throughout (leavesTo "b") rivalled = true := by decide +kernel
  have hlive : ((begun.after rivalled).tx? "b").isSome = true := by decide +kernel
  have hnotDone : ((begun.after rivalled).run (.step "b" .commit)).2.result?.isSome = false := by
    decide +kernel
  have hrefused : ∃ number,
      ((begun.after rivalled).run (.step "b" .commit)).2 = .refused (.taken number) := by
    obtain ⟨tx, htx⟩ := Option.isSome_iff_exists.1 hlive
    rcases run_commit htx with ⟨hrefused, -⟩ | ⟨hdone, -⟩
    · exact hrefused
    · rw [hdone] at hnotDone
      exact absurd hnotDone (by decide)
  obtain ⟨hcommitted, -⟩ :=
    committed_unless_disturbed (rfl : Service.blank.store = Store.empty) before _ "b" hleaves
  obtain ⟨-, hdisturbed⟩ :=
    committed_unless_disturbed (rfl : Service.blank.store = Store.empty) before _ "b" hleaves'
  obtain ⟨tx, -, hdone⟩ := hcommitted hquiet
  exact ⟨hleaves, hquiet, congrArg Prod.snd hdone, hleaves', hrefused,
    hrefused.elim fun _ hrefusal => hdisturbed _ hrefusal⟩

end Console

end QuizAttempts
