/-
**Transactions that grade attempts by the rules.**

A transaction that grades an attempt is to look at it first, through the operation that is meant to
lock it, and is then to save a graded row in the place of the one that it saw: under the same
identifier, of the same pair, with the same number.  A history is careful when every save in it
keeps to that.  Whether a transaction has locked the enrollment is left open.

Looking first is of no use here; it is enough that whatever is saved is saved in place.  Then a
committed row keeps its place for good.  What is staged for a committed row is a graded row in its
place, and what is staged for a row that is not committed yet was inserted by the same transaction,
so nobody else has it.

Main definitions:

* `Attempt.samePlace` — the same row of the same pair, with the same number;
* `Console.savesInPlace`, `Console.keepsPlaces` — a save in the place of the row that is seen, and
  histories of such saves;
* `Watch`, `Watch.isCareful` — a console with what each transaction has looked at, and **careful
  histories**;
* `Console.Turns` — what one command of such a history does to the rows;
* `Console.Tidy` — what such histories keep.

Main results:

* `Console.Turns.of_savesInPlace` — **one command**;
* `Console.Tidy.turn`, `Console.Tidy.after_keepsPlaces` — a console stays tidy as long as whoever
  saves keeps to the places;
* `Console.Tidy.after` — careful histories are among those.
-/
import QuizAttempts.Proofs.Sight
import QuizAttempts.Proofs.Uniqueness

set_option autoImplicit false

namespace QuizAttempts

/-! ### Places -/

/-- The same row of the same pair, with the same number. -/
def Attempt.samePlace (b a : Attempt) : Bool :=
  b.id == a.id && b.isOf a.enrollmentId a.quizId && b.number == a.number

namespace Attempt

theorem samePlace_iff {a b : Attempt} : b.samePlace a = true ↔
    b.id = a.id ∧ b.enrollmentId = a.enrollmentId ∧ b.quizId = a.quizId ∧ b.number = a.number := by
  simp [samePlace, isOf, and_assoc]

@[simp] theorem samePlace_refl (a : Attempt) : a.samePlace a = true :=
  samePlace_iff.2 ⟨rfl, rfl, rfl, rfl⟩

theorem samePlace_symm {a b : Attempt} (h : b.samePlace a = true) : a.samePlace b = true := by
  obtain ⟨hid, he, hq, hn⟩ := samePlace_iff.1 h
  exact samePlace_iff.2 ⟨hid.symm, he.symm, hq.symm, hn.symm⟩

theorem samePlace_trans {a b c : Attempt} (h : c.samePlace b = true) (h' : b.samePlace a = true) :
    c.samePlace a = true := by
  obtain ⟨hid, he, hq, hn⟩ := samePlace_iff.1 h
  obtain ⟨hid', he', hq', hn'⟩ := samePlace_iff.1 h'
  exact samePlace_iff.2 ⟨hid.trans hid', he.trans he', hq.trans hq', hn.trans hn'⟩

end Attempt

/-! ### Rules -/

namespace Console

/-- **A save in place**: no request is made, and what a transaction saves is graded and stands in
the place of the row that it sees, if it sees one. -/
def savesInPlace (console : Console) : Command → Bool
  | .step name (.save final) =>
      final.status = .graded &&
        ((console.tx? name).bind (·.attempt? console.service.store final.id)).all final.samePlace
  | command => command.request?.isNone

/-- **Histories in which rows keep their places**: whatever is saved is saved in place. -/
def keepsPlaces (console : Console) : List Command → Bool
  | [] => true
  | command :: commands =>
      console.savesInPlace command && (console.run command).1.keepsPlaces commands

variable {console : Console}

theorem keepsPlaces_cons {command : Command} {commands : List Command} :
    console.keepsPlaces (command :: commands) = true ↔
      console.savesInPlace command = true ∧
        (console.run command).1.keepsPlaces commands = true := by
  rw [keepsPlaces, Bool.and_eq_true]

/-- Who saves in place makes no request. -/
theorem request?_of_savesInPlace {command : Command} (h : console.savesInPlace command = true) :
    command.request? = none := by
  cases command with
  | step name step => rfl
  | _ => exact Option.isNone_iff_eq_none.1 h

end Console

/-- A console, and which attempts each transaction has looked at since it began. -/
structure Watch where
  console : Console
  seen : List (String × Int)

namespace Watch

/-- The watch over a service on which no transaction is under way. -/
def ofService (service : Service) : Watch := ⟨Console.ofService service, []⟩

/-- **The rules**: only transactions are at work, and what they save is graded and stands in the
place of the row that they see, at which they have looked. -/
def allows (watch : Watch) : Command → Bool
  | .begin _ => true
  | .step name (.save final) =>
      watch.seen.contains (name, final.id) && final.status = .graded &&
        ((watch.console.tx? name).bind (·.attempt? watch.console.service.store final.id)).all
          final.samePlace
  | .step _ _ => true
  | _ => false

/-- One command. -/
def run (watch : Watch) (command : Command) : Watch where
  console := (watch.console.run command).1
  seen := match command with
    | .begin name => watch.seen.filter (·.1 != name)
    | .step name (.lockAttempt id) => (name, id) :: watch.seen
    | _ => watch.seen

/-- The watch after a history. -/
def after (watch : Watch) (commands : List Command) : Watch := commands.foldl run watch

/-- **Careful histories**: every command keeps to the rules. -/
def isCareful (watch : Watch) : List Command → Bool
  | [] => true
  | command :: commands => watch.allows command && (watch.run command).isCareful commands

variable {watch : Watch}

@[simp] theorem console_run (command : Command) :
    (watch.run command).console = (watch.console.run command).1 := rfl

@[simp] theorem console_after (commands : List Command) :
    (watch.after commands).console = watch.console.after commands := by
  induction commands generalizing watch with
  | nil => rfl
  | cons command commands ih => exact ih

/-- Who keeps to the rules saves in place. -/
theorem savesInPlace_of_allows {command : Command} (h : watch.allows command = true) :
    watch.console.savesInPlace command = true := by
  cases command with
  | begin name => rfl
  | step name step =>
      cases step with
      | save final =>
          simp only [allows, Bool.and_eq_true] at h
          simp only [Console.savesInPlace, Bool.and_eq_true]
          exact ⟨h.1.2, h.2⟩
      | _ => rfl
  | _ => simp [allows] at h

theorem isCareful_cons {command : Command} {commands : List Command} :
    watch.isCareful (command :: commands) = true ↔
      watch.allows command = true ∧ (watch.run command).isCareful commands = true := by
  rw [isCareful, Bool.and_eq_true]

/-- In careful histories rows keep their places. -/
theorem keepsPlaces_of_isCareful {commands : List Command} (h : watch.isCareful commands = true) :
    watch.console.keepsPlaces commands = true := by
  induction commands generalizing watch with
  | nil => rfl
  | cons command commands ih =>
      obtain ⟨hallows, hcareful⟩ := isCareful_cons.1 h
      exact Console.keepsPlaces_cons.2 ⟨savesInPlace_of_allows hallows, ih hcareful⟩

/-- One careful history after another. -/
theorem isCareful_append {commands more : List Command} :
    watch.isCareful (commands ++ more) = true ↔
      watch.isCareful commands = true ∧ (watch.after commands).isCareful more = true := by
  induction commands generalizing watch with
  | nil => simp [isCareful, after]
  | cons command commands ih =>
      rw [List.cons_append, isCareful_cons, ih, isCareful_cons, and_assoc]
      rfl

end Watch

/-! ### The transactions under way -/

namespace Console

variable {console : Console} {name other : String}

theorem tx?_without : (console.without name).tx? other =
    if other = name then none else console.tx? other := by
  obtain ⟨service, live⟩ := console
  simp only [tx?, without]
  induction live with
  | nil => simp
  | cons entry live ih =>
      obtain ⟨key, tx⟩ := entry
      rw [List.filter_cons, List.lookup_cons]
      by_cases hkey : key = name
      · rw [if_neg (by simp [hkey]), ih, hkey]
        by_cases hother : other = name
        · simp [hother]
        · simp [hother, show (other == name) = false by simpa using hother]
      · rw [if_pos (by simpa using hkey), List.lookup_cons, ih]
        by_cases hother : other = key
        · simp [hother, hkey]
        · simp [show (other == key) = false by simpa using hother]

theorem tx?_withTx (tx : Transaction) : (console.withTx name tx).tx? other =
    if other = name then some tx else console.tx? other := by
  show ((name, tx) :: (console.without name).live).lookup other = _
  rw [List.lookup_cons]
  by_cases hother : other = name
  · simp [hother]
  · have hrest : (console.without name).live.lookup other = console.tx? other := by
      have h := @tx?_without console name other
      rwa [if_neg hother] at h
    rw [show (other == name) = false by simpa using hother, hrest, if_neg hother]

theorem tx?_without_eq_some {tx : Transaction} :
    (console.without name).tx? other = some tx ↔ other ≠ name ∧ console.tx? other = some tx := by
  rw [tx?_without]
  split <;> simp [*]

theorem tx?_withTx_eq_some {tx tx' : Transaction} :
    (console.withTx name tx).tx? other = some tx' ↔
      other = name ∧ tx' = tx ∨ other ≠ name ∧ console.tx? other = some tx' := by
  rw [tx?_withTx]
  split <;> simp [*, eq_comm (a := tx)]

end Console

/-- Who takes a lock keeps the others, and takes none that somebody else has. -/
theorem Transaction.held_of_lock? {tx tx' : Transaction} {store : Store} {others : List Int}
    {student course : Int} {enrollment : Option Enrollment}
    (h : tx.lock? store others student course = some (tx', enrollment)) :
    tx.held ⊆ tx'.held ∧ ∀ {e : Int}, e ∈ tx'.held → e ∈ tx.held ∨ e ∉ others := by
  unfold lock? at h
  split at h
  · obtain ⟨rfl, -⟩ := Prod.mk.inj (Option.some.inj h)
    exact ⟨fun _ => id, Or.inl⟩
  · split at h
    · obtain ⟨rfl, -⟩ := Prod.mk.inj (Option.some.inj h)
      exact ⟨fun _ => id, Or.inl⟩
    · split at h
      · simp at h
      · rename_i hfree
        obtain ⟨rfl, -⟩ := Prod.mk.inj (Option.some.inj h)
        refine ⟨List.subset_cons_self .., fun he => ?_⟩
        rcases List.mem_cons.1 he with rfl | he
        · exact Or.inr (by simpa using hfree)
        · exact Or.inl he

/-! ### One command -/

/-- **What one command does to the rows** when rows keep their places. -/
inductive Console.Turns (before : Console) (command : Command) (after : Console) : Prop
  /-- No row is written or staged; transactions may begin and end, and may take locks. -/
  | rest (hrows : after.service.store.attempts = before.service.store.attempts)
      (hlive : ∀ {name : String} {tx' : Transaction}, after.tx? name = some tx' →
        tx'.staged = Table.empty ∨
          ∃ tx, before.tx? name = some tx ∧ tx'.staged = tx.staged ∧ tx.held ⊆ tx'.held)
  /-- A row is staged that is fresh, or grades an open one in its place. -/
  | stage {name : String} {tx : Transaction} {a : Attempt} (htx : before.tx? name = some tx)
      (hrows : after.service.store.attempts = before.service.store.attempts)
      (hlive : ∀ {other : String} {tx' : Transaction}, after.tx? other = some tx' →
        other = name ∧ tx' = tx.stage a ∨ other ≠ name ∧ before.tx? other = some tx')
      (ha : a.id = before.service.store.allocated + 1 ∨
        command = .step name (.save a) ∧
          ∃ row, (tx.merged before.service.store).get? a.id = some row ∧ row.isOpen = true ∧
            a.samePlace row = true ∧ a.isOpen = false)
  /-- What a transaction has staged is written, and it is over. -/
  | commit {name : String} {tx : Transaction} (htx : before.tx? name = some tx)
      (horderly : Orderly (tx.merged before.service.store))
      (hrows : after.service.store.attempts = tx.merged before.service.store)
      (hlive : ∀ {other : String} {tx' : Transaction}, after.tx? other = some tx' →
        other ≠ name ∧ before.tx? other = some tx')

namespace Console.Turns

/-- Nothing happens. -/
theorem refl (console : Console) (command : Command) : Turns console command console :=
  .rest rfl fun htx => Or.inr ⟨_, htx, rfl, fun _ => id⟩

/-- A transaction comes to its end without writing. -/
theorem without (console : Console) (command : Command) (name : String) :
    Turns console command (console.without name) :=
  .rest rfl fun htx => Or.inr ⟨_, (tx?_without_eq_some.1 htx).2, rfl, fun _ => id⟩

/-- A transaction goes on with what it has staged, or with nothing. -/
theorem withTx {console : Console} {command : Command} {name : String} {tx' : Transaction}
    (h : tx'.staged = Table.empty ∨
      ∃ tx, console.tx? name = some tx ∧ tx'.staged = tx.staged ∧ tx.held ⊆ tx'.held) :
    Turns console command (console.withTx name tx') := by
  refine .rest rfl fun htx => ?_
  rcases tx?_withTx_eq_some.1 htx with ⟨rfl, rfl⟩ | ⟨-, htx⟩
  · exact h
  · exact Or.inr ⟨_, htx, rfl, fun _ => id⟩

section Steps

variable {console : Console} {name : String} {tx : Transaction}

/-- A commit writes what is staged, or comes to nothing. -/
theorem of_commit (hs : console.Sound) (htx : console.tx? name = some tx) (command : Command) :
    Turns console command (console.runStep name tx .commit).1 := by
  simp only [runStep]
  split
  · rename_i store heq
    obtain ⟨horderly, rfl⟩ :=
      (Transaction.commit_eq_ok_iff hs.store.orderly (hs.tx? htx).own).1 heq
    exact .commit htx horderly rfl tx?_without_eq_some.1
  · exact without _ _ name

/-- An insert stages a fresh row, or uses an identifier up. -/
theorem of_insert (htx : console.tx? name = some tx) (new : NewAttempt) (command : Command) :
    Turns console command (console.runStep name tx (.insert new)).1 := by
  obtain ⟨hstore, hresult⟩ := Transaction.insert_eq tx console.service.store new
  simp only [runStep]
  split
  · rename_i store tx' a heq
    rw [heq] at hstore hresult
    obtain rfl : store = console.service.store.allocate := hstore
    rcases hresult with hresult | hresult
    · simp at hresult
    · obtain ⟨rfl, rfl⟩ := Prod.mk.inj (Except.ok.inj hresult)
      exact .stage (a := new.toAttempt (console.service.store.allocated + 1))
        htx rfl tx?_withTx_eq_some.1 (Or.inl rfl)
  · rename_i store taken heq
    rw [heq] at hstore
    obtain rfl : store = console.service.store.allocate := hstore
    exact .rest rfl fun htx' => Or.inr ⟨_, htx', rfl, fun _ => id⟩

/-- A save in place stages a graded row in the place of an open one, or is refused. -/
theorem of_save (hs : console.Sound) (htx : console.tx? name = some tx) {final : Attempt}
    (h : console.savesInPlace (.step name (.save final)) = true) :
    Turns console (.step name (.save final)) (console.runStep name tx (.save final)).1 := by
  simp only [runStep]
  split
  · rename_i tx' heq
    obtain ⟨rfl, row, hrow, hopen⟩ := Transaction.save?_eq_some heq
    simp only [savesInPlace, htx, Option.bind_some, hrow, Option.all_some, Bool.and_eq_true,
      decide_eq_true_eq] at h
    obtain ⟨hgraded, hplace⟩ := h
    rw [Transaction.attempt?_eq_merged hs.store.orderly (hs.tx? htx).own] at hrow
    exact .stage htx rfl tx?_withTx_eq_some.1
      (Or.inr ⟨rfl, row, hrow, hopen, hplace, by simp [Attempt.isOpen, hgraded]⟩)
  · exact refl _ _

/-- One step of a transaction that saves in place. -/
theorem of_step (hs : console.Sound) (htx : console.tx? name = some tx) {step : TxStep}
    (h : console.savesInPlace (.step name step) = true) :
    Turns console (.step name step) (console.runStep name tx step).1 := by
  cases step with
  | commit => exact of_commit hs htx _
  | drop => exact without _ _ name
  | lockEnrollment student course =>
      simp only [runStep]
      split
      · rename_i tx' enrollment heq
        exact withTx (Or.inr ⟨tx, htx, Session.lock?_staged heq,
          (Transaction.held_of_lock? heq).1⟩)
      · exact refl _ _
  | insert new => exact of_insert htx new _
  | save final => exact of_save hs htx h
  | _ => exact refl _ _

/-- **One command, when rows keep their places.** -/
theorem of_savesInPlace (hs : console.Sound) {command : Command}
    (h : console.savesInPlace command = true) :
    Turns console command (console.run command).1 := by
  rcases console.run_cases command with ⟨request, hrequest, -⟩ | ⟨-, hsame⟩ | ⟨name, -, heq⟩ |
    ⟨name, step, tx, rfl, htx, heq⟩
  · rw [request?_of_savesInPlace h] at hrequest
    simp at hrequest
  · refine .rest hsame.records.attempts fun {name tx'} htx' => Or.inr ⟨tx', ?_, rfl, fun _ => id⟩
    rwa [tx?, ← hsame.live]
  · rw [heq]
    exact withTx (Or.inl rfl)
  · rw [heq]
    exact of_step hs htx h

end Steps

/-- **One command of a careful history.** -/
theorem of_allows {watch : Watch} (hs : watch.console.Sound) {command : Command}
    (h : watch.allows command = true) :
    Turns watch.console command (watch.console.run command).1 :=
  of_savesInPlace hs (Watch.savesInPlace_of_allows h)

end Console.Turns

/-! ### What is kept -/

/-- **What is kept as long as rows keep their places**: what is staged for a committed row grades it
in its place, and rows that are not committed yet are staged by one transaction each. -/
structure Console.Tidy (console : Console) : Prop where
  sound : console.Sound
  place : ∀ {name : String} {tx : Transaction} {id : Int} {a b : Attempt},
    console.tx? name = some tx → tx.staged.get? id = some b →
      console.service.store.attempts.get? id = some a → b.samePlace a = true ∧ b.isOpen = false
  apart : ∀ {name other : String} {tx tx' : Transaction} {id : Int} {b b' : Attempt},
    console.tx? name = some tx → console.tx? other = some tx' → tx.staged.get? id = some b →
      tx'.staged.get? id = some b' → console.service.store.attempts.get? id = none → name = other

namespace Console.Tidy

variable {console console' : Console} {name : String} {tx : Transaction} {id : Int} {a b : Attempt}

theorem ofService {service : Service} (h : service.store.Sound) :
    (Console.ofService service).Tidy where
  sound := Sound.ofService h
  place htx := by simp [Console.ofService, tx?] at htx
  apart htx := by simp [Console.ofService, tx?] at htx

/-- What a transaction sees in the place of a committed row stands in that place. -/
theorem merged (h : console.Tidy) (htx : console.tx? name = some tx)
    (ha : console.service.store.attempts.get? id = some a) :
    ∃ b, (tx.merged console.service.store).get? id = some b ∧ b.samePlace a = true ∧
      (b.isOpen = true → b = a) := by
  rw [Transaction.get?_merged]
  cases hb : tx.staged.get? id with
  | none => exact ⟨a, by rw [ha]; rfl, Attempt.samePlace_refl a, fun _ => rfl⟩
  | some b =>
      obtain ⟨hplace, hclosed⟩ := h.place htx hb ha
      exact ⟨b, rfl, hplace, fun hopen => by simp [hopen] at hclosed⟩

/-- What is staged is not a row that is graded already: that one is in everybody's sight. -/
theorem ne_of_staging (h : console.Tidy) (htx : console.tx? name = some tx)
    (ha : console.service.store.attempts.get? id = some a) (hclosed : a.isOpen = false)
    {command : Command} {final : Attempt}
    (hfinal : final.id = console.service.store.allocated + 1 ∨
      command = .step name (.save final) ∧
        ∃ row, (tx.merged console.service.store).get? final.id = some row ∧ row.isOpen = true ∧
          final.samePlace row = true ∧ final.isOpen = false) : id ≠ final.id := by
  rintro rfl
  rcases hfinal with hfresh | ⟨-, row, hrow, hopen, -⟩
  · have := h.sound.store.allocated ha
    omega
  · obtain ⟨row', hrow', -, heq⟩ := h.merged htx ha
    obtain rfl := Option.some.inj (hrow.symm.trans hrow')
    rw [heq hopen, hclosed] at hopen
    exact absurd hopen (by decide)

/-- After one command, what is staged for a committed row still grades it in its place. -/
theorem turn_place (h : console.Tidy) {command : Command}
    (hturn : console.Turns command console') {tx' : Transaction}
    (htx' : console'.tx? name = some tx') (hb : tx'.staged.get? id = some b)
    (ha : console'.service.store.attempts.get? id = some a) :
    b.samePlace a = true ∧ b.isOpen = false := by
  cases hturn with
  | rest hrows hlive =>
      rw [hrows] at ha
      rcases hlive htx' with hnone | ⟨tx, htx, hstaged, -⟩
      · simp [hnone] at hb
      · exact h.place htx (hstaged ▸ hb) ha
  | @stage _ tx final htx hrows hlive hfinal =>
      rw [hrows] at ha
      rcases hlive htx' with ⟨rfl, rfl⟩ | ⟨-, htx'⟩
      · rw [Transaction.staged_stage, Table.get?_insert] at hb
        split at hb
        · rename_i hid
          obtain rfl := Option.some.inj hb
          rcases hfinal with hfresh | ⟨-, row, hrow, hopen, hplace, hclosed⟩
          · have := h.sound.store.allocated ha
            omega
          · -- the open row that is replaced is the committed one
            obtain ⟨row', hrow', -, heq⟩ := h.merged htx (hid ▸ ha)
            obtain rfl := Option.some.inj (hrow.symm.trans hrow')
            obtain rfl := heq hopen
            exact ⟨hplace, hclosed⟩
        · exact h.place htx hb ha
      · exact h.place htx' hb ha
  | @commit committer tx htx horderly hrows hlive =>
      obtain ⟨hne, htx'⟩ := hlive htx'
      rw [hrows, Transaction.get?_merged, Option.or_eq_some_iff] at ha
      rcases ha with ha | ⟨-, ha⟩
      · cases hold : console.service.store.attempts.get? id with
        | none => exact absurd (h.apart htx' htx hb ha hold) hne
        | some old =>
            obtain ⟨hplace, hclosed⟩ := h.place htx' hb hold
            exact ⟨Attempt.samePlace_trans hplace
              (Attempt.samePlace_symm (h.place htx ha hold).1), hclosed⟩
      · exact h.place htx' hb ha

/-- After one command, rows that are not committed yet are still staged by one transaction each. -/
theorem turn_apart (h : console.Tidy) {command : Command}
    (hturn : console.Turns command console') {name other : String} {tx₁ tx₂ : Transaction}
    {b b' : Attempt} (htx₁ : console'.tx? name = some tx₁) (htx₂ : console'.tx? other = some tx₂)
    (hb : tx₁.staged.get? id = some b) (hb' : tx₂.staged.get? id = some b')
    (hnone : console'.service.store.attempts.get? id = none) : name = other := by
  cases hturn with
  | rest hrows hlive =>
      rw [hrows] at hnone
      rcases hlive htx₁ with hempty | ⟨tx, htx, hstaged, -⟩
      · simp [hempty] at hb
      · rcases hlive htx₂ with hempty | ⟨tx', htx', hstaged', -⟩
        · simp [hempty] at hb'
        · exact h.apart htx htx' (hstaged ▸ hb) (hstaged' ▸ hb') hnone
  | @stage _ tx final htx hrows hlive hfinal =>
      rw [hrows] at hnone
      -- whoever has `final` in the staged rows besides had it before
      have hbefore : ∀ {name : String} {tx' : Transaction} {b : Attempt},
          console.tx? name = some tx' → tx'.staged.get? final.id = some b →
            console.service.store.attempts.get? final.id = none →
              ∃ row, tx.staged.get? final.id = some row := by
        intro name tx' b htx' hb hnone
        rcases hfinal with hfresh | ⟨-, row, hrow, -⟩
        · have := (h.sound.tx? htx').allocated hb
          omega
        · rw [Transaction.get?_merged, hnone, Option.or_none] at hrow
          exact ⟨row, hrow⟩
      rcases hlive htx₁ with ⟨rfl, rfl⟩ | ⟨-, htx₁⟩ <;>
        rcases hlive htx₂ with ⟨rfl, rfl⟩ | ⟨-, htx₂⟩
      · rfl
      · rw [Transaction.staged_stage, Table.get?_insert] at hb
        split at hb
        · rename_i hid
          subst hid
          obtain ⟨row, hrow⟩ := hbefore htx₂ hb' hnone
          exact h.apart htx htx₂ hrow hb' hnone
        · exact h.apart htx htx₂ hb hb' hnone
      · rw [Transaction.staged_stage, Table.get?_insert] at hb'
        split at hb'
        · rename_i hid
          subst hid
          obtain ⟨row, hrow⟩ := hbefore htx₁ hb hnone
          exact h.apart htx₁ htx hb hrow hnone
        · exact h.apart htx₁ htx hb hb' hnone
      · exact h.apart htx₁ htx₂ hb hb' hnone
  | @commit committer tx htx horderly hrows hlive =>
      rw [hrows, Transaction.get?_merged, Option.or_eq_none_iff] at hnone
      exact h.apart (hlive htx₁).2 (hlive htx₂).2 hb hb' hnone.2

/-- **One command** keeps a console tidy. -/
theorem turn (h : console.Tidy) (hsound : console'.Sound) {command : Command}
    (hturn : console.Turns command console') : console'.Tidy :=
  ⟨hsound, h.turn_place hturn, h.turn_apart hturn⟩

/-- **Every history in which rows keep their places** keeps a console tidy. -/
theorem after_keepsPlaces (h : console.Tidy) {commands : List Command}
    (hplaces : console.keepsPlaces commands = true) : (console.after commands).Tidy := by
  induction commands generalizing console with
  | nil => exact h
  | cons command commands ih =>
      obtain ⟨hsaves, hplaces⟩ := keepsPlaces_cons.1 hplaces
      exact ih (h.turn (h.sound.run command).1 (Turns.of_savesInPlace h.sound hsaves)) hplaces

/-- **Every careful history** keeps a console tidy. -/
theorem after {watch : Watch} (h : watch.console.Tidy) {commands : List Command}
    (hcareful : watch.isCareful commands = true) : (watch.after commands).console.Tidy := by
  rw [Watch.console_after]
  exact h.after_keepsPlaces (Watch.keepsPlaces_of_isCareful hcareful)

end Console.Tidy

end QuizAttempts
