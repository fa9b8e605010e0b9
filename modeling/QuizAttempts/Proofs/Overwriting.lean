/-
**When a graded attempt is overwritten.**

An attempt is looked at and not locked.  Two transactions may both see it open and both stage a
grade for it; the one that is committed later then overwrites the grade of the other, for what is
compared at the end are numbers and open rows only.  Nothing else overwrites a grade.  Once the
graded row is committed it is in everybody's sight, and whoever saves then is refused.  So a graded
row is safe exactly when no transaction that is still under way has another row staged for it, or
has a number that is taken and cannot be committed any more.

Main definitions:

* `Transaction.isBarred` — a transaction that cannot be committed any more;
* `Console.Spares` — no transaction under way will overwrite a row.

Main results:

* `Console.Tidy.staged_of_turn` — nothing is staged for a graded row any more;
* `Console.Spares.after` — a row that is safe stays as it is;
* `Console.exists_overwriting` — one that is not may be overwritten;
* `Console.graded_once_iff` — **when a graded row is safe**.
-/
import QuizAttempts.Proofs.Careful
import QuizAttempts.Proofs.Numbering

set_option autoImplicit false

namespace QuizAttempts

/-! ### Numbers that are taken -/

/-- **A staged row has the number of another row of its pair.**  Numbers are never given back, so
the transaction cannot be committed any more. -/
def Transaction.isBarred (tx : Transaction) (store : Store) : Bool :=
  tx.staged.values.any fun c => (tx.merged store).values.any fun d =>
    c.id != d.id && d.isOf c.enrollmentId c.quizId && c.number == d.number

namespace Transaction

variable {tx : Transaction} {store : Store}

theorem isBarred_iff : tx.isBarred store = true ↔ ∃ (i j : Int) (c d : Attempt),
    tx.staged.get? i = some c ∧ (tx.merged store).get? j = some d ∧ c.id ≠ d.id ∧
      d.isOf c.enrollmentId c.quizId = true ∧ c.number = d.number := by
  simp only [isBarred, List.any_eq_true, Table.mem_values, Bool.and_eq_true, bne_iff_ne,
    beq_iff_eq, ne_eq]
  constructor
  · rintro ⟨c, ⟨i, hc⟩, d, ⟨j, hd⟩, ⟨hid, hpair⟩, hn⟩
    exact ⟨i, j, c, d, hc, hd, hid, hpair, hn⟩
  · rintro ⟨i, j, c, d, hc, hd, hid, hpair, hn⟩
    exact ⟨c, ⟨i, hc⟩, d, ⟨j, hd⟩, ⟨hid, hpair⟩, hn⟩

/-- Being barred is a matter of places. -/
theorem isBarred_of_places {tx' : Transaction} {store' : Store}
    (hstaged : ∀ {key : Int} {row : Attempt}, tx.staged.get? key = some row →
      ∃ row', tx'.staged.get? key = some row' ∧ row'.samePlace row = true)
    (hmerged : ∀ {key : Int} {row : Attempt}, (tx.merged store).get? key = some row →
      ∃ row', (tx'.merged store').get? key = some row' ∧ row'.samePlace row = true)
    (h : tx.isBarred store = true) : tx'.isBarred store' = true := by
  obtain ⟨i, j, c, d, hc, hd, hid, hpair, hn⟩ := isBarred_iff.1 h
  obtain ⟨c', hc', hplace⟩ := hstaged hc
  obtain ⟨d', hd', hplace'⟩ := hmerged hd
  obtain ⟨hid₁, he₁, hq₁, hn₁⟩ := Attempt.samePlace_iff.1 hplace
  obtain ⟨hid₂, he₂, hq₂, hn₂⟩ := Attempt.samePlace_iff.1 hplace'
  refine isBarred_iff.2 ⟨i, j, c', d', hc', hd', ?_, ?_, ?_⟩
  · rwa [hid₁, hid₂]
  · rw [Attempt.isOf_iff] at hpair ⊢
    rwa [he₁, he₂, hq₁, hq₂]
  · rw [hn₁, hn₂, hn]

/-- Staging a row in the place of another one bars nobody. -/
theorem isBarred_stage {c final : Attempt} (hc : tx.staged.get? final.id = some c)
    (hplace : final.samePlace c = true) (h : tx.isBarred store = false) :
    (tx.stage final).isBarred store = false := by
  have hinsert : ∀ {rows : Table Attempt}, rows.get? final.id = some c →
      ∀ {key : Int} {row : Attempt}, (rows.insert final.id final).get? key = some row →
        ∃ row', rows.get? key = some row' ∧ row'.samePlace row = true := by
    intro rows hrows key row hrow
    rw [Table.get?_insert] at hrow
    split at hrow
    · rename_i hkey
      obtain rfl := Option.some.inj hrow
      exact ⟨c, hkey ▸ hrows, Attempt.samePlace_symm hplace⟩
    · exact ⟨row, hrow, Attempt.samePlace_refl row⟩
  rw [Bool.eq_false_iff] at h ⊢
  refine fun hbarred => h (isBarred_of_places (hinsert hc) (fun hrow => ?_) hbarred)
  rw [merged_stage] at hrow
  exact hinsert (by rw [get?_merged, hc, Option.some_or]) hrow

/-- What can be committed is not barred. -/
theorem isBarred_of_orderly (h : Orderly (tx.merged store)) : tx.isBarred store = false := by
  rw [Bool.eq_false_iff, ne_eq, isBarred_iff]
  rintro ⟨i, j, c, d, hc, hd, hid, hpair, hn⟩
  have hc' : (tx.merged store).get? i = some c := by rw [get?_merged, hc, Option.some_or]
  exact hid (by rw [h.own hc', h.own hd, h.number hc' hd hpair hn])

/-- **Who is not barred and has nothing open can be committed.** -/
theorem orderly_merged (hs : store.Sound) (ht : tx.Within store)
    (hbarred : tx.isBarred store = false)
    (hclosed : ∀ {i : Int} {c : Attempt}, tx.staged.get? i = some c → c.isOpen = false) :
    Orderly (tx.merged store) := by
  rw [← collision?_eq_none_iff_orderly hs.orderly ht.own, collision?_eq_none_iff]
  intro i j c d hc hd
  rw [Bool.eq_false_iff]
  intro hcollides
  obtain ⟨hid, hpair, hn | ⟨hopen, -⟩⟩ := Attempt.collides_iff.1 hcollides
  · have htrue : tx.isBarred store = true := isBarred_iff.2 ⟨i, j, c, d, hc, hd, hid, hpair, hn⟩
    rw [hbarred] at htrue
    exact absurd htrue (by decide)
  · rw [hclosed hc] at hopen
    exact absurd hopen (by decide)

end Transaction

namespace Console

/-! ### What becomes of rows and transactions -/

section Turns

variable {console console' : Console} {name : String} {tx tx' : Transaction} {id : Int}
  {a b : Attempt} {command : Command}

/-- A committed row keeps its place. -/
theorem Tidy.place_of_turn (h : console.Tidy) (hturn : console.Turns command console')
    (ha : console.service.store.attempts.get? id = some a) :
    ∃ b, console'.service.store.attempts.get? id = some b ∧ b.samePlace a = true := by
  cases hturn with
  | rest hrows | stage _ hrows =>
      rw [hrows]
      exact ⟨a, ha, Attempt.samePlace_refl a⟩
  | commit htx _ hrows =>
      obtain ⟨b, hb, hplace, -⟩ := h.merged htx ha
      rw [hrows]
      exact ⟨b, hb, hplace⟩

/-- **Nothing is staged for a graded row any more.**  Whoever has a row staged for it had it before,
and what else they had staged is still staged in its place. -/
theorem Tidy.staged_of_turn (h : console.Tidy) (hturn : console.Turns command console')
    (ha : console.service.store.attempts.get? id = some a) (hclosed : a.isOpen = false)
    (htx' : console'.tx? name = some tx') (hb : tx'.staged.get? id = some b) :
    ∃ tx, console.tx? name = some tx ∧ tx.staged.get? id = some b ∧
      ∀ {key : Int} {row : Attempt}, tx.staged.get? key = some row →
        ∃ row', tx'.staged.get? key = some row' ∧ row'.samePlace row = true := by
  have hsame : ∀ {tx : Transaction}, tx'.staged = tx.staged → ∀ {key : Int} {row : Attempt},
      tx.staged.get? key = some row →
        ∃ row', tx'.staged.get? key = some row' ∧ row'.samePlace row = true := by
    intro tx hstaged key row hrow
    exact ⟨row, hstaged ▸ hrow, Attempt.samePlace_refl row⟩
  cases hturn with
  | rest hrows hlive =>
      rcases hlive htx' with hnone | ⟨tx, htx, hstaged, -⟩
      · simp [hnone] at hb
      · exact ⟨tx, htx, hstaged ▸ hb, hsame hstaged⟩
  | @stage stager tx final htx hrows hlive hfinal =>
      rcases hlive htx' with ⟨rfl, rfl⟩ | ⟨-, htx'⟩
      · have hne : id ≠ final.id := h.ne_of_staging htx ha hclosed hfinal
        rw [Transaction.staged_stage, Table.get?_insert_of_ne hne] at hb
        refine ⟨tx, htx, hb, fun {key row} hrow => ?_⟩
        rw [Transaction.staged_stage, Table.get?_insert]
        split
        · rename_i hkey
          subst hkey
          refine ⟨final, rfl, ?_⟩
          rcases hfinal with hfresh | ⟨-, row', hrow', -, hplace, -⟩
          · have := (h.sound.tx? htx).allocated hrow
            omega
          · rw [Transaction.get?_merged, hrow, Option.some_or] at hrow'
            rwa [← Option.some.inj hrow'] at hplace
        · exact ⟨row, hrow, Attempt.samePlace_refl row⟩
      · exact ⟨tx', htx', hb, hsame rfl⟩
  | commit htx horderly hrows hlive => exact ⟨tx', (hlive htx').2, hb, hsame rfl⟩

/-- **Who is barred stays barred**: rows keep their places, the committed and the staged. -/
theorem Tidy.barred_of_turn (h : console.Tidy) (h' : console'.Tidy)
    (hturn : console.Turns command console') (htx' : console'.tx? name = some tx')
    (hstaged : ∀ {key : Int} {row : Attempt}, tx.staged.get? key = some row →
      ∃ row', tx'.staged.get? key = some row' ∧ row'.samePlace row = true)
    (hbarred : tx.isBarred console.service.store = true) :
    tx'.isBarred console'.service.store = true := by
  refine Transaction.isBarred_of_places hstaged (fun {key d} hd => ?_) hbarred
  rw [Transaction.get?_merged, Option.or_eq_some_iff] at hd
  rcases hd with hd | ⟨-, hd⟩
  · obtain ⟨d', hd', hplace⟩ := hstaged hd
    exact ⟨d', by rw [Transaction.get?_merged, hd', Option.some_or], hplace⟩
  · obtain ⟨d₁, hd₁, hplace₁⟩ := h.place_of_turn hturn hd
    obtain ⟨d', hd', hplace', -⟩ := h'.merged htx' hd₁
    exact ⟨d', hd', Attempt.samePlace_trans hplace' hplace₁⟩

end Turns

/-! ### Rows that are safe -/

/-- **No transaction under way will overwrite a row**: what it has staged for it is the same, or it
cannot be committed. -/
structure Spares (console : Console) (id : Int) (a : Attempt) : Prop where
  row : console.service.store.attempts.get? id = some a
  staged : ∀ {name : String} {tx : Transaction} {b : Attempt}, console.tx? name = some tx →
    tx.staged.get? id = some b → b = a ∨ tx.isBarred console.service.store = true

namespace Spares

variable {console console' : Console} {id : Int} {a : Attempt} {command : Command}

/-- **One command** leaves a row alone that is safe, and it stays safe. -/
theorem turn (hspares : console.Spares id a) (hclosed : a.isOpen = false) (h : console.Tidy)
    (h' : console'.Tidy) (hturn : console.Turns command console') : console'.Spares id a := by
  refine ⟨?_, fun {name tx' b} htx' hb => ?_⟩
  · have hrow := hspares.row
    cases hturn with
    | rest hrows | stage _ hrows => rwa [hrows]
    | @commit name tx htx horderly hrows =>
        rw [hrows, Transaction.get?_merged]
        cases hb : tx.staged.get? id with
        | none => exact hrow
        | some b =>
            rcases hspares.staged htx hb with rfl | hbarred
            · rfl
            · -- who is barred is not committed
              rw [Transaction.isBarred_of_orderly horderly] at hbarred
              exact absurd hbarred (by decide)
  · obtain ⟨tx, htx, hb', hstaged⟩ := h.staged_of_turn hturn hspares.row hclosed htx' hb
    exact (hspares.staged htx hb').imp_right (h.barred_of_turn h' hturn htx' hstaged)

/-- **Careful histories** leave a row alone that is safe. -/
theorem after {watch : Watch} (hspares : watch.console.Spares id a) (hclosed : a.isOpen = false)
    (h : watch.console.Tidy) {commands : List Command}
    (hcareful : watch.isCareful commands = true) : (watch.after commands).console.Spares id a := by
  induction commands generalizing watch with
  | nil => exact hspares
  | cons command commands ih =>
      obtain ⟨hallows, hcareful⟩ := Watch.isCareful_cons.1 hcareful
      have hturn := Turns.of_allows h.sound hallows
      have h' := h.turn (h.sound.run command).1 hturn
      exact ih (hspares.turn hclosed h h' hturn) h' hcareful

end Spares

/-! ### Rows that are not safe -/

section Overwriting

variable {console : Console} {name : String} {tx : Transaction} {id : Int} {a b : Attempt}

/-- **Who saves a row that is graded already is refused**, and nothing happens. -/
theorem Tidy.run_save (h : console.Tidy) (ha : console.service.store.attempts.get? id = some a)
    (hclosed : a.isOpen = false) (name : String) {final : Attempt} (hfinal : final.id = id) :
    console.run (.step name (.save final)) = (console, .refused (.notInProgress id)) ∨
      console.run (.step name (.save final)) = (console, .done .noTransaction) := by
  cases htx : console.tx? name with
  | none =>
      exact Or.inr (by simp only [run, htx])
  | some tx =>
      obtain ⟨row, hrow, -, hopen⟩ := h.merged htx ha
      have hsees := Transaction.attempt?_eq_merged h.sound.store.orderly (h.sound.tx? htx).own id
      have hsave : tx.save? console.service.store final = none := by
        rw [Transaction.save?, hfinal, hsees, hrow]
        refine if_neg fun hrowOpen => ?_
        rw [hopen hrowOpen, hclosed] at hrowOpen
        exact absurd hrowOpen (by decide)
      exact Or.inl (by simp only [run, htx, runStep, hsave, hfinal])

/-- A transaction can look at a row that it has open and close it. -/
theorem exists_closing {watch : Watch} (h : watch.console.Tidy)
    (htx : watch.console.tx? name = some tx) {c final : Attempt}
    (hc : tx.staged.get? c.id = some c) (hopen : c.isOpen = true)
    (hfinal : final = { c with status := .graded }) :
    ∃ closing, watch.isCareful closing = true ∧
      (watch.after closing).console = watch.console.withTx name (tx.stage final) := by
  have hid : final.id = c.id := by rw [hfinal]
  have hsees : tx.attempt? watch.console.service.store final.id = some c := by
    rw [Transaction.attempt?_eq_merged h.sound.store.orderly (h.sound.tx? htx).own, hid,
      Transaction.get?_merged, hc, Option.some_or]
  have hsave : tx.save? watch.console.service.store final = some (tx.stage final) := by
    rw [Transaction.save?, hsees]
    exact if_pos hopen
  have hlooked : (watch.run (.step name (.lockAttempt c.id))).console = watch.console := by
    simp only [Watch.console_run, run, htx, runStep]
  have hallows : (watch.run (.step name (.lockAttempt c.id))).allows (.step name (.save final)) =
      true := by
    have hplace : final.samePlace c = true := Attempt.samePlace_iff.2 (by simp [hfinal])
    have hseen : (watch.run (.step name (.lockAttempt c.id))).seen.contains (name, final.id) =
        true := by simp [Watch.run, hid]
    have hgraded : final.status = .graded := by rw [hfinal]
    simp only [Watch.allows, hseen, hgraded, hlooked, htx, Option.bind_some, hsees,
      Option.all_some, hplace, decide_true, Bool.and_self]
  refine ⟨[.step name (.lockAttempt c.id), .step name (.save final)], ?_, ?_⟩
  · rw [Watch.isCareful_cons, Watch.isCareful_cons]
    exact ⟨rfl, hallows, rfl⟩
  · show ((watch.run (.step name (.lockAttempt c.id))).console.run (.step name (.save final))).1 = _
    rw [hlooked]
    simp only [run, htx, runStep, hsave]

/-- A transaction that is not barred and has nothing open overwrites a row by its commit. -/
theorem get?_run_commit {watch : Watch} (h : watch.console.Tidy)
    (htx : watch.console.tx? name = some tx) (hb : tx.staged.get? id = some b)
    (hbarred : tx.isBarred watch.console.service.store = false)
    (hclosed : ∀ {i : Int} {c : Attempt}, tx.staged.get? i = some c → c.isOpen = false) :
    (watch.console.run (.step name .commit)).1.service.store.attempts.get? id = some b := by
  have hwithin := h.sound.tx? htx
  have horderly := Transaction.orderly_merged h.sound.store hwithin hbarred hclosed
  have hcommit := Transaction.commit_of_orderly h.sound.store.orderly hwithin.own horderly
  simp only [run, htx, runStep, hcommit]
  show (tx.merged watch.console.service.store).get? id = some b
  rw [Transaction.get?_merged, hb, Option.some_or]

/-- **A transaction that is not barred can be committed**, once what it has open is closed. -/
theorem exists_overwriting {watch : Watch} (h : watch.console.Tidy)
    (htx : watch.console.tx? name = some tx)
    (ha : watch.console.service.store.attempts.get? id = some a)
    (hb : tx.staged.get? id = some b)
    (hbarred : tx.isBarred watch.console.service.store = false) (ids : List Int)
    (hids : ∀ {i : Int} {c : Attempt}, tx.staged.get? i = some c → c.isOpen = true → i ∈ ids) :
    ∃ more, watch.isCareful more = true ∧
      (watch.console.after more).service.store.attempts.get? id = some b := by
  induction ids generalizing watch tx with
  | nil =>
      refine ⟨[.step name .commit], rfl, get?_run_commit h htx hb hbarred fun {i c} hc => ?_⟩
      rw [Bool.eq_false_iff]
      exact fun hopen => absurd (hids hc hopen) List.not_mem_nil
  | cons i ids ih =>
      by_cases hopen : ∃ c, tx.staged.get? i = some c ∧ c.isOpen = true
      · obtain ⟨c, hc, hopen⟩ := hopen
        obtain rfl : c.id = i := (h.sound.tx? htx).own hc
        have hplace : ({ c with status := .graded } : Attempt).samePlace c = true :=
          Attempt.samePlace_iff.2 ⟨rfl, rfl, rfl, rfl⟩
        have hne : id ≠ c.id := by
          -- what is staged for a committed row is not open
          rintro rfl
          obtain rfl := Option.some.inj (hb.symm.trans hc)
          rw [(h.place htx hc ha).2] at hopen
          exact absurd hopen (by decide)
        obtain ⟨closing, hcareful, hconsole⟩ := exists_closing h htx hc hopen rfl
        obtain ⟨more, hmore, hrow⟩ := ih (h.after hcareful)
          (by rw [hconsole, tx?_withTx, if_pos rfl]) (by rw [hconsole]; exact ha)
          (by rw [Transaction.staged_stage, Table.get?_insert_of_ne hne, hb])
          (by rw [hconsole]; exact Transaction.isBarred_stage hc hplace hbarred)
          fun {j d} hd hdopen => by
            rw [Transaction.staged_stage, Table.get?_insert] at hd
            split at hd
            · rw [← Option.some.inj hd] at hdopen
              simp [Attempt.isOpen] at hdopen
            · rename_i hj
              exact (List.mem_cons.1 (hids hd hdopen)).resolve_left hj
        refine ⟨closing ++ more, Watch.isCareful_append.2 ⟨hcareful, hmore⟩, ?_⟩
        rwa [after_append, ← Watch.console_after]
      · refine ih h htx ha hb hbarred fun {j d} hd hdopen => ?_
        refine (List.mem_cons.1 (hids hd hdopen)).resolve_left ?_
        rintro rfl
        exact hopen ⟨d, hd, hdopen⟩

end Overwriting

/-- **When a graded row is safe.**  On a service that requests and edits have reached, transactions
are at work that keep to the rules, in any interleaving.  Once a graded row is committed every later
save of it is refused.  No way in which they can go on changes the row exactly when every
transaction under way that has another row staged for it has a number that is taken; if there is one
that has none, it can be committed and overwrites the row. -/
theorem graded_once_iff {start : Service} (hmanaged : start.Managed) {commands : List Command}
    (hcareful : (Watch.ofService start).isCareful commands = true) {id : Int} {a : Attempt}
    (ha : ((ofService start).after commands).service.store.attempts.get? id = some a)
    (hgraded : a.status = .graded) :
    let console := (ofService start).after commands
    (∀ name final, final.id = id →
      console.run (.step name (.save final)) = (console, .refused (.notInProgress id)) ∨
        console.run (.step name (.save final)) = (console, .done .noTransaction)) ∧
    ((∀ more, (Watch.ofService start).isCareful (commands ++ more) = true →
        ((ofService start).after (commands ++ more)).service.store.attempts.get? id = some a) ↔
      ∀ name tx b, console.tx? name = some tx → tx.staged.get? id = some b →
        b = a ∨ tx.isBarred console.service.store = true) := by
  intro console
  obtain ⟨hsound, -⟩ := AtRest.of_managed hmanaged
  have hclosed : a.isOpen = false := by simp [Attempt.isOpen, hgraded]
  have hwatch : ((Watch.ofService start).after commands).console = console :=
    Watch.console_after commands
  have htidy : ((Watch.ofService start).after commands).console.Tidy :=
    Tidy.after (Tidy.ofService hsound) hcareful
  refine ⟨fun name final hfinal => (hwatch ▸ htidy).run_save ha hclosed name hfinal,
    fun hsafe name tx b htx hb => ?_, fun hspares more hmore => ?_⟩
  · -- who is not barred closes what it has open, is committed, and leaves its own row there
    by_cases hbarred : tx.isBarred console.service.store = true
    · exact Or.inr hbarred
    · rw [Bool.not_eq_true] at hbarred
      obtain ⟨more, hmore, hrow⟩ := exists_overwriting htidy (hwatch.symm ▸ htx)
        (by rw [hwatch]; exact ha) hb (hwatch.symm ▸ hbarred) (tx.staged.rows.map (·.1))
        fun hc _ => List.mem_map_of_mem (f := Prod.fst) (Table.get?_eq_some_iff.1 hc)
      have hkept := hsafe more (Watch.isCareful_append.2 ⟨hcareful, hmore⟩)
      rw [after_append] at hkept
      rw [hwatch, hkept] at hrow
      exact Or.inl (Option.some.inj hrow).symm
  · have hspared : ((Watch.ofService start).after commands).console.Spares id a := by
      rw [hwatch]
      exact ⟨ha, fun {name tx b} => hspares name tx b⟩
    have hrow := (hspared.after hclosed htidy (Watch.isCareful_append.1 hmore).2).row
    rwa [Watch.console_after, hwatch, ← after_append] at hrow

/-- Two transactions see the one attempt open, and each stages a grade of its own for it. -/
def gradedTwice : List Command :=
  let started : Attempt :=
    NewAttempt.toAttempt ⟨1, 1, 1, Binary64.zero, Service.blank.clock⟩ 1
  [.begin "a", .step "a" (.insert ⟨1, 1, 1, Binary64.zero, Service.blank.clock⟩), .step "a" .commit,
    .begin "b", .begin "c", .step "b" (.lockAttempt 1), .step "c" (.lockAttempt 1),
    .step "b" (.save { started with status := .graded, isPassed := some true }),
    .step "c" (.save { started with status := .graded, isPassed := some false }),
    .step "b" .commit]

/-- The grade that was committed first is not safe from the other. -/
theorem graded_once_iff_gradedTwice :
    Service.blank.Managed ∧ (Watch.ofService Service.blank).isCareful gradedTwice = true ∧
      ∃ a, ((ofService Service.blank).after gradedTwice).service.store.attempts.get? 1 = some a ∧
        a.status = .graded ∧
        ¬ ∀ more, (Watch.ofService Service.blank).isCareful (gradedTwice ++ more) = true →
          ((ofService Service.blank).after (gradedTwice ++ more)).service.store.attempts.get? 1 =
            some a := by
  have hmanaged : Service.blank.Managed := ⟨Service.blank, [], rfl, by simp, rfl⟩
  have hcareful : (Watch.ofService Service.blank).isCareful gradedTwice = true := by
    decide +kernel
  have hrow : ((((ofService Service.blank).after gradedTwice).service.store.attempts.get? 1).any
      fun a => a.status = .graded && a.isPassed = some true) = true := by decide +kernel
  have hother : (((ofService Service.blank).after gradedTwice).tx? "c").any (fun tx =>
      ((tx.staged.get? 1).any fun b => b.isPassed = some false) &&
        !tx.isBarred ((ofService Service.blank).after gradedTwice).service.store) = true := by
    decide +kernel
  obtain ⟨a, ha, hgraded, hpassed⟩ : ∃ a,
      ((ofService Service.blank).after gradedTwice).service.store.attempts.get? 1 = some a ∧
        a.status = .graded ∧ a.isPassed = some true := by
    simpa [Option.any_eq_true] using hrow
  obtain ⟨tx, htx, ⟨b, hb, hfailed⟩, hbarred⟩ : ∃ tx,
      ((ofService Service.blank).after gradedTwice).tx? "c" = some tx ∧
        (∃ b, tx.staged.get? 1 = some b ∧ b.isPassed = some false) ∧
        tx.isBarred ((ofService Service.blank).after gradedTwice).service.store = false := by
    simpa [Option.any_eq_true] using hother
  refine ⟨hmanaged, hcareful, a, ha, hgraded, fun hsafe => ?_⟩
  rcases (graded_once_iff hmanaged hcareful ha hgraded).2.1 hsafe "c" tx b htx hb with rfl | htaken
  · simp [hpassed] at hfailed
  · simp [hbarred] at htaken

end Console

end QuizAttempts
