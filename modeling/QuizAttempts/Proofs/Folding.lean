/-
**Lower-casing twice, and lower-casing between white space.**

A text that has been lower-cased stays as it is when it is lower-cased again.  No lower-case form is
a capital: none belongs to a run of the table, for it lies outside all runs, or between the letters
of one in which every second letter is a capital.  Nor is one the capital I with a dot, or a capital
sigma, so what stands around a letter does not matter the second time.

White space has no case, and the rule for a sigma does not look past it.  So white space before or
after a text does not change how the text is lower-cased, and as no lower-case form is white space,
a text may as well be lower-cased before white space is taken from its ends as after.

Main definitions:

* `CaseRun.avoids`, `CaseRun.isClosed` — what is asked of the lower-case forms of a run;
* `Settled` — **a character that lower-casing leaves as it is**, wherever it stands.

Main results:

* `lowercaseRuns_closed` — no lower-case form is a capital, or white space;
* `settled_of_mem_between` — what comes of one character;
* `lowercase_lowercase` — **lower-casing twice is lower-casing once**;
* `meetsCased_append_blank`, `lowercase_padded` — white space is passed over;
* `trim_lowercase` — **lower-casing and taking white space from the ends commute**.
-/
import QuizAttempts.Proofs.Padding
import QuizAttempts.Text.Lowercase

set_option autoImplicit false

namespace QuizAttempts

/-! ### Ranges -/

/-- The ranges of white space. -/
def blankRanges : List (Nat × Nat) := [
  (0x9, 0xD), (0x20, 0x20), (0x85, 0x85), (0xA0, 0xA0), (0x1680, 0x1680), (0x2000, 0x200A),
  (0x2028, 0x2029), (0x202F, 0x202F), (0x205F, 0x205F), (0x3000, 0x3000)]

theorem isBlank_eq_inRanges (c : Char) : isBlank c = inRanges blankRanges c := by
  rw [Bool.eq_iff_iff]
  simp only [isBlank, inRanges, blankRanges, List.any_cons, List.any_nil, Bool.or_eq_true,
    Bool.and_eq_true, decide_eq_true_eq, beq_iff_eq, Bool.or_false]
  omega

/-- The ranges have nothing in common. -/
def apart (a b : Nat × Nat) : Bool := Nat.blt a.2 b.1 || Nat.blt b.2 a.1

theorem apart_iff {a b : Nat × Nat} : apart a b = true ↔ a.2 < b.1 ∨ b.2 < a.1 := by
  rw [apart, Bool.or_eq_true, Nat.blt_eq, Nat.blt_eq]

theorem not_inRanges_of_apart {ranges others : List (Nat × Nat)} {c : Char}
    (hapart : ranges.all (fun range => others.all (apart range)) = true)
    (hc : inRanges ranges c = true) : inRanges others c = false := by
  obtain ⟨range, hrange, hin⟩ := List.any_eq_true.1 hc
  rw [Bool.eq_false_iff]
  intro hother
  obtain ⟨other, hmem, hin'⟩ := List.any_eq_true.1 hother
  have h := List.all_eq_true.1 (List.all_eq_true.1 hapart range hrange) other hmem
  simp only [apart_iff, Bool.and_eq_true, decide_eq_true_eq] at h hin hin'
  omega

/-- White space has no case. -/
theorem isCased_of_isBlank {c : Char} (h : isBlank c = true) : isCased c = false := by
  rw [isBlank_eq_inRanges] at h
  exact not_inRanges_of_apart (by decide +kernel) h

/-- The rule for a sigma does not pass over white space. -/
theorem isCaseIgnorable_of_isBlank {c : Char} (h : isBlank c = true) :
    isCaseIgnorable c = false := by
  rw [isBlank_eq_inRanges] at h
  exact not_inRanges_of_apart (by decide +kernel) h

/-! ### Runs of capitals -/

namespace CaseRun

theorem covers_iff {run : CaseRun} {point : Nat} : run.covers point = true ↔
    run.first ≤ point ∧ point ≤ run.last ∧ (point - run.first) % run.step = 0 := by
  simp [covers, and_assoc]

/-- The range of the lower-case forms of a run. -/
def lowered (run : CaseRun) : Nat × Nat :=
  ((run.first + run.distance).toNat, (run.last + run.distance).toNat)

/-- **No lower-case form of a run belongs to the other**: their ranges have nothing in common, or
they alternate. -/
def avoids (run other : CaseRun) : Bool :=
  apart run.lowered (other.first, other.last) ||
    (run.first == run.last || run.step == 2) && other.step == 2 &&
      (run.lowered.1 + other.first) % 2 == 1

/-- **What is asked of the lower-case forms of a run**: they are characters, none is white space or
the capital I with a dot, and none belongs to a run. -/
def isClosed (run : CaseRun) : Bool :=
  0 ≤ run.first + run.distance &&
    (run.lowered.2 < 0xD800 || 0xDFFF < run.lowered.1 && run.lowered.2 < 0x110000) &&
    ((0x130, 0x130) :: blankRanges).all (apart run.lowered) && lowercaseRuns.all run.avoids

variable {run other : CaseRun} {point : Nat}

/-- A lower-case form lies in the range of those of its run. -/
theorem lowered_bounds (h : run.covers point = true) :
    run.lowered.1 ≤ (point + run.distance).toNat ∧
      (point + run.distance).toNat ≤ run.lowered.2 := by
  rw [covers_iff] at h
  simp only [lowered]
  omega

theorem avoids_covers (hnonneg : 0 ≤ run.first + run.distance) (havoids : run.avoids other = true)
    (h : run.covers point = true) : other.covers (point + run.distance).toNat = false := by
  obtain ⟨hlow, hhigh⟩ := lowered_bounds h
  rw [Bool.eq_false_iff]
  intro hother
  rw [covers_iff] at h hother
  simp only [avoids, apart_iff, Bool.or_eq_true, Bool.and_eq_true, beq_iff_eq] at havoids
  rcases havoids with (hbelow | habove) | ⟨⟨hone | hstep, hother'⟩, hparity⟩
  · omega
  · omega
  · -- the one letter of a run
    rw [hother'] at hother
    simp only [lowered] at hparity
    omega
  · rw [hstep] at h
    rw [hother'] at hother
    simp only [lowered] at hparity
    omega

end CaseRun

/-- **No lower-case form is a capital, or white space.** -/
theorem lowercaseRuns_closed : lowercaseRuns.all CaseRun.isClosed = true := by
  decide +kernel

/-- The lower-case form of a code point is that of a run, or the code point itself. -/
theorem lowercasePoint_cases (point : Nat) :
    (∃ run ∈ lowercaseRuns, run.covers point = true ∧
      lowercasePoint point = (point + run.distance).toNat) ∨
    (∀ run ∈ lowercaseRuns, run.covers point = false) ∧ lowercasePoint point = point := by
  cases hrun : lowercaseRuns.find? (·.covers point) with
  | some run =>
      have hcovers := List.find?_some hrun
      refine Or.inl ⟨run, List.mem_of_find?_eq_some hrun, hcovers, ?_⟩
      simp only [lowercasePoint, hrun]
  | none =>
      refine Or.inr ⟨fun run hmem => ?_, lowercasePoint_of_find?_eq_none hrun⟩
      simpa using List.find?_eq_none.1 hrun run hmem

/-! ### One character -/

/-- **A character that lower-casing leaves as it is**, wherever it stands. -/
structure Settled (c : Char) : Prop where
  noSigma : c ≠ 'Σ'
  same : lowercaseChar c = [c]

variable {c d : Char} {before after text front back : List Char}

theorem Settled.between (h : Settled c) (before after : List Char) :
    lowercaseBetween before c after = [c] := by
  rw [lowercaseBetween, if_neg h.noSigma, h.same]

/-- A character outside all runs is settled, if it is not the capital I with a dot. -/
theorem settled_of_not_covers (hdot : c ≠ '\u0130')
    (h : ∀ run ∈ lowercaseRuns, run.covers c.toNat = false) : Settled c := by
  refine ⟨?_, ?_⟩
  · rintro rfl
    have hsigma : lowercaseRuns.any (·.covers 'Σ'.toNat) = true := by decide +kernel
    obtain ⟨run, hmem, hcovers⟩ := List.any_eq_true.1 hsigma
    rw [h run hmem] at hcovers
    exact absurd hcovers (by decide)
  · have hnone : lowercaseRuns.find? (·.covers c.toNat) = none :=
      List.find?_eq_none.2 fun run hmem => by simp [h run hmem]
    rw [lowercaseChar, if_neg hdot, lowercasePoint_of_find?_eq_none hnone, Char.ofNat_toNat]

/-- White space is settled. -/
theorem Settled.of_isBlank (h : isBlank c = true) : Settled c := by
  rw [isBlank_eq_inRanges] at h
  have hapart : blankRanges.all (fun range =>
      ((0x130, 0x130) :: lowercaseRuns.map fun run => (run.first, run.last)).all (apart range)) =
      true := by decide +kernel
  have hout := not_inRanges_of_apart hapart h
  simp only [inRanges, List.any_cons, List.any_map, Bool.or_eq_false_iff] at hout
  obtain ⟨hdot, hruns⟩ := hout
  refine settled_of_not_covers ?_ fun run hmem => ?_
  · rintro rfl
    exact absurd hdot (by decide)
  · have hrun := List.any_eq_false.1 hruns run hmem
    rw [Bool.eq_false_iff]
    intro hcovers
    obtain ⟨hfirst, hlast, -⟩ := CaseRun.covers_iff.1 hcovers
    exact hrun (by simp [hfirst, hlast])

/-- **The lower-case form of a character** is settled, and is not white space unless the character
is. -/
theorem settled_ofNat_lowercasePoint (hdot : c ≠ '\u0130') :
    Settled (Char.ofNat (lowercasePoint c.toNat)) ∧
      (isBlank c = false → isBlank (Char.ofNat (lowercasePoint c.toNat)) = false) := by
  rcases lowercasePoint_cases c.toNat with ⟨run, hmem, hcovers, heq⟩ | ⟨hnone, heq⟩
  · have hclosed := List.all_eq_true.1 lowercaseRuns_closed run hmem
    simp only [CaseRun.isClosed, Bool.and_eq_true, decide_eq_true_eq, List.all_cons] at hclosed
    obtain ⟨⟨⟨hnonneg, hvalid⟩, hnoDot, hnoBlank⟩, havoids⟩ := hclosed
    obtain ⟨hlow, hhigh⟩ := CaseRun.lowered_bounds hcovers
    have hpoint : (Char.ofNat (lowercasePoint c.toNat)).toNat = (c.toNat + run.distance).toNat := by
      simp only [Bool.or_eq_true, Bool.and_eq_true, decide_eq_true_eq] at hvalid
      have hchar : (c.toNat + run.distance).toNat.isValidChar := by
        rw [Nat.isValidChar]
        omega
      rw [heq, Char.ofNat, dif_pos hchar]
      rfl
    refine ⟨settled_of_not_covers ?_ fun other hother => ?_, fun _ => ?_⟩
    · intro hdot'
      rw [hdot'] at hpoint
      rw [apart_iff] at hnoDot
      have : ('\u0130' : Char).toNat = 0x130 := by decide
      omega
    · rw [hpoint]
      exact CaseRun.avoids_covers hnonneg (List.all_eq_true.1 havoids other hother) hcovers
    · rw [isBlank_eq_inRanges, inRanges, List.any_eq_false]
      intro range hrange
      have hrange' := List.all_eq_true.1 hnoBlank range hrange
      simp only [apart_iff, Bool.and_eq_true, decide_eq_true_eq, hpoint] at hrange' ⊢
      omega
  · rw [heq, Char.ofNat_toNat]
    exact ⟨settled_of_not_covers hdot hnone, id⟩

/-- What comes of a sigma, and of the capital I with a dot. -/
def specialForms : List Char := ['ς', 'σ', 'i', '\u0307']

theorem settled_specialForms : ∀ d ∈ specialForms, Settled d ∧ isBlank d = false := by
  intro d hd
  have hall : specialForms.all
      (fun d => d != 'Σ' && lowercaseChar d == [d] && !isBlank d) = true := by decide +kernel
  have hd' := List.all_eq_true.1 hall d hd
  simp only [Bool.and_eq_true, bne_iff_ne, beq_iff_eq, Bool.not_eq_true'] at hd'
  obtain ⟨⟨hsigma, hsame⟩, hblank⟩ := hd'
  exact ⟨⟨hsigma, hsame⟩, hblank⟩

/-- What comes of a character is one of the special forms, or its lower-case form. -/
theorem mem_lowercaseBetween (h : d ∈ lowercaseBetween before c after) :
    d ∈ specialForms ∨ c ≠ '\u0130' ∧ d = Char.ofNat (lowercasePoint c.toNat) := by
  rw [lowercaseBetween] at h
  split at h
  · split at h <;> exact Or.inl (by simp [specialForms, List.mem_singleton.1 h])
  · rw [lowercaseChar] at h
    split at h
    · rcases List.mem_pair.1 h with rfl | rfl <;> exact Or.inl (by simp [specialForms])
    · rename_i hdot
      exact Or.inr ⟨hdot, List.mem_singleton.1 h⟩

/-- **What comes of a character is settled**, and it is white space only when the character is. -/
theorem settled_of_mem_between (h : d ∈ lowercaseBetween before c after) :
    Settled d ∧ (isBlank c = false → isBlank d = false) := by
  rcases mem_lowercaseBetween h with hspecial | ⟨hdot, rfl⟩
  · obtain ⟨hsettled, hblank⟩ := settled_specialForms d hspecial
    exact ⟨hsettled, fun _ => hblank⟩
  · exact settled_ofNat_lowercasePoint hdot

theorem lowercaseBetween_ne_nil (before : List Char) (c : Char) (after : List Char) :
    lowercaseBetween before c after ≠ [] := by
  rw [lowercaseBetween]
  split
  · split <;> simp
  · rw [lowercaseChar]
    split <;> simp

/-! ### Lower-casing twice -/

theorem settled_of_mem_lowercaseAfter (h : d ∈ lowercaseAfter before text) : Settled d := by
  induction text generalizing before with
  | nil => simp at h
  | cons c text ih =>
      rcases List.mem_append.1 h with h | h
      · exact (settled_of_mem_between h).1
      · exact ih h

theorem lowercaseAfter_of_settled (h : ∀ c ∈ text, Settled c) (before : List Char) :
    lowercaseAfter before text = text := by
  induction text generalizing before with
  | nil => rfl
  | cons c text ih =>
      obtain ⟨hc, htext⟩ := List.forall_mem_cons.1 h
      rw [lowercaseAfter_cons, hc.between, ih htext, List.singleton_append]

/-- **Lower-casing twice is lower-casing once.** -/
theorem lowercase_lowercase (text : List Char) : lowercase (lowercase text) = lowercase text :=
  lowercaseAfter_of_settled (fun _ hc => settled_of_mem_lowercaseAfter hc) []

/-! ### Between white space -/

/-- The rule for a sigma does not look past white space. -/
theorem meetsCased_append_blank (hback : Blank back) (text : List Char) :
    meetsCased (text ++ back) = meetsCased text := by
  induction text with
  | nil =>
      cases back with
      | nil => rfl
      | cons c back =>
          have hc : isBlank c = true := hback c List.mem_cons_self
          simp [meetsCased, isCaseIgnorable_of_isBlank hc, isCased_of_isBlank hc]
  | cons c text ih => rw [List.cons_append, meetsCased, meetsCased, ih]

theorem lowercaseBetween_append_blank (hfront : Blank front) (hback : Blank back)
    (before : List Char) (c : Char) (after : List Char) :
    lowercaseBetween (before ++ front) c (after ++ back) = lowercaseBetween before c after := by
  rw [lowercaseBetween, lowercaseBetween, endsWord, endsWord, meetsCased_append_blank hfront,
    meetsCased_append_blank hback]

theorem Blank.lowercaseAfter_eq (h : Blank text) (before : List Char) :
    lowercaseAfter before text = text :=
  lowercaseAfter_of_settled (fun c hc => .of_isBlank (h c hc)) before

/-- A text is lower-cased in the same way when white space stands before what is before it and
after it. -/
theorem lowercaseAfter_append_blank (hfront : Blank front) (hback : Blank back)
    (before text : List Char) :
    lowercaseAfter (before ++ front) (text ++ back) = lowercaseAfter before text ++ back := by
  induction text generalizing before with
  | nil => exact hback.lowercaseAfter_eq _
  | cons c text ih =>
      rw [List.cons_append, lowercaseAfter_cons, lowercaseAfter_cons,
        lowercaseBetween_append_blank hfront hback, ← List.cons_append, ih, List.append_assoc]

theorem lowercaseAfter_append (before front text : List Char) (hfront : Blank front) :
    lowercaseAfter before (front ++ text) =
      front ++ lowercaseAfter (front.reverse ++ before) text := by
  induction front generalizing before with
  | nil => rfl
  | cons c front ih =>
      obtain ⟨hc, hfront⟩ := List.forall_mem_cons.1 hfront
      rw [List.cons_append, lowercaseAfter_cons, (Settled.of_isBlank hc).between, ih _ hfront]
      simp

/-- **White space before and after a text** does not change how it is lower-cased. -/
theorem lowercase_padded (hfront : Blank front) (hback : Blank back) (text : List Char) :
    lowercase (front ++ text ++ back) = front ++ lowercase text ++ back := by
  have hreverse : Blank front.reverse := fun c hc => hfront c (List.mem_reverse.1 hc)
  rw [lowercase, List.append_assoc, lowercaseAfter_append _ _ _ hfront, List.append_nil,
    ← List.nil_append front.reverse, lowercaseAfter_append_blank hreverse hback,
    ← List.append_assoc, lowercase]

/-- The last character of a text is lower-cased last. -/
theorem lowercaseAfter_concat (before text : List Char) (c : Char) :
    ∃ lowered passed,
      lowercaseAfter before (text ++ [c]) = lowered ++ lowercaseBetween passed c [] := by
  induction text generalizing before with
  | nil => exact ⟨[], before, by simp⟩
  | cons first text ih =>
      obtain ⟨lowered, passed, heq⟩ := ih (first :: before)
      refine ⟨lowercaseBetween before first (text ++ [c]) ++ lowered, passed, ?_⟩
      rw [List.cons_append, lowercaseAfter_cons, heq, List.append_assoc]

/-- What neither begins nor ends with white space does not when it is lower-cased. -/
theorem Bare.lowercase (h : Bare text) : Bare (lowercase text) := by
  refine ⟨fun d rest heq => ?_, fun d rest heq => ?_⟩
  · cases text with
    | nil => simp at heq
    | cons c text =>
        have hmem : d ∈ lowercaseBetween [] c text := by
          obtain ⟨first, others, hfirst⟩ :=
            List.exists_cons_of_ne_nil (lowercaseBetween_ne_nil [] c text)
          rw [QuizAttempts.lowercase, lowercaseAfter_cons, hfirst, List.cons_append] at heq
          rw [hfirst, (List.cons.inj heq).1]
          exact List.mem_cons_self
        exact (settled_of_mem_between hmem).2 (h.start c text rfl)
  · rcases List.eq_nil_or_concat text with rfl | ⟨text, c, rfl⟩
    · simp at heq
    · rw [List.concat_eq_append] at h heq
      obtain ⟨lowered, passed, hlowered⟩ := lowercaseAfter_concat [] text c
      have hmem : d ∈ lowercaseBetween passed c [] := by
        obtain ⟨others, last, hlast⟩ :=
          (List.eq_nil_or_concat _).resolve_left (lowercaseBetween_ne_nil passed c [])
        rw [List.concat_eq_append] at hlast
        rw [QuizAttempts.lowercase, hlowered, hlast, ← List.append_assoc] at heq
        rw [hlast, (List.append_inj' heq rfl).2]
        exact List.mem_append_right _ List.mem_cons_self
      exact (settled_of_mem_between hmem).2 (h.stop c text rfl)

/-- **Lower-casing and taking white space from the ends commute.** -/
theorem trim_lowercase (text : List Char) : trim (lowercase text) = lowercase (trim text) := by
  obtain ⟨front, back, hfront, hback, heq⟩ := exists_padding text
  calc trim (lowercase text)
      = trim (lowercase (front ++ trim text ++ back)) := by rw [← heq]
    _ = trim (lowercase (trim text)) := by
          rw [lowercase_padded hfront hback, trim_padded hfront hback]
    _ = lowercase (trim text) := (bare_trim text).lowercase.trim_eq

end QuizAttempts
