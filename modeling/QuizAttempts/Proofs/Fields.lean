/-
**Records among other members, in any order.**

A record is read by scanning the members of an object in the order of the text, and the scan carries
along which fields it has seen.  Which fault is reported depends on that order, but whether there is
one does not: nothing is wrong exactly if every member is in order by itself and no field is
repeated.  So a record whose values are all there is read from any arrangement of them, and members
that mean nothing may stand between them.

Main definitions:

* `Json.fieldName?`, `Json.InOrder` — the field that a member is for, and a member with which
  nothing is wrong by itself;
* `Json.named` — the members of named values;
* `Json.Field.Suits` — a named value for a field;
* `Json.Idle` — values beside those of a record that mean nothing.

Main results:

* `Json.scanMembers_eq_ok_iff` — **when nothing is wrong with the members of an object**;
* `Json.scanMembers_perm` — their order does not matter for that;
* `Json.RecordReader.fromObject_of_perm`, `Json.memberOf_of_perm` — **a record among other members,
  in any order**, is built from its own values;
* `Json.asList_ofList`, `Json.asOption_ofOption` — lists and values that may be absent read back.
-/
import Mathlib.Data.List.Forall2
import Mathlib.Data.List.Nodup
import QuizAttempts.Json.Record

set_option autoImplicit false

namespace QuizAttempts.Json

/-! ### The scan -/

section Scan

variable {passes : Json → Bool} {fields : List Field} {seen : List String}
  {members : List (Option String × Json)}

/-- The field that a member is for, by its name. -/
def fieldName? (fields : List Field) (member : Option String × Json) : Option String :=
  member.1.filter fun name => (fields.find? (·.name == name)).isSome

/-- Nothing is wrong with a member by itself: it has a name, and its value suits the field of that
name or may be passed over. -/
def InOrder (passes : Json → Bool) (fields : List Field) (member : Option String × Json) : Prop :=
  ∃ name, member.1 = some name ∧
    match fields.find? (·.name == name) with
    | some field => field.check member.2 = .ok ()
    | none => passes member.2 = true

theorem fieldName?_of_field {name : String} {value : Json} {field : Field}
    (h : fields.find? (·.name == name) = some field) :
    fieldName? fields (some name, value) = some name := by
  simp [fieldName?, Option.filter_some, h]

theorem fieldName?_of_no_field {name : String} {value : Json}
    (h : fields.find? (·.name == name) = none) : fieldName? fields (some name, value) = none := by
  simp [fieldName?, Option.filter_some, h]

theorem inOrder_iff_check {name : String} {value : Json} {field : Field}
    (h : fields.find? (·.name == name) = some field) :
    InOrder passes fields (some name, value) ↔ field.check value = .ok () := by
  simp [InOrder, h]

theorem inOrder_iff_passes {name : String} {value : Json}
    (h : fields.find? (·.name == name) = none) :
    InOrder passes fields (some name, value) ↔ passes value = true := by
  simp [InOrder, h]

/-- **When nothing is wrong with the members of an object**: every member is in order by itself, no
field is repeated, and none was seen before. -/
theorem scanMembers_eq_ok_iff :
    scanMembers passes fields seen members = .ok () ↔
      (∀ member ∈ members, InOrder passes fields member) ∧
        (members.filterMap (fieldName? fields)).Nodup ∧
          ∀ name ∈ members.filterMap (fieldName? fields), name ∉ seen := by
  induction members generalizing seen with
  | nil => simp
  | cons member members ih =>
      obtain ⟨name, value⟩ := member
      cases name with
      | none => simp [scanMembers, InOrder]
      | some name =>
          cases hfind : fields.find? (·.name == name) with
          | none =>
              rw [List.filterMap_cons_none (fieldName?_of_no_field hfind), List.forall_mem_cons,
                inOrder_iff_passes hfind, scanMembers, hfind]
              cases hpasses : passes value with
              | true => simpa using ih
              | false => simp
          | some field =>
              rw [List.filterMap_cons_some (fieldName?_of_field hfind), List.forall_mem_cons,
                List.forall_mem_cons, List.nodup_cons, inOrder_iff_check hfind, scanMembers, hfind]
              by_cases hseen : name ∈ seen
              · simp [hseen]
              · cases hcheck : field.check value with
                | error fault => simp [hseen, hcheck, bind, Except.bind]
                | ok _ =>
                    have hscan := @ih (name :: seen)
                    simp only [List.mem_cons, not_or] at hscan
                    simp only [List.contains_eq_mem, hseen, decide_false, hcheck, true_and,
                      not_false_eq_true]
                    refine hscan.trans ⟨?_, ?_⟩
                    · rintro ⟨hall, hnodup, hnew⟩
                      exact ⟨hall, ⟨fun hmem => (hnew name hmem).1 rfl, hnodup⟩,
                        fun other hother => (hnew other hother).2⟩
                    · rintro ⟨hall, ⟨hfresh, hnodup⟩, hnew⟩
                      exact ⟨hall, hnodup, fun other hother =>
                        ⟨fun heq => hfresh (heq ▸ hother), hnew other hother⟩⟩

/-- Whether anything is wrong does not depend on the order of the members. -/
theorem scanMembers_perm {other : List (Option String × Json)} (hperm : members.Perm other) :
    scanMembers passes fields seen members = .ok () ↔
      scanMembers passes fields seen other = .ok () := by
  have hnames := hperm.filterMap (fieldName? fields)
  simp only [scanMembers_eq_ok_iff, hperm.mem_iff, hnames.nodup_iff, hnames.mem_iff]

end Scan

/-! ### Fields among other members -/

/-- The members of named values, in their order. -/
def named (values : List (String × Json)) : List (Option String × Json) :=
  values.map fun value => (some value.1, value.2)

theorem mem_named {values : List (String × Json)} {name : String} {value : Json} :
    (some name, value) ∈ named values ↔ (name, value) ∈ values := by
  simp [named]

/-- A member is found by its name if no other has the name. -/
theorem memberOf_eq_some {members : List (Option String × Json)} {name : String} {value : Json}
    (hmem : (some name, value) ∈ members)
    (honly : ∀ other, (some name, other) ∈ members → other = value) :
    memberOf members name = some value := by
  induction members with
  | nil => simp at hmem
  | cons member members ih =>
      obtain ⟨label, other⟩ := member
      by_cases hlabel : label = some name
      · subst hlabel
        have hother := honly other (List.mem_cons_self ..)
        simp [memberOf, hother]
      · have hne : (some name == label) = false := by simpa using Ne.symm hlabel
        rcases List.mem_cons.1 hmem with heq | hmem
        · exact absurd (Prod.mk.inj heq).1.symm hlabel
        · have hrest := ih hmem fun other hother => honly other (List.mem_cons_of_mem _ hother)
          rwa [memberOf, List.lookup_cons, hne]

/-- The value suits the field: it stands under its name and passes its check. -/
def Field.Suits (field : Field) (value : String × Json) : Prop :=
  field.name = value.1 ∧ field.check value.2 = .ok ()

section Suits

variable {fields : List Field} {own extras : List (String × Json)} {name : String} {value : Json}

theorem find?_of_suits (hsuits : List.Forall₂ Field.Suits fields own)
    (hdistinct : (own.map (·.1)).Nodup) (hmem : (name, value) ∈ own) :
    ∃ field, fields.find? (·.name == name) = some field ∧ field.check value = .ok () := by
  induction hsuits with
  | nil => simp at hmem
  | @cons field first fields own hfirst _ ih =>
      rw [List.map_cons, List.nodup_cons] at hdistinct
      rcases List.mem_cons.1 hmem with rfl | hmem
      · exact ⟨field, by simp [hfirst.1], hfirst.2⟩
      · obtain ⟨found, hfind, hcheck⟩ := ih hdistinct.2 hmem
        have hne : field.name ≠ name := fun heq =>
          hdistinct.1 (hfirst.1 ▸ heq ▸ List.mem_map_of_mem (f := (·.1)) hmem)
        exact ⟨found, by rw [List.find?_cons_of_neg (by simpa using hne), hfind], hcheck⟩

theorem find?_eq_none_of_suits (hsuits : List.Forall₂ Field.Suits fields own)
    (hname : name ∉ own.map (·.1)) : fields.find? (·.name == name) = none := by
  induction hsuits with
  | nil => rfl
  | @cons field first fields own hfirst _ ih =>
      rw [List.map_cons, List.mem_cons, not_or] at hname
      have hne : field.name ≠ name := fun heq => hname.1 (heq.symm.trans hfirst.1)
      rw [List.find?_cons_of_neg (by simpa using hne), ih hname.2]

/-- Values beside those of a record that mean nothing: they are sound and stand under other
names. -/
def Idle (own extras : List (String × Json)) : Prop :=
  ∀ extra ∈ extras, extra.1 ∉ own.map (·.1) ∧ extra.2.isSound = true

theorem idle_nil (own : List (String × Json)) : Idle own [] := fun _ h => absurd h List.not_mem_nil

theorem filterMap_fieldName?_own (hsuits : List.Forall₂ Field.Suits fields own)
    (hdistinct : (own.map (·.1)).Nodup) :
    (named own).filterMap (fieldName? fields) = own.map (·.1) := by
  rw [named, List.filterMap_map, ← List.filterMap_eq_map]
  refine List.filterMap_congr fun value hvalue => ?_
  obtain ⟨field, hfind, -⟩ := find?_of_suits hsuits hdistinct hvalue
  exact fieldName?_of_field hfind

theorem filterMap_fieldName?_idle (hsuits : List.Forall₂ Field.Suits fields own)
    (hidle : Idle own extras) : (named extras).filterMap (fieldName? fields) = [] := by
  rw [named, List.filterMap_map, List.filterMap_eq_nil_iff]
  intro extra hextra
  exact fieldName?_of_no_field (find?_eq_none_of_suits hsuits (hidle extra hextra).1)

/-- **Nothing is wrong with the values of a record** and others that mean nothing. -/
theorem scanMembers_named (hsuits : List.Forall₂ Field.Suits fields own)
    (hdistinct : (own.map (·.1)).Nodup) (hidle : Idle own extras) :
    scanMembers isSound fields [] (named (own ++ extras)) = .ok () := by
  rw [scanMembers_eq_ok_iff, named, List.map_append, List.filterMap_append, ← named, ← named,
    filterMap_fieldName?_own hsuits hdistinct, filterMap_fieldName?_idle hsuits hidle,
    List.append_nil]
  refine ⟨fun member hmember => ?_, hdistinct, fun name _ => List.not_mem_nil⟩
  rcases List.mem_append.1 hmember with hown | hextra
  · obtain ⟨⟨name, value⟩, hvalue, rfl⟩ := List.mem_map.1 hown
    obtain ⟨field, hfind, hcheck⟩ := find?_of_suits hsuits hdistinct hvalue
    exact (inOrder_iff_check hfind).2 hcheck
  · obtain ⟨⟨name, value⟩, hvalue, rfl⟩ := List.mem_map.1 hextra
    obtain ⟨hname, hsound⟩ := hidle _ hvalue
    exact (inOrder_iff_passes (find?_eq_none_of_suits hsuits hname)).2 hsound

end Suits

/-- The values of a record are found among other members, in any order. -/
theorem memberOf_of_perm {own extras : List (String × Json)}
    {members : List (Option String × Json)} (hdistinct : (own.map (·.1)).Nodup)
    (hidle : Idle own extras) (hperm : members.Perm (named (own ++ extras))) {name : String}
    {value : Json} (hmem : (name, value) ∈ own) : memberOf members name = some value := by
  refine memberOf_eq_some (hperm.mem_iff.2 (mem_named.2 (List.mem_append_left _ hmem))) ?_
  intro other hother
  rcases List.mem_append.1 (mem_named.1 (hperm.mem_iff.1 hother)) with hown | hextra
  · exact (Prod.mk.inj (List.inj_on_of_nodup_map hdistinct hown hmem rfl)).2
  · exact absurd (List.mem_map_of_mem (f := (·.1)) hmem) (hidle _ hextra).1

/-- The values of a record that stands alone are found. -/
theorem memberOf_named {own : List (String × Json)} (hdistinct : (own.map (·.1)).Nodup)
    {name : String} {value : Json} (hmem : (name, value) ∈ own) :
    memberOf (named own) name = some value :=
  memberOf_of_perm hdistinct (idle_nil own) (by rw [List.append_nil]) hmem

namespace RecordReader

variable {α : Type} {reader : RecordReader α} {own extras : List (String × Json)}
  {members : List (Option String × Json)}

/-! What a description builds, by the way it was put together. -/

variable {member : String → Option Json} {name : String} {j : Json}

theorem build_map {β : Type} {f : α → β} {x : RecordReader α} {a : α}
    (h : x.build member = .ok a) : (f <$> x).build member = .ok (f a) := by
  show (do let a ← x.build member; .ok (f a)) = _
  rw [h]
  rfl

theorem build_seq {β : Type} {f : RecordReader (α → β)} {x : RecordReader α} {g : α → β} {a : α}
    (hf : f.build member = .ok g) (hx : x.build member = .ok a) :
    (f <*> x).build member = .ok (g a) := by
  show (do let g ← f.build member; let a ← x.build member; .ok (g a)) = _
  rw [hf, hx]
  rfl

theorem build_required {inner : Json → Reading α} {a : α} (h : member name = some j)
    (ha : inner j = .ok a) : (required name inner).build member = .ok a := by
  rw [required]
  simp only [h, ha]

theorem build_optional {inner : Json → Reading α} {a : Option α} (h : member name = some j)
    (ha : asOption inner j = .ok a) : (optional name inner).build member = .ok a := by
  rw [optional]
  simp only [h, ha]

theorem build_defaulted {inner : Json → Reading α} {a b : α} (h : member name = some j)
    (ha : inner j = .ok a) : (defaulted name inner b).build member = .ok a := by
  rw [defaulted]
  simp only [h, ha]

/-- **A record among other members, in any order**, is built from its own values. -/
theorem fromObject_of_perm (hsuits : List.Forall₂ Field.Suits reader.fields own)
    (hdistinct : (own.map (·.1)).Nodup) (hidle : Idle own extras)
    (hperm : members.Perm (named (own ++ extras))) :
    reader.fromObject members = reader.build (memberOf members) := by
  have hscan := (scanMembers_perm hperm).2 (scanMembers_named hsuits hdistinct hidle)
  rw [fromObject, fromMembers, hscan]
  rfl

/-- A record of one field that is made into something, among other members. -/
theorem fromObject_map {β : Type} {f : α → β} {x : RecordReader α} {field : Field} {value : Json}
    {a : α} (hfields : x.fields = [field]) (hcheck : field.check value = .ok ())
    (hbuild : ∀ member : String → Option Json, member field.name = some value →
      x.build member = .ok a)
    (hidle : Idle [(field.name, value)] extras)
    (hperm : members.Perm (named ([(field.name, value)] ++ extras))) :
    (f <$> x).fromObject members = .ok (f a) := by
  have hdistinct : ([(field.name, value)].map (·.1)).Nodup := List.nodup_singleton _
  have hsuits : List.Forall₂ Field.Suits (f <$> x).fields [(field.name, value)] := by
    show List.Forall₂ Field.Suits x.fields _
    rw [hfields]
    exact .cons ⟨rfl, hcheck⟩ .nil
  rw [fromObject_of_perm hsuits hdistinct hidle hperm]
  exact build_map (hbuild _ (memberOf_of_perm hdistinct hidle hperm (List.mem_cons_self ..)))

/-- A record that stands alone is built from its values. -/
theorem fromObject_named (hsuits : List.Forall₂ Field.Suits reader.fields own)
    (hdistinct : (own.map (·.1)).Nodup) :
    reader.fromObject (named own) = reader.build (memberOf (named own)) :=
  fromObject_of_perm hsuits hdistinct (idle_nil own) (by rw [List.append_nil])

end RecordReader

/-! ### Values that read back -/

theorem readEach_map {α : Type} {inner : Json → Reading α} {encode : α → Json}
    (h : ∀ a, inner (encode a) = .ok a) (items : List α) :
    readEach inner (items.map encode) = .ok items := by
  induction items with
  | nil => rfl
  | cons a items ih =>
      rw [List.map_cons, readEach, h, ih]
      rfl

theorem asList_ofList {α : Type} {inner : Json → Reading α} {encode : α → Json}
    (h : ∀ a, inner (encode a) = .ok a) (items : List α) :
    asList inner (.ofList encode items) = .ok items :=
  readEach_map h items

theorem asOption_ofOption (text : Option String) :
    asOption asString (.ofOption .string text) = .ok text := by
  cases text <;> rfl

/-! ### Members that can be taken whole -/

theorem membersAreReadable_iff {room : Nat} {members : List (Option String × Json)} :
    membersAreReadable room members = true ↔
      ∀ member ∈ members, member.1.isSome = true ∧ member.2.isReadable room = true := by
  induction members with
  | nil => simp [membersAreReadable]
  | cons member members ih =>
      simp [membersAreReadable, ih]

theorem areReadable_eq_all (room : Nat) (items : List Json) :
    areReadable room items = items.all (·.isReadable room) := by
  induction items with
  | nil => rfl
  | cons item items ih => rw [areReadable, ih, List.all_cons]

end QuizAttempts.Json
