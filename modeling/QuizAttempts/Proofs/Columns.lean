/-
**Stored questions are mapped without loss.**

The names of the four types of questions are spelled three times: where a row is mapped, where the
type of a question is named, and where a question is written as a document and read again.  And a
row has columns that only some of the types use.  Both could go wrong silently: a column could be
dropped, or a name could differ in one place.  Neither happens.  Every question has a row of its
own, with nothing in the columns that its type does not use, and a row is mapped to a question
exactly if it is the row of that question; everything else about rows follows from that.

The kind of a question is read back from the document that was written of it.  Other members may
stand beside those of the kind, as the members of other kinds do, and whatever stands under them is
passed over.

Main definitions:

* `QuestionKind.key`, `Question.row` — the row of a question.

Main results:

* `QuestionRow.question_eq_ok_iff` — **a row is mapped to a question if it is the row of it**;
* `Choice.ofJson_toJson` — a choice is read from its document;
* `QuestionKind.ofMembers_of_perm` — **a kind is read among other members, in any order**;
* `QuestionRow.mapped_without_loss` — which rows are mapped, and that nothing is lost on the way.
-/
import QuizAttempts.Proofs.Fields
import QuizAttempts.Proofs.Transcripts
import QuizAttempts.Quiz.Json

set_option autoImplicit false

namespace QuizAttempts

open Json Json.RecordReader

/-! ### Rows -/

/-- The column for the key: none unless the kind keeps its key there. -/
def QuestionKind.key : QuestionKind → Option String
  | trueFalse key | shortAnswer key => key
  | _ => none

/-- The row of a question. -/
def Question.row (q : Question) : QuestionRow :=
  { id := q.id
    quizId := q.quizId
    typeName := q.kind.typeName
    content := q.content
    points := q.points
    orderIndex := q.orderIndex
    choices := q.kind.choices
    key := q.kind.key }

/-- A row has a kind if its columns are those of the kind. -/
theorem QuestionRow.kind_eq_ok_iff {row : QuestionRow} {kind : QuestionKind} :
    row.kind = .ok kind ↔
      row.typeName = kind.typeName ∧ row.choices = kind.choices ∧ row.key = kind.key := by
  constructor
  · intro h
    unfold QuestionRow.kind at h
    split_ifs at h with htype hkey htype hchoices htype hchoices htype hchoices hkey
    all_goals cases h
    · exact ⟨htype, rfl, by simpa [QuestionKind.key] using hkey⟩
    · exact ⟨htype, List.isEmpty_iff.1 hchoices, rfl⟩
    · exact ⟨htype, List.isEmpty_iff.1 hchoices, rfl⟩
    · have hnone : row.choices = [] := by simpa using hchoices
      exact ⟨htype, hnone, by simpa [QuestionKind.key] using hkey⟩
  · obtain ⟨_, _, typeName, _, _, _, choices, key⟩ := row
    rintro ⟨rfl, rfl, rfl⟩
    cases kind <;> rfl

/-- **A row is mapped to a question if it is the row of it.** -/
theorem QuestionRow.question_eq_ok_iff {row : QuestionRow} {q : Question} :
    row.question = .ok q ↔ row = q.row := by
  constructor
  · intro h
    unfold QuestionRow.question at h
    cases hkind : row.kind with
    | error flaw => simp [hkind, Except.map] at h
    | ok kind =>
        obtain ⟨htype, hchoices, hkey⟩ := QuestionRow.kind_eq_ok_iff.1 hkind
        rw [hkind] at h
        obtain rfl := Except.ok.inj h
        obtain ⟨_, _, typeName, _, _, _, choices, key⟩ := row
        simp only at htype hchoices hkey
        subst htype hchoices hkey
        rfl
  · rintro rfl
    have hkind : q.row.kind = .ok q.kind := QuestionRow.kind_eq_ok_iff.2 ⟨rfl, rfl, rfl⟩
    rw [QuestionRow.question, hkind]
    rfl

/-! ### Choices -/

/-- The values of a choice, as they are written. -/
def Choice.values (choice : Choice) : List (String × Json) :=
  [("id", .string choice.id), ("text", .string choice.text), ("is_correct", .bool choice.isCorrect)]

/-- **A choice is read from its document.** -/
theorem Choice.ofJson_toJson (choice : Choice) : Choice.ofJson choice.toJson = .ok choice := by
  have hsuits : List.Forall₂ Field.Suits Choice.reader.fields choice.values :=
    .cons ⟨rfl, rfl⟩ (.cons ⟨rfl, rfl⟩ (.cons ⟨rfl, rfl⟩ .nil))
  have hdistinct : (choice.values.map (·.1)).Nodup := by simp [Choice.values]
  have htext (text : String) : asString (.string text) = .ok text := rfl
  have htruth : asBool (.bool choice.isCorrect) = .ok choice.isCorrect := rfl
  show Choice.reader.fromObject (named choice.values) = .ok choice
  rw [fromObject_named hsuits hdistinct]
  refine build_seq (build_seq (build_map (build_required (memberOf_named hdistinct ?_) (htext _)))
    (build_required (memberOf_named hdistinct ?_) (htext _)))
    (build_defaulted (memberOf_named hdistinct ?_) htruth)
  all_goals simp [Choice.values]

theorem Choice.isReadable_toJson (choice : Choice) (room : Nat) :
    choice.toJson.isReadable (room + 1) = true := by
  simp [Choice.toJson, record, isReadable, membersAreReadable]

theorem Choice.isVerbatim_toJson (choice : Choice) : choice.toJson.isVerbatim = true := by
  simp [Choice.toJson, isVerbatim]

/-! ### Kinds -/

namespace QuestionKind

/-- The values of a kind beside its name, as they are written. -/
def values : QuestionKind → List (String × Json)
  | multipleChoice choices => [("options", .ofList Choice.toJson choices)]
  | trueFalse key | shortAnswer key => [("correct_answer", .ofOption .string key)]
  | essay => []

theorem toMembers_eq (kind : QuestionKind) :
    kind.toMembers = (tagName, .string kind.typeName) :: kind.values := by
  cases kind <;> rfl

/-- **What a kind needs is read among other members, in any order.** -/
theorem exists_reader (kind : QuestionKind) :
    ∃ reader, kindReader? kind.typeName = some reader ∧
      ∀ extras members, Idle kind.values extras → members.Perm (named (kind.values ++ extras)) →
        reader.fromObject members = .ok kind := by
  cases kind with
  | multipleChoice choices =>
      refine ⟨_, rfl, fun extras members hidle hperm => ?_⟩
      have hread := asList_ofList Choice.ofJson_toJson choices
      exact fromObject_map rfl (congrArg (Except.map _) hread)
        (fun _ hmember => build_required hmember hread) hidle hperm
  | trueFalse key | shortAnswer key =>
      refine ⟨_, rfl, fun extras members hidle hperm => ?_⟩
      have hread := asOption_ofOption key
      exact fromObject_map rfl (congrArg (Except.map _) hread)
        (fun _ hmember => build_optional hmember hread) hidle hperm
  | essay =>
      refine ⟨pure essay, rfl, fun extras members hidle hperm => ?_⟩
      have hsuits : List.Forall₂ Field.Suits (pure essay : RecordReader QuestionKind).fields
        essay.values := .nil
      rw [fromObject_of_perm hsuits List.nodup_nil hidle hperm]
      rfl

theorem not_mem_values_tagName (kind : QuestionKind) : tagName ∉ kind.values.map (·.1) := by
  cases kind <;> simp [values, tagName]

variable {kind : QuestionKind} {extras : List (String × Json)}
  {members : List (Option String × Json)}

theorem idle_values (hidle : Idle kind.toMembers extras) : Idle kind.values extras := by
  intro extra hextra
  obtain ⟨hname, hsound⟩ := hidle extra hextra
  rw [toMembers_eq, List.map_cons, List.mem_cons, not_or] at hname
  exact ⟨hname.2, hsound⟩

theorem ne_tagName (hidle : Idle kind.toMembers extras) {value : String × Json}
    (h : value ∈ kind.values ++ extras) : value.1 ≠ tagName := by
  rintro heq
  rcases List.mem_append.1 h with hvalue | hextra
  · exact kind.not_mem_values_tagName (heq ▸ List.mem_map_of_mem hvalue)
  · have hname := (hidle value hextra).1
    rw [toMembers_eq, List.map_cons, List.mem_cons, not_or] at hname
    exact hname.1 heq

/-- The name of a kind stands once among the members, and nothing else is left out with it. -/
theorem filter_tagName (hidle : Idle kind.toMembers extras)
    (hperm : members.Perm (named (kind.toMembers ++ extras))) :
    members.filter (·.1 == some tagName) = [(some tagName, .string kind.typeName)] ∧
      (members.filter (·.1 != some tagName)).Perm (named (kind.values ++ extras)) := by
  rw [toMembers_eq, List.cons_append, named, List.map_cons, ← named] at hperm
  have hother : ∀ member ∈ named (kind.values ++ extras), member.1 ≠ some tagName := by
    intro member hmember
    obtain ⟨value, hvalue, rfl⟩ := List.mem_map.1 hmember
    exact fun heq => ne_tagName hidle hvalue (Option.some.inj heq)
  have hnone : (named (kind.values ++ extras)).filter (·.1 == some tagName) = [] :=
    List.filter_eq_nil_iff.2 (by simpa using hother)
  have hall : (named (kind.values ++ extras)).filter (·.1 != some tagName) =
      named (kind.values ++ extras) := List.filter_eq_self.2 (by simpa using hother)
  have htag := hperm.filter (·.1 == some tagName)
  have hrest := hperm.filter (·.1 != some tagName)
  rw [List.filter_cons_of_pos (by simp), hnone] at htag
  rw [List.filter_cons_of_neg (by simp), hall] at hrest
  exact ⟨List.perm_singleton.1 htag, hrest⟩

/-- **A kind is read among other members, in any order.** -/
theorem ofMembers_of_perm (hidle : Idle kind.toMembers extras)
    (hperm : members.Perm (named (kind.toMembers ++ extras))) :
    ofMembers tagByName members = .ok kind := by
  obtain ⟨htag, hrest⟩ := filter_tagName hidle hperm
  obtain ⟨reader, hreader, hread⟩ := kind.exists_reader
  have hname : tagByName (.string kind.typeName) = .ok reader := by rw [tagByName, hreader]
  rw [ofMembers, htag]
  show (do let reader ← tagByName (.string kind.typeName); reader.fromObject _) = _
  rw [hname]
  exact hread _ _ (idle_values hidle) hrest

/-! ### Documents of kinds -/

/-- What is written of a kind is not nested deeply. -/
theorem isReadable_values {value : String × Json} (h : value ∈ kind.toMembers) (room : Nat) :
    value.2.isReadable (room + 2) = true := by
  rw [toMembers_eq] at h
  cases kind with
  | multipleChoice choices =>
      have hchoices : (Json.ofList Choice.toJson choices).isReadable (room + 2) = true := by
        rw [ofList, isReadable, areReadable_eq_all]
        simp [Choice.isReadable_toJson]
      simp only [values, List.mem_cons, List.not_mem_nil, or_false] at h
      rcases h with rfl | rfl
      · rfl
      · exact hchoices
  | trueFalse key | shortAnswer key =>
      simp only [values, List.mem_cons, List.not_mem_nil, or_false] at h
      rcases h with rfl | rfl
      · rfl
      · cases key <;> rfl
  | essay =>
      simp only [values, List.mem_cons, List.not_mem_nil, or_false] at h
      subst h
      rfl

/-- **A kind is read from a document of its own**, in which other members stand that can be taken
whole. -/
theorem ofJson_of_perm (hidle : Idle kind.toMembers extras)
    (hreadable : ∀ extra ∈ extras, extra.2.isReadable (deepest - 1) = true)
    (hperm : members.Perm (named (kind.toMembers ++ extras))) :
    QuestionKind.ofJson (.object members) = .ok kind := by
  have htaken : membersAreReadable (deepest - 1) members = true := by
    rw [membersAreReadable_iff]
    intro member hmember
    obtain ⟨value, hvalue, rfl⟩ := List.mem_map.1 (hperm.mem_iff.1 hmember)
    refine ⟨rfl, ?_⟩
    rcases List.mem_append.1 hvalue with hown | hextra
    · exact isReadable_values hown 124
    · exact hreadable value hextra
  rw [QuestionKind.ofJson, if_pos htaken, ofMembers_of_perm hidle hperm]

theorem isVerbatim_toJson (kind : QuestionKind) : kind.toJson.isVerbatim = true := by
  rw [QuestionKind.toJson, isVerbatim_record, toMembers_eq]
  cases kind with
  | multipleChoice choices =>
      simp [values, ofList, isVerbatim, areVerbatim_eq_all, Choice.isVerbatim_toJson]
  | trueFalse key | shortAnswer key => cases key <;> simp [values, isVerbatim]
  | essay => simp [values, isVerbatim]

/-- A kind is read from the text that was written of it. -/
theorem ofJson_read_write (kind : QuestionKind) :
    QuestionKind.ofJson (read ((write kind.toJson).map some)).1 = .ok kind := by
  rw [read_write kind.isVerbatim_toJson]
  refine ofJson_of_perm (idle_nil _) (by simp) ?_
  rw [List.append_nil]
  exact List.Perm.refl _

end QuestionKind

/-! ### What is lost on the way -/

/-- The type of a row has a place for everything in its columns. -/
structure QuestionRow.HasPlace (row : QuestionRow) : Prop where
  typed : row.typeName ∈ ["multiple_choice", "true_false", "short_answer", "essay"]
  choices : row.choices = [] ∨ row.typeName = "multiple_choice"
  key : row.key = none ∨ row.typeName = "true_false" ∨ row.typeName = "short_answer"

/-- The row of a question has nothing in a column without a place. -/
theorem Question.hasPlace_row (q : Question) : q.row.HasPlace := by
  obtain ⟨_, _, _, _, _, kind⟩ := q
  cases kind <;> exact ⟨by simp [Question.row, QuestionKind.typeName],
    by simp [Question.row, QuestionKind.typeName, QuestionKind.choices],
    by simp [Question.row, QuestionKind.typeName, QuestionKind.key]⟩

theorem QuestionRow.HasPlace.exists_question {row : QuestionRow} (h : row.HasPlace) :
    ∃ q, row.question = .ok q := by
  obtain ⟨htype, hchoices, hkey⟩ := h
  have hmapped {kind : QuestionKind} (htype : row.typeName = kind.typeName)
      (hchoices : row.choices = kind.choices) (hkey : row.key = kind.key) :
      ∃ q, row.question = .ok q :=
    ⟨_, by rw [QuestionRow.question, QuestionRow.kind_eq_ok_iff.2 ⟨htype, hchoices, hkey⟩]; rfl⟩
  simp only [List.mem_cons, List.not_mem_nil, or_false] at htype
  rcases htype with htype | htype | htype | htype
  · have hnone : row.key = none := by simpa [htype] using hkey
    exact @hmapped (.multipleChoice row.choices) htype rfl hnone
  · have hnone : row.choices = [] := by simpa [htype] using hchoices
    exact @hmapped (.trueFalse row.key) htype hnone rfl
  · have hnone : row.choices = [] := by simpa [htype] using hchoices
    exact @hmapped (.shortAnswer row.key) htype hnone rfl
  · have hnochoice : row.choices = [] := by simpa [htype] using hchoices
    have hnokey : row.key = none := by simpa [htype] using hkey
    exact @hmapped .essay htype hnochoice hnokey

/-- **Stored questions are mapped without loss.**  A row stands for a question exactly if its type
is one of the four and has a place for everything in its columns, and no two rows stand for one
question.  The type of the row is that of the kind, and stands once in the document of the kind.
The kind is read back from the text of that document, and also among other members, in any order. -/
theorem QuestionRow.mapped_without_loss (row : QuestionRow) :
    ((∃ q, row.question = .ok q) ↔ row.HasPlace) ∧
      ∀ q, row.question = .ok q →
        (∀ other : QuestionRow, other.question = .ok q → other = row) ∧
        q.kind.typeName = row.typeName ∧
        (∃ members, q.kind.toJson = .object members ∧
          members.filter (·.1 == some "question_type") =
            [(some "question_type", .string row.typeName)]) ∧
        QuestionKind.ofJson (read ((write q.kind.toJson).map some)).1 = .ok q.kind ∧
        ∀ extras members, Idle q.kind.toMembers extras →
          members.Perm (named (q.kind.toMembers ++ extras)) →
          QuestionKind.ofMembers QuestionKind.tagByName members = .ok q.kind ∧
            ((∀ extra ∈ extras, extra.2.isReadable (deepest - 1) = true) →
              QuestionKind.ofJson (.object members) = .ok q.kind) := by
  refine ⟨⟨?_, QuestionRow.HasPlace.exists_question⟩, fun q hq => ?_⟩
  · rintro ⟨q, hq⟩
    obtain rfl := QuestionRow.question_eq_ok_iff.1 hq
    exact q.hasPlace_row
  · obtain rfl := QuestionRow.question_eq_ok_iff.1 hq
    have htag := (QuestionKind.filter_tagName (idle_nil q.kind.toMembers)
      (by rw [List.append_nil])).1
    refine ⟨fun other hother => QuestionRow.question_eq_ok_iff.1 hother, rfl, ⟨_, rfl, htag⟩,
      q.kind.ofJson_read_write, fun extras members hidle hperm => ?_⟩
    exact ⟨QuestionKind.ofMembers_of_perm hidle hperm,
      fun hreadable => QuestionKind.ofJson_of_perm hidle hreadable hperm⟩

/-- A question with two choices, read from a document in which a member of other kinds stands twice
in front and its own members come in the opposite order. -/
theorem QuestionRow.mapped_without_loss_amongOthers :
    ∃ q, QuestionRow.question ⟨7, 1, "multiple_choice", "", Binary64.zero, 0,
        [⟨"a", "yes", true⟩, ⟨"b", "no", false⟩], none⟩ = .ok q ∧
      QuestionKind.ofJson (.object [(some "correct_answer", .array [.null, .object []]),
        (some "correct_answer", .bool true),
        (some "options", .ofList Choice.toJson [⟨"a", "yes", true⟩, ⟨"b", "no", false⟩]),
        (some "question_type", .string "multiple_choice")]) = .ok q.kind := by
  obtain ⟨-, hmapped⟩ := QuestionRow.mapped_without_loss ⟨7, 1, "multiple_choice", "",
    Binary64.zero, 0, [⟨"a", "yes", true⟩, ⟨"b", "no", false⟩], none⟩
  obtain ⟨-, -, -, -, hread⟩ := hmapped ⟨7, 1, "", Binary64.zero, 0,
    .multipleChoice [⟨"a", "yes", true⟩, ⟨"b", "no", false⟩]⟩ rfl
  refine ⟨_, rfl, (hread [("correct_answer", .bool true),
    ("correct_answer", .array [.null, .object []])] _ ?_ (List.reverse_perm _)).2 ?_⟩
  · intro extra hextra
    simp only [List.mem_cons, List.not_mem_nil, or_false] at hextra
    rcases hextra with rfl | rfl <;> exact ⟨by decide, rfl⟩
  · intro extra hextra
    simp only [List.mem_cons, List.not_mem_nil, or_false] at hextra
    rcases hextra with rfl | rfl <;> rfl

end QuizAttempts
