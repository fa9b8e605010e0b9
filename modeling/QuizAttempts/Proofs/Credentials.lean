/-
**A signed identity survives the token.**

Between the one who signs and the one who verifies an identity passes through five writers and five
readers: the user is written as a decimal, the claims as a document, the document as bytes, the
bytes as characters that can stand in an address, and the parts of a token as one text.  Each reader
undoes its writer, whatever is written: every integer, every role, every secret.  Here the five are
put together, with the checks that a token has to pass on the way.

A user is a 64-bit integer, and the second of an expiry has to fit a word; nothing else is asked of
them.  A role is any text at all, and only when the caller is made of the claims does it have to be
the name of a role.

Main results:

* `readTokenPart?_tokenPart` — a document is read from its part of a token;
* `Claims.fromObject_toJson` — claims are read from their document;
* `verifyToken?_signClaims` — **claims are verified by whoever knows the secret**;
* `identity_survives` — **the user, the role and the expiry of a token**, and the caller that it
  names.
-/
import QuizAttempts.Proofs.Fields
import QuizAttempts.Proofs.Rounding
import QuizAttempts.Proofs.Transcripts
import QuizAttempts.Refusal
import QuizAttempts.Token

set_option autoImplicit false

namespace QuizAttempts

-- A power of natural numbers is read as one, whatever else is in scope.
attribute [local instance (2000)] instPowNat

open Json Json.RecordReader

/-! ### Parts of a token -/

/-- No dot stands in what was written as bytes. -/
theorem not_dot_mem_writeBase64Url (bytes : List UInt8) : '.' ∉ writeBase64Url bytes := by
  rw [writeBase64Url_eq_map]
  intro hdot
  obtain ⟨n, hn, heq⟩ := List.mem_map.1 hdot
  have hread := sextet?_sextetChar (splitSextets_lt bytes n hn)
  rw [heq] at hread
  exact absurd hread (by simp [sextet?])

/-- **A document is read from its part of a token.** -/
theorem readTokenPart?_tokenPart {j : Json} (h : j.isVerbatim = true) :
    readTokenPart? (tokenPart j) = some j := by
  have hbytes := readBase64Url?_writeBase64Url (utf8Bytes (write j))
  simp only [readTokenPart?, tokenPart, hbytes, Option.bind_eq_bind, Option.bind_some,
    readLegible_utf8Bytes, read_write h]
  rfl

theorem isTokenHeader_tokenHeader : isTokenHeader (tokenPart tokenHeader) = true := by
  rw [isTokenHeader, readTokenPart?_tokenPart rfl]
  rfl

/-! ### Claims -/

/-- An unsigned word stands for a finite number. -/
theorem isFinite_ofInt {n : Int} (h : isUInt64 n = true) : (Binary64.ofInt n).isFinite = true := by
  obtain ⟨hpos, hle⟩ : 0 ≤ n ∧ n ≤ 18446744073709551615 := by simpa [isUInt64] using h
  have hone : 0 < 1 := by decide
  have hlargest : (Binary64.ofInt 18446744073709551615).isFinite = true := by decide +kernel
  have hstands (m : Nat) :
      (Binary64.ofInt m).HasRank (Magnitude.capped (m * Magnitude.unitsPerOne) 1) :=
    Binary64.hasRank_ofRatio hone fun hneg => absurd (of_decide_eq_true hneg) (by omega)
  obtain ⟨m, rfl⟩ := Int.eq_ofNat_of_zero_le hpos
  rw [(hstands m).isFinite_iff]
  refine Nat.lt_of_le_of_lt (Magnitude.capped_mono hone hone ?_)
    ((hstands 18446744073709551615).isFinite_iff.1 hlargest)
  exact Nat.mul_le_mul_right 1 (Nat.mul_le_mul_right _ (by omega))

theorem Claims.isVerbatim_toJson {claims : Claims} (h : isUInt64 claims.expiry = true) :
    claims.toJson.isVerbatim = true := by
  simp [Claims.toJson, isVerbatim, isFinite_ofInt h]

/-- The values of claims, as they are written. -/
def Claims.values (claims : Claims) : List (String × Json) :=
  [("sub", .string claims.subject), ("role", .string claims.role), ("exp", .int claims.expiry)]

/-- **Claims are read from what was written of them.** -/
theorem Claims.fromObject_values {claims : Claims} (h : isUInt64 claims.expiry = true) :
    Claims.reader.fromObject (named claims.values) = .ok claims := by
  have hexpiry : asInt isUInt64 (.int claims.expiry) = .ok claims.expiry := by simp [asInt, h]
  have hsuits : List.Forall₂ Field.Suits Claims.reader.fields claims.values :=
    .cons ⟨rfl, rfl⟩ (.cons ⟨rfl, rfl⟩ (.cons ⟨rfl, congrArg (Except.map _) hexpiry⟩ .nil))
  have hdistinct : (claims.values.map (·.1)).Nodup := by simp [Claims.values]
  have htext (text : String) : asString (.string text) = .ok text := rfl
  rw [fromObject_named hsuits hdistinct]
  refine build_seq (build_seq (build_map (build_required (memberOf_named hdistinct ?_) (htext _)))
    (build_required (memberOf_named hdistinct ?_) (htext _)))
    (build_required (memberOf_named hdistinct ?_) hexpiry)
  all_goals simp [Claims.values]

theorem readClaims?_tokenPart {claims : Claims} (h : isUInt64 claims.expiry = true) {now : Nat}
    (hnow : (now : Int) ≤ claims.expiry + leeway) :
    readClaims? now (tokenPart claims.toJson) = some claims := by
  have hread := readTokenPart?_tokenPart (Claims.isVerbatim_toJson h)
  have hclaims := Claims.fromObject_values h
  have hplain : (isUnambiguous (named claims.values) && isUnobstructed (named claims.values) &&
      isUnaddressed (named claims.values)) = true := by
    simp [isUnambiguous, isUnobstructed, isUnaddressed, named, Claims.values, registeredNames,
      memberOf, List.lookup_cons]
  have hjson : claims.toJson = .object (named claims.values) := rfl
  rw [readClaims?, hread, hjson]
  simp only [hclaims, hplain, Bool.true_and, decide_eq_true hnow, if_true]

/-- **Claims are verified by whoever knows the secret**, until some time after their expiry. -/
theorem verifyToken?_signClaims (secret : List Char) {claims : Claims}
    (h : isUInt64 claims.expiry = true) {now : Nat} (hnow : (now : Int) ≤ claims.expiry + leeway) :
    verifyToken? secret now (signClaims secret claims) = some claims := by
  have hsplit := @splitToken?_join ⟨tokenPart tokenHeader, tokenPart claims.toJson,
    signature secret (tokenPart tokenHeader ++ '.' :: tokenPart claims.toJson)⟩
    (not_dot_mem_writeBase64Url _) (not_dot_mem_writeBase64Url _)
  rw [verifyToken?, signClaims, hsplit]
  simp only [isTokenHeader_tokenHeader, TokenParts.message, beq_self_eq_true, Bool.and_self,
    if_true, readClaims?_tokenPart h hnow]

/-! ### The caller -/

theorem readUser?_showInt {user : Int} (h : isInt64 user = true) :
    readUser? (showInt user) = some user := by
  simp [readUser?, showInt, readInt?_writeInt, h]

theorem showInt_eq_toString (n : Int) : showInt n = toString n := by
  cases n with
  | ofNat n => rfl
  | negSucc n =>
      show String.ofList ('-' :: Nat.toDigits 10 (n + 1)) =
        "-" ++ String.ofList (Nat.toDigits 10 (n + 1))
      simp

theorem Role.ofName?_eq_none {name : String} (h : ∀ role : Role, name ≠ role.name) :
    Role.ofName? name = none := by
  have hstudent : name ≠ "student" := h .student
  have hinstructor : name ≠ "instructor" := h .instructor
  have hadmin : name ≠ "admin" := h .admin
  rw [Role.ofName?, if_neg hstudent, if_neg hinstructor, if_neg hadmin]

theorem Claims.actor_of_role {user : Int} (h : isInt64 user = true) (role : Role) (expiry : Int) :
    Claims.actor ⟨showInt user, role.name, expiry⟩ = .ok ⟨user, role⟩ := by
  simp only [Claims.actor, readUser?_showInt h, Role.ofName?_name]

theorem Claims.actor_of_no_role {user : Int} (h : isInt64 user = true) {name : String}
    (hnone : ∀ role : Role, name ≠ role.name) (expiry : Int) :
    Claims.actor ⟨showInt user, name, expiry⟩ = .error .unknownRole := by
  simp only [Claims.actor, readUser?_showInt h, Role.ofName?_eq_none hnone]

/-- **A signed identity survives the token.**  Until some time after its expiry, whoever knows the
secret reads the user, the role and the expiry as they were signed; the caller that the claims name
is the user in the role of that name, and there is none when no role has the name. -/
theorem identity_survives (secret : List Char) {user : Int} (name : String)
    {now seconds later : Nat} (huser : isInt64 user = true)
    (hexpiry : now + seconds < 2 ^ (64 : Nat)) (hlater : (later : Int) ≤ now + seconds + leeway) :
    ∃ token claims, issueToken? secret now user name seconds = some token ∧
      verifyToken? secret later token = some claims ∧
      claims.subject = toString user ∧ claims.role = name ∧ claims.expiry = now + seconds ∧
      (∀ role : Role, name = role.name → claims.actor = .ok ⟨user, role⟩) ∧
      ((∀ role : Role, name ≠ role.name) → ∃ flaw, claims.actor = .error flaw ∧
        (Refusal.claims flaw).report = ⟨.unidentified, "Unknown role"⟩) := by
  have hword : isUInt64 ((now : Int) + seconds) = true := by
    have hlt : now + seconds < 18446744073709551616 := hexpiry
    simp only [isUInt64, Bool.and_eq_true, decide_eq_true_eq]
    omega
  refine ⟨signClaims secret ⟨showInt user, name, now + seconds⟩,
    ⟨showInt user, name, now + seconds⟩, ?_, verifyToken?_signClaims secret hword hlater,
    showInt_eq_toString user, rfl, rfl, ?_, ?_⟩
  · rw [issueToken?, if_pos hword]
  · rintro role rfl
    exact Claims.actor_of_role huser role _
  · intro hnone
    exact ⟨.unknownRole, Claims.actor_of_no_role huser hnone _, rfl⟩

/-- The smallest user of all; and a role that nobody has and that has to be escaped, in a token
that is verified at the last second. -/
theorem identity_survives_smallestUser :
    (∃ token claims,
      issueToken? ['k'] 1700000000 (-9223372036854775808) "student" 3600 = some token ∧
        verifyToken? ['k'] 1700000000 token = some claims ∧
        claims.subject = "-9223372036854775808" ∧
        claims.actor = .ok ⟨-9223372036854775808, .student⟩) ∧
    ∃ token claims, issueToken? [] 0 7 "\"\\\u0001é" 0 = some token ∧
      verifyToken? [] 60 token = some claims ∧ claims.role = "\"\\\u0001é" ∧
      ∃ flaw, claims.actor = .error flaw ∧ (Refusal.claims flaw).kind = .unidentified := by
  constructor
  · obtain ⟨token, claims, hissue, hverify, hsubject, -, -, hactor, -⟩ :=
      @identity_survives ['k'] (-9223372036854775808) "student" 1700000000 3600 1700000000
        (by decide) (by decide) (by decide)
    exact ⟨token, claims, hissue, hverify, hsubject, hactor .student rfl⟩
  · have hnobody : ∀ role : Role, "\"\\\u0001é" ≠ role.name := by
      intro role
      cases role <;> decide
    obtain ⟨token, claims, hissue, hverify, -, hrole, -, -, hactor⟩ :=
      @identity_survives [] 7 "\"\\\u0001é" 0 0 60 (by decide) (by decide) (by decide)
    obtain ⟨flaw, herror, hreport⟩ := hactor hnobody
    exact ⟨token, claims, hissue, hverify, hrole, flaw, herror, congrArg Report.kind hreport⟩

end QuizAttempts
