/-
**Tokens: who is asking, signed.**

A token has three parts with dots between them: a header that names how it is signed, the claims,
and the code of the first two parts under a secret.  The first two are documents and the third is
bytes, all written so that they can stand in an address.  Whoever knows the secret can tell
whether the claims were written by somebody who knows it too.

Claims stop holding some time after their expiry.  A token that is meant for somebody in
particular is refused, for nobody here has a name.  Some further names have a meaning in every
token; what stands under them is tried and may be of any form, as long as it can be passed over when
it is given up.

Main definitions:

* `signClaims`, `issueToken?` — **signing**;
* `splitToken?`, `isTokenHeader`, `isUnobstructed`, `isUnaddressed`, `readClaims?`, `verifyToken?` —
  **verifying**.

Main results:

* `splitLast?_append` — a text is split at its last mark;
* `splitToken?_join` — a token falls into the parts that it was put together from.
-/
import QuizAttempts.Enrollment.Json
import QuizAttempts.Json.Reader
import QuizAttempts.Json.Writer
import QuizAttempts.Text.Base64Url
import QuizAttempts.Text.Utf8
import QuizAttempts.Token.Sha256
import QuizAttempts.Token.WebKey

set_option autoImplicit false

namespace QuizAttempts

open Json Json.RecordReader

/-! ### Parts -/

/-- Splits a text at the last place of a mark, which is in neither half. -/
def splitLast? (mark : Char) : List Char → Option (List Char × List Char)
  | [] => none
  | c :: text =>
      match splitLast? mark text with
      | some (before, after) => some (c :: before, after)
      | none => if c = mark then some ([], text) else none

theorem splitLast?_eq_none {mark : Char} {text : List Char} (h : mark ∉ text) :
    splitLast? mark text = none := by
  induction text with
  | nil => rfl
  | cons c text ih =>
      have hc : c ≠ mark := fun hc => h (hc ▸ List.mem_cons_self ..)
      simp [splitLast?, ih fun ht => h (List.mem_cons_of_mem _ ht), hc]

/-- **A text is split at its last mark.** -/
theorem splitLast?_append {mark : Char} {after : List Char} (h : mark ∉ after)
    (before : List Char) : splitLast? mark (before ++ mark :: after) = some (before, after) := by
  induction before with
  | nil => simp [splitLast?, splitLast?_eq_none h]
  | cons c before ih => simp [splitLast?, ih]

/-- The parts of a token: header, claims and signature. -/
structure TokenParts where
  header : List Char
  claims : List Char
  signature : List Char
  deriving DecidableEq

/-- What the signature is the code of. -/
def TokenParts.message (parts : TokenParts) : List Char := parts.header ++ '.' :: parts.claims

/-- The token of its parts. -/
def TokenParts.join (parts : TokenParts) : List Char := parts.message ++ '.' :: parts.signature

/-- The parts of a token; further dots belong to the header. -/
def splitToken? (token : List Char) : Option TokenParts :=
  match splitLast? '.' token with
  | none => none
  | some (message, signature) =>
      match splitLast? '.' message with
      | none => none
      | some (header, claims) => some ⟨header, claims, signature⟩

/-- **A token falls into the parts that it was put together from.** -/
theorem splitToken?_join {parts : TokenParts} (hc : '.' ∉ parts.claims)
    (hs : '.' ∉ parts.signature) : splitToken? parts.join = some parts := by
  simp only [splitToken?, TokenParts.join, splitLast?_append hs, TokenParts.message,
    splitLast?_append hc]

/-! ### Signing -/

/-- The code of a text under a secret, as text. -/
def signature (secret message : List Char) : List Char :=
  writeBase64Url (hmacSha256 (utf8Bytes secret) (utf8Bytes message))

/-- A document as part of a token. -/
def tokenPart (j : Json) : List Char := writeBase64Url (utf8Bytes (write j))

/-- The header of the tokens that are signed here. -/
def tokenHeader : Json := .record [("typ", .string "JWT"), ("alg", .string "HS256")]

/-- **The token of claims**, signed with a secret. -/
def signClaims (secret : List Char) (claims : Claims) : List Char :=
  let header := tokenPart tokenHeader
  let part := tokenPart claims.toJson
  TokenParts.join ⟨header, part, signature secret (header ++ '.' :: part)⟩

/-- A token for a user in a role, which expires some seconds from now; absent when no word holds the
second of its expiry. -/
def issueToken? (secret : List Char) (now : Nat) (user : Int) (role : String) (seconds : Nat) :
    Option (List Char) :=
  let expiry : Int := now + seconds
  if isUInt64 expiry then some (signClaims secret ⟨showInt user, role, expiry⟩) else none

/-! ### Verifying -/

/-- A key that comes with a token. -/
def asWebKey (j : Json) : Reading Unit := if isWebKey j then .ok () else .error .mismatched

/-- The fields of a header; all that has to be there is the way in which it is signed. -/
def headerReader : RecordReader Unit :=
  (fun _ _ _ _ _ _ _ _ _ _ => ()) <$> optional "typ" asString <*>
    required "alg" (asTag [("HS256", ())]) <*> optional "cty" asString <*>
    optional "jku" asString <*> optional "jwk" asWebKey <*> optional "kid" asString <*>
    optional "x5u" asString <*> optional "x5c" (asList asString) <*> optional "x5t" asString <*>
    optional "x5t#S256" asString

/-- The document in a part of a token. -/
def readTokenPart? (part : List Char) : Option Json := do
  let bytes ← readBase64Url? part
  let (j, rest) := Json.read (readLegible bytes)
  if isSpaceOnly rest then some j else none

/-- The header says that the token is signed in the one way that is known here. -/
def isTokenHeader (part : List Char) : Bool :=
  match readTokenPart? part with
  | some j => (headerReader.read j).isOk
  | none => false

/-- Seconds for which claims hold after their expiry. -/
def leeway : Int := 60

/-- The names that have a meaning in every token. -/
def registeredNames : List String := ["exp", "nbf", "sub", "iss", "aud"]

/-- No name with a meaning in every token is repeated. -/
def isUnambiguous (members : List (Option String × Json)) : Bool :=
  registeredNames.all fun name => members.countP (·.1 == some name) ≤ 1

/-- What stands under the registered names can be passed over when it is given up: a moment before
which a token does not hold is looked for without opening a value, and names of people are looked
for in the whole of it. -/
def isUnobstructed (members : List (Option String × Json)) : Bool :=
  members.all fun (name, value) =>
    if name == some "nbf" then value.isPassableUnopened
    else if name == some "iss" || name == some "aud" then value.isPassable (deepest - 1)
    else true

/-- A name, or a list of names. -/
def isAudience : Json → Bool
  | .array items => (readEach asString items).isOk
  | j => (asString j).isOk

/-- The token is meant for nobody in particular. -/
def isUnaddressed (members : List (Option String × Json)) : Bool :=
  !(memberOf members "aud").any isAudience

/-- The claims that a part of a token holds at a second. -/
def readClaims? (now : Nat) (part : List Char) : Option Claims :=
  match readTokenPart? part with
  | some (.object members) =>
      match Claims.reader.fromObject members with
      | .ok claims =>
          if isUnambiguous members && isUnobstructed members && isUnaddressed members &&
              (now : Int) ≤ claims.expiry + leeway then
            some claims
          else none
      | .error _ => none
  | _ => none

/-- **The claims of a token**, if it was signed with the secret and they hold. -/
def verifyToken? (secret : List Char) (now : Nat) (token : List Char) : Option Claims :=
  match splitToken? token with
  | none => none
  | some parts =>
      if isTokenHeader parts.header && parts.signature == signature secret parts.message then
        readClaims? now parts.claims
      else none

end QuizAttempts
