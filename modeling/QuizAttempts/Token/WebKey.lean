/-
**Keys that come with a token.**

The header of a token may carry the key that it claims to be signed with.  Nobody here looks at such
a key, since the secret is known already, but a header that carries anything else in its place is
not a header.  A key is an object with the names of its own kind, all of which have to be there
once, and with names that every key may have; further names mean nothing.

Main definitions:

* `WebKey.procedures` — what a key may be made for;
* `WebKey.commonReader` — the names that every key may have;
* `WebKey.readers` — the kinds of keys with the names of each;
* `isWebKey` — **a document is a key**.
-/
import QuizAttempts.Json.Record

set_option autoImplicit false

namespace QuizAttempts

open Json Json.RecordReader

namespace WebKey

/-- The procedures that a key may be made for. -/
def procedures : List (String × Unit) :=
  ["HS256", "HS384", "HS512", "ES256", "ES384", "RS256", "RS384", "RS512", "PS256", "PS384",
    "PS512", "EdDSA", "RSA1_5", "RSA-OAEP", "RSA-OAEP-256"].map fun name => (name, ())

/-- The name of a procedure, also as the only member of an object, with nothing as its value. -/
def asProcedure : Json → Reading Unit
  | .object [(name, .object [])] => asTag procedures (.object [(name, .null)])
  | j => asTag procedures j

/-- The names that every key may have. -/
def commonReader : RecordReader Unit :=
  (fun _ _ _ _ _ _ _ _ => ()) <$> optional "use" asString <*>
    optional "key_ops" (asList asString) <*> optional "alg" asProcedure <*>
    optional "kid" asString <*> optional "x5u" asString <*> optional "x5c" (asList asString) <*>
    optional "x5t" asString <*> optional "x5t#S256" asString

/-- The curves that a key may be a point of. -/
def curves : List (String × Unit) :=
  [("P-256", ()), ("P-384", ()), ("P-521", ()), ("Ed25519", ())]

/-- The name of a kind of keys. -/
def kind (name : String) : RecordReader Unit := required "kty" (asTag [(name, ())])

/-- A point of a curve with both its coordinates. -/
def pointReader : RecordReader Unit :=
  (fun _ _ _ _ => ()) <$> kind "EC" <*> required "crv" (asTag curves) <*> required "x" asString <*>
    required "y" asString

/-- A modulus and an exponent. -/
def modulusReader : RecordReader Unit :=
  (fun _ _ _ => ()) <$> kind "RSA" <*> required "n" asString <*> required "e" asString

/-- A secret. -/
def secretReader : RecordReader Unit := (fun _ _ => ()) <$> kind "oct" <*> required "k" asString

/-- A point of a curve with one of its coordinates. -/
def halfPointReader : RecordReader Unit :=
  (fun _ _ _ => ()) <$> kind "OKP" <*> required "crv" (asTag curves) <*> required "x" asString

/-- The kinds of keys. -/
def readers : List (RecordReader Unit) :=
  [pointReader, modulusReader, secretReader, halfPointReader]

end WebKey

/-- The members of an object are those of a key. -/
def isWebKeyOf (members : List (Option String × Json)) : Bool :=
  (WebKey.commonReader.fromObject members).isOk &&
    WebKey.readers.any fun reader => (reader.fromObject members).isOk

/-- **A document inside a header is a key.** -/
def isWebKey : Json → Bool
  | .object members => (object members).isReadable (deepest - 1) && isWebKeyOf members
  | _ => false

end QuizAttempts
