/-
**SHA-256, and the code that a key puts under a message.**

The message is filled up to whole blocks of 64 bytes with a one bit, zeros and its length in bits,
and each block is worked into eight words in 64 rounds.  The words of the schedule are drawn from
a window of the last sixteen: each round uses the oldest and appends a new one.

The code of a message under a key hashes the message behind the key, and that hash behind the key
again, the key being disguised differently each time.

Main definitions:

* `Digest`, `compress`, `sha256` — the hash;
* `hmacSha256` — **the code of a message under a key**.

Main results:

* `length_sha256` — a hash has 32 bytes.
-/

set_option autoImplicit false

namespace QuizAttempts

/-! ### Words -/

/-- A word rotated to the right; the distance is between 1 and 31. -/
def rotateRight (x : UInt32) (distance : UInt32) : UInt32 :=
  (x >>> distance) ||| (x <<< (32 - distance))

/-- The word of four bytes, the highest first. -/
def wordOfBytes (a b c d : UInt8) : UInt32 :=
  (a.toUInt32 <<< 24) ||| (b.toUInt32 <<< 16) ||| (c.toUInt32 <<< 8) ||| d.toUInt32

/-- The bytes of a word, the highest first. -/
def bytesOfWord (x : UInt32) : List UInt8 :=
  [(x >>> 24).toUInt8, (x >>> 16).toUInt8, (x >>> 8).toUInt8, x.toUInt8]

/-- The words of a block. -/
def wordsOfBytes : List UInt8 → List UInt32
  | a :: b :: c :: d :: rest => wordOfBytes a b c d :: wordsOfBytes rest
  | _ => []

/-! ### One block -/

/-- Eight words that are worked on. -/
structure Digest where
  a : UInt32
  b : UInt32
  c : UInt32
  d : UInt32
  e : UInt32
  f : UInt32
  g : UInt32
  h : UInt32
  deriving DecidableEq

/-- The words before the first block: the fractions of the square roots of the first eight primes.
-/
def Digest.first : Digest :=
  ⟨0x6a09e667, 0xbb67ae85, 0x3c6ef372, 0xa54ff53a, 0x510e527f, 0x9b05688c, 0x1f83d9ab, 0x5be0cd19⟩

/-- One constant for each round: the fractions of the cube roots of the first 64 primes. -/
def roundConstants : List UInt32 :=
  [0x428a2f98, 0x71374491, 0xb5c0fbcf, 0xe9b5dba5, 0x3956c25b, 0x59f111f1, 0x923f82a4, 0xab1c5ed5,
   0xd807aa98, 0x12835b01, 0x243185be, 0x550c7dc3, 0x72be5d74, 0x80deb1fe, 0x9bdc06a7, 0xc19bf174,
   0xe49b69c1, 0xefbe4786, 0x0fc19dc6, 0x240ca1cc, 0x2de92c6f, 0x4a7484aa, 0x5cb0a9dc, 0x76f988da,
   0x983e5152, 0xa831c66d, 0xb00327c8, 0xbf597fc7, 0xc6e00bf3, 0xd5a79147, 0x06ca6351, 0x14292967,
   0x27b70a85, 0x2e1b2138, 0x4d2c6dfc, 0x53380d13, 0x650a7354, 0x766a0abb, 0x81c2c92e, 0x92722c85,
   0xa2bfe8a1, 0xa81a664b, 0xc24b8b70, 0xc76c51a3, 0xd192e819, 0xd6990624, 0xf40e3585, 0x106aa070,
   0x19a4c116, 0x1e376c08, 0x2748774c, 0x34b0bcb5, 0x391c0cb3, 0x4ed8aa4a, 0x5b9cca4f, 0x682e6ff3,
   0x748f82ee, 0x78a5636f, 0x84c87814, 0x8cc70208, 0x90befffa, 0xa4506ceb, 0xbef9a3f7, 0xc67178f2]

/-- One round, with the sum of its constant and its word. -/
def Digest.round (s : Digest) (x : UInt32) : Digest :=
  let mixE := rotateRight s.e 6 ^^^ rotateRight s.e 11 ^^^ rotateRight s.e 25
  let choice := (s.e &&& s.f) ^^^ (~~~s.e &&& s.g)
  let t := s.h + mixE + choice + x
  let mixA := rotateRight s.a 2 ^^^ rotateRight s.a 13 ^^^ rotateRight s.a 22
  let majority := (s.a &&& s.b) ^^^ (s.a &&& s.c) ^^^ (s.b &&& s.c)
  ⟨t + (mixA + majority), s.a, s.b, s.c, s.d + t, s.e, s.f, s.g⟩

/-- The word that follows a window of sixteen. -/
def nextWord (window : List UInt32) : UInt32 :=
  let x := window.getD 1 0
  let y := window.getD 14 0
  window.getD 0 0 + (rotateRight x 7 ^^^ rotateRight x 18 ^^^ (x >>> 3)) + window.getD 9 0 +
    (rotateRight y 17 ^^^ rotateRight y 19 ^^^ (y >>> 10))

/-- The rounds with the given constants, over a window of words. -/
def Digest.rounds : List UInt32 → List UInt32 → Digest → Digest
  | k :: ks, w :: ws, s => rounds ks (ws ++ [nextWord (w :: ws)]) (s.round (k + w))
  | _, _, s => s

/-- Works a block in. -/
def Digest.compress (s : Digest) (block : List UInt8) : Digest :=
  let t := Digest.rounds roundConstants (wordsOfBytes block) s
  ⟨s.a + t.a, s.b + t.b, s.c + t.c, s.d + t.d, s.e + t.e, s.f + t.f, s.g + t.g, s.h + t.h⟩

/-! ### A message -/

/-- The bytes of a number, the highest first, in a given number of them. -/
def bigEndian : Nat → Nat → List UInt8
  | 0, _ => []
  | width + 1, n => bigEndian width (n / 256) ++ [UInt8.ofNat n]

/-- A message filled up to whole blocks. -/
def fillUp (message : List UInt8) : List UInt8 :=
  message ++ 0x80 :: (List.replicate ((119 - message.length % 64) % 64) 0 ++
    bigEndian 8 (8 * message.length))

/-- Works a number of blocks in. -/
def Digest.compressAll : Nat → Digest → List UInt8 → Digest
  | 0, s, _ => s
  | n + 1, s, bytes => compressAll n (s.compress (bytes.take 64)) (bytes.drop 64)

/-- The bytes of the eight words. -/
def Digest.toBytes (s : Digest) : List UInt8 :=
  [s.a, s.b, s.c, s.d, s.e, s.f, s.g, s.h].flatMap bytesOfWord

/-- **The hash of a message.** -/
def sha256 (message : List UInt8) : List UInt8 :=
  let bytes := fillUp message
  (Digest.compressAll (bytes.length / 64) Digest.first bytes).toBytes

@[simp] theorem length_sha256 (message : List UInt8) : (sha256 message).length = 32 := rfl

/-! ### The code of a message -/

/-- A key in a whole block: a longer one is hashed first. -/
def keyBlock (key : List UInt8) : List UInt8 :=
  let short := if key.length ≤ 64 then key else sha256 key
  short ++ List.replicate (64 - short.length) 0

/-- **The code of a message under a key.** -/
def hmacSha256 (key message : List UInt8) : List UInt8 :=
  let block := keyBlock key
  sha256 (block.map (· ^^^ 0x5c) ++ sha256 (block.map (· ^^^ 0x36) ++ message))

end QuizAttempts
