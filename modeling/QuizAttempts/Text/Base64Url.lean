/-
**Bytes as text, six bits to a character.**

Three bytes are written as four characters out of an alphabet that needs no escaping in an
address.  One or two bytes at the end are written as two or three characters, and nothing is added
to fill them up. Bits of the last character that stand for no byte are zero, and reading insists
on that, so every row of bytes has one written form.

Main definitions:

* `sextetChar`, `sextet?` — the alphabet and its inverse;
* `writeBase64Url`, `readBase64Url?` — **writing and reading**.

Main results:

* `readBase64Url?_writeBase64Url` — **all bytes read back**.
-/

set_option autoImplicit false

namespace QuizAttempts

/-! ### The alphabet -/

/-- The character of six bits. -/
def sextetChar (n : Nat) : Char :=
  if n < 26 then Char.ofNat (n + 65)
  else if n < 52 then Char.ofNat (n - 26 + 97)
  else if n < 62 then Char.ofNat (n - 52 + 48)
  else if n = 62 then '-'
  else '_'

/-- The six bits of a character. -/
def sextet? (c : Char) : Option Nat :=
  if 'A' ≤ c ∧ c ≤ 'Z' then some (c.toNat - 65)
  else if 'a' ≤ c ∧ c ≤ 'z' then some (c.toNat - 97 + 26)
  else if '0' ≤ c ∧ c ≤ '9' then some (c.toNat - 48 + 52)
  else if c = '-' then some 62
  else if c = '_' then some 63
  else none

theorem sextet?_sextetChar_fin (n : Fin 64) : sextet? (sextetChar n) = some n.val := by
  revert n
  decide

theorem sextet?_sextetChar {n : Nat} (h : n < 64) : sextet? (sextetChar n) = some n :=
  sextet?_sextetChar_fin ⟨n, h⟩

/-! ### Writing and reading -/

/-- **Bytes as text.** -/
def writeBase64Url : List UInt8 → List Char
  | [] => []
  | [a] => [sextetChar (a.toNat / 4), sextetChar (a.toNat % 4 * 16)]
  | [a, b] =>
      [sextetChar (a.toNat / 4), sextetChar (a.toNat % 4 * 16 + b.toNat / 16),
        sextetChar (b.toNat % 16 * 4)]
  | a :: b :: c :: rest =>
      sextetChar (a.toNat / 4) :: sextetChar (a.toNat % 4 * 16 + b.toNat / 16) ::
        sextetChar (b.toNat % 16 * 4 + c.toNat / 64) :: sextetChar (c.toNat % 64) ::
          writeBase64Url rest

/-- The bytes of sextets; absent when one is left over, or when leftover bits are not zero. -/
def joinSextets? : List Nat → Option (List UInt8)
  | [] => some []
  | [_] => none
  | [p, q] => if q % 16 = 0 then some [UInt8.ofNat (p * 4 + q / 16)] else none
  | [p, q, r] =>
      if r % 4 = 0 then
        some [UInt8.ofNat (p * 4 + q / 16), UInt8.ofNat (q % 16 * 16 + r / 4)]
      else none
  | p :: q :: r :: s :: rest =>
      (joinSextets? rest).map fun bytes =>
        UInt8.ofNat (p * 4 + q / 16) :: UInt8.ofNat (q % 16 * 16 + r / 4) ::
          UInt8.ofNat (r % 4 * 64 + s) :: bytes

/-- **The bytes of a text.** -/
def readBase64Url? (text : List Char) : Option (List UInt8) :=
  (text.mapM sextet?).bind joinSextets?

/-! ### Reading what was written -/

/-- The sextets of bytes. -/
def splitSextets : List UInt8 → List Nat
  | [] => []
  | [a] => [a.toNat / 4, a.toNat % 4 * 16]
  | [a, b] => [a.toNat / 4, a.toNat % 4 * 16 + b.toNat / 16, b.toNat % 16 * 4]
  | a :: b :: c :: rest =>
      a.toNat / 4 :: (a.toNat % 4 * 16 + b.toNat / 16) :: (b.toNat % 16 * 4 + c.toNat / 64) ::
        (c.toNat % 64) :: splitSextets rest

theorem writeBase64Url_eq_map (bytes : List UInt8) :
    writeBase64Url bytes = (splitSextets bytes).map sextetChar := by
  fun_induction writeBase64Url bytes with
  | case1 => rfl
  | case2 => rfl
  | case3 => rfl
  | case4 a b c rest ih => simp [splitSextets, ih]

theorem splitSextets_lt (bytes : List UInt8) : ∀ n ∈ splitSextets bytes, n < 64 := by
  fun_induction splitSextets bytes with
  | case1 => simp
  | case2 a =>
      have := a.toNat_lt
      simp only [List.mem_cons, List.not_mem_nil, or_false, forall_eq_or_imp, forall_eq]
      omega
  | case3 a b =>
      have := a.toNat_lt
      have := b.toNat_lt
      simp only [List.mem_cons, List.not_mem_nil, or_false, forall_eq_or_imp, forall_eq]
      omega
  | case4 a b c rest ih =>
      have := a.toNat_lt
      have := b.toNat_lt
      have := c.toNat_lt
      simp only [List.mem_cons, forall_eq_or_imp]
      exact ⟨by omega, by omega, by omega, by omega, ih⟩

theorem mapM_sextet? {ns : List Nat} (h : ∀ n ∈ ns, n < 64) :
    (ns.map sextetChar).mapM sextet? = some ns := by
  induction ns with
  | nil => rfl
  | cons n ns ih =>
      simp [sextet?_sextetChar (h n (List.mem_cons_self ..)),
        ih fun m hm => h m (List.mem_cons_of_mem _ hm)]

theorem ofNat_eq_of_eq_toNat {n : Nat} {a : UInt8} (h : n = a.toNat) : UInt8.ofNat n = a := by
  subst h
  simp

theorem joinSextets?_splitSextets (bytes : List UInt8) :
    joinSextets? (splitSextets bytes) = some bytes := by
  fun_induction splitSextets bytes with
  | case1 => rfl
  | case2 a =>
      have := a.toNat_lt
      rw [joinSextets?, if_pos (by omega), ofNat_eq_of_eq_toNat (a := a) (by omega)]
  | case3 a b =>
      have := a.toNat_lt
      have := b.toNat_lt
      rw [joinSextets?, if_pos (by omega), ofNat_eq_of_eq_toNat (a := a) (by omega),
        ofNat_eq_of_eq_toNat (a := b) (by omega)]
  | case4 a b c rest ih =>
      have := a.toNat_lt
      have := b.toNat_lt
      have := c.toNat_lt
      rw [joinSextets?, ih, ofNat_eq_of_eq_toNat (a := a) (by omega),
        ofNat_eq_of_eq_toNat (a := b) (by omega), ofNat_eq_of_eq_toNat (a := c) (by omega)]
      rfl

/-- **All bytes read back.** -/
@[simp] theorem readBase64Url?_writeBase64Url (bytes : List UInt8) :
    readBase64Url? (writeBase64Url bytes) = some bytes := by
  rw [readBase64Url?, writeBase64Url_eq_map, mapM_sextet? (splitSextets_lt bytes)]
  exact joinSextets?_splitSextets bytes

end QuizAttempts
