/-
**Addresses.**

An address has one of three forms: a target, which starts with a slash; a host alone; or an address
in full, which is a scheme, a host and a target.  A target is a path, perhaps with a query, perhaps
with a fragment.  The path is all that a service looks at, and a host alone has none; but every part
has to be well written before anybody looks at the path.

A host may have the name of a user before it and the number of a port behind it, and it may be a
row of numbers in brackets.  The signs that close the user's name and the brackets cut it into
parts.  What stands in the last part is the host itself, in which nothing is escaped and at most one
colon is left for the port.

Main definitions:

* `Http.Address` — the three forms;
* `Http.Address.ofText`, `Http.Address.text` — **taking an address apart**, and putting it together;
* `Http.Address.isSound` — its parts are well written;
* `Http.Address.read?` — the address of a text, if it is one;
* `Http.Address.path` — what a service looks at.

Main results:

* `Http.Address.text_ofText` — nothing of the text is lost;
* `Http.Address.path_ofText_full` — **an address in full has the path of its target**.
-/
import QuizAttempts.Text.Pieces

set_option autoImplicit false

namespace QuizAttempts.Http

/-! ### The three forms -/

/-- An address; a target goes on to the end, so that path, query and fragment are in it. -/
inductive Address where
  | rooted (target : List Char)
  | hostOnly (host : List Char)
  | full (scheme host target : List Char)
  deriving DecidableEq

/-- The character may stand in the name of a scheme. -/
def isSchemeChar (c : Char) : Bool := c.isAlphanum || ['+', '-', '.', '~'].contains c

/-- The character may stand in a path: neither a query nor a fragment starts with it. -/
def staysInPath (c : Char) : Bool := c != '?' && c != '#'

/-- The character may stand in a host: no target starts with it. -/
def staysInHost (c : Char) : Bool := c != '/' && staysInPath c

/-- **An address taken apart.** -/
def Address.ofText (text : List Char) : Address :=
  if text.head? = some '/' then .rooted text
  else
    match text.dropWhile isSchemeChar with
    | ':' :: '/' :: '/' :: rest =>
        .full (text.takeWhile isSchemeChar) (rest.takeWhile staysInHost)
          (rest.dropWhile staysInHost)
    | _ => .hostOnly text

/-- The text of an address. -/
def Address.text : Address → List Char
  | .rooted target => target
  | .hostOnly host => host
  | .full scheme host target => scheme ++ ':' :: '/' :: '/' :: (host ++ target)

/-- What an address says behind the host; a host alone says nothing there. -/
def Address.target : Address → List Char
  | .rooted target | .full _ _ target => target
  | .hostOnly _ => []

/-- **The path of an address**, without query and fragment. -/
def Address.path (address : Address) : List Char := address.target.takeWhile staysInPath

theorem Address.text_ofText (text : List Char) : (ofText text).text = text := by
  unfold ofText
  split
  · rfl
  · split
    next rest h => simp [Address.text, ← h]
    next => rfl

theorem Address.ofText_full {scheme host target : List Char} (hs : scheme.all isSchemeChar)
    (hh : host.all staysInHost) :
    ofText (scheme ++ ':' :: '/' :: '/' :: (host ++ '/' :: target)) =
      .full scheme host ('/' :: target) := by
  have hscheme : ∀ c ∈ scheme, isSchemeChar c = true := List.all_eq_true.1 hs
  have hhost : ∀ c ∈ host, staysInHost c = true := List.all_eq_true.1 hh
  have hcolon : isSchemeChar ':' = false := rfl
  have hslash : staysInHost '/' = false := rfl
  have hhead : (scheme ++ ':' :: '/' :: '/' :: (host ++ '/' :: target)).head? ≠ some '/' := by
    cases scheme with
    | nil => simp
    | cons c scheme =>
        intro h
        obtain rfl : c = '/' := by simpa using h
        exact absurd (hscheme '/' (List.mem_cons_self ..)) (by decide)
  rw [ofText, if_neg hhead, List.dropWhile_append_of_pos hscheme,
    List.takeWhile_append_of_pos hscheme]
  simp [hcolon, hslash, List.dropWhile_append_of_pos hhost, List.takeWhile_append_of_pos hhost]

/-- **An address in full has the path of its target.** -/
theorem Address.path_ofText_full {scheme host target : List Char} (hs : scheme.all isSchemeChar)
    (hh : host.all staysInHost) :
    (ofText (scheme ++ ':' :: '/' :: '/' :: (host ++ '/' :: target))).path =
      (ofText ('/' :: target)).path := by
  rw [ofText_full hs hh]
  rfl

/-! ### Hosts -/

/-- The signs that may stand in hosts beside letters and digits. -/
def hostSigns : List Char :=
  ['!', '$', '%', '&', '\'', '(', ')', '*', '+', ',', '-', '.', ':', ';', '=', '@', '[', ']', '_',
    '~']

/-- The character may stand in a host. -/
def isHostChar (c : Char) : Bool := c.isAlphanum || hostSigns.contains c

/-- The sign closes a user's name or an opened bracket. -/
def closesPart (c : Char) : Bool := c == '@' || c == ']'

/-- At most so many colons stand in a part of a host. -/
def mostColons : Nat := 8

/-- A part of a host is well written: nothing is escaped before an opening bracket. -/
def isHostPart (part : List Char) : Bool :=
  part.count ':' ≤ mostColons &&
    (!part.contains '[' || !(part.takeWhile (· != '[')).contains '%')

/-- The last part is well written: one colon for the port, and nothing escaped. -/
def isLastPart (part : List Char) : Bool := part.count ':' ≤ 1 && !part.contains '%'

/-- Nothing is bracketed, or one thing. -/
def isBracketed (host : List Char) : Bool :=
  let brackets := host.filter fun c => c == '[' || c == ']'
  brackets.isEmpty || brackets == ['[', ']']

/-- **A host is well written**; something has to be left behind the user's name. -/
def isHost (host : List Char) : Bool :=
  let parts := pieces closesPart host
  !host.isEmpty && host.getLast? != some '@' && host.all isHostChar && isBracketed host &&
    parts.all isHostPart && parts.getLast?.any isLastPart

/-! ### Targets -/

/-- The character may stand in every part of a target: no blank, control character or angle
bracket. -/
def isTargetChar (c : Char) : Bool := 32 < c.toNat && c != '<' && c != '>'

/-- The character may stand in a path: all but the grave accent. -/
def isPathChar (c : Char) : Bool := isTargetChar c && c != Char.ofNat 96

/-- The character may stand in a query: all but the quote. -/
def isQueryChar (c : Char) : Bool := isTargetChar c && c != '"'

/-- **A target is well written**; anything may stand in its fragment. -/
def isTarget (target : List Char) : Bool :=
  (target.takeWhile staysInPath).all isPathChar &&
    match target.dropWhile staysInPath with
    | '?' :: query => (query.takeWhile (· != '#')).all isQueryChar
    | _ => true

/-! ### The whole -/

/-- The name of a scheme has at most so many characters. -/
def longestScheme : Nat := 64

/-- **The parts of an address are well written.** -/
def Address.isSound : Address → Bool
  | .rooted target => isTarget target
  | .hostOnly host => isHost host
  | .full scheme host target => scheme.length ≤ longestScheme && isHost host && isTarget target

/-- An address has at most so many bytes. -/
def longestAddress : Nat := 65534

/-- **The address of a text**, if it is one. -/
def Address.read? (text : String) : Option Address :=
  if text.utf8ByteSize ≤ longestAddress then some (ofText text.toList) |>.filter isSound else none

end QuizAttempts.Http
