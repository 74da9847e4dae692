/-!
# Request targets

What a request is for: a path and perhaps a query. A target begins with its path, or it is
a whole address, with a scheme and an authority before the path. It may also be a star, or
an authority alone, which has no path. A fragment at the end does not belong to it.
-/
namespace PredictiveScaling.Http

structure Target where
  path : String
  query : Option String
deriving DecidableEq, Repr

namespace Target

/-- The longest target that is read, in bytes. -/
def maxLength : Nat := 65534

def between (lo hi : Nat) (c : Char) : Bool := lo ≤ c.toNat && c.toNat ≤ hi

/-- Characters of a path, all those beyond ASCII included. -/
def isPathChar (c : Char) : Bool :=
  c == '!' || c == '\u0022' || between 0x24 0x3b c || c == '=' || between 0x40 0x5f c ||
    (0x61 ≤ c.toNat && c != '\x7f')

/-- Characters of a query, all those beyond ASCII included. -/
def isQueryChar (c : Char) : Bool :=
  c == '!' || between 0x24 0x3b c || c == '=' || 0x3f ≤ c.toNat

/-- A query behind its mark. -/
def readQuery? (path : List Char) (cs : List Char) : Option Target :=
  let q := cs.takeWhile (· ≠ '#')
  if q.all isQueryChar then some ⟨String.ofList path, some (String.ofList q)⟩ else none

/-- A path and what follows it; an empty path is the root. -/
def readPath? (cs : List Char) : Option Target :=
  let p := cs.takeWhile fun c => c ≠ '?' ∧ c ≠ '#'
  let path := if p.isEmpty then ['/'] else p
  if p.all isPathChar then
    match cs.drop p.length with
    | '?' :: rest => readQuery? path rest
    | _ => some ⟨String.ofList path, none⟩
  else none

/-! ## Whole addresses -/

def isSchemeChar (c : Char) : Bool := c.isAlphanum || c == '+' || c == '-' || c == '.'

/-- Characters of an authority that are neither counted nor marks. -/
def isHostChar (c : Char) : Bool :=
  c.isAlphanum || "!$&'()*+,-.;=_~".toList.contains c

/-- What has been seen of an authority. -/
structure AuthorityScan where
  colons : Nat
  opened : Bool
  closed : Bool
  percent : Bool
  /-- Whether the last character was the mark behind a user. -/
  afterUser : Bool

/-- Take in one character of an authority. Colons and percent signs of a user or of an
address in brackets do not count. -/
def AuthorityScan.step (s : AuthorityScan) (c : Char) : Option AuthorityScan :=
  let s := { s with afterUser := false }
  if c = ':' then (if s.colons < 8 then some { s with colons := s.colons + 1 } else none)
  else if c = '[' then (if s.percent || s.opened then none else some { s with opened := true })
  else if c = ']' then
    (if s.opened && !s.closed then some { s with closed := true, colons := 0, percent := false }
      else none)
  else if c = '@' then some { s with colons := 0, percent := false, afterUser := true }
  else if c = '%' then some { s with percent := true }
  else if isHostChar c then some s
  else none

/-- Whether a text is an authority: a host, perhaps with a user before and a port behind. -/
def isAuthority (cs : List Char) : Bool :=
  match cs.foldlM AuthorityScan.step ⟨0, false, false, false, false⟩ with
  | some s => s.opened == s.closed && s.colons ≤ 1 && !s.afterUser && !s.percent
  | none => false

/-- What follows a scheme and its marks. -/
def dropScheme? (cs : List Char) : Option (List Char) :=
  match cs.dropWhile isSchemeChar with
  | ':' :: '/' :: '/' :: rest => some rest
  | _ => none

/-- A whole address, or an authority alone. -/
def readAddress? (cs : List Char) : Option Target :=
  match dropScheme? cs with
  | some rest =>
    let authority := rest.takeWhile fun c => c ≠ '/' ∧ c ≠ '?' ∧ c ≠ '#'
    if (cs.takeWhile isSchemeChar).length ≤ 64 ∧ !authority.isEmpty ∧ isAuthority authority then
      readPath? (rest.drop authority.length)
    else none
  | none => if isAuthority cs then some ⟨"", none⟩ else none

/-- The target that a text is. -/
def parse? (s : String) : Option Target :=
  if s.utf8ByteSize > maxLength then none
  else
    match s.toList with
    | [] => none
    | ['*'] => some ⟨"*", none⟩
    | '/' :: cs => readPath? ('/' :: cs)
    | cs => readAddress? cs

end Target

end PredictiveScaling.Http
