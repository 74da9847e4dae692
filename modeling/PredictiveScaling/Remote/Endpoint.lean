import PredictiveScaling.Decimal.Reading
import PredictiveScaling.Text.Split

/-!
# Endpoints

Where a served model listens, or where it reports to: a TCP address or the path of a
socket. An address may say which with a scheme; without one, a host and a port number
with a colon between them and no slash anywhere is TCP and all else is a path.

Predictors that share one configured address report to paths of their own, which have a
hash of the predictor's key behind the configured path. TCP addresses are shared.
-/
namespace PredictiveScaling

/-! ## Paths -/

/-- What paths are compared by: whether they begin at the root, and the names on the way. No
link is followed, and no name is taken back by a later one. -/
structure SocketPath where
  rooted : Bool
  names : List String
deriving DecidableEq, Repr

namespace SocketPath

/-- What stands between slashes and is a name. -/
def namesOf (parts : List (List Char)) : List String :=
  (parts.filter fun part => part ≠ [] ∧ part ≠ ['.']).map String.ofList

/-- A dot stands for nothing, except at the very beginning. -/
def ofParts : List (List Char) → SocketPath
  | ['.'] :: parts => ⟨false, "." :: namesOf parts⟩
  | [] :: part :: parts => ⟨true, namesOf (part :: parts)⟩
  | parts => ⟨false, namesOf parts⟩

def ofText (text : String) : SocketPath := ofParts (Text.splitChars '/' text.toList)

theorem namesOf_append (a b : List (List Char)) : namesOf (a ++ b) = namesOf a ++ namesOf b := by
  rw [namesOf, List.filter_append, List.map_append]
  rfl

theorem ofParts_cons {parts : List (List Char)} (h : parts ≠ []) (part : List Char) :
    ofParts (part :: parts) =
      if part = ['.'] then ⟨false, "." :: namesOf parts⟩
      else if part = [] then ⟨true, namesOf parts⟩
      else ⟨false, namesOf [part] ++ namesOf parts⟩ := by
  rw [ofParts.eq_def]
  split
  · next same =>
    obtain ⟨rfl, rfl⟩ := List.cons.inj same
    rw [if_pos rfl]
  · next same =>
    obtain ⟨rfl, rfl⟩ := List.cons.inj same
    rw [if_neg (by decide), if_pos rfl]
  · next dotted rooted =>
    have ne_dot : part ≠ ['.'] := fun same => dotted parts (same ▸ rfl)
    have ne_nil : part ≠ [] := by
      rintro rfl
      obtain ⟨next, rest, rfl⟩ := List.exists_cons_of_ne_nil h
      exact rooted next rest rfl
    rw [if_neg ne_dot, if_neg ne_nil, ← namesOf_append, List.singleton_append]

/-- A slash that is repeated, and a dot between two slashes, make no other path. -/
theorem ofText_append_nameless {between : String} (nameless : between = "" ∨ between = ".")
    (a b : String) : ofText (a ++ "/" ++ between ++ "/" ++ b) = ofText (a ++ "/" ++ b) := by
  have nothing : namesOf (Text.splitChars '/' between.toList) = [] := by
    rcases nameless with rfl | rfl <;> rfl
  have slash : "/".toList = ['/'] := rfl
  have joined : ∀ s t : String, Text.splitChars '/' (s ++ "/" ++ t).toList =
      Text.splitChars '/' s.toList ++ Text.splitChars '/' t.toList := by
    intro s t
    rw [String.toList_append, String.toList_append, slash, List.append_assoc,
      List.singleton_append, Text.splitChars_append]
  have hb := Text.splitChars_ne_nil '/' b.toList
  obtain ⟨part, parts, ha⟩ := List.exists_cons_of_ne_nil (Text.splitChars_ne_nil '/' a.toList)
  have more : parts ++ Text.splitChars '/' b.toList ≠ [] := List.append_ne_nil_of_right_ne_nil _ hb
  have more' : parts ++ Text.splitChars '/' between.toList ++ Text.splitChars '/' b.toList ≠ [] :=
    List.append_ne_nil_of_right_ne_nil _ hb
  rw [ofText, ofText, joined, joined, joined, ha, List.cons_append, List.cons_append,
    List.cons_append, ofParts_cons more, ofParts_cons more']
  simp only [namesOf_append, nothing, List.append_nil]

example : ofText "/run//done" = ofText "/run/./done" ∧ ofText "./done" ≠ ofText "done" := by
  decide +kernel

end SocketPath

/-! ## Endpoints -/

inductive Endpoint where
  | tcp (address : String)
  | path (path : String)
deriving DecidableEq, Repr

/-- Where an endpoint is, in whatever way it is written. -/
inductive Site where
  | tcp (address : String)
  | path (path : SocketPath)
deriving DecidableEq, Repr

def Endpoint.site : Endpoint → Site
  | .tcp a => .tcp a
  | .path p => .path (.ofText p)

namespace Endpoint

/-- A host, which is not empty, and a port number behind the last colon. -/
def isHostAndPort (address : String) : Bool :=
  !address.toList.contains '/' &&
    match Text.splitLast? ':' address with
    | some (host, port) => !host.isEmpty && (Decimal.readNat? 65535 port).isSome
    | none => false

/-- What stands behind a scheme. -/
def afterScheme? (scheme address : String) : Option String :=
  if scheme.toList.isPrefixOf address.toList then
    some (String.ofList (address.toList.drop scheme.length))
  else none

def parse (address : String) : Endpoint :=
  match afterScheme? "tcp://" address, afterScheme? "unix://" address with
  | some a, _ => .tcp a
  | none, some p => .path p
  | none, none => if isHostAndPort address then .tcp address else .path address

/-- An endpoint with its scheme. -/
def text : Endpoint → String
  | .tcp a => "tcp://" ++ a
  | .path p => "unix://" ++ p

end Endpoint

/-! ## Addresses of one predictor -/

/-- A 64-bit hash of a text: each byte is put in by an exclusive or and a multiplication. It stands
for whatever hash a build uses; all that is relied on is that equal keys have equal hashes, and that
one is written with sixteen digits. -/
def keyHash (key : String) : UInt64 :=
  key.toUTF8.toList.foldl (fun h b => (h ^^^ b.toUInt64) * 0x100000001b3) 0xcbf29ce484222325

/-- Sixteen lower-case hexadecimal digits. -/
def hexDigits16 (n : UInt64) : String :=
  String.ofList ((List.range 16).map fun i =>
    Nat.digitChar (n.toNat / Decimal.twoTo (4 * (15 - i)) % 16))

/-- What the hash of a key adds to a path. -/
def keySuffix (key : String) : String := "." ++ hexDigits16 (keyHash key)

/-- Where the model of a predictor reports to. -/
def completionAddress (configured key : String) : String :=
  match Endpoint.parse configured with
  | .tcp _ => configured
  | .path p => p ++ keySuffix key

end PredictiveScaling
