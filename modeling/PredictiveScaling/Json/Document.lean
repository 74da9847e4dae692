import PredictiveScaling.Json.Number
import PredictiveScaling.Decimal.Layout

/-!
# JSON documents

A document is what a program holds and writes: numbers have values, strings are texts. It
is written without blanks, members in the order in which they stand. `Document.ofJson?`
takes a whole tree in: of members with one name the last counts, members are sorted by
name, and only so many containers may be nested.
-/
namespace PredictiveScaling.Json

inductive Document where
  | null
  | bool (b : Bool)
  | int (i : Int)
  | float (x : Float)
  | string (s : String)
  | array (elements : List Document)
  | object (members : List (String × Document))
deriving Repr

namespace Document

instance : Inhabited Document := ⟨.null⟩

def ofNat (n : Nat) : Document := .int n

/-- The document of an optional value; its absence is `null`. -/
def ofOption {α : Type} (f : α → Document) : Option α → Document
  | none => .null
  | some a => f a

end Document

/-! ## Writing -/

def hexDigit (n : Nat) : Char := Nat.digitChar n

/-- A character inside a string literal: only quote, backslash and control characters are
escaped. -/
def escapeChar (c : Char) : List Char :=
  if c = '"' then ['\\', '"']
  else if c = '\\' then ['\\', '\\']
  else if c.toNat = 0x08 then ['\\', 'b']
  else if c.toNat = 0x0c then ['\\', 'f']
  else if c.toNat = 0x0a then ['\\', 'n']
  else if c.toNat = 0x0d then ['\\', 'r']
  else if c.toNat = 0x09 then ['\\', 't']
  else if c.toNat < 0x20 then
    ['\\', 'u', '0', '0', hexDigit (c.toNat / 16), hexDigit (c.toNat % 16)]
  else [c]

def literalChars (s : String) : List Char :=
  '"' :: (s.toList.flatMap escapeChar ++ ['"'])

/-- A double; infinities and NaN have no JSON form and become `null`. -/
def floatText (x : Float) : String :=
  if Decimal.isFinite x then Decimal.Layout.json.render x else "null"

namespace Document

mutual

/-- The characters of a document. -/
def chars : Document → List Char
  | .null => "null".toList
  | .bool b => if b then "true".toList else "false".toList
  | .int i => (toString i).toList
  | .float x => (floatText x).toList
  | .string s => literalChars s
  | .array xs => '[' :: (elementChars xs ++ [']'])
  | .object ms => '\x7b' :: (memberChars ms ++ ['\x7d'])

def elementChars : List Document → List Char
  | [] => []
  | [x] => x.chars
  | x :: xs => x.chars ++ ',' :: elementChars xs

def memberChars : List (String × Document) → List Char
  | [] => []
  | [(k, x)] => literalChars k ++ ':' :: x.chars
  | (k, x) :: ms => literalChars k ++ ':' :: (x.chars ++ ',' :: memberChars ms)

end

/-- The compact text of a document. -/
def render (d : Document) : String := String.ofList d.chars

end Document

/-! ## Taking in a whole tree -/

/-- Put a member among others that are sorted by name, in place of one of that name. -/
def insertMember {α : Type} (k : String) (x : α) : List (String × α) → List (String × α)
  | [] => [(k, x)]
  | m :: ms =>
    if k = m.1 then (k, x) :: ms
    else if k < m.1 then (k, x) :: m :: ms
    else m :: insertMember k x ms

/-- Members sorted by name, the last one of each name. -/
def sortMembers {α : Type} (ms : List (String × α)) : List (String × α) :=
  ms.foldl (fun acc m => insertMember m.1 m.2 acc) []

def Number.toDocument : Number → Document
  | .nat n => .int n
  | .negative n => .int (-n)
  | .float x => .float x

mutual

/-- A whole tree as a document, with `room` for that many nested containers. -/
def Document.ofJson? (room : Nat) : Json → Option Document
  | .null => some .null
  | .bool b => some (.bool b)
  | .number n => n.value?.map Number.toDocument
  | .string t => t.map .string
  | .array xs => match room with
    | 0 => none
    | room + 1 => (ofElements? room xs).map .array
  | .object ms => match room with
    | 0 => none
    | room + 1 => (ofMembers? room ms).map fun ms => .object (sortMembers ms)

def Document.ofElements? (room : Nat) : List Json → Option (List Document)
  | [] => some []
  | x :: xs => do
    let d ← Document.ofJson? room x
    let ds ← Document.ofElements? room xs
    pure (d :: ds)

def Document.ofMembers? (room : Nat) :
    List (Option String × Json) → Option (List (String × Document))
  | [] => some []
  | (name, x) :: ms => do
    let k ← name
    let d ← Document.ofJson? room x
    let ds ← Document.ofMembers? room ms
    pure ((k, d) :: ds)

end

/-- How many nested containers a reader goes into. -/
def maxNesting : Nat := 127

end PredictiveScaling.Json
