import PredictiveScaling.Json.Basic

/-!
# Reading JSON texts

`Json.parse?` turns bytes into a tree. Blanks are space, tab, line feed and carriage
return; only they may follow the value. Inside a string literal every byte from 32 up is
taken, and whether the literal denotes a text is found out at its end: its bytes have to
be UTF-8 and its escaped surrogates have to come in pairs.
-/
namespace PredictiveScaling.Json

def isBlankByte (b : UInt8) : Bool := b == 0x20 || b == 0x09 || b == 0x0a || b == 0x0d

def skipBlanks (bs : List UInt8) : List UInt8 := bs.dropWhile isBlankByte

def isDigitByte (b : UInt8) : Bool := 0x30 ≤ b && b ≤ 0x39

/-! ## String literals -/

/-- A part of a string literal: a byte, or a 16-bit unit that was written as an escape. -/
inductive Piece where
  | byte (b : UInt8)
  | unit (u : Nat)
deriving DecidableEq, Repr

def hexValue? (b : UInt8) : Option Nat :=
  if 0x30 ≤ b ∧ b ≤ 0x39 then some (b.toNat - 0x30)
  else if 0x41 ≤ b ∧ b ≤ 0x46 then some (b.toNat - 0x37)
  else if 0x61 ≤ b ∧ b ≤ 0x66 then some (b.toNat - 0x57)
  else none

/-- The byte that a one-letter escape stands for. -/
def escaped? (b : UInt8) : Option UInt8 :=
  if b = 0x22 ∨ b = 0x5c ∨ b = 0x2f then some b
  else if b = 0x62 then some 0x08
  else if b = 0x66 then some 0x0c
  else if b = 0x6e then some 0x0a
  else if b = 0x72 then some 0x0d
  else if b = 0x74 then some 0x09
  else none

/-- The pieces up to the closing quote, and the rest. -/
def scanLiteral : List UInt8 → Option (List Piece × List UInt8)
  | [] => none
  | 0x22 :: r => some ([], r)
  | 0x5c :: 0x75 :: a :: b :: c :: d :: r => do
    let w ← hexValue? a
    let x ← hexValue? b
    let y ← hexValue? c
    let z ← hexValue? d
    let (ps, rest) ← scanLiteral r
    pure (.unit (((w * 16 + x) * 16 + y) * 16 + z) :: ps, rest)
  | 0x5c :: e :: r => do
    let b ← escaped? e
    let (ps, rest) ← scanLiteral r
    pure (.byte b :: ps, rest)
  | b :: r =>
    if b < 0x20 ∨ b = 0x5c then none
    else (scanLiteral r).map fun (ps, rest) => (.byte b :: ps, rest)

def isHighSurrogate (u : Nat) : Bool := 0xd800 ≤ u && u ≤ 0xdbff

def isLowSurrogate (u : Nat) : Bool := 0xdc00 ≤ u && u ≤ 0xdfff

/-- The bytes of a literal: units become UTF-8, a pair of surrogates one character. -/
def literalBytes? : List Piece → Option (List UInt8)
  | [] => some []
  | .byte b :: ps => (literalBytes? ps).map (b :: ·)
  | .unit u :: .unit v :: ps =>
    if isHighSurrogate u then
      if isLowSurrogate v then
        let c := Char.ofNat (0x10000 + (u - 0xd800) * 0x400 + (v - 0xdc00))
        (literalBytes? ps).map (String.utf8EncodeChar c ++ ·)
      else none
    else if isLowSurrogate u then none
    else (literalBytes? (.unit v :: ps)).map (String.utf8EncodeChar (Char.ofNat u) ++ ·)
  | .unit u :: ps =>
    if isHighSurrogate u || isLowSurrogate u then none
    else (literalBytes? ps).map (String.utf8EncodeChar (Char.ofNat u) ++ ·)

/-- The text of a literal, if it denotes one. -/
def literalText? (ps : List Piece) : Option String :=
  (literalBytes? ps).bind fun bs => String.fromUTF8? ⟨bs.toArray⟩

/-- What follows an opening quote. -/
def readLiteral? (bs : List UInt8) : Option (Option String × List UInt8) :=
  (scanLiteral bs).map fun (ps, rest) => (literalText? ps, rest)

/-! ## Numerals -/

/-- The digits at the start, and the rest. -/
def spanDigits (bs : List UInt8) : List Nat × List UInt8 :=
  ((bs.takeWhile isDigitByte).map fun b => b.toNat - 0x30, bs.dropWhile isDigitByte)

/-- Digits before the point: no zero may stand in front of others. -/
def readWhole? (bs : List UInt8) : Option (List Nat × List UInt8) :=
  match spanDigits bs with
  | ([], _) => none
  | (0 :: _ :: _, _) => none
  | (ds, rest) => some (ds, rest)

/-- A point and at least one digit, or nothing. -/
def readPart? : List UInt8 → Option (Option (List Nat) × List UInt8)
  | 0x2e :: r =>
    match spanDigits r with
    | ([], _) => none
    | (ds, rest) => some (some ds, rest)
  | bs => some (none, bs)

/-- The letter for an exponent, perhaps a sign, and at least one digit, or nothing. -/
def readExponent? : List UInt8 → Option (Option (Bool × List Nat) × List UInt8)
  | [] => some (none, [])
  | b :: r =>
    if b = 0x65 ∨ b = 0x45 then
      let (minus, r) := match r with
        | 0x2d :: r => (true, r)
        | 0x2b :: r => (false, r)
        | r => (false, r)
      match spanDigits r with
      | ([], _) => none
      | (ds, rest) => some (some (minus, ds), rest)
    else some (none, b :: r)

def readNumeral? (bs : List UInt8) : Option (Numeral × List UInt8) := do
  let (negative, bs) := match bs with
    | 0x2d :: r => (true, r)
    | bs => (false, bs)
  let (whole, bs) ← readWhole? bs
  let (part, bs) ← readPart? bs
  let (exponent, bs) ← readExponent? bs
  pure (⟨negative, whole, part, exponent⟩, bs)

/-! ## Values -/

/-- Drop a word from the start. -/
def dropWord? (word : List UInt8) (bs : List UInt8) : Option (List UInt8) :=
  if word.isPrefixOf bs then some (bs.drop word.length) else none

mutual

/-- A value that may have blanks before it, and what follows it. The fuel bounds the
nesting and the number of elements; twice the length of the text is enough. -/
def readValue? : Nat → List UInt8 → Option (Json × List UInt8)
  | 0, _ => none
  | fuel + 1, bs =>
    match skipBlanks bs with
    | [] => none
    | b :: r =>
      if b = 0x22 then (readLiteral? r).map fun (t, rest) => (.string t, rest)
      else if b = 0x7b then
        match skipBlanks r with
        | 0x7d :: rest => some (.object [], rest)
        | r => (readMembers? fuel r).map fun (ms, rest) => (.object ms, rest)
      else if b = 0x5b then
        match skipBlanks r with
        | 0x5d :: rest => some (.array [], rest)
        | r => (readElements? fuel r).map fun (xs, rest) => (.array xs, rest)
      else if b = 0x6e then (dropWord? [0x75, 0x6c, 0x6c] r).map fun rest => (.null, rest)
      else if b = 0x74 then (dropWord? [0x72, 0x75, 0x65] r).map fun rest => (.bool true, rest)
      else if b = 0x66 then
        (dropWord? [0x61, 0x6c, 0x73, 0x65] r).map fun rest => (.bool false, rest)
      else (readNumeral? (b :: r)).map fun (n, rest) => (.number n, rest)

/-- Values with commas between them, up to the closing bracket. -/
def readElements? : Nat → List UInt8 → Option (List Json × List UInt8)
  | 0, _ => none
  | fuel + 1, bs =>
    match readValue? fuel bs with
    | none => none
    | some (x, rest) =>
      match skipBlanks rest with
      | 0x2c :: r => (readElements? fuel r).map fun (xs, rest) => (x :: xs, rest)
      | 0x5d :: r => some ([x], r)
      | _ => none

/-- Members with commas between them, up to the closing brace. -/
def readMembers? : Nat → List UInt8 → Option (List (Option String × Json) × List UInt8)
  | 0, _ => none
  | fuel + 1, bs =>
    match skipBlanks bs with
    | 0x22 :: r =>
      match readLiteral? r with
      | none => none
      | some (name, rest) =>
        match skipBlanks rest with
        | 0x3a :: r =>
          match readValue? fuel r with
          | none => none
          | some (x, rest) =>
            match skipBlanks rest with
            | 0x2c :: r => (readMembers? fuel r).map fun (ms, rest) => ((name, x) :: ms, rest)
            | 0x7d :: r => some ([(name, x)], r)
            | _ => none
        | _ => none
    | _ => none

end

/-- The tree of a JSON text: one value with nothing but blanks around it. -/
def parse? (bs : List UInt8) : Option Json :=
  match readValue? (2 * bs.length + 2) bs with
  | some (j, rest) => if (skipBlanks rest).isEmpty then some j else none
  | none => none

/-- The tree of a JSON text given as a string. -/
def ofText? (s : String) : Option Json := parse? s.toUTF8.toList

end PredictiveScaling.Json
