/-!
# Form encoding

The form in which names and values stand in the query part of an address: a space is a
plus sign, letters, digits and `*-._` are themselves, and every other byte of the UTF-8
form is a percent sign with two hexadecimal digits.
-/
namespace PredictiveScaling.Text

/-- Bytes that stand for themselves. -/
def isFormByte (b : UInt8) : Bool :=
  (0x30 ≤ b && b ≤ 0x39) || (0x41 ≤ b && b ≤ 0x5a) || (0x61 ≤ b && b ≤ 0x7a) ||
    b == 0x2a || b == 0x2d || b == 0x2e || b == 0x5f

def upperHexDigit (n : Nat) : Char :=
  if n < 10 then Char.ofNat (0x30 + n) else Char.ofNat (0x37 + n)

def formByte (b : UInt8) : List Char :=
  if b = 0x20 then ['+']
  else if isFormByte b then [Char.ofNat b.toNat]
  else ['%', upperHexDigit (b.toNat / 16), upperHexDigit (b.toNat % 16)]

def formEncode (s : String) : String := String.ofList (s.toUTF8.toList.flatMap formByte)

/-- Names and values with `=` between them, and `&` between the pairs. -/
def formQuery (pairs : List (String × String)) : String :=
  "&".intercalate (pairs.map fun (name, value) => formEncode name ++ "=" ++ formEncode value)

end PredictiveScaling.Text
