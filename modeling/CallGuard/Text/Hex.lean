/-!
# Hexadecimal text

Numbers and bytes are written with lower-case digits. Digits are read in either case.
-/

namespace CallGuard

namespace Text

/-- A number in lower-case hexadecimal. -/
def hex (n : Nat) : List Char :=
  Nat.toDigits 16 n

/-- A byte as two lower-case hexadecimal digits. -/
def hexByte (b : UInt8) : List Char :=
  if b < 16 then '0' :: hex b.toNat else hex b.toNat

/-- Bytes as lower-case hexadecimal, two digits a byte. -/
def hexBytes (bs : List UInt8) : String :=
  String.ofList (bs.flatMap hexByte)

/-- The value of a hexadecimal digit in either case. -/
def hexDigit? (c : Char) : Option Nat :=
  if c.isDigit then some (c.toNat - '0'.toNat)
  else if 'a' ≤ c && c ≤ 'f' then some (c.toNat - 'a'.toNat + 10)
  else if 'A' ≤ c && c ≤ 'F' then some (c.toNat - 'A'.toNat + 10)
  else none

/-- The number that hexadecimal digits stand for, if all characters are such digits. -/
def hexNumber? (cs : List Char) : Option Nat :=
  cs.foldlM (fun n c => (hexDigit? c).map (n * 16 + ·)) 0

/-- The bytes that a text writes, two digits a byte. -/
def bytesOfHex? : List Char → Option (List UInt8)
  | [] => some []
  | a :: b :: cs => do
    let n ← hexNumber? [a, b]
    return UInt8.ofNat n :: (← bytesOfHex? cs)
  | [_] => none

end Text

end CallGuard
