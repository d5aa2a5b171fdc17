/-!
# Base64 without padding

Three bytes become four digits of the standard alphabet. One byte left over becomes two digits and
two bytes become three; no padding follows.
-/

namespace CallGuard

namespace Text

namespace Base64

/-- The digit with a given value below 64. -/
def digit (n : Nat) : Char :=
  if n < 26 then Char.ofNat (65 + n)
  else if n < 52 then Char.ofNat (97 + (n - 26))
  else if n < 62 then Char.ofNat (48 + (n - 52))
  else if n = 62 then '+' else '/'

/-- The digits of a byte string. -/
def digits : List UInt8 → List Char
  | a :: b :: c :: rest =>
    let n := a.toNat * 65536 + b.toNat * 256 + c.toNat
    digit (n / 262144) :: digit (n / 4096 % 64) :: digit (n / 64 % 64) :: digit (n % 64) ::
      digits rest
  | [a, b] =>
    let n := a.toNat * 65536 + b.toNat * 256
    [digit (n / 262144), digit (n / 4096 % 64), digit (n / 64 % 64)]
  | [a] =>
    let n := a.toNat * 65536
    [digit (n / 262144), digit (n / 4096 % 64)]
  | [] => []

/-- The unpadded Base64 text of a byte string. -/
def encode (bs : List UInt8) : String :=
  String.ofList (digits bs)

end Base64

end Text

end CallGuard
