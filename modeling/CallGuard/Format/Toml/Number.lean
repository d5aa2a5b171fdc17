import CallGuard.Text.Hex
import CallGuard.Text.Number

/-!
# Numbers in a TOML document

An integer is written in decimal, perhaps with a sign and without needless zeros in front, or
without a sign in another base after `0x`, `0o` or `0b`. It has to fit into 64 bits, one of them for
the sign. A float is a decimal integer with a fraction or an exponent or both, or the word `inf` or
`nan`, perhaps with a sign. It must not be so large that the nearest double is the positive
infinity. Between two digits may stand an underscore.
-/

namespace CallGuard

namespace Toml

/-- The character is a digit in a base up to sixteen. -/
def isDigitOf (base : Nat) (c : Char) : Bool :=
  match Text.hexDigit? c with
  | some d => d < base
  | none => false

/-- The characters are digits of a base, at least one, with single underscores between them. -/
def areDigits (base : Nat) : List Char → Bool
  | [] => false
  | [c] => isDigitOf base c
  | c :: '_' :: cs => isDigitOf base c && areDigits base cs
  | c :: cs => isDigitOf base c && areDigits base cs

/-- The number that digits of a base stand for; underscores do not count. -/
def numberOf (base : Nat) (cs : List Char) : Nat :=
  (cs.filterMap Text.hexDigit?).foldl (fun n d => n * base + d) 0

/-- The characters are decimal digits without needless zeros in front. -/
def isDecimal (cs : List Char) : Bool :=
  areDigits 10 cs && (cs = ['0'] || cs.head? ≠ some '0')

/-- The number of integers of 64 bits that are not negative, as many as are negative. -/
def integers : Nat := Nat.pow 2 63

/-- The characters are an integer that fits into 64 bits. -/
def isInteger : List Char → Bool
  | '0' :: 'x' :: ds => areDigits 16 ds && numberOf 16 ds < integers
  | '0' :: 'o' :: ds => areDigits 8 ds && numberOf 8 ds < integers
  | '0' :: 'b' :: ds => areDigits 2 ds && numberOf 2 ds < integers
  | '-' :: ds => isDecimal ds && numberOf 10 ds ≤ integers
  | '+' :: ds => isDecimal ds && numberOf 10 ds < integers
  | ds => isDecimal ds && numberOf 10 ds < integers

/-- The double next to `n · 10 ^ scale` is finite, for the number `n` that the digits stand for. A
number below `2 ^ 1024 - 2 ^ 970` is nearer to the largest double than to the power of two after
it. Only numbers with 309 digits before the point have to be compared with that. -/
def isFinite (digits : List Char) (scale : Int) : Bool :=
  let ds := (digits.filter Char.isDigit).dropWhile (· = '0')
  let places := ds.length + scale
  ds = [] || places < 309 || (places = 309 &&
    numberOf 10 ds * Nat.pow 10 scale.toNat <
      (Nat.pow 2 1024 - Nat.pow 2 970) * Nat.pow 10 (-scale).toNat)

/-- The characters are a float. -/
def isFloat (cs : List Char) : Bool :=
  let (negative, body) := Text.splitSign cs
  let (mantissa, exponent) := Text.splitAtFirst Text.isExponentSign body
  let (whole, fraction) := Text.splitAtFirst (· = '.') mantissa
  let (down, power) := Text.splitSign (exponent.getD [])
  let shift : Int := if down then -(numberOf 10 power : Int) else numberOf 10 power
  let places := ((fraction.getD []).filter Char.isDigit).length
  body = ['i', 'n', 'f'] || body = ['n', 'a', 'n'] ||
    ((fraction.isSome || exponent.isSome) && isDecimal whole && fraction.all (areDigits 10) &&
      (exponent.isNone || areDigits 10 power) &&
      (negative || isFinite (whole ++ fraction.getD []) (shift - places)))

end Toml

end CallGuard
