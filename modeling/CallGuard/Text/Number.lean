/-!
# Numbers in text

`Text.isNumber` tells whether a text is a number as people write one: digits, perhaps with a sign, a
point and an exponent, or a word for infinity or for no number at all.
-/

namespace CallGuard

namespace Text

/-- The sign at the front, as whether it is a minus, and what follows it. -/
def splitSign : List Char → Bool × List Char
  | '-' :: cs => (true, cs)
  | '+' :: cs => (false, cs)
  | cs => (false, cs)

/-- The characters before the first one with a property, and those after it, if there is one. -/
def splitAtFirst (p : Char → Bool) (cs : List Char) : List Char × Option (List Char) :=
  (cs.takeWhile fun c => !p c, (cs.dropWhile fun c => !p c).tail?)

/-- The character begins an exponent. -/
def isExponentSign (c : Char) : Bool :=
  c = 'e' || c = 'E'

/-- The characters are decimal digits, at least one. -/
def areDecimalDigits (cs : List Char) : Bool :=
  cs ≠ [] && cs.all Char.isDigit

/-- The text is a number. Digits may be missing on one side of the point. -/
def isNumber (cs : List Char) : Bool :=
  let body := (splitSign cs).2
  let (mantissa, exponent) := splitAtFirst isExponentSign body
  let (whole, fraction) := splitAtFirst (· = '.') mantissa
  (["inf", "infinity", "nan"].map String.toList).contains (body.map Char.toLower) ||
    (areDecimalDigits (whole ++ fraction.getD []) &&
      exponent.all fun power => areDecimalDigits (splitSign power).2)

end Text

end CallGuard
