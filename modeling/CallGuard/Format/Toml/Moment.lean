import CallGuard.Format.Toml.Number

/-!
# Dates and times in a TOML document

A date is written as `1979-05-27` and has to exist in the Gregorian calendar. A time is written as
`07:32:00`, perhaps with a fraction of the second; a minute may have a leap second. A date may have
a time behind it, after a `T` or a space, and that time may have an offset to universal time behind
it, which is `Z` or written as `+02:00`.
-/

namespace CallGuard

namespace Toml

/-- The characters are decimal digits of a number between two bounds. -/
def isBetween (least most : Nat) (ds : List Char) : Bool :=
  ds.all Char.isDigit && least ≤ numberOf 10 ds && numberOf 10 ds ≤ most

/-- The year has a twenty-ninth of February. -/
def isLeap (year : Nat) : Bool :=
  year % 4 = 0 && (year % 100 ≠ 0 || year % 400 = 0)

/-- The number of days of a month. -/
def daysOf (year month : Nat) : Nat :=
  if month = 2 then if isLeap year then 29 else 28
  else if month ∈ [4, 6, 9, 11] then 30
  else 31

/-- The characters are a date. -/
def isDate : List Char → Bool
  | [y₁, y₂, y₃, y₄, '-', m₁, m₂, '-', d₁, d₂] =>
    isBetween 0 9999 [y₁, y₂, y₃, y₄] && isBetween 1 12 [m₁, m₂] &&
      isBetween 1 (daysOf (numberOf 10 [y₁, y₂, y₃, y₄]) (numberOf 10 [m₁, m₂])) [d₁, d₂]
  | _ => false

/-- The characters are a point with digits behind it, or none at all. -/
def isFractionOrNone : List Char → Bool
  | [] => true
  | '.' :: ds => ds ≠ [] && ds.all Char.isDigit
  | _ => false

/-- The characters are a time. -/
def isTime : List Char → Bool
  | h₁ :: h₂ :: ':' :: m₁ :: m₂ :: ':' :: s₁ :: s₂ :: fraction =>
    isBetween 0 23 [h₁, h₂] && isBetween 0 59 [m₁, m₂] && isBetween 0 60 [s₁, s₂] &&
      isFractionOrNone fraction
  | _ => false

/-- The characters are an offset to universal time, or none at all. -/
def isOffsetOrNone : List Char → Bool
  | [] => true
  | [z] => z = 'Z' || z = 'z'
  | [sign, h₁, h₂, ':', m₁, m₂] =>
    (sign = '+' || sign = '-') && isBetween 0 23 [h₁, h₂] && isBetween 0 59 [m₁, m₂]
  | _ => false

/-- The characters are a time as it may stand behind a date. -/
def isTimeOfDate (cs : List Char) : Bool :=
  let inTime := fun c : Char => c.isDigit || c = ':' || c = '.'
  isTime (cs.takeWhile inTime) && isOffsetOrNone (cs.dropWhile inTime)

/-- The characters are a date, a time, or a date with a time right behind its `T`. -/
def isMoment (cs : List Char) : Bool :=
  isTime cs || (isDate (cs.take 10) && match cs.drop 10 with
    | [] => true
    | t :: time => (t = 'T' || t = 't') && isTimeOfDate time)

end Toml

end CallGuard
