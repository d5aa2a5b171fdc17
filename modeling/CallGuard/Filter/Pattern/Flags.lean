import CallGuard.Format.Parsed
import CallGuard.Text.Blank

/-!
# Flags of a pattern

A pattern may change its flags as it goes on. Of the flags it may name, three decide what may
follow: whether letters stand for both their cases, whether characters are those of Unicode or
single bytes, and whether white space and comments count.

The table of cases that belong together is not at hand. So when case does not count, no character
of Unicode can be asked for. And the text that is matched is always Unicode, so no byte outside of
ASCII can be asked for.
-/

namespace CallGuard

namespace Pattern

/-- The flags in force at a place of a pattern. -/
structure Flags where
  /-- Letters stand for both their cases. -/
  caseless : Bool
  /-- Characters are those of Unicode and not single bytes. -/
  unicode : Bool
  /-- White space and comments do not count. -/
  spaced : Bool

namespace Flags

/-- The flags at the beginning of a pattern. -/
def start : Flags := ⟨false, true, false⟩

/-- The flags with one of them set or unset, by its letter. The other letters change how a match is
searched for. -/
def assign (f : Flags) (value : Bool) (letter : Char) : Flags :=
  if letter = 'i' then { f with caseless := value }
  else if letter = 'u' then { f with unicode := value }
  else if letter = 'x' then { f with spaced := value }
  else f

/-- The letters of the flags. -/
def letters : List Char := ['i', 'm', 's', 'U', 'u', 'R', 'x']

/-- The flags with those changed that a text names: the ones before a minus are set, the ones after
it unset. No letter comes twice, and a minus is not the last character. -/
def change? (f : Flags) (named : List Char) : Option Flags :=
  if named.Nodup ∧ named.all (fun c => c = '-' || letters.contains c) ∧
      named.getLast? ≠ some '-' then
    let set := named.takeWhile (· ≠ '-')
    let unset := named.dropWhile (· ≠ '-')
    some (unset.foldl (·.assign false ·) (set.foldl (·.assign true ·) f))
  else none

/-- A character may be asked for on its own; `byte` tells that it is written as a byte. -/
def admits (f : Flags) (c : Char) (byte : Bool) : Bool :=
  if f.unicode then !f.caseless else c.toNat < 128 || !(byte || f.caseless)

/-- A character may be asked for as one of a class. -/
def admitsInClass (f : Flags) (c : Char) : Bool :=
  if f.unicode then !f.caseless else c.toNat < 128

/-- The complement of a set of characters may be asked for. -/
def admitsComplement (f : Flags) : Bool :=
  f.unicode

end Flags

/-- The text without leading white space and comments. A comment begins with a number sign and ends
with its line. -/
def skipSpaces (inComment : Bool) : List Char → List Char
  | [] => []
  | c :: cs =>
    if inComment then skipSpaces (c ≠ '\n') cs
    else if c = '#' then skipSpaces true cs
    else if Text.isBlank c then skipSpaces false cs
    else c :: cs

theorem length_skipSpaces_le (inComment : Bool) (s : List Char) :
    (skipSpaces inComment s).length ≤ s.length := by
  induction s generalizing inComment with
  | nil => exact Nat.le_refl _
  | cons c cs ih =>
    unfold skipSpaces
    split
    · exact Nat.le_succ_of_le (ih _)
    · split
      · exact Nat.le_succ_of_le (ih _)
      · split
        · exact Nat.le_succ_of_le (ih _)
        · exact Nat.le_refl _

/-- The text without what does not count at its front. -/
def Flags.skip (f : Flags) (s : List Char) : List Char :=
  if f.spaced then skipSpaces false s else s

theorem Flags.length_skip_le (f : Flags) (s : List Char) : (f.skip s).length ≤ s.length := by
  unfold skip
  split
  · exact length_skipSpaces_le false s
  · exact Nat.le_refl _

end Pattern

end CallGuard
