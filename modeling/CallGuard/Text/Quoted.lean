import CallGuard.Text.Hex
import CallGuard.Text.Unprintable

/-!
# Quoted text

A text is quoted by writing it between double quotes with its special characters escaped:

* `Text.quote` escapes the quote, the backslash, NUL, tab, line feed and carriage return by a
  backslash and one character, and every other unprintable character by its code point in
  lower-case hexadecimal;
* `Text.quoteHeader` is the narrower rule for the values of headers: only the quote and what is
  not visible ASCII is escaped, the latter by its bytes;
* `Text.quoteBytes` is the rule for byte strings.
-/

namespace CallGuard

namespace Text

/-- The UTF-8 bytes of a text. -/
def bytes (s : String) : List UInt8 :=
  s.toUTF8.toList

/-- The text with these UTF-8 bytes, if there is one. -/
def ofBytes? (bs : List UInt8) : Option String :=
  String.fromUTF8? ⟨bs.toArray⟩

/-- How a character stands in a quoted text. -/
def escapeChar (c : Char) : List Char :=
  match c with
  | '\x00' => ['\\', '0']
  | '\t' => ['\\', 't']
  | '\n' => ['\\', 'n']
  | '\r' => ['\\', 'r']
  | '"' => ['\\', '"']
  | '\\' => ['\\', '\\']
  | c =>
    if isUnprintable c then ['\\', 'u', '\x7b'] ++ hex c.toNat ++ ['\x7d'] else [c]

/-- A text between double quotes, with its special characters escaped. -/
def quote (s : String) : String :=
  String.ofList ('"' :: s.toList.flatMap escapeChar ++ ['"'])

/-- How a byte stands in the quoted value of a header: tab and visible ASCII other than the quote
stand for themselves. -/
def escapeHeaderByte (b : UInt8) : List Char :=
  if b = 34 then ['\\', '"']
  else if (32 ≤ b && b < 127) || b = 9 then [Char.ofNat b.toNat]
  else ['\\', 'x'] ++ hex b.toNat

/-- The value of a header between double quotes. -/
def quoteHeader (s : String) : String :=
  String.ofList ('"' :: (bytes s).flatMap escapeHeaderByte ++ ['"'])

/-- How a byte stands in a quoted byte string. -/
def escapeByte (b : UInt8) : List Char :=
  match b with
  | 10 => ['\\', 'n']
  | 13 => ['\\', 'r']
  | 9 => ['\\', 't']
  | 92 => ['\\', '\\']
  | 34 => ['\\', '"']
  | 0 => ['\\', '0']
  | b => if 32 ≤ b && b < 127 then [Char.ofNat b.toNat] else ['\\', 'x'] ++ hexByte b

/-- A byte string: the letter `b` and its bytes between double quotes. -/
def quoteBytes (bs : List UInt8) : String :=
  String.ofList ('b' :: '"' :: bs.flatMap escapeByte ++ ['"'])

end Text

end CallGuard
