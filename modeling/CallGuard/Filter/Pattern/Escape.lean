import CallGuard.Filter.Pattern.Flags
import CallGuard.Text.Hex

/-!
# Escapes in a pattern

After a backslash stands a character that would mean something else without it, the code point of a
character, or a letter for a control character, for a class of characters or for an edge of a text
or word. The classes of Unicode are not at hand, nor is any reference to what was matched before.
-/

namespace CallGuard

namespace Pattern

/-- What can stand alone in a pattern. -/
inductive Atom where
  /-- A character; `byte` tells that it is written as a byte. -/
  | character (c : Char) (byte : Bool)
  /-- One character of several. -/
  | several
  /-- An edge of the text or of a line. -/
  | edge
  /-- An edge of a word, or none. -/
  | wordEdge

/-- The number that hexadecimal digits stand for, one more than the given number of them. -/
def hexNumber (f : Flags) (digits : Nat) (s : List Char) : Option (Parsed Nat s) :=
  match digits with
  | 0 =>
    match h : f.skip s with
    | c :: r => (Text.hexDigit? c).map fun d => ⟨d, r, by
        have := f.length_skip_le s
        rw [h, List.length_cons] at this
        omega⟩
    | [] => none
  | digits + 1 => do
    let n ← hexNumber f digits s
    let d ← hexNumber f 0 n.rest
    return ⟨n.value * 16 + d.value, d.rest, Nat.lt_trans d.shorter n.shorter⟩

/-- The character whose code point hexadecimal digits stand for, one more than the given number of
them. -/
def hexCharacter (f : Flags) (digits : Nat) (s : List Char) : Option (Parsed Char s) := do
  let n ← hexNumber f digits s
  let c ← charOfNat? n.value
  return n.map fun _ => c

/-- The control characters with a letter of their own. -/
def controls : List (Char × Char) :=
  [('a', '\x07'), ('t', '\t'), ('n', '\n'), ('v', '\x0b'), ('f', '\x0c'), ('r', '\r')]

/-- What a single character after a backslash stands for. -/
def escaped? (f : Flags) (c : Char) : Option Atom :=
  if c ∈ ['d', 's', 'w'] then if f.unicode then none else some .several
  else if c ∈ ['A', 'z'] then some .edge
  else if c ∈ ['b', 'B', '<', '>'] then some .wordEdge
  else if c.isAlphanum then (controls.lookup c).map (.character · false)
  else if c.toNat < 128 then some (.character c false)
  else none

/-- What follows a backslash. -/
def escape (f : Flags) (s : List Char) : Option (Parsed Atom s) :=
  match s with
  | 'x' :: r => (hexCharacter f 1 r).map fun p => (p.map (.character · true)).after 'x'
  | 'u' :: r => (hexCharacter f 3 r).map fun p => (p.map (.character · false)).after 'u'
  | 'U' :: r => (hexCharacter f 7 r).map fun p => (p.map (.character · false)).after 'U'
  | c :: r => (escaped? f c).map (.first c r)
  | [] => none

end Pattern

end CallGuard
