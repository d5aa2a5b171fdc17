import CallGuard.Format.Parsed
import CallGuard.Format.Value
import CallGuard.Text.Hex

/-!
# Reading JSON

`Json.read` reads one value with white space around it. White space is blank, tab, line feed and
carriage return. In strings all control characters are escaped, and a code point beyond the
sixteenth bit is written as a pair of surrogates, never one of them alone. The entries of an object
keep their order, and a key may come more than once.
-/

namespace CallGuard

namespace Json

/-- The character is white space. -/
def isSpace (c : Char) : Bool :=
  c = ' ' || c = '\t' || c = '\n' || c = '\r'

/-- The text without leading white space. -/
def skip (s : List Char) : List Char :=
  s.dropWhile isSpace

theorem length_skip_le (s : List Char) : (skip s).length ≤ s.length :=
  length_dropWhile_le isSpace s

/-- The code unit that the four digits after `\u` stand for. -/
def unit (s : List Char) : Option (Parsed Nat s) :=
  match s with
  | a :: b :: c :: d :: r =>
    (Text.hexNumber? [a, b, c, d]).map fun n => ⟨n, r, by simp; omega⟩
  | _ => none

/-- The character that a code unit and what follows it stand for. -/
def unitChar {s : List Char} (p : Parsed Nat s) : Option (Parsed Char s) :=
  if 0xD800 ≤ p.value && p.value < 0xDC00 then
    match _h : p.rest with
    | '\\' :: 'u' :: r => do
      let low ← unit r
      if 0xDC00 ≤ low.value && low.value < 0xE000 then
        let c ← charOfNat? (0x10000 + (p.value - 0xD800) * 0x400 + (low.value - 0xDC00))
        return ⟨c, low.rest, by
          have := low.shorter
          have := p.shorter
          have := length_of_eq_cons _h
          rw [List.length_cons] at this
          omega⟩
      else none
    | _ => none
  else (charOfNat? p.value).map fun c => p.map fun _ => c

/-- The character that follows a backslash stands for. -/
def escape (s : List Char) : Option (Parsed Char s) :=
  match s with
  | 'u' :: r => (unit r).bind fun p => (unitChar p).map (·.after 'u')
  | c :: r =>
    let meant := match c with
      | '"' => some '"'
      | '\\' => some '\\'
      | '/' => some '/'
      | 'b' => some '\x08'
      | 'f' => some '\x0c'
      | 'n' => some '\n'
      | 'r' => some '\r'
      | 't' => some '\t'
      | _ => none
    meant.map (.first c r)
  | [] => none

/-- The characters up to the quote that ends a string. -/
def stringBody (s : List Char) : Option (Parsed (List Char) s) :=
  match s with
  | '"' :: r => some (.first '"' r [])
  | '\\' :: r => do
    let c ← escape r
    let cs ← stringBody c.rest
    return ((c.follow cs).map (c.value :: ·)).after '\\'
  | c :: r =>
    if c.toNat < 32 then none
    else do
      let cs ← stringBody r
      return (cs.map (c :: ·)).after c
  | [] => none
termination_by s.length
decreasing_by
  · exact c.rest_lt_backslash
  · exact length_lt_cons c r

/-- A string that begins with its quote. -/
def string (s : List Char) : Option (Parsed String s) :=
  match s with
  | '"' :: r => (stringBody r).map fun p => (p.map String.ofList).after '"'
  | _ => none

mutual

/-- A value that begins right here. -/
def value (s : List Char) : Option (Parsed Value s) :=
  match s with
  | 'n' :: 'u' :: 'l' :: 'l' :: r => some ((Parsed.first 'l' r .null).behind ['n', 'u', 'l'])
  | 't' :: 'r' :: 'u' :: 'e' :: r => some ((Parsed.first 'e' r (.bool true)).behind ['t', 'r', 'u'])
  | 'f' :: 'a' :: 'l' :: 's' :: 'e' :: r =>
    some ((Parsed.first 'e' r (.bool false)).behind ['f', 'a', 'l', 's'])
  | '[' :: r =>
    match _h : skip r with
    | ']' :: r' => some ⟨.list [], r', by
        have := length_skip_le r
        have := length_of_eq_cons _h
        rw [List.length_cons]
        omega⟩
    | _ => (elements r).map fun p => (p.map Value.list).after '['
  | '\x7b' :: r =>
    match _h : skip r with
    | '\x7d' :: r' => some ⟨.table .inline [], r', by
        have := length_skip_le r
        have := length_of_eq_cons _h
        rw [List.length_cons]
        omega⟩
    | _ => (members r).map fun p => (p.map (Value.table .inline)).after '\x7b'
  | s => (string s).map (·.map Value.text)
termination_by (s.length, 0)

/-- The values of an array up to its closing bracket, at least one. -/
def elements (s : List Char) : Option (Parsed (List Value) s) := do
  let v ← value (skip s)
  match _h : skip v.rest with
  | ']' :: r => return ⟨[v.value], r, by
      have := length_skip_le s
      have := length_skip_le v.rest
      have := v.shorter
      have := length_of_eq_cons _h
      omega⟩
  | ',' :: r =>
    let vs ← elements r
    return ⟨v.value :: vs.value, vs.rest, by
      have := length_skip_le s
      have := length_skip_le v.rest
      have := v.shorter
      have := vs.shorter
      have := length_of_eq_cons _h
      omega⟩
  | _ => none
termination_by (s.length, 1)
decreasing_by
  · have := length_skip_le s
    omega
  · have := length_skip_le s
    have := length_skip_le v.rest
    have := v.shorter
    have := length_of_eq_cons _h
    omega

/-- The entries of an object up to its closing brace, at least one. -/
def members (s : List Char) : Option (Parsed (List (String × Value)) s) := do
  let k ← string (skip s)
  match _h : skip k.rest with
  | ':' :: r =>
    let v ← value (skip r)
    match _h' : skip v.rest with
    | '\x7d' :: r' => return ⟨[(k.value, v.value)], r', by
        have := length_skip_le s
        have := length_skip_le k.rest
        have := length_skip_le r
        have := length_skip_le v.rest
        have := k.shorter
        have := v.shorter
        have := length_of_eq_cons _h
        have := length_of_eq_cons _h'
        omega⟩
    | ',' :: r' =>
      let es ← members r'
      return ⟨(k.value, v.value) :: es.value, es.rest, by
        have := length_skip_le s
        have := length_skip_le k.rest
        have := length_skip_le r
        have := length_skip_le v.rest
        have := k.shorter
        have := v.shorter
        have := es.shorter
        have := length_of_eq_cons _h
        have := length_of_eq_cons _h'
        omega⟩
    | _ => none
  | _ => none
termination_by (s.length, 1)
decreasing_by
  · have := length_skip_le s
    have := length_skip_le k.rest
    have := length_skip_le r
    have := k.shorter
    have := length_of_eq_cons _h
    omega
  · have := length_skip_le s
    have := length_skip_le k.rest
    have := length_skip_le r
    have := length_skip_le v.rest
    have := k.shorter
    have := v.shorter
    have := length_of_eq_cons _h
    have := length_of_eq_cons _h'
    omega

end

/-- Reads a text that is one value. -/
def read (text : String) : Option Value := do
  let v ← value (skip text.toList)
  if skip v.rest = [] then return v.value else none

end Json

end CallGuard
