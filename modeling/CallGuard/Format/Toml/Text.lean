import CallGuard.Format.Toml.Line
import CallGuard.Text.Hex

/-!
# Texts in a TOML document

A text stands between double or single quotes, one of them or three. Only between double quotes does
the backslash escape characters. Between three quotes there may be line breaks, of which one right
after the opening quotes does not count; one or two quotes are part of the text, also right before
the closing ones. There a backslash at the end of a line swallows all white space that follows.
-/

namespace CallGuard

namespace Toml

/-- The character whose code point is written with a number of hexadecimal digits. -/
def codePoint (digits : Nat) (s : List Char) : Option (Parsed Char s) :=
  if h : 0 < digits ∧ digits ≤ s.length then do
    let n ← Text.hexNumber? (s.take digits)
    let c ← charOfNat? n
    return ⟨c, s.drop digits, by
      rw [List.length_drop]
      omega⟩
  else none

/-- The character that follows a backslash stands for. -/
def escape (s : List Char) : Option (Parsed Char s) :=
  match s with
  | 'u' :: r => (codePoint 4 r).map (·.after 'u')
  | 'U' :: r => (codePoint 8 r).map (·.after 'U')
  | c :: r =>
    let meant := match c with
      | '"' => some '"'
      | '\\' => some '\\'
      | 'b' => some '\x08'
      | 'f' => some '\x0c'
      | 'n' => some '\n'
      | 'r' => some '\r'
      | 't' => some '\t'
      | _ => none
    meant.map (.first c r)
  | [] => none

/-- The text up to a double quote. -/
def basic (s : List Char) : Option (Parsed (List Char) s) :=
  match s with
  | '"' :: r => some (.first '"' r [])
  | '\\' :: r => do
    let c ← escape r
    let cs ← basic c.rest
    return ((c.follow cs).map (c.value :: ·)).after '\\'
  | c :: r =>
    if isPlain c then do
      let cs ← basic r
      return (cs.map (c :: ·)).after c
    else none
  | [] => none
termination_by s.length
decreasing_by
  · exact c.rest_lt_backslash
  · exact length_lt_cons c r

/-- The text up to a single quote. -/
def literal (s : List Char) : Option (Parsed (List Char) s) :=
  match s with
  | '\'' :: r => some (.first '\'' r [])
  | c :: r =>
    if isPlain c then do
      let cs ← literal r
      return (cs.map (c :: ·)).after c
    else none
  | [] => none

/-- The end of a text between three quotes: the quotes that are still part of it, and the rest. -/
def closing (quote : Char) (s : List Char) : Option (Parsed (List Char) s) :=
  match s with
  | a :: b :: c :: r =>
    if a = quote && b = quote && c = quote then
      match r with
      | d :: e :: r' =>
        if d = quote && e = quote then some ((Parsed.first e r' [d, e]).behind [a, b, c, d])
        else if d = quote then some ((Parsed.first d (e :: r') [d]).behind [a, b, c])
        else some ((Parsed.first c (d :: e :: r') []).behind [a, b])
      | [d] =>
        if d = quote then some ((Parsed.first d [] [d]).behind [a, b, c])
        else some ((Parsed.first c [d] []).behind [a, b])
      | [] => some ((Parsed.first c [] []).behind [a, b])
    else none
  | _ => none

/-- The text without leading blanks and line breaks. -/
def skipWhite (s : List Char) : List Char :=
  s.dropWhile fun c => isBlank c || c = '\n'

theorem length_skipWhite_le {r r' : List Char} (h : skipBlanks r = '\n' :: r') :
    (skipWhite r').length ≤ r.length := by
  have hr := length_skipBlanks_le r
  have hr' := length_dropWhile_le (fun c => isBlank c || c = '\n') r'
  rw [length_of_eq_cons h] at hr
  rw [skipWhite]
  omega

/-- The text up to three double quotes. -/
def longBasic (s : List Char) : Option (Parsed (List Char) s) :=
  match closing '"' s with
  | some p => some p
  | none =>
    match s with
    | '\\' :: r =>
      match _h : skipBlanks r with
      | '\n' :: r' => do
        let cs ← longBasic (skipWhite r')
        return (cs.widen (length_skipWhite_le _h)).after '\\'
      | _ => do
        let c ← escape r
        let cs ← longBasic c.rest
        return ((c.follow cs).map (c.value :: ·)).after '\\'
    | c :: r =>
      if isPlain c || c = '\n' then do
        let cs ← longBasic r
        return (cs.map (c :: ·)).after c
      else none
    | [] => none
termination_by s.length
decreasing_by
  · exact Nat.lt_succ_of_le (length_skipWhite_le _h)
  · exact c.rest_lt_backslash
  · exact length_lt_cons c r

/-- The text up to three single quotes. -/
def longLiteral (s : List Char) : Option (Parsed (List Char) s) :=
  match closing '\'' s with
  | some p => some p
  | none =>
    match s with
    | c :: r =>
      if isPlain c || c = '\n' then do
        let cs ← longLiteral r
        return (cs.map (c :: ·)).after c
      else none
    | [] => none

/-- The text without a line break at its front. -/
def dropBreak : List Char → List Char
  | '\n' :: r => r
  | r => r

theorem length_dropBreak_le (s : List Char) : (dropBreak s).length ≤ s.length := by
  unfold dropBreak
  split <;> simp

/-- A text that begins with its quotes. -/
def text (s : List Char) : Option (Parsed String s) :=
  match s with
  | '"' :: '"' :: '"' :: r =>
    (longBasic (dropBreak r)).map fun p => (p.map String.ofList).widen (by
      have := length_dropBreak_le r
      simp
      omega)
  | '"' :: r => (basic r).map fun p => (p.map String.ofList).after '"'
  | '\'' :: '\'' :: '\'' :: r =>
    (longLiteral (dropBreak r)).map fun p => (p.map String.ofList).widen (by
      have := length_dropBreak_le r
      simp
      omega)
  | '\'' :: r => (literal r).map fun p => (p.map String.ofList).after '\''
  | _ => none

end Toml

end CallGuard
