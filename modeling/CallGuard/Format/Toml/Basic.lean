import CallGuard.Format.Toml.Key
import CallGuard.Format.Toml.Scalar
import CallGuard.Format.Toml.Table

/-!
# Reading TOML

`Toml.read` reads a document, which may begin with a byte order mark. Arrays of tables are refused.

A table between braces stands on one line and has no comma after its last entry. An array may span
lines, with comments, and may have such a comma. Such values may stand in each other fewer than
`Toml.depthLimit` deep.
-/

namespace CallGuard

namespace Toml

mutual

/-- A value that begins right here, in which arrays and tables may stand up to `room` deep. -/
def value (room : Nat) (s : List Char) : Option (Parsed Value s) :=
  match s with
  | 't' :: 'r' :: 'u' :: 'e' :: r => some ((Parsed.first 'e' r (.bool true)).behind ['t', 'r', 'u'])
  | 'f' :: 'a' :: 'l' :: 's' :: 'e' :: r =>
    some ((Parsed.first 'e' r (.bool false)).behind ['f', 'a', 'l', 's'])
  | '[' :: r =>
    if room = 0 then none
    else match _h : skipLines r with
      | ']' :: r' => some ⟨.list [], r', by
          have := length_skipLines_le r
          rw [_h, List.length_cons] at this
          rw [List.length_cons]
          omega⟩
      | _ => (elements (room - 1) r).map fun p => (p.map Value.list).after '['
  | '\x7b' :: r =>
    if room = 0 then none
    else match _h : skipBlanks r with
      | '\x7d' :: r' => some ⟨.table .inline [], r', by
          have := length_skipBlanks_le r
          rw [_h, List.length_cons] at this
          rw [List.length_cons]
          omega⟩
      | _ => (pairs (room - 1) [] r).map fun p => (p.map (Value.table .inline)).after '\x7b'
  | s => (text s).map (·.map Value.text) <|> (scalar s).map (·.map Value.scalar)
termination_by (s.length, 0)

/-- The values of an array up to its closing bracket, at least one. -/
def elements (room : Nat) (s : List Char) : Option (Parsed (List Value) s) := do
  let v ← (value room (skipLines s)).map (·.widen (length_skipLines_le s))
  let c ← sign v.rest
  if c.value = ']' then
    return (v.follow c).map fun _ => [v.value]
  else if c.value = ',' then
    match (sign c.rest).filter (·.value = ']') with
    | some p => return (v.follow (c.follow p)).map fun _ => [v.value]
    | none =>
      let vs ← elements room c.rest
      return (v.follow (c.follow vs)).map (v.value :: ·)
  else none
termination_by (s.length, 1)
decreasing_by
  · have := length_skipLines_le s
    omega
  · have := (v.follow c).shorter
    exact Prod.Lex.left _ _ this

/-- The entries of a table up to its closing brace, at least one, put below those at hand. -/
def pairs (room : Nat) (es : Entries) (s : List Char) : Option (Parsed Entries s) := do
  let k ← key s
  match _h : k.rest with
  | '=' :: r =>
    let v ← value room (skipBlanks r)
    let es ← put v.value k.value es
    match _h' : skipBlanks v.rest with
    | '\x7d' :: r' => return ⟨es, r', by
        have := length_skipBlanks_le r
        have := length_skipBlanks_le v.rest
        have := k.shorter
        have := v.shorter
        have := length_of_eq_cons _h
        have := length_of_eq_cons _h'
        omega⟩
    | ',' :: r' =>
      let rest ← pairs room es r'
      return ⟨rest.value, rest.rest, by
        have := length_skipBlanks_le r
        have := length_skipBlanks_le v.rest
        have := k.shorter
        have := v.shorter
        have := rest.shorter
        have := length_of_eq_cons _h
        have := length_of_eq_cons _h'
        omega⟩
    | _ => none
  | _ => none
termination_by (s.length, 1)
decreasing_by
  · have := length_skipBlanks_le r
    have := k.shorter
    have := length_of_eq_cons _h
    omega
  · have := length_skipBlanks_le r
    have := length_skipBlanks_le v.rest
    have := k.shorter
    have := v.shorter
    have := length_of_eq_cons _h
    have := length_of_eq_cons _h'
    omega

end

/-- Reads lines, given the place of the table they belong to and the entries before them. -/
def lines (place : List String) (es : Entries) (s : List Char) : Option Entries :=
  if _hs : s = [] then some es
  else
    match _h : endLine s with
    | some rest => lines place es rest
    | none =>
      match _h₁ : skipBlanks s with
      | '[' :: r => do
        let k ← key r
        match _h₂ : k.rest with
        | ']' :: r' =>
          let es ← openTable k.value es
          match _h₃ : endLine r' with
          | some rest => lines k.value es rest
          | none => none
        | _ => none
      | r => do
        let k ← key r
        match _h₂ : k.rest with
        | '=' :: r' =>
          let v ← value (depthLimit - 1) (skipBlanks r')
          let es ← within (put v.value k.value) place es
          match _h₃ : endLine v.rest with
          | some rest => lines place es rest
          | none => none
        | _ => none
termination_by s.length
decreasing_by
  · exact length_endLine_lt _h _hs
  · have := length_skipBlanks_le s
    have := length_endLine_le _h₃
    have := k.shorter
    have := length_of_eq_cons _h₁
    have := length_of_eq_cons _h₂
    omega
  · have := length_skipBlanks_le s
    have := length_skipBlanks_le r'
    have := length_endLine_le _h₃
    have := k.shorter
    have := v.shorter
    have := congrArg List.length _h₁
    have := length_of_eq_cons _h₂
    omega

/-- Reads a document. -/
def read (document : String) : Option Value :=
  let cs := match document.toList with
    | '\uFEFF' :: cs => cs
    | cs => cs
  (lines [] [] (unifyBreaks cs)).map (.table .header)

end Toml

end CallGuard
