import CallGuard.Format.Toml.Text

/-!
# Keys in a TOML document

A key is a sequence of names with dots between them and blanks around each, fewer than
`Toml.depthLimit` of them. A name is bare, made of letters, digits, dashes and underscores of ASCII,
or a text between single quote characters on one line.
-/

namespace CallGuard

namespace Toml

/-- The character may stand in a bare name. -/
def isBare (c : Char) : Bool :=
  c.isAlphanum || c = '-' || c = '_'

/-- A bare name. -/
def bareName (s : List Char) : Option (Parsed String s) :=
  match s with
  | c :: r =>
    if isBare c then
      some ⟨String.ofList (c :: r.takeWhile isBare), r.dropWhile isBare, by
        have := length_dropWhile_le isBare r
        simp
        omega⟩
    else none
  | [] => none

/-- One name of a key. -/
def name (s : List Char) : Option (Parsed String s) :=
  match s with
  | '"' :: r => (basic r).map fun p => (p.map String.ofList).after '"'
  | '\'' :: r => (literal r).map fun p => (p.map String.ofList).after '\''
  | s => bareName s

/-- How deep neither values nor tables may stand in each other. -/
def depthLimit : Nat := 80

/-- Names with dots between them and blanks around each. -/
def names (s : List Char) : Option (Parsed (List String) s) := do
  let n ← name (skipBlanks s)
  match _h : skipBlanks n.rest with
  | '.' :: r =>
    let ns ← names r
    return ⟨n.value :: ns.value, ns.rest, by
      have := length_skipBlanks_le s
      have := length_skipBlanks_le n.rest
      have := n.shorter
      have := ns.shorter
      have := length_of_eq_cons _h
      omega⟩
  | r => return ⟨[n.value], r, by
      have := length_skipBlanks_le s
      have := length_skipBlanks_le n.rest
      have := n.shorter
      have := congrArg List.length _h
      omega⟩
termination_by s.length
decreasing_by
  have := length_skipBlanks_le s
  have := length_skipBlanks_le n.rest
  have := n.shorter
  have := length_of_eq_cons _h
  omega

/-- The names of a key, with the blanks around it. -/
def key (s : List Char) : Option (Parsed (List String) s) :=
  (names s).filter (·.value.length < depthLimit)

end Toml

end CallGuard
