import CallGuard.Filter.Pattern.Class
import CallGuard.Text.Alphabetic

/-!
# Patterns for the value of a field

A pattern is a regular expression: characters, escapes, classes, points, edges and groups, with `|`
between alternatives and the signs `?`, `*` and `+` after what may come more or less often. A group
may have a name, or flags of its own. Counts in braces are missing, because a closing brace ends the
field that the pattern stands in.

`Pattern.check` reads a pattern from left to right. What is open is kept as a stack of frames, and
of what is read only its depth.
-/

namespace CallGuard

/-- Why a text is no pattern. -/
inductive PatternError where
  /-- It is not formed as a pattern, or asks for what is not at hand. -/
  | malformed
  /-- It asks for an edge of a word of Unicode. -/
  | wordEdge
deriving DecidableEq

/-- What is wrong, in words. -/
def PatternError.message : PatternError → String
  | .malformed => "error building NFA"
  | .wordEdge =>
    "unsupported regex feature for DFAs: cannot build DFAs for regexes with Unicode word " ++
      "boundaries; switch to ASCII word boundaries, or heuristically enable Unicode word " ++
      "boundaries or use a different regex engine"

namespace Pattern

/-- A part of a pattern. -/
structure Piece where
  depth : Nat
  /-- A sign for how often it comes may follow. -/
  repeatable : Bool

/-- What has been read of a group, or of the pattern outside of all groups. -/
structure Frame where
  /-- The flags in force. -/
  flags : Flags
  /-- The depths of the alternatives before. -/
  alternatives : List Nat
  /-- The parts of the alternative at hand, the last one first. -/
  pieces : List Piece

namespace Frame

/-- A frame of which nothing has been read. -/
def start (flags : Flags) : Frame := ⟨flags, [], []⟩

/-- With one more part. -/
def add (f : Frame) (depth : Nat) : Frame :=
  { f with pieces := ⟨depth, true⟩ :: f.pieces }

/-- With the flags changed from here on. -/
def change (f : Frame) (flags : Flags) : Frame :=
  { f with flags := flags, pieces := ⟨0, false⟩ :: f.pieces }

/-- With another alternative to follow. -/
def branch (f : Frame) : Frame :=
  ⟨f.flags, depthOfAll (f.pieces.map (·.depth)) :: f.alternatives, []⟩

/-- How deep the parts stand in each other. -/
def depth (f : Frame) : Nat :=
  depthOfAll f.branch.alternatives

end Frame

/-- How far a pattern has been read. -/
structure State where
  /-- The innermost group that is open. -/
  inner : Frame
  outer : List Frame
  /-- The names of groups. -/
  names : List (List Char)
  /-- An edge of a word of Unicode was asked for. -/
  usesWords : Bool

namespace State

/-- The state before anything is read. -/
def start : State := ⟨.start .start, [], [], false⟩

/-- With one more part. -/
def add (st : State) (depth : Nat) : State :=
  { st with inner := st.inner.add depth }

/-- With a group opened. -/
def openGroup (st : State) (flags : Flags) : State :=
  { st with inner := .start flags, outer := st.inner :: st.outer }

/-- With a part that stands alone. -/
def addAtom? (st : State) : Atom → Option State
  | .character c byte => if st.inner.flags.admits c byte then some (st.add 0) else none
  | .several | .edge => some (st.add 0)
  | .wordEdge => some { st.add 0 with usesWords := st.usesWords || st.inner.flags.unicode }

/-- With the last part coming more or less often. -/
def repeat? (st : State) : Option State :=
  match st.inner.pieces with
  | p :: ps =>
    if p.repeatable then
      some { st with inner := { st.inner with pieces := ⟨p.depth + 1, true⟩ :: ps } }
    else none
  | [] => none

/-- With the innermost group closed. -/
def close? (st : State) : Option State :=
  match st.outer with
  | f :: fs => some { st with inner := f.add (st.inner.depth + 1), outer := fs }
  | [] => none

end State

/-- The characters are the name of a group. -/
def isGroupName (name : List Char) : Bool :=
  match name with
  | c :: cs => (c = '_' || Text.isAlphabetic c) &&
    cs.all fun c => c ∈ ['_', '.', '[', ']'] || Text.isAlphanumeric c
  | [] => false

/-- Reads the name of a group and the sign that ends it. -/
def openNamed (st : State) (s : List Char) : Option (Parsed State s) :=
  let name := s.takeWhile (· ≠ '>')
  match h : s.dropWhile (· ≠ '>') with
  | _ :: r =>
    if isGroupName name && !st.names.contains name then
      some ⟨{ st.openGroup st.inner.flags with names := name :: st.names }, r, by
        have := length_dropWhile_le (· ≠ '>') s
        rw [h, List.length_cons] at this
        exact this⟩
    else none
  | [] => none

/-- Reads flags, which hold for a group or, if they stand alone, from here on. -/
def changeFlags (st : State) (s : List Char) : Option (Parsed State s) :=
  let isLetter := fun c : Char => c ≠ ':' && c ≠ ')'
  let named := s.takeWhile isLetter
  match h : s.dropWhile isLetter with
  | c :: r =>
    have hr : r.length < s.length := by
      have := length_dropWhile_le isLetter s
      rw [h, List.length_cons] at this
      exact this
    (st.inner.flags.change? named).bind fun flags =>
      if c = ':' then some ⟨st.openGroup flags, r, hr⟩
      else if named = [] then none
      else some ⟨{ st with inner := st.inner.change flags }, r, hr⟩
  | [] => none

/-- Reads the beginning of a group from after its parenthesis on, or flags. -/
def openGroup (st : State) (s : List Char) :
    Option { p : State × List Char // p.2.length ≤ s.length } :=
  match s with
  | '?' :: 'P' :: '<' :: r => (openNamed st r).map fun p => (p.behind ['?', 'P', '<']).pair
  | '?' :: '<' :: r => (openNamed st r).map fun p => (p.behind ['?', '<']).pair
  | '?' :: r => (changeFlags st r).map fun p => (p.after '?').pair
  | s => some ⟨(st.openGroup st.inner.flags, s), Nat.le_refl _⟩

/-- The text without a question mark at its front. After a sign for how often a part comes, that
mark makes the part come as rarely as it can. -/
def skipReluctant : List Char → List Char
  | '?' :: r => r
  | r => r

theorem length_skipReluctant_le (s : List Char) : (skipReluctant s).length ≤ s.length := by
  unfold skipReluctant
  split
  · exact Nat.le_succ _
  · exact Nat.le_refl _

/-- Reads the next part of a pattern. -/
def step (st : State) (s : List Char) : Option (Parsed State s) :=
  let f := st.inner.flags
  match s with
  | [] => none
  | '\\' :: r => do
    let a ← escape f r
    let st ← st.addAtom? a.value
    return (a.map fun _ => st).after '\\'
  | '(' :: r => (openGroup st (f.skip r)).map fun p => ⟨p.1.1, p.1.2, by
      have := f.length_skip_le r
      have := p.2
      simp
      omega⟩
  | '[' :: r => do
    let t ← openClass f r
    let p ← readClass f .start [] t.1
    return ⟨st.add p.value, p.rest, by
      have := t.2
      have := p.shorter
      simp
      omega⟩
  | c :: r =>
    if c = '?' || c = '*' || c = '+' then
      st.repeat?.map fun st => ⟨st, skipReluctant r, by
        have := length_skipReluctant_le r
        rw [List.length_cons]
        omega⟩
    else
      let next :=
        if c = ')' then st.close?
        else if c = '|' then some { st with inner := st.inner.branch }
        else if c = '\x7b' then none
        else if c = '.' then if f.unicode then some (st.add 0) else none
        else if c = '^' || c = '$' then some (st.add 0)
        else st.addAtom? (.character c false)
      next.map (.first c r)

/-- Reads a pattern to its end. -/
def scan (st : State) (s : List Char) : Option State :=
  if st.inner.flags.skip s = [] then some st
  else do
    let p ← step st (st.inner.flags.skip s)
    scan p.value p.rest
termination_by s.length
decreasing_by
  have := st.inner.flags.length_skip_le s
  have := p.shorter
  omega

/-- How deep the parts of a pattern may stand in each other. -/
def depthLimit : Nat := 250

/-- Checks that a text is a pattern that can be matched. -/
def check (text : List Char) : Except PatternError Unit :=
  match scan .start text with
  | none => .error .malformed
  | some st =>
    if st.outer ≠ [] then .error .malformed
    else if depthLimit < st.inner.depth then .error .malformed
    else if st.usesWords then .error .wordEdge
    else .ok ()

end Pattern

end CallGuard
