import CallGuard.Filter.Pattern.Escape

/-!
# Classes of characters in a pattern

A class stands in brackets. After a caret it is the complement. Its items are characters, ranges of
characters, escapes, classes in brackets, and classes with a name such as `[:alpha:]`. Between `&&`,
`--` and `~~` stand sets that are intersected or subtracted. A hyphen stands for itself at the two
ends, and a closing bracket right at the front.

`Pattern.readClass` tells how deep a class and its parts stand in each other.
-/

namespace CallGuard

namespace Pattern

/-- How deep parts stand in each other that stand side by side; a lone part counts as itself. -/
def depthOfAll : List Nat → Nat
  | [] => 0
  | [d] => d
  | ds => ds.foldl max 0 + 1

/-- What has been read of a class. -/
structure Bracket where
  /-- Nothing but hyphens has been read. -/
  fresh : Bool
  /-- The depths of the items since the last operator. -/
  items : List Nat
  /-- The depth of all that stands before that operator. -/
  before : Option Nat

namespace Bracket

/-- A class of which nothing has been read. -/
def start : Bracket := ⟨true, [], none⟩

/-- With one more item. -/
def add (b : Bracket) (depth : Nat) : Bracket :=
  { b with fresh := false, items := depth :: b.items }

/-- With one more hyphen at the front. -/
def addHyphen (b : Bracket) : Bracket :=
  { b with items := 0 :: b.items }

/-- How deep the parts stand in each other. -/
def depth (b : Bracket) : Nat :=
  match b.before with
  | none => depthOfAll b.items
  | some d => max d (depthOfAll b.items) + 1

/-- With an operator behind. -/
def operate (b : Bracket) : Bracket :=
  ⟨false, [], some b.depth⟩

end Bracket

/-- The names of classes. -/
def classNames : List String :=
  ["alnum", "alpha", "ascii", "blank", "cntrl", "digit", "graph", "lower", "print", "punct",
    "space", "upper", "word", "xdigit"]

/-- What follows the name of a class and the end of its bracket. -/
def afterClassName (s : List Char) : Option { t : List Char // t.length ≤ s.length } :=
  classNames.findSome? fun n =>
    let written := n.toList ++ [':', ']']
    if written.isPrefixOf s then
      some ⟨s.drop written.length, by rw [List.length_drop]; exact Nat.sub_le _ _⟩
    else none

/-- A class with a name, from after its bracket on, as whether it is a complement. -/
def namedClass (s : List Char) : Option (Parsed Bool s) :=
  match s with
  | ':' :: '^' :: r => (afterClassName r).map fun t => ⟨true, t.1, by
      have := t.2
      simp
      omega⟩
  | ':' :: r => (afterClassName r).map fun t => ⟨false, t.1, by
      have := t.2
      simp
      omega⟩
  | _ => none

/-- An item of a class that is no class in brackets, nor one end of a range. -/
def classAtom (f : Flags) (s : List Char) : Option (Parsed Atom s) :=
  match s with
  | '\\' :: r => (escape f r).map (·.after '\\')
  | c :: r => some (.first c r (.character c false))
  | [] => none

/-- The item may stand in a class. -/
def Atom.fitsClass (f : Flags) : Atom → Bool
  | .character c _ => f.admitsInClass c
  | .several => true
  | .edge | .wordEdge => false

/-- The two items may be the ends of a range in a class. -/
def Atom.fitRange (f : Flags) : Atom → Atom → Bool
  | .character a _, .character b _ => f.admitsInClass a && f.admitsInClass b && a ≤ b
  | _, _ => false

/-- An item or a range. -/
def classRange (f : Flags) (s : List Char) : Option (Parsed Unit s) := do
  let a ← classAtom f s
  let single := if a.value.fitsClass f then some (a.map fun _ => ()) else none
  match h : f.skip a.rest with
  | '-' :: r =>
    if (f.skip r).head? ∈ [some ']', some '-'] then single
    else do
      let b ← classAtom f (f.skip r)
      if a.value.fitRange f b.value then
        return ⟨(), b.rest, by
          have ha := f.length_skip_le a.rest
          rw [h, List.length_cons] at ha
          have := f.length_skip_le r
          have := a.shorter
          have := b.shorter
          omega⟩
      else none
  | _ => single

/-- How far a class has been read. -/
inductive ClassState where
  /-- Within a bracket, which stands in other ones. -/
  | within (inner : Bracket) (outer : List Bracket)
  /-- Up to the last closing bracket. -/
  | closed (depth : Nat)

/-- What follows an opening bracket and perhaps a caret. -/
def openClass (f : Flags) (s : List Char) : Option { t : List Char // t.length ≤ s.length } :=
  match h : f.skip s with
  | '^' :: r =>
    if f.admitsComplement then some ⟨r, by
      have := f.length_skip_le s
      rw [h, List.length_cons] at this
      omega⟩
    else none
  | _ => some ⟨s, Nat.le_refl _⟩

/-- Reads the next item, operator or bracket of a class. -/
def classStep (f : Flags) (inner : Bracket) (outer : List Bracket) (s : List Char) :
    Option (Parsed ClassState s) :=
  match h : f.skip s with
  | [] => none
  | c :: r =>
    have hr : r.length < s.length := by
      have := f.length_skip_le s
      rw [h, List.length_cons] at this
      exact this
    if inner.fresh && c = '-' then
      if f.admitsInClass c then some ⟨.within inner.addHyphen outer, r, hr⟩ else none
    else if inner.fresh && inner.items = [] && c = ']' then
      if f.admitsInClass c then some ⟨.within (inner.add 0) outer, r, hr⟩ else none
    else if c = ']' then
      match outer with
      | [] => some ⟨.closed (inner.depth + 1), r, hr⟩
      | b :: bs => some ⟨.within (b.add (inner.depth + 1)) bs, r, hr⟩
    else if c = '[' then
      match namedClass r with
      | some p =>
        if f.admitsInClass 'a' && (!p.value || f.admitsComplement) then
          some ⟨.within (inner.add 0) outer, p.rest, Nat.lt_trans p.shorter hr⟩
        else none
      | none => (openClass f r).map fun t =>
        ⟨.within .start (inner :: outer), t.1, Nat.lt_of_le_of_lt t.2 hr⟩
    else if (c = '&' || c = '-' || c = '~') && r.head? = some c then
      some ⟨.within inner.operate outer, r.tail, by
        rw [List.length_tail]
        omega⟩
    else (classRange f (c :: r)).map fun p =>
      ⟨.within (inner.add 0) outer, p.rest, by
        have := p.shorter
        rw [List.length_cons] at this
        omega⟩

/-- Reads a class up to its closing bracket, as how deep it and its parts stand in each other. -/
def readClass (f : Flags) (inner : Bracket) (outer : List Bracket) (s : List Char) :
    Option (Parsed Nat s) := do
  let p ← classStep f inner outer s
  match p.value with
  | .closed depth => return ⟨depth, p.rest, p.shorter⟩
  | .within inner outer =>
    let q ← readClass f inner outer p.rest
    return ⟨q.value, q.rest, Nat.lt_trans q.shorter p.shorter⟩
termination_by s.length
decreasing_by exact p.shorter

end Pattern

end CallGuard
