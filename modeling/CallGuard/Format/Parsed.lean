/-!
# Reading from the front of a text

A reader that succeeds has a value and the rest of the text, which is shorter than the text it was
given. A reader that calls itself on a rest therefore comes to an end.
-/

namespace CallGuard

/-- What a reader found at the front of `s`. -/
structure Parsed (α : Type) (s : List Char) where
  value : α
  /-- What follows. -/
  rest : List Char
  shorter : rest.length < s.length

namespace Parsed

variable {α β : Type} {s t : List Char}

/-- The same with the value changed. -/
def map (f : α → β) (p : Parsed α s) : Parsed β s :=
  ⟨f p.value, p.rest, p.shorter⟩

/-- The same as found at the front of a text that is at least as long. -/
def widen (p : Parsed α s) (h : s.length ≤ t.length) : Parsed α t :=
  ⟨p.value, p.rest, Nat.lt_of_lt_of_le p.shorter h⟩

/-- A value for the character at the front. -/
def first (c : Char) (r : List Char) (a : α) : Parsed α (c :: r) :=
  ⟨a, r, Nat.lt_succ_self _⟩

/-- The same as found after one more character. -/
def after (p : Parsed α s) (c : Char) : Parsed α (c :: s) :=
  p.widen (Nat.le_succ _)

/-- The same as found after more characters. -/
def behind (p : Parsed α s) (w : List Char) : Parsed α (w ++ s) :=
  p.widen (by rw [List.length_append]; exact Nat.le_add_left _ _)

/-- What was found in the rest that another reader left. -/
def follow (p : Parsed α s) (q : Parsed β p.rest) : Parsed β s :=
  ⟨q.value, q.rest, Nat.lt_trans q.shorter p.shorter⟩

/-- What was found with what follows, which is not longer. -/
def pair (p : Parsed α s) : { q : α × List Char // q.2.length ≤ s.length } :=
  ⟨(p.value, p.rest), Nat.le_of_lt p.shorter⟩

theorem rest_lt_backslash (p : Parsed α s) : p.rest.length < ('\\' :: s).length :=
  (p.after _).shorter

end Parsed

theorem length_lt_cons (c : Char) (r : List Char) : r.length < (c :: r).length :=
  Nat.lt_succ_self _

theorem length_of_eq_cons {c : Char} {s r : List Char} (h : s = c :: r) :
    s.length = r.length + 1 := by
  rw [h, List.length_cons]

theorem length_dropWhile_le {α : Type} (p : α → Bool) (l : List α) :
    (l.dropWhile p).length ≤ l.length := by
  induction l with
  | nil => simp
  | cons a l ih =>
    rw [List.dropWhile_cons]
    split
    · exact Nat.le_succ_of_le ih
    · exact Nat.le_refl _

/-- The character with a code point, if there is one. -/
def charOfNat? (n : Nat) : Option Char :=
  if n.isValidChar then some (Char.ofNat n) else none

end CallGuard
