/-!
# Splitting text

A text is split at every occurrence of a separator; there is one part more than occurrences. The
separator is a character (`Text.split`), or a character that stands twice in a row, where
occurrences are found from the left and do not overlap (`Text.splitDouble`).
`Text.behind?` takes off what a text begins with.
-/

namespace CallGuard

namespace Text

/-- The parts of a text between the occurrences of a character. -/
def split (separator : Char) : List Char → List (List Char)
  | [] => [[]]
  | c :: cs =>
    match split separator cs with
    | [] => [[c]]
    | part :: parts => if c = separator then [] :: part :: parts else (c :: part) :: parts

/-- The parts of a text between the places where a character stands twice. -/
def splitDouble (separator : Char) : List Char → List (List Char)
  | [] => [[]]
  | [c] => [[c]]
  | c :: d :: cs =>
    if c = separator ∧ d = separator then [] :: splitDouble separator cs
    else
      match splitDouble separator (d :: cs) with
      | [] => [[c]]
      | part :: parts => (c :: part) :: parts

theorem splitDouble_ne_nil (separator : Char) (cs : List Char) :
    splitDouble separator cs ≠ [] := by
  fun_cases splitDouble separator cs with
  | case1 => exact List.cons_ne_nil _ _
  | case2 => exact List.cons_ne_nil _ _
  | case3 c d cs h => exact List.cons_ne_nil _ _
  | case4 c d cs h hnil => exact List.cons_ne_nil _ _
  | case5 c d cs h part parts hparts => exact List.cons_ne_nil _ _

theorem intercalate_splitDouble (separator : Char) (cs : List Char) :
    List.intercalate [separator, separator] (splitDouble separator cs) = cs := by
  fun_induction splitDouble separator cs with
  | case1 => rfl
  | case2 c => rfl
  | case3 c d cs h ih =>
    obtain ⟨part, parts, hparts⟩ := List.exists_cons_of_ne_nil (splitDouble_ne_nil separator cs)
    rw [hparts, List.intercalate_cons_cons, ← hparts, ih, h.1, h.2]
    rfl
  | case4 c d cs h hnil => exact absurd hnil (splitDouble_ne_nil _ _)
  | case5 c d cs h part parts hparts ih =>
    rw [hparts] at ih
    cases parts with
    | nil => simpa using ih
    | cons next parts =>
      rw [List.intercalate_cons_cons] at ih ⊢
      rw [List.cons_append, List.cons_append, ih]

/-- What a text has behind a beginning. -/
def behind? : List Char → List Char → Option (List Char)
  | [], cs => some cs
  | _ :: _, [] => none
  | b :: beginning, c :: cs => if b = c then behind? beginning cs else none

theorem behind?_eq_some_iff {beginning cs rest : List Char} :
    behind? beginning cs = some rest ↔ cs = beginning ++ rest := by
  induction beginning generalizing cs with
  | nil => simp [behind?]
  | cons b beginning ih =>
    cases cs with
    | nil => simp [behind?]
    | cons c cs =>
      by_cases h : b = c
      · simp [behind?, h, ih]
      · simp [behind?, h, Ne.symm h]

end Text

end CallGuard
