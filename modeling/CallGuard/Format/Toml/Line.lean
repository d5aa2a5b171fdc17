import CallGuard.Format.Parsed

/-!
# Lines of a TOML document

Blanks are spaces and tabs. A line may end with a comment, in which no control character other than
the tab may stand. A line break is a line feed, before which a carriage return may stand; since that
makes no difference anywhere, `Toml.unifyBreaks` leaves it away before anything is read.
-/

namespace CallGuard

namespace Toml

/-- The text with each line break written as a lone line feed. -/
def unifyBreaks : List Char → List Char
  | '\r' :: '\n' :: cs => '\n' :: unifyBreaks cs
  | c :: cs => c :: unifyBreaks cs
  | [] => []

/-- The character is a space or a tab. -/
def isBlank (c : Char) : Bool :=
  c = ' ' || c = '\t'

/-- The character is a tab or no control character. -/
def isPlain (c : Char) : Bool :=
  c = '\t' || (32 ≤ c.toNat && c ≠ '\x7f')

/-- The text without leading blanks. -/
def skipBlanks (s : List Char) : List Char :=
  s.dropWhile isBlank

theorem length_skipBlanks_le (s : List Char) : (skipBlanks s).length ≤ s.length :=
  length_dropWhile_le isBlank s

/-- The text without a comment at its front. -/
def skipComment : List Char → List Char
  | '#' :: r => r.dropWhile isPlain
  | r => r

theorem length_skipComment_le (s : List Char) : (skipComment s).length ≤ s.length := by
  unfold skipComment
  split
  · exact Nat.le_succ_of_le (length_dropWhile_le isPlain _)
  · exact Nat.le_refl _

/-- The text after the end of the line, if only blanks and a comment stand before it. -/
def endLine (s : List Char) : Option (List Char) :=
  match skipComment (skipBlanks s) with
  | [] => some []
  | '\n' :: r => some r
  | _ => none

theorem length_endLine_lt {s r : List Char} (h : endLine s = some r) (hs : s ≠ []) :
    r.length < s.length := by
  have hb := length_skipBlanks_le s
  have hc := length_skipComment_le (skipBlanks s)
  have hp := List.length_pos_iff.2 hs
  unfold endLine at h
  split at h
  · simp only [Option.some.injEq] at h
    subst h
    exact hp
  · rename_i hr
    simp only [Option.some.injEq] at h
    subst h
    rw [hr, List.length_cons] at hc
    omega
  · simp at h

theorem length_endLine_le {s r : List Char} (h : endLine s = some r) : r.length ≤ s.length := by
  by_cases hs : s = []
  · subst hs
    simp_all [endLine, skipBlanks, skipComment]
  · exact Nat.le_of_lt (length_endLine_lt h hs)

/-- The text without leading blanks, comments and line breaks. -/
def skipLines (s : List Char) : List Char :=
  match _h : skipBlanks s with
  | '\n' :: r => skipLines r
  | '#' :: r =>
    match _h' : r.dropWhile isPlain with
    | '\n' :: r' => skipLines r'
    | _ => '#' :: r
  | r => r
termination_by s.length
decreasing_by
  · have hs := length_skipBlanks_le s
    rw [_h, List.length_cons] at hs
    omega
  · have hs := length_skipBlanks_le s
    have hr := length_dropWhile_le isPlain r
    rw [_h, List.length_cons] at hs
    rw [_h', List.length_cons] at hr
    omega

theorem length_skipLines_le (s : List Char) : (skipLines s).length ≤ s.length := by
  fun_induction skipLines s with
  | case1 s r h ih =>
    have hs := length_skipBlanks_le s
    rw [h, List.length_cons] at hs
    omega
  | case2 s r h r' h' ih =>
    have hs := length_skipBlanks_le s
    have hr := length_dropWhile_le isPlain r
    rw [h, List.length_cons] at hs
    rw [h', List.length_cons] at hr
    omega
  | case3 s r h =>
    rw [← h]
    exact length_skipBlanks_le s
  | case4 s => exact length_skipBlanks_le s

/-- The next character that is no blank, comment or line break. -/
def sign (s : List Char) : Option (Parsed Char s) :=
  match _h : skipLines s with
  | c :: r => some ⟨c, r, by
      have := length_skipLines_le s
      rw [length_of_eq_cons _h] at this
      omega⟩
  | [] => none

end Toml

end CallGuard
