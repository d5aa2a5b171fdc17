import CallGuard.Format.Json

/-!
# What is read of a compact JSON document

A `Json.entry` is an object with one entry, written without white space. Such objects may stand in
each other.

* `Json.finds_entry` : the reader finds the entry, and leaves what follows the object;
* `Json.read_of_finds` : a document is read when nothing follows.
-/

namespace CallGuard

namespace Json

variable {α : Type} {cs r r' : List Char} {v : Value}

/-- A reader finds a value and leaves a rest. -/
def Finds {s : List Char} (x : Option (Parsed α s)) (a : α) (r : List Char) : Prop :=
  ∃ h, x = some ⟨a, r, h⟩

/-- The character stands for itself in a string. -/
def isPlain (c : Char) : Bool :=
  c ≠ '"' && c ≠ '\\' && 32 ≤ c.toNat

theorem finds_stringBody (hcs : cs.all isPlain = true) (r : List Char) :
    Finds (stringBody (cs ++ '"' :: r)) cs r := by
  induction cs with
  | nil =>
    rw [List.nil_append, stringBody]
    exact ⟨_, rfl⟩
  | cons c cs ih =>
    simp only [List.all_cons, isPlain, Bool.and_eq_true, decide_eq_true_eq] at hcs
    obtain ⟨⟨⟨hquote, hbackslash⟩, hcontrol⟩, hcs⟩ := hcs
    obtain ⟨h, hbody⟩ := ih hcs
    rw [List.cons_append, stringBody]
    · rw [if_neg (Nat.not_lt.2 hcontrol), hbody]
      exact ⟨_, rfl⟩
    · simpa using hquote
    · simpa using hbackslash

theorem finds_string (hcs : cs.all isPlain = true) (r : List Char) :
    Finds (string ('"' :: (cs ++ '"' :: r))) (String.ofList cs) r := by
  obtain ⟨h, hbody⟩ := finds_stringBody hcs r
  rw [string, hbody]
  exact ⟨_, rfl⟩

theorem finds_members (hcs : cs.all isPlain = true)
    (hv : Finds (value (skip r)) v ('\x7d' :: r')) :
    Finds (members ('"' :: (cs ++ '"' :: ':' :: r))) [(String.ofList cs, v)] r' := by
  obtain ⟨h, hstring⟩ :
      Finds (string (skip ('"' :: (cs ++ '"' :: ':' :: r)))) (String.ofList cs) (':' :: r) :=
    finds_string hcs (':' :: r)
  obtain ⟨h', hvalue⟩ := hv
  rw [members, hstring, Option.bind_eq_bind, Option.bind_some]
  split
  · next r₁ hr₁ =>
    obtain rfl : r = r₁ := (List.cons.inj hr₁).2
    rw [hvalue, Option.bind_eq_bind, Option.bind_some]
    split
    · next r₂ hr₂ =>
      obtain rfl : r' = r₂ := (List.cons.inj hr₂).2
      exact ⟨_, rfl⟩
    · next r₂ hr₂ => exact absurd (List.cons.inj hr₂).1 (by decide)
    · next hno _ => exact (hno r' rfl).elim
  · next hno => exact (hno r rfl).elim

theorem finds_object {entries : List (String × Value)} (hr : ∀ r', skip r ≠ '\x7d' :: r')
    (h : Finds (members r) entries r') :
    Finds (value ('\x7b' :: r)) (.table .inline entries) r' := by
  obtain ⟨h, hmembers⟩ := h
  rw [value, hmembers]
  split
  · next r₁ hr₁ => exact absurd hr₁ (hr r₁)
  · exact ⟨_, rfl⟩

theorem finds_bool (b : Bool) (r : List Char) :
    Finds (value ((toString b).toList ++ r)) (.bool b) r := by
  cases b with
  | true =>
    change Finds (value ('t' :: 'r' :: 'u' :: 'e' :: r)) (.bool true) r
    rw [value]
    exact ⟨_, rfl⟩
  | false =>
    change Finds (value ('f' :: 'a' :: 'l' :: 's' :: 'e' :: r)) (.bool false) r
    rw [value]
    exact ⟨_, rfl⟩

/-- An object with one entry, written without white space. -/
def entry (name body : List Char) : List Char :=
  '\x7b' :: '"' :: (name ++ '"' :: ':' :: (body ++ ['\x7d']))

theorem finds_entry {body : List Char} (hcs : cs.all isPlain = true)
    (hv : Finds (value (skip (body ++ '\x7d' :: r))) v ('\x7d' :: r)) :
    Finds (value (entry cs body ++ r)) (.table .inline [(String.ofList cs, v)]) r := by
  have hentry : entry cs body ++ r =
      '\x7b' :: '"' :: (cs ++ '"' :: ':' :: (body ++ '\x7d' :: r)) := by
    simp [entry]
  rw [hentry]
  exact finds_object nofun (finds_members hcs hv)

theorem read_of_finds {text : String} (h : Finds (value (skip text.toList)) v []) :
    read text = some v := by
  obtain ⟨h, hvalue⟩ := h
  rw [read, hvalue]
  rfl

end Json

end CallGuard
