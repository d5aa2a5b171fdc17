import CallGuard.Journal

/-!
# Recorded computations

The parts of the library that decide what becomes of an error are computations of type
`Recorded α`. Such a computation is told the first label that is not in use. It has a value, and it
leaves behind how many labels it took and what it wrote into the journal: it can neither take labels
back nor take entries out (`Recorded.bind_entries`, `Recorded.bind_minted`).
-/

namespace CallGuard

/-- What a recorded computation comes to. -/
structure Trace (α : Type) where
  /-- Its value. -/
  value : α
  /-- How many labels it took. -/
  minted : Nat
  /-- What it wrote into the journal, oldest first. -/
  entries : List Entry

/-- A computation that may take fresh labels and write into the journal, given the first label not
in use. -/
def Recorded (α : Type) : Type :=
  Label → Trace α

namespace Recorded

variable {α β : Type}

instance : Monad Recorded where
  pure a := fun _ => ⟨a, 0, []⟩
  bind x f := fun n =>
    ⟨(f (x n).value (n + (x n).minted)).value,
      (x n).minted + (f (x n).value (n + (x n).minted)).minted,
      (x n).entries ++ (f (x n).value (n + (x n).minted)).entries⟩

/-- A label that is not in use. -/
def fresh : Recorded Label :=
  fun n => ⟨n, 1, []⟩

/-- Writes entries into the journal. -/
def write (es : List Entry) : Recorded Unit :=
  fun _ => ⟨(), 0, es⟩

/-- Writes a log event into the journal. -/
def log (level : Level) (message : String) (fields : List (String × LogValue)) : Recorded Unit :=
  write [.log level message fields]

@[simp] theorem pure_apply (a : α) (n : Label) : (pure a : Recorded α) n = ⟨a, 0, []⟩ := rfl

@[simp] theorem fresh_apply (n : Label) : fresh n = ⟨n, 1, []⟩ := rfl

@[simp] theorem write_apply (es : List Entry) (n : Label) : write es n = ⟨(), 0, es⟩ := rfl

theorem bind_value (x : Recorded α) (f : α → Recorded β) (n : Label) :
    ((x >>= f) n).value = (f (x n).value (n + (x n).minted)).value := rfl

theorem bind_minted (x : Recorded α) (f : α → Recorded β) (n : Label) :
    ((x >>= f) n).minted = (x n).minted + (f (x n).value (n + (x n).minted)).minted := rfl

theorem bind_entries (x : Recorded α) (f : α → Recorded β) (n : Label) :
    ((x >>= f) n).entries = (x n).entries ++ (f (x n).value (n + (x n).minted)).entries := rfl

instance : LawfulMonad Recorded := by
  refine LawfulMonad.mk' _ (fun x => ?_) (fun a f => ?_) (fun x f g => ?_) <;> funext n
  · change (⟨(x n).value, (x n).minted + 0, (x n).entries ++ []⟩ : Trace _) = x n
    simp
  · change (⟨_, 0 + _, [] ++ _⟩ : Trace _) = _
    simp
  · change (⟨_, _, _⟩ : Trace _) = ⟨_, _, _⟩
    simp [bind_value, bind_minted, bind_entries, Nat.add_assoc]

end Recorded

end CallGuard
