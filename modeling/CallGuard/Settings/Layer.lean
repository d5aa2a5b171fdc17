import CallGuard.Settings.Field

/-!
# Layers of settings

A layer says something about some fields and leaves the others open. A document is a layer, in which
open fields have their default values (`Layer.settings`).
-/

namespace CallGuard

namespace Settings

/-- What a layer says about each field. -/
def Layer : Type :=
  (f : Field) → Option f.Value

namespace Layer

/-- Says nothing. -/
def empty : Layer :=
  fun _ => none

/-- The layer that also sets a field. -/
def set (l : Layer) (f : Field) (v : f.Value) : Layer :=
  fun g => if h : g = f then some (h ▸ v) else l g

@[simp] theorem set_self (l : Layer) (f : Field) (v : f.Value) : l.set f v f = some v := by
  simp [set]

theorem set_of_ne (l : Layer) {f g : Field} (v : f.Value) (h : g ≠ f) : l.set f v g = l g := by
  simp [set, h]

/-- The settings of a layer, with the default values of the fields about which it says nothing. -/
def settings (l : Layer) : Settings :=
  .ofFields fun f => (l f).getD (Settings.default.get f)

@[simp] theorem get_settings (l : Layer) (f : Field) :
    l.settings.get f = (l f).getD (Settings.default.get f) := by
  simp [settings]

end Layer

end Settings

end CallGuard
