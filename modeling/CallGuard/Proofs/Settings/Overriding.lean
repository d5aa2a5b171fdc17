import CallGuard.Settings.Environment
import Mathlib.Data.List.Nodup

/-!
# What the environment sets

The variables of the environment are taken one after the other, in whatever order they come, and the
first one with a value that cannot be read ends it all. The name of a variable is taken apart to
find the field that it sets. What this comes to does not depend on the order, because the parts of a
name tell which field it is, each field has one variable, and changes of different fields do not
meet.

* `overrideAll_cons_of_name`, `overrideAll_cons_of_no_name` : what the first variable does, told by
  its whole name;
* `overrideAll_get` : where each field has its value from;
* `overrideAll_eq_error`, `exists_overrideAll_eq_error_iff` : which error comes up, and when;
* `overrideAll_of_perm` : all this together, for every order.
-/

namespace CallGuard

namespace Settings

/-! ### Names of variables -/

/-- What the name of a variable has after its marker. -/
def Field.variableSuffix (f : Field) : String :=
  capitals f.parent.name ++ "__" ++ capitals f.name

theorem Field.variableName_inj {marker : String} {f g : Field}
    (h : f.variableName marker = g.variableName marker) : f = g := by
  have hnodup : (Field.all.map Field.variableSuffix).Nodup := by decide +kernel
  have hname : ∀ f : Field, f.variableName marker = marker ++ "__" ++ f.variableSuffix := by
    intro f
    simp only [variableName, variableSuffix, String.append_assoc]
  rw [hname, hname] at h
  have hsuffix : f.variableSuffix = g.variableSuffix := by
    have hlist := congrArg String.toList h
    simp only [String.toList_append] at hlist
    exact String.toList_inj.1 (List.append_cancel_left hlist)
  exact List.inj_on_of_nodup_map hnodup f.mem_all g.mem_all hsuffix

/-- The parts of a text stand for a field exactly when the text is all that the name of its variable
has after the marker. -/
theorem Field.ofParts?_splitDouble_eq_some_iff {rest : List Char} {f : Field} :
    Field.ofParts? (Text.splitDouble '_' rest) = some f ↔ rest = f.variableSuffix.toList := by
  constructor
  · intro h
    rw [ofParts?] at h
    have hparts : Text.splitDouble '_' rest =
        [(capitals f.parent.name).toList, (capitals f.name).toList] := by
      simpa using List.find?_some h
    have hrest := Text.intercalate_splitDouble '_' rest
    rw [hparts, List.intercalate_cons_cons, List.intercalate_singleton] at hrest
    rw [← hrest, variableSuffix, String.toList_append, String.toList_append]
    rfl
  · rintro rfl
    cases f <;> decide +kernel

variable {marker name : String}

/-- Behind the marker a name is taken apart exactly if it begins with the marker. -/
theorem behindMarker?_eq_some_iff {rest : List Char} :
    behindMarker? marker name = some rest ↔ name.toList = (beginning marker).toList ++ rest := by
  rw [behindMarker?, Option.bind_eq_some_iff, beginning, String.toList_append]
  constructor
  · rintro ⟨cs, hcs, hrest⟩
    rw [Text.behind?_eq_some_iff] at hcs hrest
    rw [hcs, hrest, List.append_assoc]
    rfl
  · intro h
    exact ⟨['_', '_'] ++ rest, Text.behind?_eq_some_iff.2 (h.trans (List.append_assoc ..)),
      Text.behind?_eq_some_iff.2 rfl⟩

theorem Field.toList_variableName (marker : String) (f : Field) :
    (f.variableName marker).toList = (beginning marker).toList ++ f.variableSuffix.toList := by
  simp only [variableName, variableSuffix, beginning, String.toList_append, List.append_assoc]

theorem Field.behindMarker?_variableName (marker : String) (f : Field) :
    behindMarker? marker (f.variableName marker) = some f.variableSuffix.toList :=
  behindMarker?_eq_some_iff.2 (f.toList_variableName marker)

variable {s s' : Settings} {value : String} {rest : List (String × String)}

/-! ### One variable -/

theorem overrideAll_cons_of_name (f : Field) :
    overrideAll marker s ((f.variableName marker, value) :: rest) =
      match f.read value with
      | .ok v => overrideAll marker (s.set f v) rest
      | .error expected => .error (.invalidVariable (f.variableName marker) expected) := by
  have hprefix : (beginning marker).toList.isPrefixOf (f.variableName marker).toList = true := by
    rw [List.isPrefixOf_iff_prefix, f.toList_variableName marker]
    exact List.prefix_append ..
  rw [overrideAll, List.filter_cons_of_pos (by exact hprefix), overrideEach, override,
    f.behindMarker?_variableName marker]
  dsimp only
  rw [Field.ofParts?_splitDouble_eq_some_iff.2 rfl]
  dsimp only
  cases f.read value <;> rfl

theorem overrideAll_cons_of_no_name (h : ∀ f : Field, f.variableName marker ≠ name) :
    overrideAll marker s ((name, value) :: rest) = overrideAll marker s rest := by
  by_cases hprefix : (beginning marker).toList.isPrefixOf name.toList = true
  · obtain ⟨suffix, hsuffix⟩ := List.isPrefixOf_iff_prefix.1 hprefix
    have hnone : Field.ofParts? (Text.splitDouble '_' suffix) = none := by
      rw [Option.eq_none_iff_forall_ne_some]
      intro f hf
      rw [Field.ofParts?_splitDouble_eq_some_iff] at hf
      refine h f (String.toList_inj.1 ?_)
      rw [f.toList_variableName marker, ← hf, hsuffix]
    rw [overrideAll, List.filter_cons_of_pos (by exact hprefix), overrideEach, override,
      behindMarker?_eq_some_iff.2 hsuffix.symm]
    dsimp only
    rw [hnone]
    rfl
  · rw [overrideAll, List.filter_cons_of_neg (by exact hprefix)]
    rfl

/-! ### All variables -/

/-- What the variables of the environment come to: each field has the value of its own variable, or
none sets it. -/
theorem overrideAll_get {entries : List (String × String)} (hn : (entries.map Prod.fst).Nodup)
    (h : overrideAll marker s entries = .ok s') (f : Field) :
    (∀ text, Keyed.get? (f.variableName marker) entries = some text →
      f.read text = .ok (s'.get f)) ∧
    (Keyed.get? (f.variableName marker) entries = none → s'.get f = s.get f) := by
  induction entries generalizing s with
  | nil =>
    obtain rfl := Except.ok.inj h
    exact ⟨nofun, fun _ => rfl⟩
  | cons entry rest ih =>
    obtain ⟨name, value⟩ := entry
    rw [List.map_cons, List.nodup_cons] at hn
    rw [Keyed.get?_cons]
    by_cases hname : ∃ g : Field, g.variableName marker = name
    · obtain ⟨g, rfl⟩ := hname
      rw [overrideAll_cons_of_name] at h
      cases hread : g.read value with
      | error e =>
        rw [hread] at h
        cases h
      | ok v =>
        rw [hread] at h
        obtain ⟨hsome, hnone⟩ := ih hn.2 h
        by_cases hg : g = f
        · -- no later variable has the same name
          subst hg
          rw [if_pos rfl, hnone (Keyed.get?_eq_none_iff.2 hn.1), get_set_self]
          refine ⟨?_, nofun⟩
          rintro _ ⟨⟩
          exact hread
        · rw [if_neg (mt Field.variableName_inj hg), ← get_set_of_ne s v (Ne.symm hg)]
          exact ⟨hsome, hnone⟩
    · have hother := not_exists.1 hname
      rw [overrideAll_cons_of_no_name hother] at h
      rw [if_neg (Ne.symm (hother f))]
      exact ih hn.2 h

/-- The field has no use for a text. -/
def Field.Refuses (f : Field) (text : String) : Prop :=
  ∃ expected, f.read text = .error expected

/-- Only truth values and the format of log lines are refused, and the error says what was
expected. -/
theorem Field.read_eq_error {f : Field} {text expected : String}
    (h : f.read text = .error expected) :
    f ≠ .failureDescription ∧ f ≠ .level ∧
      expected = if f = .format then "expected 'json' or 'pretty'" else "expected boolean" := by
  have hbool : Field.readBool text = .error expected → expected = "expected boolean" := by
    intro h
    rw [readBool] at h
    split at h
    · cases h
    · split at h
      · cases h
      · exact (Except.error.inj h).symm
  have hformat : Field.readFormat text = .error expected →
      expected = "expected 'json' or 'pretty'" := by
    intro h
    rw [readFormat] at h
    split at h
    · cases h
    · split at h
      · cases h
      · exact (Except.error.inj h).symm
  cases f with
  | failureDescription => cases h
  | level => cases h
  | format => exact ⟨nofun, nofun, hformat h⟩
  | handlerEnabled | logUnmapped | loggingEnabled | ansiEnabled | includeLocation
  | metricsEnabled => exact ⟨nofun, nofun, hbool h⟩

theorem overrideAll_eq_error {entries : List (String × String)} {e : Error}
    (h : overrideAll marker s entries = .error e) :
    ∃ (f : Field) (text expected : String), (f.variableName marker, text) ∈ entries ∧
      f.read text = .error expected ∧ e = .invalidVariable (f.variableName marker) expected := by
  induction entries generalizing s with
  | nil => cases h
  | cons entry rest ih =>
    obtain ⟨name, value⟩ := entry
    have hlater : ∀ {s₁ : Settings}, overrideAll marker s₁ rest = .error e →
        ∃ (f : Field) (text expected : String),
          (f.variableName marker, text) ∈ (name, value) :: rest ∧
          f.read text = .error expected ∧
          e = .invalidVariable (f.variableName marker) expected := by
      intro s₁ h₁
      obtain ⟨f, text, expected, hmem, hf⟩ := ih h₁
      exact ⟨f, text, expected, List.mem_cons_of_mem _ hmem, hf⟩
    by_cases hname : ∃ f : Field, f.variableName marker = name
    · obtain ⟨f, rfl⟩ := hname
      rw [overrideAll_cons_of_name] at h
      cases hread : f.read value with
      | error expected =>
        rw [hread] at h
        exact ⟨f, value, expected, List.mem_cons_self, hread, (Except.error.inj h).symm⟩
      | ok v =>
        rw [hread] at h
        exact hlater h
    · rw [overrideAll_cons_of_no_name (not_exists.1 hname)] at h
      exact hlater h

theorem exists_overrideAll_eq_error_iff {entries : List (String × String)} :
    (∃ e, overrideAll marker s entries = .error e) ↔
      ∃ (f : Field) (text : String),
        (f.variableName marker, text) ∈ entries ∧ f.Refuses text := by
  constructor
  · rintro ⟨e, he⟩
    obtain ⟨f, text, expected, hmem, hread, -⟩ := overrideAll_eq_error he
    exact ⟨f, text, hmem, expected, hread⟩
  · rintro ⟨f, text, hmem, expected, hread⟩
    induction entries generalizing s with
    | nil => cases hmem
    | cons entry rest ih =>
      obtain ⟨name, value⟩ := entry
      by_cases hname : ∃ g : Field, g.variableName marker = name
      · obtain ⟨g, rfl⟩ := hname
        rw [overrideAll_cons_of_name]
        cases hvalue : g.read value with
        | error expected' => exact ⟨_, rfl⟩
        | ok v =>
          rcases List.mem_cons.1 hmem with heq | hmem
          · obtain ⟨hfg, rfl⟩ := Prod.mk.inj heq
            obtain rfl := Field.variableName_inj hfg
            rw [hread] at hvalue
            cases hvalue
          · exact ih hmem
      · have hother := not_exists.1 hname
        rw [overrideAll_cons_of_no_name hother]
        rcases List.mem_cons.1 hmem with heq | hmem
        · exact absurd (Prod.mk.inj heq).1 (hother f)
        · exact ih hmem

theorem overrideAll_without (h : ∀ f : Field, f.variableName marker ≠ name)
    (before after : List (String × String)) :
    overrideAll marker s (before ++ (name, value) :: after) =
      overrideAll marker s (before ++ after) := by
  induction before generalizing s with
  | nil => exact overrideAll_cons_of_no_name h
  | cons entry before ih =>
    obtain ⟨name', value'⟩ := entry
    rw [List.cons_append, List.cons_append]
    by_cases hname : ∃ f : Field, f.variableName marker = name'
    · obtain ⟨f, rfl⟩ := hname
      rw [overrideAll_cons_of_name, overrideAll_cons_of_name]
      cases f.read value' with
      | error expected => rfl
      | ok v => exact ih
    · rw [overrideAll_cons_of_no_name (not_exists.1 hname),
        overrideAll_cons_of_no_name (not_exists.1 hname), ih]

/-! ### Every order -/

variable {entries entries' : List (String × String)}

/-- Where each field has its value from, told by the variables that there are. -/
theorem overrideAll_get_of_mem (hn : (entries.map Prod.fst).Nodup)
    (h : overrideAll marker s entries = .ok s') (f : Field) :
    (∀ text, (f.variableName marker, text) ∈ entries → f.read text = .ok (s'.get f)) ∧
    ((∀ text, (f.variableName marker, text) ∉ entries) → s'.get f = s.get f) := by
  obtain ⟨hsome, hnone⟩ := overrideAll_get hn h f
  refine ⟨fun text hmem => hsome text ((Keyed.get?_eq_some_iff hn).2 hmem), fun hno => hnone ?_⟩
  rw [Option.eq_none_iff_forall_ne_some]
  exact fun text htext => hno text ((Keyed.get?_eq_some_iff hn).1 htext)

theorem overrideAll_eq_ok_of_perm (hn : (entries.map Prod.fst).Nodup) (hp : entries'.Perm entries)
    (h : overrideAll marker s entries = .ok s') : overrideAll marker s entries' = .ok s' := by
  cases h' : overrideAll marker s entries' with
  | error e =>
    obtain ⟨f, text, hmem, hrefuses⟩ := exists_overrideAll_eq_error_iff.1 ⟨e, h'⟩
    obtain ⟨e', he'⟩ : ∃ e', overrideAll marker s entries = .error e' :=
      exists_overrideAll_eq_error_iff.2 ⟨f, text, hp.mem_iff.1 hmem, hrefuses⟩
    rw [h] at he'
    cases he'
  | ok t =>
    have hn' : (entries'.map Prod.fst).Nodup := (hp.map _).nodup_iff.2 hn
    refine congrArg _ (ext_get fun f => ?_)
    obtain ⟨hown, hother⟩ := overrideAll_get_of_mem hn h f
    obtain ⟨hown', hother'⟩ := overrideAll_get_of_mem hn' h' f
    by_cases hset : ∃ text, (f.variableName marker, text) ∈ entries
    · obtain ⟨text, hmem⟩ := hset
      exact Except.ok.inj ((hown' text (hp.mem_iff.2 hmem)).symm.trans (hown text hmem))
    · have hno := not_exists.1 hset
      rw [hother hno, hother' fun text hmem => hno text (hp.mem_iff.1 hmem)]

/-- **The variables of the environment have no order.** When no name stands twice, every order comes
to the same settings, or to none. There is an error exactly when a truth value or the format of log
lines has a variable with a value that cannot be read, and it never says that the name of a variable
has no form. Without an error each field has the value of its own variable, or the value it had
before. A variable whose name does not begin with the marker, or is that of no field, does
nothing. -/
theorem overrideAll_of_perm (marker : String) (s : Settings)
    (hn : (entries.map Prod.fst).Nodup) :
    (∀ entries', entries'.Perm entries → ∀ s',
      overrideAll marker s entries' = .ok s' ↔ overrideAll marker s entries = .ok s') ∧
    ((∃ e, overrideAll marker s entries = .error e) ↔
      ∃ (f : Field) (text : String), f ≠ .failureDescription ∧ f ≠ .level ∧
        (f.variableName marker, text) ∈ entries ∧ f.Refuses text) ∧
    (∀ name, overrideAll marker s entries ≠
      .error (.invalidVariable name "invalid key format")) ∧
    (∀ s', overrideAll marker s entries = .ok s' → ∀ f : Field,
      (∀ text, (f.variableName marker, text) ∈ entries → f.read text = .ok (s'.get f)) ∧
      ((∀ text, (f.variableName marker, text) ∉ entries) → s'.get f = s.get f)) ∧
    ∀ before after name value, entries = before ++ (name, value) :: after →
      (¬(beginning marker).toList <+: name.toList ∨ ∀ f : Field, f.variableName marker ≠ name) →
      overrideAll marker s (before ++ after) = overrideAll marker s entries := by
  refine ⟨?_, ?_, ?_, fun s' h f => overrideAll_get_of_mem hn h f, ?_⟩
  · intro entries' hp s'
    have hn' : (entries'.map Prod.fst).Nodup := (hp.map _).nodup_iff.2 hn
    exact ⟨overrideAll_eq_ok_of_perm hn' hp.symm, overrideAll_eq_ok_of_perm hn hp⟩
  · rw [exists_overrideAll_eq_error_iff]
    constructor
    · rintro ⟨f, text, hmem, expected, hread⟩
      obtain ⟨hdescription, hlevel, -⟩ := Field.read_eq_error hread
      exact ⟨f, text, hdescription, hlevel, hmem, expected, hread⟩
    · rintro ⟨f, text, -, -, hf⟩
      exact ⟨f, text, hf⟩
  · intro name h
    obtain ⟨f, text, expected, -, hread, he⟩ := overrideAll_eq_error h
    obtain ⟨-, -, hexpected⟩ := Field.read_eq_error hread
    rw [Error.invalidVariable.injEq, hexpected] at he
    split at he
    · exact absurd he.2 (by decide)
    · exact absurd he.2 (by decide)
  · rintro before after name value rfl hname
    refine (overrideAll_without ?_ before after).symm
    rcases hname with hno | hno
    · rintro f rfl
      rw [f.toList_variableName marker] at hno
      exact hno (List.prefix_append ..)
    · exact hno

/-- The marker ends with an underscore and is empty but for it. One variable sets the level, one has
the marker but no field, one does not have the marker, and one cannot be read: all orders fail. -/
theorem overrideAll_of_perm_refused :
    let entries := [("___LOGGING__LEVEL", "debug"), ("___LOGGING__LEVEL__X", "1"),
      ("__METRICS__ENABLED", "maybe"), ("___METRICS__ENABLED", "maybe")]
    (entries.map Prod.fst).Nodup ∧
      ∀ entries', entries'.Perm entries → ∀ s', overrideAll "_" .default entries' ≠ .ok s' := by
  intro entries
  have hn : (entries.map Prod.fst).Nodup := by decide
  obtain ⟨hperm, herror, -⟩ := overrideAll_of_perm "_" Settings.default hn
  refine ⟨hn, fun entries' hp s' hs' => ?_⟩
  obtain ⟨e, he⟩ := herror.2 ⟨.metricsEnabled, "maybe", nofun, nofun, by decide +kernel,
    "expected boolean", by decide +kernel⟩
  rw [(hperm entries' hp s').1 hs'] at he
  cases he

end Settings

end CallGuard
