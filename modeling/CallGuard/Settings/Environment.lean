import CallGuard.Keyed
import CallGuard.Settings.Error
import CallGuard.Settings.Field
import CallGuard.Text.Split

/-!
# Settings in the environment

A variable of the environment sets a field if its name is made of a marker, the name of the section
and the name of the field, in capital letters and with two underscores between them
(`Field.variableName`). To see this, the marker is taken off and the rest is split at double
underscores (`override`). All other variables are ignored. A truth value may be written in several
ways, in any case of the letters.

An `Environment` has each variable once. `Environment.ofList` sets variables in order; one that is
set again keeps its place and has the later value.
-/

namespace CallGuard

namespace Settings

/-- The variables of a process with their values, in the order in which they were first set. -/
structure Environment where
  entries : List (String × String)
  nodup : (entries.map Prod.fst).Nodup

namespace Environment

/-- The environment with a variable set. -/
def set (e : Environment) (name value : String) : Environment :=
  ⟨Keyed.alter name (fun _ => value) e.entries, Keyed.nodup_alter e.nodup⟩

/-- The environment in which nothing but these variables was set, in this order. -/
def ofList (given : List (String × String)) : Environment :=
  given.foldl (fun e v => e.set v.1 v.2) ⟨[], List.nodup_nil⟩

end Environment

/-- A name in capital letters. -/
def capitals (name : String) : String :=
  String.ofList (name.toList.map Char.toUpper)

/-- The name of the variable that sets a field. -/
def Field.variableName (marker : String) (f : Field) : String :=
  marker ++ "__" ++ capitals f.parent.name ++ "__" ++ capitals f.name

/-- The truth value that a text stands for. -/
def Field.readBool (text : String) : Except String Bool :=
  let word := text.toList.map Char.toLower
  if (["true", "1", "yes", "on"].map String.toList).contains word then .ok true
  else if (["false", "0", "no", "off"].map String.toList).contains word then .ok false
  else .error "expected boolean"

/-- The format of log lines that a text names. -/
def Field.readFormat (text : String) : Except String LogFormat :=
  let word := text.toList.map Char.toLower
  if word = "json".toList then .ok .json
  else if word = "pretty".toList then .ok .pretty
  else .error "expected 'json' or 'pretty'"

/-- What a text sets a field to, or what was expected instead. -/
def Field.read (text : String) : (f : Field) → Except String f.Value
  | .handlerEnabled | .logUnmapped | .loggingEnabled | .ansiEnabled | .includeLocation
  | .metricsEnabled => readBool text
  | .failureDescription | .level => .ok text
  | .format => readFormat text

/-- What all names of variables begin with that can set a field. -/
def beginning (marker : String) : String :=
  marker ++ "__"

/-- What the name of a variable has behind a marker and two underscores. -/
def behindMarker? (marker name : String) : Option (List Char) :=
  (Text.behind? marker.toList name.toList).bind (Text.behind? ['_', '_'])

/-- The field whose section and name are the parts of a text, in capital letters. -/
def Field.ofParts? (parts : List (List Char)) : Option Field :=
  all.find? fun f => parts = [(capitals f.parent.name).toList, (capitals f.name).toList]

/-- The settings with what one variable sets, whose name has the marker before it. -/
def override (marker : String) (s : Settings) (name value : String) : Except Error Settings :=
  match behindMarker? marker name with
  | none => .error (.invalidVariable name "invalid key format")
  | some rest =>
    match Field.ofParts? (Text.splitDouble '_' rest) with
    | none => .ok s
    | some f =>
      match f.read value with
      | .ok v => .ok (s.set f v)
      | .error expected => .error (.invalidVariable name expected)

/-- The settings with what these variables set, one after the other, up to the first error. -/
def overrideEach (marker : String) (s : Settings) :
    List (String × String) → Except Error Settings
  | [] => .ok s
  | (name, value) :: rest => do overrideEach marker (← override marker s name value) rest

/-- The settings with what the variables set, in order. A name without the marker is left out. -/
def overrideAll (marker : String) (s : Settings) (entries : List (String × String)) :
    Except Error Settings :=
  overrideEach marker s
    (entries.filter fun v => (beginning marker).toList.isPrefixOf v.1.toList)

end Settings

end CallGuard
