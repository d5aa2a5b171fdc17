import CallGuard.Settings.Document
import CallGuard.Settings.Environment
import CallGuard.Settings.Files
import CallGuard.Telemetry.Error
import CallGuard.Text.Quoted
import CallGuard.Text.Uppercase

/-!
# Loading settings

A loader starts from the default settings and is given sources, one after the other. The settings of
a document take the place of all that came before, and its open fields have their default values.
`Loader.load` applies the variables of the environment, if a marker for them was given, and checks
the result.
-/

namespace CallGuard

namespace Settings

/-- Checks what the fields do not check by their types. -/
def validate (s : Settings) : Except Error Unit :=
  match Filter.create s.logging.level with
  | .error e => .error (.invalidValue Field.level.path e.message)
  | .ok _ =>
    if Text.trim s.handler.failureDescription.toList = [] then
      .error (.invalidValue Field.failureDescription.path "must not be empty")
    else .ok ()

/-- What is loaded so far. -/
structure Loader where
  settings : Settings
  /-- What the names of variables of the environment begin with. -/
  marker : Option String

/-- A source of settings. -/
inductive Loader.Source where
  /-- A file that has to exist. -/
  | file (path : String)
  /-- A file that may be missing. -/
  | optionalFile (path : String)
  /-- A document in a format with a name. -/
  | document (content format : String)
  /-- The variables of the environment whose names begin with a marker, which is written in capital
  letters. -/
  | environment (marker : String)

namespace Loader

/-- The default settings. -/
def start : Loader := ⟨Settings.default, none⟩

/-- The format with a name, in any case of its letters. -/
def formatOf? (name : List Char) : Option DocumentFormat :=
  if name.map Char.toLower = "toml".toList then some .toml
  else if name.map Char.toLower = "json".toList then some .json
  else none

/-- The settings of a document in a format; `shown` tells of the format in an error. -/
def parse (format : Option DocumentFormat) (shown content : String) : Except Error Settings :=
  match format with
  | none => .error (.unsupportedFormat shown)
  | some format =>
    match Layer.ofDocument? format content with
    | some layer => .ok layer.settings
    | none => .error (.malformed format)

/-- The loader with the settings of a file. -/
def readNode (l : Loader) (path : String) : FileNode → Except Error Loader
  | .directory => .error (.unreadable path)
  | .file content =>
    match Text.ofBytes? content with
    | none => .error (.unreadable path)
    | some content => do
      let format := (FileTree.extension? path).bind formatOf?
      return { l with settings := ← parse format path content }

/-- Adds a source. -/
def add (files : FileTree) (l : Loader) : Source → Except Error Loader
  | .file path =>
    match files.find? path with
    | none => .error (.fileNotFound path)
    | some node => l.readNode path node
  | .optionalFile path =>
    match files.find? path with
    | none => .ok l
    | some node => l.readNode path node
  | .document content format => do
    return { l with settings := ← parse (formatOf? format.toList) format content }
  | .environment marker => .ok { l with marker := some (Text.upper marker) }

/-- Adds sources in order. An error comes with the position of the source it is about, counted from
`first` on. -/
def addAll (files : FileTree) (l : Loader) (first : Nat) :
    List Source → Except (Nat × Error) Loader
  | [] => .ok l
  | s :: rest =>
    match l.add files s with
    | .ok l => l.addAll files (first + 1) rest
    | .error e => .error (first, e)

/-- The settings, with those that variables of the environment make, checked. -/
def load (l : Loader) (environment : Environment) : Except Error Settings := do
  let s ← match l.marker with
    | none => pure l.settings
    | some marker => overrideAll marker l.settings environment.entries
  validate s
  return s

end Loader

end Settings

end CallGuard
