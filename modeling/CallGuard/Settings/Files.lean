import CallGuard.Text.Split

/-!
# Files with settings

The files below the working directory, as far as loading settings sees them. A path is a sequence of
names with slashes between them. Empty names and single dots in it are passed over, and two dots
lead to the directory above; either asks for a directory before it. Nothing is known of what is
above the working directory, except that there are directories.
-/

namespace CallGuard

namespace Settings

/-- What is at a path. -/
inductive FileNode where
  | directory
  | file (content : List UInt8)

/-- The files and directories below the working directory, each with the names that lead to it. The
directories that lead to a file need not be listed. -/
structure FileTree where
  nodes : List (List String × FileNode)

namespace FileTree

/-- No files. -/
def empty : FileTree := ⟨[]⟩

/-- The names between the slashes of a path. -/
def names (path : List Char) : List (List Char) :=
  Text.split '/' path

/-- The node that names lead to. -/
def node? (t : FileTree) (place : List String) : Option FileNode :=
  match t.nodes.reverse.find? (·.1 = place) with
  | some (_, n) => some n
  | none =>
    if place = [] || t.nodes.any fun n => place.isPrefixOf n.1 then some .directory else none

/-- Follows names from a place, which is `none` if it is not below the working directory. -/
def follow (t : FileTree) : Option (List String) → List (List Char) → Option FileNode
  | none, [] => some .directory
  | some place, [] => t.node? place
  | none, n :: ns => if n = [] || n = ['.'] || n = ['.', '.'] then follow t none ns else none
  | some place, n :: ns =>
    match t.node? place with
    | some .directory =>
      if n = [] || n = ['.'] then follow t (some place) ns
      else if n = ['.', '.'] then
        follow t (if place = [] then none else some place.dropLast) ns
      else follow t (some (place ++ [String.ofList n])) ns
    | _ => none

/-- What is at a path. -/
def find? (t : FileTree) (path : String) : Option FileNode :=
  match path.toList with
  | [] => none
  | '/' :: cs => t.follow none (names cs)
  | cs => t.follow (some []) (names cs)

/-- The tree with a node at a path more. -/
def insert (t : FileTree) (path : String) (node : FileNode) : FileTree :=
  let place := (names path.toList).filter fun n => n ≠ [] ∧ n ≠ ['.']
  ⟨t.nodes ++ [(place.map String.ofList, node)]⟩

/-- The extension of a file: what stands after the last dot of its name, if something stands before
that dot. -/
def extension? (path : String) : Option (List Char) :=
  let name := ((names path.toList).getLast?).getD []
  match name.reverse.span (· ≠ '.') with
  | (ext, '.' :: _ :: _) => some ext.reverse
  | _ => none

end FileTree

end Settings

end CallGuard
