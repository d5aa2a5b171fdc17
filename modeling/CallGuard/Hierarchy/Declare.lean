import CallGuard.Hierarchy.Basic

/-!
# Building a hierarchy from declarations

`Hierarchy.build` takes declarations in the order in which they were made. The last declaration of
a kind counts, over the three built-in kinds below the root, and it may name a parent twice. A
table is refused when the root has a parent, and otherwise when some kind is its own ancestor.
-/

namespace CallGuard

namespace Hierarchy

/-- Why declarations do not make a hierarchy. -/
inductive Error where
  /-- The root was declared with parents. -/
  | rootRedeclared
  /-- The kind is its own ancestor. -/
  | cyclic (kind : Kind)

/-- What is wrong, in words. -/
def Error.message : Error → String
  | .rootRedeclared => "the root error type cannot have parents"
  | .cyclic k => "cyclic type hierarchy: `" ++ k.name ++ "` is its own ancestor"

/-- The built-in kinds below the root, declared without parents. -/
def builtin : Hierarchy :=
  ⟨[(Kind.panicked, []), (Kind.status, []), (Kind.illegalState, [])], by decide⟩

variable (h : Hierarchy)

/-- The hierarchy with the parents of `k` replaced; a parent that is named again is left out. -/
def declare (k : Kind) (ps : List Kind) : Hierarchy :=
  ⟨Keyed.alter k (fun _ => ps.eraseDups) h.declared, Keyed.nodup_alter h.nodup⟩

/-- Some parent of `k` has `k` among its ancestors. -/
def reachesItself (k : Kind) (ps : List Kind) : Bool :=
  ps.any fun p => (h.ancestors p).any (·.1 = k)

/-- The hierarchy itself, when its root has no parents and no kind is its own ancestor. -/
def validate : Except Error Hierarchy :=
  match h.parents? Kind.any with
  | some (_ :: _) => .error .rootRedeclared
  | _ =>
    match h.declared.find? fun d => h.reachesItself d.1 d.2 with
    | some d => .error (.cyclic d.1)
    | none => .ok h

/-- The hierarchy that the declarations describe, each replacing earlier ones of its kind. -/
def build (declarations : List (Kind × List Kind)) : Except Error Hierarchy :=
  (declarations.foldl (fun h d => h.declare d.1 d.2) builtin).validate

end Hierarchy

end CallGuard
