import CallGuard.Format.Value

/-!
# Building the tables of a TOML document

A table is built up line by line, and its `Origin` decides what may still be added to it:

* `Toml.put` puts a value under a key. The tables that the key leads through are new, or were begun
  by a dotted key, or were implied by a header; the last of them is not one of the latter;
* `Toml.openTable` begins the table of a header, which is new or was implied by an earlier header;
* `Toml.within` changes the table that a header began.

No value is ever replaced.
-/

namespace CallGuard

/-- The entries of a table, in the order in which they were added. -/
abbrev Entries := List (String × Value)

namespace Toml

/-- Changes the value of a name, which may be missing, by `f`. -/
def alter (name : String) (f : Option Value → Option Value) : Entries → Option Entries
  | [] => (f none).map fun v => [(name, v)]
  | e :: es =>
    if e.1 = name then (f (some e.2)).map fun v => (name, v) :: es
    else (alter name f es).map (e :: ·)

/-- Puts a value under a key. -/
def put (v : Value) : List String → Entries → Option Entries
  | [], _ => none
  | [n], es => alter n (fun old => if old.isNone then some v else none) es
  | n :: m :: ns, es =>
    alter n (fun
      | none => (put v (m :: ns) []).map (.table .dotted)
      | some (.table .dotted inner) => (put v (m :: ns) inner).map (.table .dotted)
      | some (.table .implied inner) =>
        if ns = [] then none else (put v (m :: ns) inner).map (.table .implied)
      | some _ => none) es

/-- Begins the table of a header. -/
def openTable : List String → Entries → Option Entries
  | [], _ => none
  | [n], es =>
    alter n (fun
      | none => some (.table .header [])
      | some (.table .implied inner) => some (.table .header inner)
      | some _ => none) es
  | n :: m :: ns, es =>
    alter n (fun
      | none => (openTable (m :: ns) []).map (.table .implied)
      | some (.table .inline _) => none
      | some (.table origin inner) => (openTable (m :: ns) inner).map (.table origin)
      | some _ => none) es

/-- Changes the entries of the table at a place by `f`. -/
def within (f : Entries → Option Entries) : List String → Entries → Option Entries
  | [], es => f es
  | n :: ns, es =>
    alter n (fun
      | some (.table origin inner) => (within f ns inner).map (.table origin)
      | _ => none) es

end Toml

end CallGuard
