import CallGuard.Keyed
import CallGuard.Text.Base64
import CallGuard.Text.Quoted
import CallGuard.Text.Record

/-!
# Metadata

Metadata maps keys to lists of values. Keys keep the order in which they first came, and the values
of a key the order in which they were added.

* `Metadata.values` is the view of a map: the values of a key, none for a key it does not have;
* `Metadata.add` appends a value to those of its key;
* `Metadata.merge` lets a second map win: a key of that map keeps only the values it has there. The
  values of that map are taken up one after the other (`Metadata.pairs`, `Metadata.extend`), which
  comes to overwriting the entries (`Metadata.entries_merge`).
-/

namespace CallGuard

/-- A map from keys to lists of values. -/
@[ext]
structure Metadata where
  /-- Each key with its values. -/
  entries : List (String × List String)
  /-- No key stands twice. -/
  nodup : (entries.map Prod.fst).Nodup
  /-- Each key has a value. -/
  filled : ∀ e ∈ entries, e.2 ≠ []
deriving DecidableEq

namespace Metadata

/-- No keys. -/
def empty : Metadata := ⟨[], List.nodup_nil, List.forall_mem_nil _⟩

instance : Inhabited Metadata := ⟨empty⟩

variable (m : Metadata)

/-- There are no keys. -/
def isEmpty : Bool :=
  m.entries.isEmpty

/-- The keys, in their order. -/
def keys : List String :=
  m.entries.map Prod.fst

/-- The values of a key. -/
def values (key : String) : List String :=
  (Keyed.get? key m.entries).getD []

/-- The map with one more value for a key. -/
def add (key value : String) : Metadata where
  entries := Keyed.alter key (fun vs => vs.getD [] ++ [value]) m.entries
  nodup := Keyed.nodup_alter m.nodup
  filled := Keyed.forall_mem_alter (fun _ => List.concat_ne_nil _ _) m.filled

/-- The map with a value in place of all that a key has. -/
def replace (key value : String) : Metadata where
  entries := Keyed.alter key (fun _ => [value]) m.entries
  nodup := Keyed.nodup_alter m.nodup
  filled := Keyed.forall_mem_alter (fun _ => List.cons_ne_nil _ _) m.filled

/-! ### Merging -/

/-- The values of a key one after the other: the first one comes with the key, the others come
without it. -/
def pairsOf (key : String) : List String → List (Option String × String)
  | [] => []
  | v :: vs => (some key, v) :: vs.map fun v => (none, v)

/-- The values of all keys one after the other. -/
def pairs : List (Option String × String) :=
  m.entries.flatMap fun e => pairsOf e.1 e.2

/-- Takes up one value, given the key that was named last. A value that comes with a key replaces
what that key has, and one that comes without is one more value of the key that was named last. -/
def take : Metadata × Option String → Option String × String → Metadata × Option String
  | (m, _), (some key, v) => (m.replace key v, some key)
  | (m, some key), (none, v) => (m.add key v, some key)
  | (m, none), (none, _) => (m, none)

/-- The map with values taken up one after the other. -/
def extend (pairs : List (Option String × String)) : Metadata :=
  (pairs.foldl take (m, none)).1

/-- The first map with the keys of the second one: what the second one has for a key replaces what
the first one has. -/
def merge (base extra : Metadata) : Metadata :=
  if extra.isEmpty then base else base.extend extra.pairs

variable {m} in
/-- Values without a key are put behind those of the key that was named last. -/
theorem entries_foldl_take {key : String} {vs : List String}
    (h : Keyed.get? key m.entries = some vs) (more : List String) :
    ((more.map fun v => (none, v)).foldl take (m, some key)).1.entries =
      Keyed.alter key (fun _ => vs ++ more) m.entries := by
  induction more generalizing m vs with
  | nil => simp [Keyed.alter_eq_self h]
  | cons v more ih =>
    have hadd : Keyed.get? key (m.add key v).entries = some (vs ++ [v]) := by
      simp [add, Keyed.get?_alter_self, h]
    rw [List.map_cons, List.foldl_cons, take, ih hadd, add, Keyed.alter_alter,
      List.append_assoc, List.singleton_append]

variable {m} in
/-- All values of a key, the first of which comes with the key, replace what the key has. -/
theorem entries_foldl_pairsOf (last : Option String) (key v : String) (vs : List String) :
    ((pairsOf key (v :: vs)).foldl take (m, last)).1.entries =
      Keyed.alter key (fun _ => v :: vs) m.entries := by
  have hreplace : Keyed.get? key (m.replace key v).entries = some [v] :=
    Keyed.get?_alter_self ..
  rw [pairsOf, List.foldl_cons, take, entries_foldl_take hreplace, replace, Keyed.alter_alter,
    List.singleton_append]

/-- Taking up all values of entries overwrites a map with these entries. -/
theorem entries_foldl_flatMap {es : List (String × List String)} (h : ∀ e ∈ es, e.2 ≠ [])
    (s : Metadata × Option String) :
    ((es.flatMap fun e => pairsOf e.1 e.2).foldl take s).1.entries =
      Keyed.overwrite s.1.entries es := by
  induction es generalizing s with
  | nil => rfl
  | cons e es ih =>
    obtain ⟨key, vs⟩ := e
    obtain ⟨v, vs, rfl⟩ := List.exists_cons_of_ne_nil (h _ List.mem_cons_self)
    rw [List.flatMap_cons, List.foldl_append, ih fun e he => h e (List.mem_cons_of_mem _ he),
      entries_foldl_pairsOf, Keyed.overwrite_cons]

theorem entries_merge (base extra : Metadata) :
    (base.merge extra).entries = Keyed.overwrite base.entries extra.entries := by
  rw [merge]
  split
  · next h => rw [List.isEmpty_iff.1 h, Keyed.overwrite_nil]
  · exact entries_foldl_flatMap extra.filled _

@[simp] theorem empty_merge : empty.merge m = m :=
  Metadata.ext ((entries_merge ..).trans (Keyed.nil_overwrite m.nodup))

@[simp] theorem merge_self : m.merge m = m :=
  Metadata.ext ((entries_merge ..).trans (Keyed.overwrite_self m.nodup))

/-! ### Reading and writing -/

/-- The key marks its values as binary. -/
def isBinaryKey (key : String) : Bool :=
  "-bin".toList.isSuffixOf key.toList

/-- The map with one more pair as a client writes it: the key in any case, the value as text. A
binary value is held as unpadded Base64. -/
def append (key value : String) : Metadata :=
  m.add key.toLower (if isBinaryKey key then Text.Base64.encode (Text.bytes value) else value)

/-- The map that a list of pairs describes. -/
def ofPairs (pairs : List (String × String)) : Metadata :=
  pairs.foldl (fun m p => m.append p.1 p.2) empty

/-- The first textual value of a key, which may be given in any case; binary keys have none. -/
def text? (key : String) : Option String :=
  if isBinaryKey key then none else (m.values key.toLower).head?

/-- The entries by ascending keys. -/
def sorted : List (String × List String) :=
  m.entries.mergeSort fun a b => decide (a.1 ≤ b.1)

/-- The text that shows a map for inspection. -/
def inspect : String :=
  Text.recordText "MetadataMap"
    [("headers", Text.mapText (m.entries.flatMap fun e =>
      e.2.map fun v => (Text.quote e.1, Text.quoteHeader v)))]

end Metadata

end CallGuard
