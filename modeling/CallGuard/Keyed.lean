/-!
# Lists with a value for each key

Several tables of the library are lists of pairs in which no key stands twice: metadata, the
declared kinds of a hierarchy, the bindings of a registry, the variables of an environment.

* `Keyed.get?` looks a key up;
* `Keyed.alter` changes the value of a key in its place, or puts a new key at the end. It keeps the
  keys apart (`Keyed.nodup_alter`);
* `Keyed.erase` takes a key out. Up to the order, a table is the entry of a key and the rest
  (`Keyed.perm_erase`);
* `Keyed.overwrite` lets the entries of a second table win. What it comes to is told by its keys and
  its values (`Keyed.map_fst_overwrite`, `Keyed.get?_overwrite`, `Keyed.ext_get?`).
-/

namespace CallGuard

namespace Keyed

variable {κ α : Type} [DecidableEq κ]

/-- The value of a key. -/
def get? (key : κ) (es : List (κ × α)) : Option α :=
  (es.find? (·.1 = key)).map (·.2)

/-- The entries with the value of `key` changed by `f`, which is given no value for a new key. -/
def alter (key : κ) (f : Option α → α) : List (κ × α) → List (κ × α)
  | [] => [(key, f none)]
  | e :: es => if e.1 = key then (key, f (some e.2)) :: es else e :: alter key f es

@[simp] theorem get?_nil (key : κ) : get? key ([] : List (κ × α)) = none := rfl

theorem get?_cons (key : κ) (e : κ × α) (es : List (κ × α)) :
    get? key (e :: es) = if e.1 = key then some e.2 else get? key es := by
  by_cases h : e.1 = key <;> simp [get?, h]

theorem get?_eq_none_iff {key : κ} {es : List (κ × α)} :
    get? key es = none ↔ key ∉ es.map Prod.fst := by
  induction es with
  | nil => simp
  | cons e es ih =>
    by_cases h : e.1 = key
    · simp [get?_cons, h]
    · simp [get?_cons, h, ih, Ne.symm h]

theorem get?_eq_some_iff {key : κ} {a : α} {es : List (κ × α)}
    (hn : (es.map Prod.fst).Nodup) : get? key es = some a ↔ (key, a) ∈ es := by
  induction es with
  | nil => simp
  | cons e es ih =>
    rw [List.map_cons, List.nodup_cons] at hn
    by_cases h : e.1 = key
    · subst h
      have hout : (e.1, a) ∉ es := fun hm => hn.1 (List.mem_map.2 ⟨_, hm, rfl⟩)
      simp [get?_cons, hout, Prod.ext_iff, eq_comm]
    · have hne : (key, a) ≠ e := fun he => h (he ▸ rfl)
      simp [get?_cons, h, ih hn.2, hne]

theorem mem_keys_alter {key k : κ} {f : Option α → α} {es : List (κ × α)} :
    k ∈ (alter key f es).map Prod.fst ↔ k = key ∨ k ∈ es.map Prod.fst := by
  induction es with
  | nil => simp [alter]
  | cons e es ih =>
    by_cases he : e.1 = key
    · simp [alter, he]
    · simp only [alter, if_neg he, List.map_cons, List.mem_cons, ih]
      exact or_left_comm

theorem nodup_alter {key : κ} {f : Option α → α} {es : List (κ × α)}
    (h : (es.map Prod.fst).Nodup) : ((alter key f es).map Prod.fst).Nodup := by
  induction es with
  | nil => simp [alter]
  | cons e es ih =>
    rw [List.map_cons, List.nodup_cons] at h
    by_cases he : e.1 = key
    · subst he
      rw [alter, if_pos rfl, List.map_cons, List.nodup_cons]
      exact h
    · simp only [alter, if_neg he, List.map_cons, List.nodup_cons, mem_keys_alter]
      exact ⟨fun hk => hk.elim he h.1, ih h.2⟩

theorem get?_alter_self (key : κ) (f : Option α → α) (es : List (κ × α)) :
    get? key (alter key f es) = some (f (get? key es)) := by
  induction es with
  | nil => simp [alter, get?_cons]
  | cons e es ih =>
    by_cases he : e.1 = key
    · simp [alter, get?_cons, he]
    · simp [alter, get?_cons, he, ih]

theorem get?_alter_of_ne {key k : κ} (hk : k ≠ key) (f : Option α → α) (es : List (κ × α)) :
    get? k (alter key f es) = get? k es := by
  induction es with
  | nil => simp [alter, get?_cons, hk.symm]
  | cons e es ih =>
    by_cases he : e.1 = key
    · simp [alter, get?_cons, he, hk.symm]
    · simp [alter, get?_cons, he, ih]

theorem alter_eq_self {key : κ} {a : α} {es : List (κ × α)} (h : get? key es = some a) :
    alter key (fun _ => a) es = es := by
  induction es with
  | nil => simp at h
  | cons e es ih =>
    rw [get?_cons] at h
    by_cases he : e.1 = key
    · rw [if_pos he, Option.some.injEq] at h
      rw [alter, if_pos he, ← he, ← h]
    · rw [if_neg he] at h
      rw [alter, if_neg he, ih h]

/-- Of two changes of a key the second one is given what the first one came to. -/
theorem alter_alter (key : κ) (f g : Option α → α) (es : List (κ × α)) :
    alter key f (alter key g es) = alter key (fun a => f (some (g a))) es := by
  induction es with
  | nil => simp [alter]
  | cons e es ih =>
    by_cases he : e.1 = key
    · simp [alter, he]
    · simp [alter, he, ih]

theorem forall_mem_alter {key : κ} {f : Option α → α} {es : List (κ × α)} {p : κ × α → Prop}
    (hkey : ∀ a, p (key, f a)) (h : ∀ e ∈ es, p e) : ∀ e ∈ alter key f es, p e := by
  induction es with
  | nil => simpa [alter] using hkey none
  | cons e es ih =>
    rw [List.forall_mem_cons] at h
    by_cases he : e.1 = key
    · rw [alter, if_pos he]
      exact List.forall_mem_cons.2 ⟨hkey _, h.2⟩
    · rw [alter, if_neg he]
      exact List.forall_mem_cons.2 ⟨h.1, ih h.2⟩

/-- A key keeps its place, and a new one comes to stand at the end. -/
theorem map_fst_alter (key : κ) (f : Option α → α) (es : List (κ × α)) :
    (alter key f es).map Prod.fst =
      if key ∈ es.map Prod.fst then es.map Prod.fst else es.map Prod.fst ++ [key] := by
  induction es with
  | nil => simp [alter]
  | cons e es ih =>
    by_cases he : e.1 = key
    · simp [alter, he]
    · rw [alter, if_neg he, List.map_cons, ih, List.map_cons]
      by_cases hkey : key ∈ es.map Prod.fst
      · rw [if_pos hkey, if_pos (List.mem_cons_of_mem _ hkey)]
      · rw [if_neg hkey, if_neg (List.not_mem_cons_of_ne_of_not_mem (Ne.symm he) hkey),
          List.cons_append]

theorem ext_get? {es es' : List (κ × α)} (hkeys : es.map Prod.fst = es'.map Prod.fst)
    (hn : (es.map Prod.fst).Nodup) (h : ∀ key, get? key es = get? key es') : es = es' := by
  induction es generalizing es' with
  | nil => exact (List.map_eq_nil_iff.1 hkeys.symm).symm
  | cons e es ih =>
    cases es' with
    | nil => cases hkeys
    | cons e' es' =>
      rw [List.map_cons, List.map_cons, List.cons.injEq] at hkeys
      rw [List.map_cons, List.nodup_cons] at hn
      have hvalue : e.2 = e'.2 := by simpa [get?_cons, hkeys.1] using h e.1
      obtain rfl : e = e' := Prod.ext hkeys.1 hvalue
      refine congrArg (e :: ·) (ih hkeys.2 hn.2 fun key => ?_)
      have hkey := h key
      rw [get?_cons, get?_cons] at hkey
      by_cases hhead : e.1 = key
      · -- neither table has its first key a second time
        subst hhead
        rw [get?_eq_none_iff.2 hn.1, get?_eq_none_iff.2 (hkeys.2 ▸ hn.1)]
      · rwa [if_neg hhead, if_neg hhead] at hkey

/-! ### Taking out -/

/-- The entries without that of `key`. -/
def erase (key : κ) (es : List (κ × α)) : List (κ × α) :=
  es.filter fun e => e.1 ≠ key

theorem mem_erase {key : κ} {e : κ × α} {es : List (κ × α)} :
    e ∈ erase key es ↔ e ∈ es ∧ e.1 ≠ key := by
  simp [erase]

theorem not_mem_keys_erase (key : κ) (es : List (κ × α)) : key ∉ (erase key es).map Prod.fst := by
  simp [mem_erase]

theorem nodup_erase {key : κ} {es : List (κ × α)} (h : (es.map Prod.fst).Nodup) :
    ((erase key es).map Prod.fst).Nodup :=
  h.sublist (List.filter_sublist.map Prod.fst)

theorem erase_cons (key : κ) (e : κ × α) (es : List (κ × α)) :
    erase key (e :: es) = if e.1 = key then erase key es else e :: erase key es := by
  by_cases h : e.1 = key <;> simp [erase, h]

theorem erase_eq_self {key : κ} {es : List (κ × α)} (h : key ∉ es.map Prod.fst) :
    erase key es = es :=
  List.filter_eq_self.2 fun e he => decide_eq_true fun hkey =>
    h (List.mem_map.2 ⟨e, he, hkey⟩)

theorem get?_erase (key k : κ) (es : List (κ × α)) :
    get? k (erase key es) = if k = key then none else get? k es := by
  induction es with
  | nil => simp [erase]
  | cons e es ih =>
    rw [erase_cons, get?_cons]
    by_cases he : e.1 = key
    · rw [if_pos he, ih]
      by_cases hk : k = key
      · simp [hk]
      · have hne : e.1 ≠ k := fun h => hk (h.symm.trans he)
        simp [hk, hne]
    · rw [if_neg he, get?_cons, ih]
      by_cases hk : k = key
      · have hne : e.1 ≠ k := fun h => he (h.trans hk)
        simp [hk, he]
      · simp [hk]

theorem perm_erase {key : κ} {a : α} {es : List (κ × α)} (hn : (es.map Prod.fst).Nodup)
    (h : get? key es = some a) : es.Perm ((key, a) :: erase key es) := by
  induction es with
  | nil => simp at h
  | cons e es ih =>
    rw [List.map_cons, List.nodup_cons] at hn
    rw [get?_cons] at h
    rw [erase_cons]
    by_cases he : e.1 = key
    · subst he
      rw [if_pos rfl, Option.some.injEq] at h
      rw [if_pos rfl, erase_eq_self hn.1, ← h]
    · rw [if_neg he] at h ⊢
      exact ((ih hn.2 h).cons e).trans (.swap ..)

/-- What a key had does not matter once it is taken out. -/
theorem erase_alter (key : κ) (f : Option α → α) (es : List (κ × α)) :
    erase key (alter key f es) = erase key es := by
  induction es with
  | nil => simp [alter, erase]
  | cons e es ih =>
    by_cases he : e.1 = key
    · simp [alter, he, erase_cons]
    · simp [alter, he, erase_cons, ih]

/-! ### Overwriting -/

/-- The table with the entries of a second one, which win. -/
def overwrite (es extra : List (κ × α)) : List (κ × α) :=
  extra.foldl (fun es e => alter e.1 (fun _ => e.2) es) es

@[simp] theorem overwrite_nil (es : List (κ × α)) : overwrite es [] = es := rfl

theorem overwrite_cons (es : List (κ × α)) (e : κ × α) (extra : List (κ × α)) :
    overwrite es (e :: extra) = overwrite (alter e.1 (fun _ => e.2) es) extra := rfl

theorem get?_overwrite {es extra : List (κ × α)} (hn : (extra.map Prod.fst).Nodup) (key : κ) :
    get? key (overwrite es extra) = (get? key extra).or (get? key es) := by
  induction extra generalizing es with
  | nil => rfl
  | cons e extra ih =>
    rw [List.map_cons, List.nodup_cons] at hn
    rw [overwrite_cons, ih hn.2, get?_cons]
    by_cases he : e.1 = key
    · subst he
      rw [get?_eq_none_iff.2 hn.1, get?_alter_self, if_pos rfl]
      rfl
    · rw [get?_alter_of_ne (Ne.symm he), if_neg he]

/-- The keys of the first table stay in their places, and the new ones come behind them in their
order. -/
theorem map_fst_overwrite {es extra : List (κ × α)} (hn : (extra.map Prod.fst).Nodup) :
    (overwrite es extra).map Prod.fst =
      es.map Prod.fst ++ (extra.map Prod.fst).filter (· ∉ es.map Prod.fst) := by
  induction extra generalizing es with
  | nil => simp
  | cons e extra ih =>
    rw [List.map_cons, List.nodup_cons] at hn
    rw [overwrite_cons, ih hn.2, map_fst_alter, List.map_cons]
    by_cases he : e.1 ∈ es.map Prod.fst
    · rw [if_pos he, List.filter_cons_of_neg (by simpa using he)]
    · rw [if_neg he, List.filter_cons_of_pos (by simpa using he), List.append_assoc,
        List.singleton_append]
      -- the new key does not come again
      refine congrArg (es.map Prod.fst ++ e.1 :: ·) (List.filter_congr fun key hkey => ?_)
      have hne : key ≠ e.1 := fun h => hn.1 (h ▸ hkey)
      simp [hne]

theorem nodup_overwrite {es extra : List (κ × α)} (h : (es.map Prod.fst).Nodup) :
    ((overwrite es extra).map Prod.fst).Nodup := by
  induction extra generalizing es with
  | nil => exact h
  | cons e extra ih => exact ih (nodup_alter h)

theorem nil_overwrite {es : List (κ × α)} (hn : (es.map Prod.fst).Nodup) : overwrite [] es = es :=
  ext_get? (by simp [map_fst_overwrite hn]) (nodup_overwrite List.nodup_nil)
    fun key => by simp [get?_overwrite hn]

theorem overwrite_self {es : List (κ × α)} (hn : (es.map Prod.fst).Nodup) :
    overwrite es es = es := by
  refine ext_get? ?_ (nodup_overwrite hn) fun key => by simp [get?_overwrite hn]
  rw [map_fst_overwrite hn, List.filter_eq_nil_iff.2 (by simp), List.append_nil]

end Keyed

end CallGuard
