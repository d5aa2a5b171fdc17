import CallGuard.Metadata
import Mathlib.Data.List.Nodup

/-!
# The laws of merging

Metadata that is merged is streamed value by value into the first map, where the first value of a
key takes the place of all that the key had and the others follow it. What this comes to is told key
by key: the values of the second map where it has the key, and else those of the first one.

* `Metadata.values_merge`, `Metadata.mem_keys_merge` : the merged map, key by key;
* `Metadata.merge_assoc` : merging is associative, also in the order of the keys;
* `Metadata.entries_merge_perm` : maps without a common key can be merged in either order;
* `Metadata.merge_by_key` : all laws together.
-/

namespace CallGuard

namespace Keyed

variable {κ α : Type} [DecidableEq κ]

theorem overwrite_assoc {a b c : List (κ × α)} (ha : (a.map Prod.fst).Nodup)
    (hb : (b.map Prod.fst).Nodup) (hc : (c.map Prod.fst).Nodup) :
    overwrite (overwrite a b) c = overwrite a (overwrite b c) := by
  have hbc : ((overwrite b c).map Prod.fst).Nodup := nodup_overwrite hb
  refine ext_get? ?_ (nodup_overwrite (nodup_overwrite ha)) fun key => ?_
  · rw [map_fst_overwrite hc, map_fst_overwrite hb, map_fst_overwrite hbc, map_fst_overwrite hc,
      List.filter_append, List.filter_filter, List.append_assoc, List.append_cancel_left_eq,
      List.append_cancel_left_eq]
    -- a key of the last table is new if it is neither in the first nor newly in the second one
    refine List.filter_congr fun key _ => ?_
    by_cases hkey : key ∈ a.map Prod.fst
    · simp [hkey]
    · simp [hkey]
  · rw [get?_overwrite hc, get?_overwrite hb, get?_overwrite hbc, get?_overwrite hc,
      Option.or_assoc]

/-- Tables without a common key have the same entries, whichever of them is put on top. -/
theorem get?_overwrite_comm {a b : List (κ × α)} (ha : (a.map Prod.fst).Nodup)
    (hb : (b.map Prod.fst).Nodup) (h : ∀ key ∈ a.map Prod.fst, key ∉ b.map Prod.fst) (key : κ) :
    get? key (overwrite a b) = get? key (overwrite b a) := by
  rw [get?_overwrite hb, get?_overwrite ha]
  by_cases hkey : key ∈ a.map Prod.fst
  · rw [get?_eq_none_iff.2 (h key hkey), Option.none_or, Option.or_none]
  · rw [get?_eq_none_iff.2 hkey, Option.none_or, Option.or_none]

theorem perm_of_get? {a b : List (κ × α)} (ha : (a.map Prod.fst).Nodup)
    (hb : (b.map Prod.fst).Nodup) (h : ∀ key, get? key a = get? key b) : a.Perm b := by
  refine (List.perm_ext_iff_of_nodup ha.of_map hb.of_map).2 fun e => ?_
  rw [← get?_eq_some_iff ha, ← get?_eq_some_iff hb, h]

end Keyed

namespace Metadata

variable (a b c : Metadata)

theorem values_merge (key : String) :
    (a.merge b).values key = if key ∈ b.keys then b.values key else a.values key := by
  rw [values, entries_merge, Keyed.get?_overwrite b.nodup]
  split
  · next hkey =>
    obtain ⟨vs, hvs⟩ := Option.ne_none_iff_exists'.1 (mt Keyed.get?_eq_none_iff.1 (not_not.2 hkey))
    rw [values, hvs, Option.some_or]
  · next hkey => rw [Keyed.get?_eq_none_iff.2 hkey, Option.none_or, values]

theorem mem_keys_merge (key : String) :
    key ∈ (a.merge b).keys ↔ key ∈ a.keys ∨ key ∈ b.keys := by
  rw [keys, entries_merge, Keyed.map_fst_overwrite b.nodup, List.mem_append, List.mem_filter,
    decide_eq_true_iff]
  exact or_congr_right' fun hkey => and_iff_left hkey

theorem merge_assoc : (a.merge b).merge c = a.merge (b.merge c) := by
  apply Metadata.ext
  rw [entries_merge, entries_merge, entries_merge, entries_merge]
  exact Keyed.overwrite_assoc a.nodup b.nodup c.nodup

@[simp] theorem merge_empty : a.merge empty = a := rfl

theorem merge_merge_self : (a.merge b).merge b = a.merge b := by
  rw [merge_assoc, merge_self]

variable {a b} in
/-- Without a common key the order matters for the order of the keys only. -/
theorem entries_merge_perm (h : ∀ key ∈ a.keys, key ∉ b.keys) :
    (a.merge b).entries.Perm (b.merge a).entries := by
  refine Keyed.perm_of_get? (a.merge b).nodup (b.merge a).nodup fun key => ?_
  rw [entries_merge, entries_merge, Keyed.get?_overwrite_comm a.nodup b.nodup h]

/-- **Merging, key by key.** A merged map has the keys of both maps. A key of the second map has the
values it has there, in their order, and any other key those of the first map. So merging is
associative, the empty map changes nothing from either side, merging a map once more changes
nothing, and for maps without a common key both orders give the same values. -/
theorem merge_by_key :
    (∀ key, (a.merge b).values key = if key ∈ b.keys then b.values key else a.values key) ∧
    (∀ key, key ∈ (a.merge b).keys ↔ key ∈ a.keys ∨ key ∈ b.keys) ∧
    (a.merge b).merge c = a.merge (b.merge c) ∧
    empty.merge a = a ∧ a.merge empty = a ∧
    (a.merge b).merge b = a.merge b ∧ a.merge a = a ∧
    ((∀ key ∈ a.keys, key ∉ b.keys) →
      (∀ key, (a.merge b).values key = (b.merge a).values key) ∧
      (a.merge b).entries.Perm (b.merge a).entries) := by
  refine ⟨values_merge a b, mem_keys_merge a b, merge_assoc a b c, empty_merge a, merge_empty a,
    merge_merge_self a b, merge_self a, fun h => ⟨fun key => ?_, entries_merge_perm h⟩⟩
  rw [values, values, entries_merge, entries_merge, Keyed.get?_overwrite_comm a.nodup b.nodup h]

/-- Two values of one key and a value of another one, on top of which comes a map with a common key,
and one without. -/
theorem merge_by_key_common :
    let a := ((empty.add "id" "1").add "id" "2").add "tag" "x"
    let b := (empty.add "id" "3").add "id" "4"
    let c := empty.add "user" "42"
    (a.merge b).values "id" = ["3", "4"] ∧ (a.merge b).values "tag" = ["x"] ∧
      (a.merge c).entries.Perm (c.merge a).entries := by
  intro a b c
  have hid := (merge_by_key a b c).1 "id"
  have htag := (merge_by_key a b c).1 "tag"
  have hcomm := (merge_by_key a c b).2.2.2.2.2.2.2 (by decide)
  exact ⟨hid, htag, hcomm.2⟩

end Metadata

end CallGuard
