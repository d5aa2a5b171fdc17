/-!
# Lists without repetitions

`List.eraseDups` leaves every element of a list at the place where it first occurs. What this comes
to is `FirstOccurrences`, which does not speak of how the repetitions are found.
-/

namespace CallGuard

variable {α : Type} [BEq α]

/-- The second list holds what stands in the first one, in the order of the first occurrences. -/
def FirstOccurrences (l firsts : List α) : Prop :=
  (∀ a, a ∈ firsts ↔ a ∈ l) ∧ firsts.Pairwise fun a b => l.idxOf a < l.idxOf b

theorem FirstOccurrences.nodup {l firsts : List α} (h : FirstOccurrences l firsts) :
    firsts.Nodup := by
  refine h.2.imp ?_
  rintro a _ hlt rfl
  exact Nat.lt_irrefl _ hlt

variable [LawfulBEq α]

theorem eraseDups_filter (p : α → Bool) :
    ∀ l : List α, (l.filter p).eraseDups = l.eraseDups.filter p
  | [] => rfl
  | a :: l => by
    have ih := eraseDups_filter p (l.filter fun b => !b == a)
    rw [List.filter_filter] at ih
    rw [List.eraseDups_cons]
    by_cases ha : p a = true
    · rw [List.filter_cons_of_pos ha, List.filter_cons_of_pos ha, List.eraseDups_cons, ← ih,
        List.filter_filter]
      simp only [Bool.and_comm]
    · rw [List.filter_cons_of_neg ha, List.filter_cons_of_neg ha, ← ih]
      -- what passes the test differs from `a`, which does not
      refine congrArg _ (List.filter_congr fun b _ => ?_)
      by_cases hb : b = a
      · simp [hb, ha]
      · simp [hb]
termination_by l => l.length
decreasing_by exact Nat.lt_succ_of_le (List.length_filter_le ..)

theorem firstOccurrences_eraseDups (l : List α) : FirstOccurrences l l.eraseDups := by
  refine ⟨fun _ => List.mem_eraseDups, ?_⟩
  induction l with
  | nil => exact List.Pairwise.nil
  | cons a l ih =>
    rw [List.eraseDups_cons, eraseDups_filter, List.pairwise_cons]
    have hne : ∀ b ∈ l.eraseDups.filter (fun b => !b == a), (a :: l).idxOf b = l.idxOf b + 1 := by
      intro b hb
      rw [List.mem_filter, Bool.not_eq_true', beq_eq_false_iff_ne] at hb
      rw [List.idxOf_cons, beq_false_of_ne hb.2.symm, cond_false]
    constructor
    · intro b hb
      rw [hne b hb, List.idxOf_cons_self]
      exact Nat.succ_pos _
    · refine (ih.sublist List.filter_sublist).imp_of_mem ?_
      intro b c hb hc hlt
      rw [hne b hb, hne c hc]
      exact Nat.succ_lt_succ hlt

end CallGuard
