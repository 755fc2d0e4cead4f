import Mathlib.Data.List.Induction

/-!
# First occurrences

`List.eraseDups` keeps the first occurrence of everything and drops the later ones. The searches of
this project grow their lists at the end, so the laws here are about a list with one more element.
-/

namespace AddonPicker

variable {α : Type} [BEq α] [LawfulBEq α]

/-- A new element at the end counts unless it has occurred before. -/
theorem eraseDups_concat (xs : List α) (a : α) :
    (xs ++ [a]).eraseDups = if xs.contains a then xs.eraseDups else xs.eraseDups ++ [a] := by
  rw [List.eraseDups_append, List.cons_removeAll]
  by_cases old : a ∈ xs
  · simp [old]
  · simp [old, List.eraseDups_cons]

theorem nodup_eraseDups (xs : List α) : xs.eraseDups.Nodup := by
  induction xs using List.reverseRecOn with
  | nil => exact List.nodup_nil
  | append_singleton xs a ih =>
      rw [eraseDups_concat]
      by_cases old : xs.contains a = true
      · rw [if_pos old]
        exact ih
      · have new : a ∉ xs.eraseDups := by
          simpa [List.mem_eraseDups] using old
        rw [if_neg old]
        refine List.nodup_append.mpr ⟨ih, List.pairwise_singleton _ a, ?_⟩
        intro b inside c last same
        rw [List.mem_singleton.mp last] at same
        exact new (same ▸ inside)

/-- Elements may be left out before or after the first occurrences are picked. -/
theorem filter_eraseDups (p : α → Bool) (xs : List α) :
    xs.eraseDups.filter p = (xs.filter p).eraseDups := by
  induction xs using List.reverseRecOn with
  | nil => rfl
  | append_singleton xs a ih =>
      rw [eraseDups_concat, List.filter_append]
      by_cases kept : p a = true
      · rw [List.filter_cons_of_pos kept, List.filter_nil, eraseDups_concat, ← ih]
        have old : (xs.filter p).contains a = xs.contains a := by
          rw [Bool.eq_iff_iff]
          simp [kept]
        rw [old]
        split
        · rfl
        · rw [List.filter_append, List.filter_cons_of_pos kept, List.filter_nil]
      · rw [List.filter_cons_of_neg kept, List.filter_nil, List.append_nil, ← ih]
        split
        · rfl
        · rw [List.filter_append, List.filter_cons_of_neg kept, List.filter_nil, List.append_nil]

/-- Lists with the same first occurrences have the same ones after one more element. -/
theorem eraseDups_concat_congr {xs ys : List α}
    (same : xs.eraseDups = ys.eraseDups) (a : α) :
    (xs ++ [a]).eraseDups = (ys ++ [a]).eraseDups := by
  have members : xs.contains a = ys.contains a := by
    rw [Bool.eq_iff_iff, List.contains_iff_mem, List.contains_iff_mem, ← List.mem_eraseDups, same,
      List.mem_eraseDups]
  rw [eraseDups_concat, eraseDups_concat, members, same]

/-- Repetitions in a row that follow the same list do not count. -/
theorem eraseDups_append_replicate (xs : List α) (n : Nat) (a : α) :
    (xs ++ List.replicate (n + 1) a).eraseDups = (xs ++ [a]).eraseDups := by
  induction n with
  | zero => rfl
  | succ n ih =>
      rw [List.replicate_succ', ← List.append_assoc, eraseDups_concat, if_pos, ih]
      simp

end AddonPicker
