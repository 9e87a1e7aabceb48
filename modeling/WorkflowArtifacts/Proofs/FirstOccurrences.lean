import Mathlib.Data.List.Induction
import Mathlib.Data.List.Perm.Basic

/-!
# First occurrences

Of equal entries of a list, `eraseDups` keeps the first. So what it leaves is in the order in which
the entries first occur (`pairwise_idxOf_eraseDups`), no entry is left over twice, and a list that
holds the same entries in another order is left with the same ones (`eraseDups_perm`).

Lists grow at their ends where they are gone through, which is why the induction here is on the
last entry.
-/

namespace WorkflowArtifacts

variable {α : Type} [BEq α] [LawfulBEq α]

theorem eraseDups_concat_of_mem {xs : List α} {x : α} (h : x ∈ xs) :
    (xs ++ [x]).eraseDups = xs.eraseDups := by
  simp [List.eraseDups_append, List.removeAll, h]

theorem eraseDups_concat_of_notMem {xs : List α} {x : α} (h : x ∉ xs) :
    (xs ++ [x]).eraseDups = xs.eraseDups ++ [x] := by
  simp [List.eraseDups_append, List.removeAll, List.eraseDups_cons, h]

/-- The entries are left in the order in which they first occur. -/
theorem pairwise_idxOf_eraseDups (xs : List α) :
    xs.eraseDups.Pairwise fun x y ↦ xs.idxOf x < xs.idxOf y := by
  induction xs using List.reverseRecOn with
  | nil => exact .nil
  | append_singleton xs x ih =>
    -- the entries that were there before are still found where they were
    have hold : xs.eraseDups.Pairwise fun y z ↦ (xs ++ [x]).idxOf y < (xs ++ [x]).idxOf z := by
      refine ih.imp_of_mem fun hy hz h ↦ ?_
      rw [List.mem_eraseDups] at hy hz
      rwa [List.idxOf_append_of_mem hy, List.idxOf_append_of_mem hz]
    by_cases hx : x ∈ xs
    · rwa [eraseDups_concat_of_mem hx]
    · rw [eraseDups_concat_of_notMem hx, List.pairwise_append]
      refine ⟨hold, List.pairwise_singleton _ _, ?_⟩
      intro y hy z hz
      rw [List.mem_eraseDups] at hy
      rw [List.mem_singleton.1 hz, List.idxOf_append_of_mem hy, List.idxOf_append_of_notMem hx]
      have hlt := List.idxOf_lt_length_iff.2 hy
      omega

/-- No entry is left over twice. -/
theorem nodup_eraseDups (xs : List α) : xs.eraseDups.Nodup := by
  refine (pairwise_idxOf_eraseDups xs).imp ?_
  rintro x y h rfl
  omega

/-- In another order, the same entries are left over. -/
theorem eraseDups_perm {xs ys : List α} (h : xs.Perm ys) : xs.eraseDups.Perm ys.eraseDups := by
  rw [List.perm_ext_iff_of_nodup (nodup_eraseDups xs) (nodup_eraseDups ys)]
  intro x
  rw [List.mem_eraseDups, List.mem_eraseDups, h.mem_iff]

end WorkflowArtifacts
