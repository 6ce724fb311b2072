import Mathlib.Data.List.Induction
import Mathlib.Data.List.Nodup

/-!
# First appearances

A list without its repetitions keeps each element where it first appears.  One more element at
the end is kept there if it is new, and leaves the list as it is if it is known.
-/

namespace RuleSchema

variable {α : Type} [BEq α] [LawfulBEq α] {seen : List α} {last : α}

theorem eraseDups_concat_of_mem (member : last ∈ seen) :
    (seen ++ [last]).eraseDups = seen.eraseDups := by
  rw [List.eraseDups_append]
  simp [List.removeAll, member]

theorem eraseDups_concat_of_not_mem (fresh : last ∉ seen) :
    (seen ++ [last]).eraseDups = seen.eraseDups ++ [last] := by
  rw [List.eraseDups_append]
  simp [List.removeAll, fresh, List.eraseDups_cons]

theorem nodup_eraseDups (seen : List α) : seen.eraseDups.Nodup := by
  induction seen using List.reverseRecOn with
  | nil => exact List.nodup_nil
  | append_singleton before last ih =>
      by_cases known : last ∈ before
      · rw [eraseDups_concat_of_mem known]
        exact ih
      · rw [eraseDups_concat_of_not_mem known]
        refine ih.append (List.nodup_singleton last) (List.disjoint_singleton.mpr ?_)
        exact fun member => known (List.mem_eraseDups.mp member)

end RuleSchema
