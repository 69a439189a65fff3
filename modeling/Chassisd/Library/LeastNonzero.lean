import Mathlib

namespace LeastNonzero

variable {α : Type*} [LinearOrder α] [Zero α]

-- The smaller of two values, zero standing for none.
def least (a b : α) : α := if a = 0 then b else if b = 0 then a else min a b

structure LeastOf (xs : List α) (r : α) : Prop where
  mem : r = 0 ∨ r ∈ xs
  le : ∀ x ∈ xs, x ≠ 0 → r ≠ 0 ∧ r ≤ x

variable {xs ys : List α} {r s : α}

theorem LeastOf.unique (hr : LeastOf xs r) (hs : LeastOf xs s) : r = s := by
  by_cases hr0 : r = 0
  · rcases hs.mem with hs0 | hs'
    · rw [hr0, hs0]
    · by_contra hne
      exact (hr.le s hs' fun hs0 => hne (hr0.trans hs0.symm)).1 hr0
  · have hr' := hr.mem.resolve_left hr0
    obtain ⟨hs0, hsr⟩ := hs.le r hr' hr0
    exact le_antisymm (hr.le s (hs.mem.resolve_left hs0) hs0).2 hsr

theorem LeastOf.perm (h : LeastOf xs r) (hperm : xs.Perm ys) : LeastOf ys r :=
  ⟨h.mem.imp_right hperm.mem_iff.mp, fun x hx => h.le x (hperm.mem_iff.mpr hx)⟩

theorem leastOf_singleton (a : α) : LeastOf [a] a :=
  ⟨.inr (List.mem_singleton_self a), fun x hx hx0 => by
    obtain rfl := List.mem_singleton.mp hx
    exact ⟨hx0, le_rfl⟩⟩

theorem LeastOf.concat (h : LeastOf xs r) (b : α) : LeastOf (xs ++ [b]) (least r b) := by
  unfold least
  split_ifs with hr hb
  · refine ⟨.inr (by simp), fun x hx hx0 => ?_⟩
    rcases List.mem_append.mp hx with hx | hx
    · exact absurd hr (h.le x hx hx0).1
    · obtain rfl := List.mem_singleton.mp hx
      exact ⟨hx0, le_rfl⟩
  · refine ⟨h.mem.imp_right (List.mem_append_left [b]), fun x hx hx0 => ?_⟩
    rcases List.mem_append.mp hx with hx | hx
    · exact h.le x hx hx0
    · exact absurd ((List.mem_singleton.mp hx).trans hb) hx0
  · have hne : min r b ≠ 0 := by
      rcases min_choice r b with hm | hm
      · rw [hm]; exact hr
      · rw [hm]; exact hb
    constructor
    · rcases min_choice r b with hm | hm
      · rw [hm]; exact h.mem.imp_right (List.mem_append_left [b])
      · rw [hm]; exact .inr (by simp)
    · intro x hx hx0
      refine ⟨hne, ?_⟩
      rcases List.mem_append.mp hx with hx | hx
      · exact (min_le_left r b).trans (h.le x hx hx0).2
      · rw [List.mem_singleton.mp hx]
        exact min_le_right r b

theorem least_zero (a : α) : least a 0 = a := by
  unfold least
  split_ifs with h h'
  · exact h.symm
  · rfl
  · exact absurd rfl h'

theorem least_self (a : α) : least a a = a := by
  unfold least
  split_ifs
  · rfl
  · exact min_self a

end LeastNonzero
