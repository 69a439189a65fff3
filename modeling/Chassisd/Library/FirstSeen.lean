import Mathlib

namespace FirstSeen

variable {κ : Type*} [DecidableEq κ] (cap : Nat)

def record (seen : List κ) (k : κ) : List κ :=
  if k ∈ seen ∨ cap ≤ seen.length then seen else seen ++ [k]

def recordAll (ks : List κ) : List κ := ks.foldl (record cap) []

@[simp] theorem recordAll_nil : recordAll cap ([] : List κ) = [] := rfl

@[simp] theorem recordAll_concat (ks : List κ) (k : κ) :
    recordAll cap (ks ++ [k]) = record cap (recordAll cap ks) k := by
  simp [recordAll, List.foldl_append]

variable {cap}

theorem record_of_mem {seen : List κ} {k : κ} (h : k ∈ seen) : record cap seen k = seen :=
  if_pos (.inl h)

theorem record_of_full {seen : List κ} {k : κ} (h : cap ≤ seen.length) :
    record cap seen k = seen := if_pos (.inr h)

theorem record_of_room {seen : List κ} {k : κ} (hk : k ∉ seen) (h : seen.length < cap) :
    record cap seen k = seen ++ [k] := if_neg (by simp [hk, h])

theorem nodup_recordAll (cap : Nat) (ks : List κ) : (recordAll cap ks).Nodup := by
  induction ks using List.reverseRecOn with
  | nil => simp
  | append_singleton ks k ih =>
    rw [recordAll_concat, record]
    split_ifs with h
    · exact ih
    · exact ih.append (List.nodup_singleton k) (by simpa using fun hk => h (.inl hk))

theorem recordAll_subset (ks : List κ) : recordAll cap ks ⊆ ks := by
  induction ks using List.reverseRecOn with
  | nil => simp
  | append_singleton ks k ih =>
    rw [recordAll_concat, record]
    split_ifs
    · exact List.Subset.trans ih (List.subset_append_left ks [k])
    · exact List.append_subset.mpr
        ⟨List.Subset.trans ih (List.subset_append_left ks [k]), List.subset_append_right ks [k]⟩

theorem length_recordAll_le (cap : Nat) (ks : List κ) : (recordAll cap ks).length ≤ cap := by
  induction ks using List.reverseRecOn with
  | nil => simp
  | append_singleton ks k ih =>
    rw [recordAll_concat, record]
    split_ifs with h
    · exact ih
    · rw [List.length_append, List.length_singleton]
      exact Nat.succ_le_of_lt (Nat.lt_of_not_le fun hle => h (.inr hle))

theorem subset_recordAll {ks : List κ} (h : (recordAll cap ks).length < cap) :
    ks ⊆ recordAll cap ks := by
  induction ks using List.reverseRecOn with
  | nil => simp
  | append_singleton ks k ih =>
    rw [recordAll_concat] at h ⊢
    by_cases hk : k ∈ recordAll cap ks
    · rw [record_of_mem hk] at h ⊢
      exact List.append_subset.mpr ⟨ih h, by simpa using hk⟩
    · have hroom : (recordAll cap ks).length < cap := by
        by_contra hfull
        rw [record_of_full (Nat.le_of_not_lt hfull)] at h
        exact hfull h
      rw [record_of_room hk hroom]
      exact List.append_subset.mpr
        ⟨List.Subset.trans (ih hroom) (List.subset_append_left _ _),
          List.subset_append_right _ _⟩

theorem length_recordAll_lt {ks : List κ} :
    (recordAll cap ks).length < cap ↔ ks.toFinset.card < cap := by
  have hsub : (recordAll cap ks).toFinset ⊆ ks.toFinset :=
    fun k hk => List.mem_toFinset.mpr (recordAll_subset ks (List.mem_toFinset.mp hk))
  have hcard := List.toFinset_card_of_nodup (nodup_recordAll cap ks)
  constructor
  · intro h
    have hle := Finset.card_le_card (fun k hk =>
      List.mem_toFinset.mpr (subset_recordAll h (List.mem_toFinset.mp hk)) :
      ks.toFinset ⊆ (recordAll cap ks).toFinset)
    omega
  · intro h
    have hle := Finset.card_le_card hsub
    omega

end FirstSeen
