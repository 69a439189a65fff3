import Chassisd.Bpdu.Member
import Chassisd.Library.Runs

namespace Chassisd

open ChassisExist

def maxEntry (usNumber : Nat) (f t : ChassisExist) (i : Nat) : BridgeExist :=
  if i + 1 = usNumber then t.entry i
  else ⟨max (t.entry i).age (f.entry i).age,
    if (t.entry i).age < (f.entry i).age then (f.entry i).id else (t.entry i).id⟩

def PointwiseMax (usNumber : Nat) (f t : ChassisExist) : Prop :=
  ∀ i < 48, (updateChassisMember usNumber f t).entry i = maxEntry usNumber f t i

def larger (usNumber : Nat) (f t : ChassisExist) (i : Nat) : Bool :=
  decide (i + 1 ≠ usNumber ∧ (t.entry i).age < (f.entry i).age)

def stretch (usNumber : Nat) (f t : ChassisExist) : Nat → Nat
  | 0 => if larger usNumber f t 0 then 1 else 0
  | i + 1 => if larger usNumber f t (i + 1) then stretch usNumber f t i + 1 else 0

-- The copy of entry i spills the frame's age of entry i+1, and here that does no harm.
def SpillsHarmlessly (usNumber : Nat) (f t : ChassisExist) : Prop :=
  ∀ i < 47, stretch usNumber f t i % 2 = 1 →
    (f.entry (i + 1)).age = (t.entry (i + 1)).age ∨
      (larger usNumber f t (i + 1) ∧ (f.entry (i + 1)).id = (t.entry (i + 1)).id)

section Stretch

variable (usNumber : Nat) (f t : ChassisExist)

theorem larger_iff (i : Nat) : larger usNumber f t i = decide (i + 1 ≠ usNumber ∧
    1 ≤ (f.entry i).age ∧ (t.entry i).age < (f.entry i).age) := by
  have hpos : (t.entry i).age < (f.entry i).age → 1 ≤ (f.entry i).age := by
    simp only [UInt8.lt_iff_toNat_lt, UInt8.le_iff_toNat_le]
    intro h
    change 1 ≤ _
    omega
  refine decide_eq_decide.mpr (and_congr_right fun _ => ⟨fun h => ⟨hpos h, h⟩, fun h => h.2⟩)

theorem copied_iff_stretch (i : Nat) :
    copied usNumber f t i = decide (stretch usNumber f t i % 2 = 1) := by
  induction i with
  | zero =>
    have hl := larger_iff usNumber f t 0
    rw [copied, stretch]
    cases h : larger usNumber f t 0 with
    | false => rw [h] at hl; exact hl.symm
    | true => rw [h] at hl; exact hl.symm
  | succ i ih =>
    have hl : decide (i + 2 ≠ usNumber ∧ 1 ≤ (f.entry (i + 1)).age ∧
        (t.entry (i + 1)).age < (f.entry (i + 1)).age) = larger usNumber f t (i + 1) :=
      (larger_iff usNumber f t (i + 1)).symm
    rw [copied, stretch, ih, hl]
    cases larger usNumber f t (i + 1) with
    | false => simp
    | true =>
      rw [Bool.and_true, if_pos rfl, ← decide_not]
      exact decide_eq_decide.mpr (by omega)

theorem larger_of_copied {i : Nat} (h : copied usNumber f t i = true) :
    larger usNumber f t i = true := by
  rw [copied_eq] at h
  rw [larger_iff]
  exact (Bool.and_eq_true_iff.mp h).2

theorem copied_or_spilled {i : Nat} (h : larger usNumber f t i = true) :
    copied usNumber f t i = true ∨ spilled usNumber f t i = true := by
  rw [copied_eq, ← larger_iff, h, Bool.and_true]
  cases spilled usNumber f t i <;> simp

theorem spilled_succ (i : Nat) : spilled usNumber f t (i + 1) = copied usNumber f t i := rfl

end Stretch

section Entries

variable {usNumber : Nat} {f t : ChassisExist} {i : Nat}

theorem max_of_larger (h : larger usNumber f t i = true) :
    maxEntry usNumber f t i = f.entry i := by
  obtain ⟨hne, hlt⟩ := of_decide_eq_true h
  have hmax : max (t.entry i).age (f.entry i).age = (f.entry i).age := by
    rw [UInt8.max_def, if_pos (UInt8.le_of_lt hlt)]
  rw [maxEntry, if_neg hne, if_pos hlt, hmax]

theorem max_of_not_larger (h : larger usNumber f t i = false) :
    maxEntry usNumber f t i = t.entry i := by
  unfold maxEntry
  split_ifs with hown hlt
  · rfl
  · exact absurd ⟨hown, hlt⟩ (of_decide_eq_false h)
  · have hmax : max (t.entry i).age (f.entry i).age = (t.entry i).age := by
      rw [UInt8.max_def]
      split_ifs with hle
      · exact UInt8.le_antisymm (UInt8.not_lt.mp hlt) hle
      · rfl
    rw [hmax]

theorem entry_merge (hi : i < 48) : (updateChassisMember usNumber f t).entry i =
    ⟨if copied usNumber f t i ∨ spilled usNumber f t i then (f.entry i).age else (t.entry i).age,
      if copied usNumber f t i then (f.entry i).id else (t.entry i).id⟩ := by
  rw [entry_updateChassisMember usNumber f t i hi, mergedEntry]
  simp only [hi, hi.le, true_and]

theorem entry_merge_iff (hi : i < 48) :
    (updateChassisMember usNumber f t).entry i = maxEntry usNumber f t i ↔
      (spilled usNumber f t i = true → (f.entry i).age = (t.entry i).age ∨
        (larger usNumber f t i = true ∧ (f.entry i).id = (t.entry i).id)) := by
  rw [entry_merge hi]
  cases hc : copied usNumber f t i with
  | true =>
    have hs : spilled usNumber f t i = false := by
      rw [copied_eq] at hc
      simpa using (Bool.and_eq_true_iff.mp hc).1
    rw [max_of_larger (larger_of_copied usNumber f t hc), hs]
    simp
  | false =>
    cases hs : spilled usNumber f t i with
    | false =>
      have hl : larger usNumber f t i = false := by
        by_contra hl
        rcases copied_or_spilled usNumber f t (Bool.eq_true_of_not_eq_false hl) with h | h
        · rw [hc] at h; cases h
        · rw [hs] at h; cases h
      rw [max_of_not_larger hl]
      simp
    | true =>
      simp only [Bool.false_eq_true, false_or, if_true, if_false, forall_const]
      cases hl : larger usNumber f t i with
      | true =>
        have hlt := (of_decide_eq_true hl).2
        rw [max_of_larger hl]
        constructor
        · intro h
          exact .inr ⟨rfl, (congrArg BridgeExist.id h).symm⟩
        · rintro (h | ⟨-, h⟩)
          · rw [h] at hlt
            exact absurd hlt (UInt8.lt_irrefl _)
          · rw [← h]
      | false =>
        rw [max_of_not_larger hl]
        constructor
        · intro h
          have hage := congrArg BridgeExist.age h
          exact .inl hage
        · rintro (h | ⟨h, -⟩)
          · rw [h]
          · cases h

end Entries

theorem pointwiseMax_iff (usNumber : Nat) (f t : ChassisExist) :
    PointwiseMax usNumber f t ↔ SpillsHarmlessly usNumber f t := by
  have hodd (i : Nat) : spilled usNumber f t (i + 1) = true ↔ stretch usNumber f t i % 2 = 1 := by
    rw [spilled_succ, copied_iff_stretch, decide_eq_true_eq]
  constructor
  · intro h i hi hstretch
    exact (entry_merge_iff (by omega)).mp (h (i + 1) (by omega)) ((hodd i).mpr hstretch)
  · intro h i hi
    refine (entry_merge_iff hi).mpr fun hs => ?_
    cases i with
    | zero => cases hs
    | succ i => exact h i (by omega) ((hodd i).mp hs)

theorem table_ext {t u : ChassisExist} (h : ∀ i < 48, t.entry i = u.entry i) : t = u := by
  obtain ⟨t⟩ := t
  obtain ⟨u⟩ := u
  refine congrArg ChassisExist.mk (Vector.ext fun i hi => ?_)
  simpa [entry, hi] using h i hi

theorem not_larger_merge (usNumber : Nat) (f t : ChassisExist) {i : Nat} (hi : i < 48) :
    larger usNumber f (updateChassisMember usNumber f t) i = false := by
  refine decide_eq_false ?_
  rintro ⟨hne, hlt⟩
  rw [entry_merge hi] at hlt
  dsimp only at hlt
  split_ifs at hlt with h
  · exact UInt8.lt_irrefl _ hlt
  · exact h (by simpa using copied_or_spilled usNumber f t (decide_eq_true ⟨hne, hlt⟩))

theorem merge_merge (usNumber : Nat) (f t : ChassisExist) :
    updateChassisMember usNumber f (updateChassisMember usNumber f t) =
      updateChassisMember usNumber f t := by
  refine table_ext fun i hi => ?_
  have hcopied (j : Nat) (hj : j < 48) :
      copied usNumber f (updateChassisMember usNumber f t) j = false := by
    by_contra h
    have hl := larger_of_copied _ _ _ (Bool.eq_true_of_not_eq_false h)
    rw [not_larger_merge usNumber f t hj] at hl
    cases hl
  have hspilled : spilled usNumber f (updateChassisMember usNumber f t) i = false := by
    cases i with
    | zero => rfl
    | succ i => exact hcopied i (by omega)
  rw [entry_merge hi, hcopied i hi, hspilled]
  simp

section Order

def mergeAll (usNumber : Nat) (t : ChassisExist) (fs : List ChassisExist) : ChassisExist :=
  Runs.run (updateChassisMember usNumber) t fs

variable {usNumber : Nat}

theorem age_mergeAll {fs : List ChassisExist} {t : ChassisExist}
    (h : Runs.Along (updateChassisMember usNumber) (fun t f => SpillsHarmlessly usNumber f t) t fs)
    {i : Nat} (hi : i < 48) :
    ((mergeAll usNumber t fs).entry i).age.toNat =
      if i + 1 = usNumber then (t.entry i).age.toNat
      else fs.foldl (fun a f => max a (f.entry i).age.toNat) (t.entry i).age.toNat := by
  induction fs generalizing t with
  | nil => simp [mergeAll]
  | cons f fs ih =>
    have hone := (pointwiseMax_iff usNumber f t).mpr h.1 i hi
    have hrest := ih h.2
    rw [mergeAll, Runs.run_cons, ← mergeAll, hrest, hone, maxEntry]
    by_cases hown : i + 1 = usNumber
    · simp only [if_pos hown]
    · have hmax : (max (t.entry i).age (f.entry i).age).toNat =
          max (t.entry i).age.toNat (f.entry i).age.toNat := by
        rw [UInt8.max_def, Nat.max_def]
        simp only [UInt8.le_iff_toNat_le]
        split_ifs <;> rfl
      simp only [if_neg hown, List.foldl_cons, hmax]

theorem age_mergeAll_perm {fs gs : List ChassisExist} {t : ChassisExist} (hperm : fs.Perm gs)
    (hf : Runs.Along (updateChassisMember usNumber) (fun t f => SpillsHarmlessly usNumber f t) t fs)
    (hg : Runs.Along (updateChassisMember usNumber) (fun t f => SpillsHarmlessly usNumber f t) t gs)
    {i : Nat} (hi : i < 48) :
    ((mergeAll usNumber t fs).entry i).age = ((mergeAll usNumber t gs).entry i).age := by
  apply UInt8.toNat_inj.mp
  rw [age_mergeAll hf hi, age_mergeAll hg hi]
  split_ifs
  · rfl
  · refine hperm.foldl_eq' (fun f _ g _ a => ?_) _
    omega

end Order

theorem merge_is_max_iff (usNumber : Nat) (f t : ChassisExist) :
    (PointwiseMax usNumber f t ↔ SpillsHarmlessly usNumber f t) ∧
      updateChassisMember usNumber f (updateChassisMember usNumber f t) =
        updateChassisMember usNumber f t ∧
      ∀ fs gs : List ChassisExist, fs.Perm gs →
        Runs.Along (updateChassisMember usNumber) (fun t f => SpillsHarmlessly usNumber f t) t fs →
        Runs.Along (updateChassisMember usNumber) (fun t f => SpillsHarmlessly usNumber f t) t gs →
        ∀ i < 48, ((mergeAll usNumber t fs).entry i).age =
          ((mergeAll usNumber t gs).entry i).age :=
  ⟨pointwiseMax_iff usNumber f t, merge_merge usNumber f t,
    fun _ _ hperm hf hg _ hi => age_mergeAll_perm hperm hf hg hi⟩

theorem merge_spills_age :
    ¬ ∀ (usNumber : Nat) (f t : ChassisExist), PointwiseMax usNumber f t := by
  intro h
  have hid := congrArg BridgeExist.id (h 1 ((ChassisExist.zero.set 1 ⟨ownAge, ⟨2, default⟩⟩).set 2
    ⟨ownAge, ⟨3, default⟩⟩) ChassisExist.zero 2 (by decide))
  revert hid
  decide +kernel

end Chassisd
