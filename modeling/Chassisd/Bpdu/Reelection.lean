import Chassisd.Bpdu.Coherence

namespace Chassisd

open ChassisExist

def Qualifies (old : Nat) (c : Chassis) (k : Nat) : Prop :=
  1 ≤ k ∧ k ≤ 32 ∧ k ≠ old ∧ k ≠ c.usCardNumber ∧ 3 ≤ (c.ctpm.chassisExist.entry (k - 1)).age

def Elected (c c' : Chassis) (k : Nat) : Prop :=
  c'.ctpm.rootLCPortId = k ∧ c'.ctpm.rootPrio.designPort = k ∧
    c'.ctpm.rootPrio.designBridge = (c.ctpm.chassisExist.entry (k - 1)).id

def SameElected (c c' : Chassis) : Prop :=
  c'.ctpm.rootLCPortId = c.ctpm.rootLCPortId ∧
    c'.ctpm.rootPrio.designPort = c.ctpm.rootPrio.designPort ∧
    c'.ctpm.rootPrio.designBridge = c.ctpm.rootPrio.designBridge

def Retires (old : Nat) (c c' : Chassis) : Prop :=
  ∀ i < 48, c'.ctpm.chassisExist.entry i =
    if i + 1 = old then ⟨0, (c.ctpm.chassisExist.entry i).id⟩ else c.ctpm.chassisExist.entry i

structure Replaces (old : Nat) (c c' : Chassis) (ret : Int) : Prop where
  elected : ∀ k, IsLeast { k | Qualifies old c k } k → ret = 0 ∧ Elected c c' k
  alone : (∀ k, ¬ Qualifies old c k) → ret = -1 ∧ SameElected c c'
  retired : Retires old c c'

theorem selected_table (old : Nat) (c : Chassis) :
    (selectNewRootLc old c).1.ctpm.chassisExist = c.ctpm.chassisExist.setAge old 0 := by
  rcases h : heir c.usCardNumber (c.ctpm.chassisExist.setAge old 0) with - | i
  · rw [selectNewRootLc_of_none h]; rfl
  · rw [selectNewRootLc_of_some h]; rfl

theorem retires_iff {old : Nat} (hold : 1 ≤ old ∧ old ≤ 32) (c : Chassis) :
    Retires old c (selectNewRootLc old c).1 ↔
      (c.ctpm.chassisExist.entry (old - 1)).age = 0 ∧ (c.ctpm.chassisExist.entry old).age = 0 := by
  unfold Retires
  rw [selected_table]
  constructor
  · intro h
    have hown := h (old - 1) (by omega)
    have hnext := h old (by omega)
    rw [entry_setAge, if_neg (by omega), if_pos (by omega)] at hown
    rw [entry_setAge, if_pos ⟨rfl, by omega⟩, if_neg (by omega)] at hnext
    exact ⟨congrArg BridgeExist.age hown, (congrArg BridgeExist.age hnext).symm⟩
  · rintro ⟨hown, hnext⟩ i hi
    have hself (j : Nat) (hj : (c.ctpm.chassisExist.entry j).age = 0) :
        (⟨0, (c.ctpm.chassisExist.entry j).id⟩ : BridgeExist) = c.ctpm.chassisExist.entry j := by
      rw [← hj]
    rw [entry_setAge]
    by_cases h1 : i = old
    · rw [if_pos ⟨h1, by omega⟩, if_neg (by omega), h1]
      exact hself old hnext
    · rw [if_neg (by omega)]
      split_ifs with h2
      · obtain rfl : i = old - 1 := by omega
        exact (hself _ hown).symm
      · rfl

theorem age_retired {old : Nat} {t : ChassisExist} (h : (t.entry old).age = 0) (i : Nat) :
    ((t.setAge old 0).entry i).age = (t.entry i).age := by
  rw [entry_setAge]
  split_ifs with hi
  · rw [hi.1, h]
  · rfl

theorem heir_succ_isLeast {old i : Nat} {c : Chassis} {t : ChassisExist}
    (hage : ∀ j, (t.entry j).age = (c.ctpm.chassisExist.entry j).age)
    (hown : (c.ctpm.chassisExist.entry (old - 1)).age = 0) (h : heir c.usCardNumber t = some i) :
    IsLeast { k | Qualifies old c k } (i + 1) := by
  obtain ⟨⟨hi, hne, hthree⟩, hmin⟩ := heir_eq_some.mp h
  rw [hage] at hthree
  constructor
  · refine ⟨by omega, by omega, ?_, hne, hthree⟩
    rintro rfl
    rw [Nat.add_sub_cancel] at hown
    rw [hown] at hthree
    exact absurd hthree (by decide)
  · rintro k ⟨hk, -, -, hkne, hkage⟩
    by_contra hlt
    have hage' := hmin (k - 1) (by omega) (by omega)
    rw [hage] at hage'
    exact absurd hkage (UInt8.not_le.mpr hage')

theorem replaces_iff {old : Nat} (hold : 1 ≤ old ∧ old ≤ 32) (c : Chassis) :
    Replaces old c (selectNewRootLc old c).1 (selectNewRootLc old c).2 ↔
      (c.ctpm.chassisExist.entry (old - 1)).age = 0 ∧
        (c.ctpm.chassisExist.entry old).age = 0 ∧ ∀ k, ¬ Qualifies old c k := by
  constructor
  · intro h
    obtain ⟨hown, hnext⟩ := (retires_iff hold c).mp h.retired
    refine ⟨hown, hnext, fun k hk => ?_⟩
    have hage := age_retired hnext
    rcases hi : heir c.usCardNumber (c.ctpm.chassisExist.setAge old 0) with - | i
    · have hlow := heir_eq_none.mp hi (k - 1) (by have := hk.2.1; omega)
        (by have := hk.1; have := hk.2.2.2.1; omega)
      rw [hage] at hlow
      exact absurd hk.2.2.2.2 (UInt8.not_le.mpr hlow)
    · have hport := (h.elected (i + 1) (heir_succ_isLeast hage hown hi)).2.1
      rw [selectNewRootLc_of_some hi] at hport
      exact absurd hport (Nat.succ_ne_self i).symm
  · rintro ⟨hown, hnext, hnone⟩
    have hi : heir c.usCardNumber (c.ctpm.chassisExist.setAge old 0) = none := by
      refine heir_eq_none.mpr fun i hi hne => ?_
      rw [age_retired hnext]
      by_contra hage
      by_cases hio : i + 1 = old
      · rw [← hio, Nat.add_sub_cancel] at hown
        rw [hown] at hage
        exact hage (by decide)
      · exact hnone (i + 1) ⟨by omega, by omega, hio, hne, UInt8.not_lt.mp hage⟩
    refine ⟨fun k hk => absurd hk.1 (hnone k), fun _ => ?_, (retires_iff hold c).mpr ⟨hown, hnext⟩⟩
    rw [selectNewRootLc_of_none hi]
    exact ⟨rfl, rfl, rfl, rfl⟩

theorem select_new_root_lc_iff (c : Chassis) (old : Nat) (hold : 1 ≤ old ∧ old ≤ 32) :
    Replaces old c (selectNewRootLc old c).1 (selectNewRootLc old c).2 ↔
      (c.ctpm.chassisExist.entry (old - 1)).age = 0 ∧
        (c.ctpm.chassisExist.entry old).age = 0 ∧
        ∀ k, 1 ≤ k → k ≤ 32 → k ≠ c.usCardNumber →
          (c.ctpm.chassisExist.entry (k - 1)).age < 3 := by
  rw [replaces_iff hold]
  refine and_congr_right fun hown => and_congr_right fun _ => forall_congr' fun k => ?_
  constructor
  · intro h hk hk' hne
    by_contra hage
    by_cases hko : k = old
    · rw [hko, hown] at hage
      exact hage (by decide)
    · exact h ⟨hk, hk', hko, hne, UInt8.not_lt.mp hage⟩
  · rintro h ⟨hk, hk', -, hne, hage⟩
    exact absurd hage (UInt8.not_le.mpr (h hk hk' hne))

theorem select_new_root_lc_alone :
    Replaces 1 (startUp 33 .fabricCard .enabled (Vector.replicate 6 0))
      (selectNewRootLc 1 (startUp 33 .fabricCard .enabled (Vector.replicate 6 0))).1
      (selectNewRootLc 1 (startUp 33 .fabricCard .enabled (Vector.replicate 6 0))).2 := by
  have hentry (i : Nat) (hi : i ≠ 32) :
      ((startUp 33 .fabricCard .enabled (Vector.replicate 6 0)).ctpm.chassisExist.entry i).age
        = 0 := by
    rw [startUp_ctpm, (blocked_frame _ _).2.2.2.2,
      entry_clearChassisMember 33 _ i (by decide) (by decide), if_neg (by omega)]
    rfl
  refine (select_new_root_lc_iff _ 1 (by decide)).mpr ⟨hentry 0 (by decide), hentry 1 (by decide),
    fun k hk hk' _ => ?_⟩
  rw [hentry (k - 1) (by omega)]
  decide

set_option maxRecDepth 100000 in
theorem replacement_of_card_1_misnumbered :
    ¬ ∀ (c : Chassis) (old : Nat), 1 ≤ old ∧ old ≤ 32 →
      Replaces old c (selectNewRootLc old c).1 (selectNewRootLc old c).2 := by
  intro h
  have hnone := ((replaces_iff (by decide) _).mp (h (step (.rx (replyFrame 3 33) RstpBpdu.sizeof)
    (startUp 33 .fabricCard .enabled (Vector.replicate 6 0))) 1 (by decide))).2.2 3
  revert hnone
  unfold Qualifies
  decide +kernel

end Chassisd
