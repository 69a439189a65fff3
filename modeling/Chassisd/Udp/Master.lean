import Chassisd.Bpdu.Handover
import Chassisd.Library.LeastNonzero
import Chassisd.Udp.Linecard

namespace Chassisd

open LeastNonzero

def group (g : Nat) : List Nat := List.range' (g * 4 + 33) 4

def alive (t : ChassisExist) (j : Nat) : Prop := 0 < (t.entry (j - 1)).age

instance (t : ChassisExist) (j : Nat) : Decidable (alive t j) :=
  inferInstanceAs (Decidable (_ < _))

def takeMaster (t : ChassisExist) (rootId localMaster j : Nat) : Nat :=
  if alive t j then
    if rootId = j then j
    else if localMaster = 0 ∨ j < localMaster then j
    else localMaster
  else localMaster

def scanMaster (t : ChassisExist) (rootId : Nat) (js : List Nat) : Nat :=
  js.foldl (takeMaster t rootId) 0

def chassisCheckMasterFc (c : ChassisData) : ChassisData × Int :=
  if 1 ≤ c.usCardNumber ∧ c.usCardNumber ≤ 32 then (c, 0)
  else
    let localMaster : Vector Nat 4 :=
      Vector.ofFn fun i => scanMaster c.ctpm.chassisExist c.ctpm.rootPortId (group i)
    ({ c with localMaster := localMaster.map Int.ofNat },
      if ∃ i, c.ctpm.brId.number = localMaster.get i then 1 else 0)

structure FabricCard (c : Chassis) : Prop where
  range : 33 ≤ c.usCardNumber ∧ c.usCardNumber ≤ 48
  brId : c.ctpm.brId.number = c.usCardNumber

theorem fabricCard_run {k : Nat} (hk : 33 ≤ k ∧ k ≤ 48) (topology : CtpMode)
    (hwaddr : Vector UInt8 6) (es : List Event) :
    FabricCard (Runs.run step (startUp k .fabricCard topology hwaddr) es) := by
  have hnum := (number_run k .fabricCard topology hwaddr es).1
  refine ⟨by rw [hnum]; exact hk, ?_⟩
  rw [brId_run k (by omega), hnum]

def electedMaster (t : ChassisExist) (rootId g : Nat) : Nat :=
  if rootId ∈ group g ∧ alive t rootId then rootId
  else ((group g).filter fun j => alive t j).min?.getD 0

theorem mem_group {g j : Nat} : j ∈ group g ↔ g * 4 + 33 ≤ j ∧ j < g * 4 + 37 := by
  simp only [group, List.mem_range'_1]

theorem eq_of_mem_group {g g' j : Nat} (h : j ∈ group g) (h' : j ∈ group g') : g = g' := by
  rw [mem_group] at h h'
  omega

theorem group_sorted (g : Nat) : (group g).Pairwise (· < ·) := List.pairwise_lt_range'

theorem pos_of_mem_group {g j : Nat} (h : j ∈ group g) : 0 < j := by
  rw [mem_group] at h
  omega

theorem leastOf_min? {xs : List Nat} (hpos : ∀ x ∈ xs, 0 < x) : LeastOf xs (xs.min?.getD 0) := by
  cases hmin : xs.min? with
  | none =>
    obtain rfl := List.min?_eq_none_iff.mp hmin
    exact ⟨.inl rfl, by simp⟩
  | some m =>
    obtain ⟨hmem, hle⟩ := List.min?_eq_some_iff.mp hmin
    exact ⟨.inr hmem, fun x hx _ => ⟨(hpos m hmem).ne', hle x hx⟩⟩

section Scan

variable {t : ChassisExist} {rootId : Nat}

structure Scanned (t : ChassisExist) (rootId : Nat) (js : List Nat) (m : Nat) : Prop where
  root : rootId ∈ js → alive t rootId → m = rootId
  least : ¬ (rootId ∈ js ∧ alive t rootId) → LeastOf (js.filter fun j => alive t j) m

theorem Scanned.mem {js : List Nat} {m : Nat} (h : Scanned t rootId js m) : m = 0 ∨ m ∈ js := by
  by_cases hroot : rootId ∈ js ∧ alive t rootId
  · rw [h.root hroot.1 hroot.2]
    exact .inr hroot.1
  · exact (h.least hroot).mem.imp_right List.mem_of_mem_filter

-- The numbers come in ascending order: only the root can still displace a candidate.
theorem Scanned.take {js : List Nat} {m j : Nat} (h : Scanned t rootId js m)
    (hlt : ∀ i ∈ js, i < j) (hpos : ∀ i ∈ js, 0 < i) (hj : 0 < j) :
    Scanned t rootId (js ++ [j]) (takeMaster t rootId m j) := by
  have hmem : ∀ i, i ∈ js ++ [j] ↔ i ∈ js ∨ i = j := by simp
  by_cases halive : alive t j
  · by_cases hroot : rootId = j
    · rw [takeMaster, if_pos halive, if_pos hroot]
      exact ⟨fun _ _ => hroot.symm, fun hn => absurd ⟨(hmem _).mpr (.inr hroot), hroot ▸ halive⟩ hn⟩
    · have hleast : takeMaster t rootId m j = LeastNonzero.least m j := by
        rw [takeMaster, if_pos halive, if_neg hroot, LeastNonzero.least, if_neg hj.ne']
        rcases h.mem with rfl | hm
        · simp
        · have hmj := hlt m hm
          have hm0 := (hpos m hm).ne'
          rw [if_neg (by omega), if_neg hm0, min_eq_left hmj.le]
      rw [hleast]
      constructor
      · intro hin hlive
        have hjs := ((hmem _).mp hin).resolve_right hroot
        rw [h.root hjs hlive, LeastNonzero.least, if_neg (hpos _ hjs).ne', if_neg hj.ne',
          min_eq_left (hlt _ hjs).le]
      · intro hn
        rw [List.filter_append, List.filter_singleton, decide_eq_true halive]
        exact (h.least fun hr => hn ⟨(hmem _).mpr (.inl hr.1), hr.2⟩).concat j
  · rw [takeMaster, if_neg halive]
    constructor
    · intro hin hlive
      rcases (hmem _).mp hin with hjs | rfl
      · exact h.root hjs hlive
      · exact absurd hlive halive
    · intro hn
      rw [List.filter_append, List.filter_singleton, decide_eq_false halive]
      refine (List.append_nil _).symm ▸ h.least fun hr => hn ⟨(hmem _).mpr (.inl hr.1), hr.2⟩

theorem scanned {js : List Nat} (hsorted : js.Pairwise (· < ·)) (hpos : ∀ j ∈ js, 0 < j) :
    Scanned t rootId js (scanMaster t rootId js) := by
  induction js using List.reverseRecOn with
  | nil => exact ⟨fun h => absurd h List.not_mem_nil, fun _ => ⟨.inl rfl, by simp⟩⟩
  | append_singleton js j ih =>
    rw [scanMaster, List.foldl_append]
    obtain ⟨hjs, -, hlt⟩ := List.pairwise_append.mp hsorted
    have hpos' : ∀ i ∈ js, 0 < i := fun i hi => hpos i (List.mem_append_left [j] hi)
    exact (ih hjs hpos').take (fun i hi => hlt i hi j (List.mem_singleton_self j)) hpos'
      (hpos j (by simp))

theorem leastAlive (t : ChassisExist) (g : Nat) :
    LeastOf ((group g).filter fun j => alive t j)
      (((group g).filter fun j => alive t j).min?.getD 0) :=
  leastOf_min? fun _ hx => pos_of_mem_group (List.mem_of_mem_filter hx)

theorem scanMaster_group (t : ChassisExist) (rootId g : Nat) :
    scanMaster t rootId (group g) = electedMaster t rootId g := by
  have h : Scanned t rootId (group g) (scanMaster t rootId (group g)) :=
    scanned (group_sorted g) fun _ => pos_of_mem_group
  unfold electedMaster
  split_ifs with hroot
  · exact h.root hroot.1 hroot.2
  · exact (h.least hroot).unique (leastAlive t g)

theorem electedMaster_mem (t : ChassisExist) (rootId g : Nat) :
    electedMaster t rootId g = 0 ∨
      electedMaster t rootId g ∈ group g ∧ alive t (electedMaster t rootId g) := by
  unfold electedMaster
  split_ifs with hroot
  · exact .inr hroot
  · refine (leastAlive t g).mem.imp_right fun h => ?_
    simpa using List.mem_filter.mp h

theorem electedMaster_ne_zero {g k : Nat} (hk : k ∈ group g) (halive : alive t k) :
    electedMaster t rootId g ≠ 0 := by
  unfold electedMaster
  split_ifs with hroot
  · exact (pos_of_mem_group hroot.1).ne'
  · exact ((leastAlive t g).le k (by simp [hk, halive]) (pos_of_mem_group hk).ne').1

end Scan

theorem check_of_fabricCard {c : ChassisData} (h : FabricCard c.toChassis) :
    (∀ g : Fin 4, (chassisCheckMasterFc c).1.localMaster.get g =
      electedMaster c.ctpm.chassisExist c.ctpm.rootPortId g) ∧
    (chassisCheckMasterFc c).2 =
      if ∃ g : Fin 4, (c.usCardNumber : Int) = (chassisCheckMasterFc c).1.localMaster.get g
      then 1 else 0 := by
  have hnot : ¬ (1 ≤ c.usCardNumber ∧ c.usCardNumber ≤ 32) := by
    have hrange := h.range
    omega
  have hget : ∀ g : Fin 4, (chassisCheckMasterFc c).1.localMaster.get g =
      electedMaster c.ctpm.chassisExist c.ctpm.rootPortId g := by
    intro g
    rw [chassisCheckMasterFc, if_neg hnot]
    simp [Vector.get_eq_getElem, scanMaster_group]
  refine ⟨hget, ?_⟩
  simp only [hget]
  rw [chassisCheckMasterFc, if_neg hnot]
  simp only [Vector.get_eq_getElem, Vector.getElem_ofFn, scanMaster_group, h.brId, Nat.cast_inj]

theorem claims_iff {c : ChassisData} (h : FabricCard c.toChassis) :
    (chassisCheckMasterFc c).2 = 1 ↔ ∃ g : Fin 4,
      c.usCardNumber = electedMaster c.ctpm.chassisExist c.ctpm.rootPortId g := by
  obtain ⟨hget, hret⟩ := check_of_fabricCard h
  rw [hret]
  simp [hget]

theorem own_entry {c : ChassisData} (h : FabricCard c.toChassis)
    (hclaim : (chassisCheckMasterFc c).2 = 1) {g : Fin 4} (hg : c.usCardNumber ∈ group g) :
    c.usCardNumber = electedMaster c.ctpm.chassisExist c.ctpm.rootPortId g := by
  obtain ⟨g', hg'⟩ := (claims_iff h).mp hclaim
  rcases electedMaster_mem c.ctpm.chassisExist c.ctpm.rootPortId g' with hzero | ⟨hmem, -⟩
  · have hrange := h.range
    omega
  · rw [← hg'] at hmem
    obtain rfl : g = g' := Fin.ext (eq_of_mem_group hg hmem)
    exact hg'

theorem local_master_election :
    (∀ c : ChassisData, FabricCard c.toChassis →
      (∀ g : Fin 4, (chassisCheckMasterFc c).1.localMaster.get g =
        electedMaster c.ctpm.chassisExist c.ctpm.rootPortId g) ∧
      ((chassisCheckMasterFc c).2 = 1 ↔
        ∃ g : Fin 4, (chassisCheckMasterFc c).1.localMaster.get g = c.usCardNumber)) ∧
    (∀ c c' : ChassisData, FabricCard c.toChassis → FabricCard c'.toChassis →
      c.ctpm.chassisExist = c'.ctpm.chassisExist → c.ctpm.rootPortId = c'.ctpm.rootPortId →
      (chassisCheckMasterFc c).2 = 1 → (chassisCheckMasterFc c').2 = 1 →
      ∀ g : Fin 4, c.usCardNumber ∈ group g → c'.usCardNumber ∈ group g →
        c.usCardNumber = c'.usCardNumber) ∧
    ∀ c : ChassisData, FabricCard c.toChassis → ∀ g : Fin 4,
      (∃ k ∈ group g, alive c.ctpm.chassisExist k) →
      ∃! k : Nat, k ∈ group g ∧ alive c.ctpm.chassisExist k ∧
        (chassisCheckMasterFc c).1.localMaster.get g = k := by
  refine ⟨fun c h => ⟨(check_of_fabricCard h).1, ?_⟩, ?_, ?_⟩
  · rw [claims_iff h]
    simp only [(check_of_fabricCard h).1, Nat.cast_inj, eq_comm]
  · intro c c' h h' htable hroot hclaim hclaim' g hg hg'
    rw [own_entry h hclaim hg, own_entry h' hclaim' hg', htable, hroot]
  · rintro c h g ⟨k, hk, halive⟩
    have hget := (check_of_fabricCard h).1 g
    obtain ⟨hmem, hlive⟩ := (electedMaster_mem c.ctpm.chassisExist c.ctpm.rootPortId g).resolve_left
      (electedMaster_ne_zero hk halive)
    refine ⟨_, ⟨hmem, hlive, hget⟩, fun k' ⟨_, _, hk'⟩ => ?_⟩
    exact_mod_cast hk'.symm.trans hget

def secondOfGroup : ChassisData where
  toChassis :=
    { startUp 35 .fabricCard .enabled (Vector.replicate 6 0) with
      ctpm.rootPortId := 36
      ctpm.chassisExist := (ChassisExist.zero.setAge 33 3).setAge 35 3 }
  usCard := Vector.replicate _ default
  localMaster := Vector.replicate _ 0

theorem fabricCard_secondOfGroup : FabricCard secondOfGroup.toChassis :=
  ⟨(fabricCard_run (by decide) .enabled (Vector.replicate 6 0) []).range,
    (fabricCard_run (by decide) .enabled (Vector.replicate 6 0) []).brId⟩

theorem secondOfGroup_names_root :
    ∃! k : Nat, k ∈ group (0 : Fin 4) ∧ alive secondOfGroup.ctpm.chassisExist k ∧
      (chassisCheckMasterFc secondOfGroup).1.localMaster.get 0 = k :=
  local_master_election.2.2 secondOfGroup fabricCard_secondOfGroup 0
    ⟨34, by decide, by decide +kernel⟩

end Chassisd
