import Chassisd.Thermal.Sensors
import Chassisd.Udp.Shutdown

namespace Chassisd

abbrev numOfLc : Nat := 8
abbrev numOfFc : Nat := 2

inductive PowerAction where
  | shutdownLinecardLocal (lcSlot : Nat)
  | shutdownLinecardRemote (lcSlot : Nat)
  | shutdownFabriccard (fcSlot : Int)
  | resetFabriccardMac (fcSlot : Int) (mac : String)
  | resetFabriccardCpu (fcSlot : Int) (cpu : String)
  deriving DecidableEq, Repr

def fcPowerDir : Vector String 2 := #v["6-0044", "6-0047"]

def resetDir : Vector String 2 := #v["6-0060", "6-0061"]

def ofFcSlot (dirs : Vector String 2) (fcSlot : Int) : String :=
  dirs.get (Fin.ofNat 2 fcSlot.toNat)

def resetPath (fcSlot : Int) (unit : String) : String :=
  "/sys/bus/i2c/devices/" ++ ofFcSlot resetDir fcSlot ++ "/reset_" ++ unit

-- A file that cannot be written answers -EIO.
def resetCard (driver : Driver) (path : String) : List PowerWrite × Int :=
  let w : PowerWrite := ⟨path, 1⟩
  ([w], if driver w < 0 then driver w else 0)

def PowerAction.perform (driver : Driver) (c : ChassisData) : PowerAction → Outcome
  | shutdownLinecardLocal lcSlot =>
    let (writes, ret) := shutdownMgrShutdownLinecardLocal driver lcSlot
    ⟨c, writes, none, ret⟩
  | shutdownLinecardRemote lcSlot => tcpServerDoShutdownToClient lcSlot powerOffValue c
  | shutdownFabriccard fcSlot =>
    let (writes, ret) := shutdownMgrShutdownCard driver (hotSwapOn (ofFcSlot fcPowerDir fcSlot))
    ⟨c, writes, none, ret⟩
  | resetFabriccardMac fcSlot mac =>
    let (writes, ret) := resetCard driver (resetPath fcSlot ("mac_" ++ mac))
    ⟨c, writes, none, ret⟩
  | resetFabriccardCpu fcSlot cpu =>
    let (writes, ret) := resetCard driver (resetPath fcSlot ("cpu_" ++ cpu))
    ⟨c, writes, none, ret⟩

structure Journal where
  chassis : ChassisData
  actions : List PowerAction
  writes : List PowerWrite
  requests : List UdpRequest

section Handlers

variable (driver : Driver)

def Journal.perform (a : PowerAction) (j : Journal) : Journal × Int :=
  let o := a.perform driver j.chassis
  (⟨o.chassis, j.actions ++ [a], j.writes ++ o.writes, j.requests ++ o.request.toList⟩, o.result)

def shutdownMgrShutdownLinecard (fcSlot : Int) (lcSlot : Nat) (j : Journal) : Journal × Int :=
  if fcSlot < 0 ∨ 3 < fcSlot then (j, -einval)
  else if 7 < lcSlot then (j, -einval)
  else if lcSlot ≤ 3 then
    if fcSlot ≤ 1 then j.perform driver (.shutdownLinecardLocal lcSlot)
    else j.perform driver (.shutdownLinecardRemote lcSlot)
  else if fcSlot ≤ 1 then j.perform driver (.shutdownLinecardRemote lcSlot)
  else j.perform driver (.shutdownLinecardLocal lcSlot)

def shutdownMgrShutdownFabriccard (fcSlot : Int) (j : Journal) : Journal × Int :=
  if fcSlot < 0 ∨ 3 < fcSlot then (j, -einval)
  else j.perform driver (.shutdownFabriccard fcSlot)

def isLinecardThermal (tid : Nat) : Bool := (1 ≤ tid && tid ≤ 24) || (37 ≤ tid && tid ≤ 60)

def thermalIdToSlotId (tid : Nat) : Int :=
  if 1 ≤ tid ∧ tid ≤ 6 then 0
  else if 7 ≤ tid ∧ tid ≤ 12 then 1
  else if 13 ≤ tid ∧ tid ≤ 18 then 2
  else if 19 ≤ tid ∧ tid ≤ 24 then 3
  else if 37 ≤ tid ∧ tid ≤ 42 then 4
  else if 43 ≤ tid ∧ tid ≤ 48 then 5
  else if 49 ≤ tid ∧ tid ≤ 54 then 6
  else if 55 ≤ tid ∧ tid ≤ 60 then 7
  else if (25 ≤ tid ∧ tid ≤ 30) ∨ (61 ≤ tid ∧ tid ≤ 66) then 0
  else if (31 ≤ tid ∧ tid ≤ 36) ∨ (67 ≤ tid ∧ tid ≤ 72) then 1
  else -1

structure Overheat where
  lc : Vector Bool numOfLc
  fc : Vector Bool numOfFc
  deriving DecidableEq, Repr

def Overheat.mark (o : Overheat) (tid : Nat) : Overheat :=
  let i := (thermalIdToSlotId tid).toNat
  if isLinecardThermal tid then { o with lc := o.lc.setIfInBounds i true }
  else { o with fc := o.fc.setIfInBounds i true }

def collectOverheat (d : ThermalData) : Overheat :=
  tids.foldl (fun o tid =>
      let r := (d.entry tid).reading
      if r.temperature ≤ r.shutdown then o else o.mark tid)
    ⟨Vector.replicate _ false, Vector.replicate _ false⟩

def fcSlotTarget (slot : Int) (i : Nat) : Int := if 1 < slot then i + 2 else i

def shutdownMgrHandleShutdown (d : ThermalData) (j : Journal) : Journal :=
  let o := collectOverheat d
  let j := (List.range numOfLc).foldl (fun j i =>
    if o.lc[i]?.getD false then (shutdownMgrShutdownLinecard driver d.slot i j).1 else j) j
  let j := (List.range numOfFc).foldl (fun j (i : Nat) =>
    if (i : Int) = d.slot.tmod 2 then j
    else if o.fc[i]?.getD false then
      (shutdownMgrShutdownFabriccard driver (fcSlotTarget d.slot i) j).1
    else j) j
  (List.range numOfFc).foldl (fun j (i : Nat) =>
    if (i : Int) ≠ d.slot.tmod 2 then j
    else if o.fc[i]?.getD false then
      (shutdownMgrShutdownFabriccard driver (fcSlotTarget d.slot i) j).1
    else j) j

end Handlers

inductive Card where
  | line (slot : Nat)
  | fabric (index : Nat)
  deriving DecidableEq, Repr

def sensorsOf : Card → List Nat
  | .line slot => List.range' (if slot < 4 then 6 * slot + 1 else 6 * slot + 13) 6
  | .fabric index => List.range' (6 * index + 25) 6 ++ List.range' (6 * index + 61) 6

def hot (readings : Nat → Option Reading) (card : Card) : Bool :=
  (sensorsOf card).any fun tid => (readings tid).any fun r => r.shutdown < r.temperature

def ownHalf (slot : Int) : SlotHalf := if slot ≤ 1 then .lower else .upper

def linecardAction (slot : Int) (lcSlot : Nat) : PowerAction :=
  if (ownHalf slot).Owns lcSlot then .shutdownLinecardLocal lcSlot
  else .shutdownLinecardRemote lcSlot

def neighbour (slot : Int) : Int := if slot.tmod 2 = 0 then slot + 1 else slot - 1

def overheatPlan (slot : Int) (readings : Nat → Option Reading) : List PowerAction :=
  ((List.range numOfLc).filter fun k => hot readings (.line k)).map (linecardAction slot) ++
    ([neighbour slot, slot].filter fun fcSlot =>
      hot readings (.fabric (fcSlot.tmod 2).toNat)).map .shutdownFabriccard

def performAll (driver : Driver) (actions : List PowerAction) (j : Journal) : Journal :=
  actions.foldl (fun j a => (j.perform driver a).1) j

namespace PowerAction

def switched : PowerAction → Option PowerWrite
  | shutdownLinecardLocal lcSlot => some ⟨lcPath lcSlot, powerOffValue⟩
  | shutdownLinecardRemote _ => none
  | shutdownFabriccard fcSlot => some ⟨hotSwapOn (ofFcSlot fcPowerDir fcSlot), powerOffValue⟩
  | resetFabriccardMac fcSlot mac => some ⟨resetPath fcSlot ("mac_" ++ mac), 1⟩
  | resetFabriccardCpu fcSlot cpu => some ⟨resetPath fcSlot ("cpu_" ++ cpu), 1⟩

def requested (c : ChassisData) : PowerAction → Option UdpRequest
  | shutdownLinecardRemote lcSlot =>
    peerRequest c (UInt16.ofInt lcSlot) (UInt16.ofInt powerOffValue)
  | shutdownLinecardLocal _ | shutdownFabriccard _ | resetFabriccardMac _ _
  | resetFabriccardCpu _ _ => none

def OnBoard : PowerAction → Prop
  | shutdownLinecardLocal lcSlot => lcSlot < numOfLc
  | shutdownLinecardRemote _ | shutdownFabriccard _ | resetFabriccardMac _ _
  | resetFabriccardCpu _ _ => True

end PowerAction

structure Carries (plan : List PowerAction) (j j' : Journal) : Prop where
  chassis : Steady j.chassis j'.chassis
  actions : j'.actions = j.actions ++ plan
  writes : j'.writes = j.writes ++ plan.filterMap PowerAction.switched
  requests : j'.requests = j.requests ++ plan.filterMap (PowerAction.requested j.chassis)

section Effects

variable (driver : Driver) {a : PowerAction} {plan rest : List PowerAction} {j j' j'' : Journal}

theorem perform_spec (h : a.OnBoard) (c : ChassisData) :
    Steady c (a.perform driver c).chassis ∧ (a.perform driver c).writes = a.switched.toList ∧
      (a.perform driver c).request = a.requested c := by
  cases a with
  | shutdownLinecardLocal lcSlot =>
    have hslot : ¬ ((lcSlot : Int) < 0 ∨ 7 < (lcSlot : Int)) := by
      have hlt : lcSlot < 8 := h
      omega
    refine ⟨Steady.refl c, ?_, rfl⟩
    simp only [PowerAction.perform, shutdownMgrShutdownLinecardLocal, if_neg hslot]
    rfl
  | shutdownLinecardRemote lcSlot =>
    obtain ⟨hsteady, hwrites, -⟩ := relay_spec lcSlot powerOffValue c
    exact ⟨hsteady, hwrites, relay_request lcSlot powerOffValue c⟩
  | shutdownFabriccard fcSlot => exact ⟨Steady.refl c, rfl, rfl⟩
  | resetFabriccardMac fcSlot mac => exact ⟨Steady.refl c, rfl, rfl⟩
  | resetFabriccardCpu fcSlot cpu => exact ⟨Steady.refl c, rfl, rfl⟩

theorem Carries.nil (j : Journal) : Carries [] j j :=
  ⟨Steady.refl _, (List.append_nil _).symm, (List.append_nil _).symm, (List.append_nil _).symm⟩

theorem requested_congr {c c' : ChassisData} (h : Steady c c') :
    PowerAction.requested c' = PowerAction.requested c := by
  funext a
  cases a <;> simp only [PowerAction.requested, h.peerRequest]

theorem Carries.append (h : Carries plan j j') (h' : Carries rest j' j'') :
    Carries (plan ++ rest) j j'' where
  chassis := h.chassis.trans h'.chassis
  actions := by rw [h'.actions, h.actions, List.append_assoc]
  writes := by rw [h'.writes, h.writes, List.filterMap_append, List.append_assoc]
  requests := by
    rw [h'.requests, h.requests, requested_congr h.chassis, List.filterMap_append,
      List.append_assoc]

theorem carries_perform (h : a.OnBoard) (j : Journal) : Carries [a] j (j.perform driver a).1 := by
  obtain ⟨hsteady, hwrites, hrequest⟩ := perform_spec driver h j.chassis
  refine ⟨hsteady, rfl, ?_, ?_⟩
  · refine congrArg (j.writes ++ ·) (hwrites.trans ?_)
    cases hswitched : a.switched <;> simp [hswitched]
  · refine congrArg (j.requests ++ ·) ((congrArg Option.toList hrequest).trans ?_)
    cases hrequested : a.requested j.chassis <;> simp [hrequested]

theorem carries_performAll (h : ∀ a ∈ plan, a.OnBoard) (j : Journal) :
    Carries plan j (performAll driver plan j) := by
  induction plan generalizing j with
  | nil => exact Carries.nil j
  | cons a plan ih =>
    rw [List.forall_mem_cons] at h
    exact (carries_perform driver h.1 j).append (ih h.2 _)

theorem carries_performAll_iff (h : ∀ a ∈ plan, a.OnBoard) {plan' : List PowerAction} :
    Carries plan' j (performAll driver plan j) ↔ plan' = plan := by
  have hcarries := carries_performAll driver h j
  constructor
  · intro h'
    exact List.append_cancel_left (h'.actions.symm.trans hcarries.actions)
  · rintro rfl
    exact hcarries

theorem onBoard_linecardAction (slot : Int) {k : Nat} (hk : k < numOfLc) :
    (linecardAction slot k).OnBoard := by
  unfold linecardAction
  split_ifs
  · exact hk
  · trivial

theorem onBoard_overheatPlan {slot : Int} {readings : Nat → Option Reading} :
    ∀ a ∈ overheatPlan slot readings, a.OnBoard := by
  intro a ha
  rcases List.mem_append.mp ha with hline | hfabric
  · obtain ⟨k, hk, rfl⟩ := List.mem_map.mp hline
    exact onBoard_linecardAction slot (List.mem_range.mp (List.mem_filter.mp hk).1)
  · obtain ⟨fcSlot, -, rfl⟩ := List.mem_map.mp hfabric
    trivial

end Effects

section Overheating

def ThermalData.readings (d : ThermalData) (tid : Nat) : Option Reading :=
  some (d.entry tid).reading

def isOver (d : ThermalData) (tid : Nat) : Bool :=
  (d.entry tid).reading.shutdown < (d.entry tid).reading.temperature

theorem flag_set {n i k : Nat} {v : Vector Bool n} (hk : k < n) :
    (v.setIfInBounds i true)[k]?.getD false = true ↔ v[k]?.getD false = true ∨ i = k := by
  rw [Vector.getElem?_setIfInBounds]
  split_ifs with h hi
  · simp [h]
  · exact absurd (h ▸ hk) hi
  · simp [h]

theorem lc_mark {o : Overheat} {tid k : Nat} (hk : k < numOfLc) :
    (o.mark tid).lc[k]?.getD false = true ↔ o.lc[k]?.getD false = true ∨
      (isLinecardThermal tid = true ∧ (thermalIdToSlotId tid).toNat = k) := by
  unfold Overheat.mark
  extract_lets i
  split_ifs with hline
  · simp only [flag_set hk, hline, true_and, i]
  · simp [hline]

theorem fc_mark {o : Overheat} {tid k : Nat} (hk : k < numOfFc) :
    (o.mark tid).fc[k]?.getD false = true ↔ o.fc[k]?.getD false = true ∨
      (isLinecardThermal tid = false ∧ (thermalIdToSlotId tid).toNat = k) := by
  unfold Overheat.mark
  extract_lets i
  split_ifs with hline
  · simp [hline]
  · simp only [flag_set hk, hline, true_and, i]

theorem scan_flag {d : ThermalData} {f : Overheat → Bool} {marks : Nat → Prop}
    (hmark : ∀ o tid, f (o.mark tid) = true ↔ f o = true ∨ marks tid) (l : List Nat)
    (o : Overheat) :
    f (l.foldl (fun o tid =>
        let r := (d.entry tid).reading
        if r.temperature ≤ r.shutdown then o else o.mark tid) o) = true ↔
      f o = true ∨ ∃ tid ∈ l, isOver d tid = true ∧ marks tid := by
  induction l generalizing o with
  | nil => simp
  | cons tid l ih =>
    rw [List.foldl_cons, ih]
    simp only [List.exists_mem_cons_iff, isOver, decide_eq_true_eq]
    split_ifs with hle
    · simp [Int.not_lt.mpr hle]
    · rw [hmark, or_assoc]
      simp [Int.not_le.mp hle]

theorem sensorsOf_line : ∀ k < numOfLc, ∀ tid, tid ∈ sensorsOf (.line k) ↔
    tid ∈ tids ∧ isLinecardThermal tid = true ∧ (thermalIdToSlotId tid).toNat = k := by
  have hall : ∀ k < numOfLc, (sensorsOf (.line k) = tids.filter fun tid =>
      isLinecardThermal tid && decide ((thermalIdToSlotId tid).toNat = k)) := by decide +kernel
  intro k hk tid
  rw [hall k hk]
  simp

theorem sensorsOf_fabric : ∀ k < numOfFc, ∀ tid, tid ∈ sensorsOf (.fabric k) ↔
    tid ∈ tids ∧ isLinecardThermal tid = false ∧ (thermalIdToSlotId tid).toNat = k := by
  have hall : ∀ k < numOfFc, (sensorsOf (.fabric k) = tids.filter fun tid =>
      !isLinecardThermal tid && decide ((thermalIdToSlotId tid).toNat = k)) := by decide +kernel
  intro k hk tid
  rw [hall k hk]
  simp

theorem hot_iff (d : ThermalData) (card : Card) :
    hot d.readings card = true ↔ ∃ tid ∈ sensorsOf card, isOver d tid = true := by
  simp [hot, ThermalData.readings, isOver]

theorem lc_collectOverheat (d : ThermalData) {k : Nat} (hk : k < numOfLc) :
    (collectOverheat d).lc[k]?.getD false = hot d.readings (.line k) := by
  rw [Bool.eq_iff_iff, hot_iff]
  refine (scan_flag (f := fun o => o.lc[k]?.getD false) (fun _ _ => lc_mark hk) tids _).trans ?_
  simp [sensorsOf_line k hk, hk, and_assoc, and_left_comm, and_comm]

theorem fc_collectOverheat (d : ThermalData) {k : Nat} (hk : k < numOfFc) :
    (collectOverheat d).fc[k]?.getD false = hot d.readings (.fabric k) := by
  rw [Bool.eq_iff_iff, hot_iff]
  refine (scan_flag (f := fun o => o.fc[k]?.getD false) (fun _ _ => fc_mark hk) tids _).trans ?_
  simp [sensorsOf_fabric k hk, hk, and_assoc, and_left_comm, and_comm]

end Overheating

section Plan

variable (driver : Driver) {slot : Int} (h : 0 ≤ slot ∧ slot ≤ 3)

include h

theorem shutdownLinecard_eq {k : Nat} (hk : k < numOfLc) (j : Journal) :
    shutdownMgrShutdownLinecard driver slot k j = j.perform driver (linecardAction slot k) := by
  have hslot : ¬ (slot < 0 ∨ 3 < slot) := by omega
  have hlc : ¬ 7 < k := Nat.not_lt.mpr (Nat.le_of_lt_succ hk)
  unfold shutdownMgrShutdownLinecard linecardAction ownHalf
  rw [if_neg hslot, if_neg hlc]
  split_ifs with hlow hown howns howns hown howns howns
  all_goals first | rfl | (simp only [SlotHalf.Owns] at howns; omega)

theorem shutdownFabriccard_eq (j : Journal) :
    shutdownMgrShutdownFabriccard driver slot j = j.perform driver (.shutdownFabriccard slot) :=
  if_neg (by omega)

theorem fabric_loops (f : Nat → Bool) (j : Journal) :
    (List.range numOfFc).foldl (fun j (i : Nat) =>
        if (i : Int) ≠ slot.tmod 2 then j
        else if f i then (shutdownMgrShutdownFabriccard driver (fcSlotTarget slot i) j).1 else j)
      ((List.range numOfFc).foldl (fun j (i : Nat) =>
        if (i : Int) = slot.tmod 2 then j
        else if f i then (shutdownMgrShutdownFabriccard driver (fcSlotTarget slot i) j).1 else j)
        j) =
      performAll driver (([neighbour slot, slot].filter fun fcSlot =>
        f (fcSlot.tmod 2).toNat).map .shutdownFabriccard) j := by
  have hslots : slot = 0 ∨ slot = 1 ∨ slot = 2 ∨ slot = 3 := by omega
  have hrange : List.range numOfFc = [0, 1] := rfl
  rw [hrange]
  rcases hslots with rfl | rfl | rfl | rfl
  all_goals
    rcases h0 : f 0 with - | - <;> rcases h1 : f 1 with - | - <;>
      simp [h0, h1, neighbour, fcSlotTarget, shutdownMgrShutdownFabriccard, performAll]

theorem handleShutdown_eq {d : ThermalData} (hd : d.slot = slot) (j : Journal) :
    shutdownMgrHandleShutdown driver d j = performAll driver (overheatPlan slot d.readings) j := by
  subst hd
  have hline : ∀ j, (List.range numOfLc).foldl (fun j i =>
      if (collectOverheat d).lc[i]?.getD false then
        (shutdownMgrShutdownLinecard driver d.slot i j).1 else j) j =
      performAll driver (((List.range numOfLc).filter fun k =>
        hot d.readings (.line k)).map (linecardAction d.slot)) j := by
    intro j
    rw [performAll, List.foldl_map, List.foldl_filter]
    refine List.foldl_ext _ _ j fun j i hi => ?_
    have hlt := List.mem_range.mp hi
    rw [lc_collectOverheat d hlt, shutdownLinecard_eq driver h hlt]
  have hfabric := fabric_loops driver h fun i => (collectOverheat d).fc[i]?.getD false
  have hflag : ∀ fcSlot : Int, (collectOverheat d).fc[(fcSlot.tmod 2).toNat]?.getD false =
      hot d.readings (.fabric (fcSlot.tmod 2).toNat) := by
    intro fcSlot
    have hlt : (fcSlot.tmod 2).toNat < 2 := by
      have hmod := Int.tmod_lt_of_pos fcSlot (by decide : (0 : Int) < 2)
      omega
    exact fc_collectOverheat d hlt
  simp only [hflag] at hfabric
  unfold shutdownMgrHandleShutdown
  dsimp only
  rw [hline, hfabric, overheatPlan]
  exact (List.foldl_append ..).symm

end Plan

end Chassisd
