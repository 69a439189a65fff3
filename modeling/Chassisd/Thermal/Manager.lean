import Chassisd.Thermal.Overheat

namespace Chassisd

abbrev sdMgrUpdateInterval : Int := 3000
abbrev sdMgrIoerrShutdownThreshold : Int := 60000
abbrev sdMgrIoerrRetryCount : Int := 2

abbrev cardTypeLc : Int := 0

def cardTypeFile : String := "/sys/bus/i2c/devices/4-0060/card_type"
def cardSlotIdFile : String := "/sys/bus/i2c/devices/4-0060/card_slot_id"

section Handlers

variable (driver : Driver)

def shutdownMgrResetFabriccardMac (fcSlot : Int) (mac : String) (j : Journal) : Journal × Int :=
  if fcSlot < 0 ∨ 3 < fcSlot then (j, -einval)
  else j.perform driver (.resetFabriccardMac fcSlot mac)

def shutdownMgrResetFabriccardCpu (fcSlot : Int) (cpu : String) (j : Journal) : Journal × Int :=
  if fcSlot < 0 ∨ 3 < fcSlot then (j, -einval)
  else j.perform driver (.resetFabriccardCpu fcSlot cpu)

structure IoErrors where
  shutdownOthers : Bool
  shutdownItself : Bool
  deriving DecidableEq, Repr

-- The product is one of two ints.
def countIoError (d : ThermalData) (f : IoErrors) (tid : Nat) : IoErrors :=
  let error := (d.entry tid).error
  if error = 0 then f
  else if error < sdMgrIoerrRetryCount then f
  else if error = sdMgrIoerrRetryCount then { f with shutdownOthers := true }
  else if sdMgrIoerrShutdownThreshold ≤ CString.toInt (error * sdMgrUpdateInterval) then
    { f with shutdownItself := true }
  else f

def countIoErrors (d : ThermalData) : IoErrors := tids.foldl (countIoError d) ⟨false, false⟩

def shutdownOthers (slot : Int) (j : Journal) : Journal :=
  let j := (List.range numOfLc).foldl (fun j i => (shutdownMgrShutdownLinecard driver slot i j).1) j
  let j := (List.range numOfFc).foldl (fun j (i : Nat) =>
    if (i : Int) = slot.tmod 2 then j
    else (shutdownMgrShutdownFabriccard driver (fcSlotTarget slot i) j).1) j
  let j := ["a", "b"].foldl (fun j mac => (shutdownMgrResetFabriccardMac driver slot mac j).1) j
  (shutdownMgrResetFabriccardCpu driver slot "b" j).1

def shutdownMgrHandleThermalIoError (d : ThermalData) (j : Journal) : Journal :=
  let f := countIoErrors d
  let j := if f.shutdownOthers then shutdownOthers driver d.slot j else j
  if f.shutdownItself then (shutdownMgrShutdownFabriccard driver d.slot j).1 else j

end Handlers

structure Poll where
  files : Files
  sensors : Nat → Files

structure ShutdownMgr where
  init : Bool
  cardType : Int
  driverAbsent : Bool
  data : ThermalData

namespace ShutdownMgr

def start : ShutdownMgr := ⟨false, 0, false, ThermalData.zero⟩

variable (driver : Driver) (p : Poll)

-- A slot that cannot be read is stored as 0 and ends the call.
def poll (d : ThermalData) (j : Journal) : ThermalData × Journal × Int :=
  let (ret, slot) := shutdownMgrFileReadInt p.files cardSlotIdFile
  let d := { d with slot := slot }
  if ret < 0 then (d, j, ret)
  else
    let d := shutdownMgrGetThermalStatus p.sensors d
    (d, shutdownMgrHandleThermalIoError driver d (shutdownMgrHandleShutdown driver d j), 0)

def run (s : ShutdownMgr) (j : Journal) : ShutdownMgr × Journal × Int :=
  if s.cardType = cardTypeLc then (s, j, 0)
  else
    let (d, j, ret) := poll driver p s.data j
    ({ s with data := d }, j, ret)

def shutdownMgr (s : ShutdownMgr) (j : Journal) : ShutdownMgr × Journal × Int :=
  if s.driverAbsent then (s, j, 0)
  else if s.init then run driver p s j
  else
    let (ret, cardType) := shutdownMgrFileReadInt p.files cardTypeFile
    let s := { s with init := true, cardType := cardType, data := ThermalData.zero }
    if ret < 0 then ({ s with driverAbsent := true }, j, -eio) else run driver p s j

end ShutdownMgr

structure FabricPoll extends Poll where
  slot : Int
  range : 0 ≤ slot ∧ slot ≤ 3
  read : shutdownMgrFileReadInt files cardSlotIdFile = (0, slot)

namespace FabricPoll

def outcome (p : FabricPoll) (tid : Nat) : ReadOutcome :=
  readOutcome (p.sensors tid) p.slot tid

def readings (p : FabricPoll) (tid : Nat) : Option Reading :=
  match p.outcome tid with
  | .success r => some r
  | .failed => none
  | .absent => none

def status (p : FabricPoll) (d : ThermalData) : ThermalData :=
  shutdownMgrGetThermalStatus p.sensors { d with slot := p.slot }

end FabricPoll

def pollData (ps : List FabricPoll) : ThermalData :=
  ps.foldl (fun d p => p.status d) ThermalData.zero

section Polls

variable (driver : Driver)

theorem poll_eq (p : FabricPoll) (d : ThermalData) (j : Journal) :
    ShutdownMgr.poll driver p.toPoll d j =
      (p.status d, shutdownMgrHandleThermalIoError driver (p.status d)
        (shutdownMgrHandleShutdown driver (p.status d) j), 0) := by
  unfold ShutdownMgr.poll
  rw [p.read]
  rfl

structure Manages (s : ShutdownMgr) : Prop where
  init : s.init = true
  driver : s.driverAbsent = false
  cardType : s.cardType ≠ cardTypeLc

theorem shutdownMgr_of_manages {s : ShutdownMgr} (h : Manages s) (p : FabricPoll) (j : Journal) :
    Manages (ShutdownMgr.shutdownMgr driver p.toPoll s j).1 ∧
      (ShutdownMgr.shutdownMgr driver p.toPoll s j).1.data = p.status s.data ∧
      (ShutdownMgr.shutdownMgr driver p.toPoll s j).2.1 =
        shutdownMgrHandleThermalIoError driver (p.status s.data)
          (shutdownMgrHandleShutdown driver (p.status s.data) j) := by
  unfold ShutdownMgr.shutdownMgr ShutdownMgr.run
  simp only [h.driver, h.init, Bool.false_eq_true, if_false, if_true, if_neg h.cardType, poll_eq,
    and_true]
  exact ⟨rfl, rfl, h.cardType⟩

theorem shutdownMgr_start {cardType : Int} (hcard : cardType ≠ cardTypeLc) {p : FabricPoll}
    (hread : shutdownMgrFileReadInt p.files cardTypeFile = (0, cardType)) (j : Journal) :
    Manages (ShutdownMgr.shutdownMgr driver p.toPoll .start j).1 ∧
      (ShutdownMgr.shutdownMgr driver p.toPoll .start j).1.data = pollData [p] := by
  unfold ShutdownMgr.shutdownMgr ShutdownMgr.run
  have hstart : ShutdownMgr.start.driverAbsent = false ∧ ShutdownMgr.start.init = false :=
    ⟨rfl, rfl⟩
  rw [hread]
  simp only [hstart.1, hstart.2, Bool.false_eq_true, if_false, lt_irrefl, if_neg hcard, poll_eq]
  exact ⟨⟨rfl, rfl, hcard⟩, rfl⟩

theorem pollData_concat (ps : List FabricPoll) (p : FabricPoll) :
    pollData (ps ++ [p]) = p.status (pollData ps) := by
  rw [pollData, List.foldl_append]
  rfl

theorem shutdownMgr_calls {cardType : Int} (hcard : cardType ≠ cardTypeLc) {p : FabricPoll}
    (hread : shutdownMgrFileReadInt p.files cardTypeFile = (0, cardType)) (ps : List FabricPoll)
    (j : Journal) :
    let s := (p :: ps).foldl
      (fun s p => ((ShutdownMgr.shutdownMgr driver p.toPoll s.1 s.2).1,
        (ShutdownMgr.shutdownMgr driver p.toPoll s.1 s.2).2.1)) (ShutdownMgr.start, j)
    Manages s.1 ∧ s.1.data = pollData (p :: ps) := by
  induction ps using List.reverseRecOn with
  | nil => exact shutdownMgr_start driver hcard hread j
  | append_singleton ps q ih =>
    rw [← List.cons_append, List.foldl_append, pollData_concat]
    obtain ⟨hm, hdata⟩ := ih
    obtain ⟨hm', hdata', -⟩ := shutdownMgr_of_manages driver hm q _
    exact ⟨hm', hdata'.trans (by rw [hdata])⟩

end Polls

section Exactness

theorem linecardAction_injective (slot : Int) : Function.Injective (linecardAction slot) := by
  intro k k' h
  unfold linecardAction at h
  split_ifs at h
  · exact PowerAction.shutdownLinecardLocal.inj h
  · exact PowerAction.shutdownLinecardRemote.inj h

theorem neighbour_ne {slot : Int} : neighbour slot ≠ slot := by
  unfold neighbour
  split_ifs <;> omega

theorem overheatPlan_nodup (slot : Int) (readings : Nat → Option Reading) :
    (overheatPlan slot readings).Nodup := by
  refine List.Nodup.append ?_ ?_ ?_
  · exact (List.nodup_range.filter _).map (linecardAction_injective slot)
  · refine (List.Nodup.filter _ ?_).map fun _ _ => PowerAction.shutdownFabriccard.inj
    simp [neighbour_ne]
  · intro a hline hfabric
    obtain ⟨k, -, rfl⟩ := List.mem_map.mp hline
    obtain ⟨fcSlot, -, h⟩ := List.mem_map.mp hfabric
    unfold linecardAction at h
    split_ifs at h

theorem hot_congr {readings readings' : Nat → Option Reading} {card : Card}
    (h : ∀ tid ∈ sensorsOf card, (readings tid).any (fun r => r.shutdown < r.temperature) =
      (readings' tid).any fun r => r.shutdown < r.temperature) :
    hot readings card = hot readings' card := by
  rw [Bool.eq_iff_iff]
  simp only [hot, List.any_eq_true]
  exact exists_congr fun tid => and_congr_right fun htid => by rw [h tid htid]

theorem mem_tids_of_sensorsOf {card : Card} {tid : Nat}
    (hcard : match card with | .line k => k < numOfLc | .fabric k => k < numOfFc)
    (h : tid ∈ sensorsOf card) : tid ∈ tids := by
  cases card with
  | line k => exact ((sensorsOf_line k hcard tid).mp h).1
  | fabric k => exact ((sensorsOf_fabric k hcard tid).mp h).1

-- A read that fails leaves the sensor at zero, which is above no threshold.
theorem over_status (p : FabricPoll) (d : ThermalData) {tid : Nat} (h : tid ∈ tids) :
    ((p.status d).readings tid).any (fun r => r.shutdown < r.temperature) =
      (p.readings tid).any fun r => r.shutdown < r.temperature := by
  simp only [ThermalData.readings, FabricPoll.status, entry_getThermalStatus _ _ h,
    getThermal_eq h, FabricPoll.readings, FabricPoll.outcome]
  cases readOutcome (p.sensors tid) p.slot tid with
  | success r => rfl
  | failed => rfl
  | absent => rfl

theorem overheatPlan_status (p : FabricPoll) (d : ThermalData) :
    overheatPlan p.slot (p.status d).readings = overheatPlan p.slot p.readings := by
  have hline : ∀ k ∈ List.range numOfLc,
      hot (p.status d).readings (.line k) = hot p.readings (.line k) := fun k hk =>
    hot_congr fun tid htid => over_status p d
      (mem_tids_of_sensorsOf (List.mem_range.mp hk) htid)
  have hfabric : ∀ fcSlot : Int, hot (p.status d).readings (.fabric (fcSlot.tmod 2).toNat) =
      hot p.readings (.fabric (fcSlot.tmod 2).toNat) := by
    intro fcSlot
    have hlt : (fcSlot.tmod 2).toNat < 2 := by
      have hmod := Int.tmod_lt_of_pos fcSlot (by decide : (0 : Int) < 2)
      omega
    exact hot_congr fun tid htid => over_status p d
      (mem_tids_of_sensorsOf hlt htid)
  unfold overheatPlan
  rw [List.filter_congr hline]
  simp only [hfabric]

theorem overheat_shutdown_exact (driver : Driver) :
    (∀ (d : ThermalData) (j : Journal), 0 ≤ d.slot ∧ d.slot ≤ 3 →
      (overheatPlan d.slot d.readings).Nodup ∧
        Carries (overheatPlan d.slot d.readings) j (shutdownMgrHandleShutdown driver d j)) ∧
      ∀ (ps : List FabricPoll) (p : FabricPoll) (j : Journal),
        Carries (overheatPlan p.slot p.readings) j
          (shutdownMgrHandleShutdown driver (p.status (pollData ps)) j) := by
  refine ⟨fun d j h => ⟨overheatPlan_nodup _ _, ?_⟩, fun ps p j => ?_⟩
  · rw [handleShutdown_eq driver h rfl j]
    exact carries_performAll driver onBoard_overheatPlan j
  · rw [handleShutdown_eq driver p.range rfl j, overheatPlan_status]
    exact carries_performAll driver onBoard_overheatPlan j

def overheated : Thermal := ⟨⟨90000, 70000, 80000⟩, 0, 0⟩

def hotBoard : ThermalData :=
  ⟨0, [2, 25, 60, 67].foldl (fun v i => v.setIfInBounds i overheated) ThermalData.zero.thermal⟩

def idleJournal : Journal := ⟨masterPair.chassis 33, [], [], []⟩

theorem hotBoard_shutdown :
    let j := shutdownMgrHandleShutdown (fun _ => -eio) hotBoard idleJournal
    (overheatPlan hotBoard.slot hotBoard.readings).Nodup ∧
      j.actions = [.shutdownLinecardLocal 0, .shutdownLinecardRemote 7, .shutdownFabriccard 1,
        .shutdownFabriccard 0] ∧
      j.writes = [⟨"/sys/bus/i2c/devices/6-0013/hot_swap_on", 0⟩,
        ⟨"/sys/bus/i2c/devices/6-0047/hot_swap_on", 0⟩,
        ⟨"/sys/bus/i2c/devices/6-0044/hot_swap_on", 0⟩] ∧
      j.requests.map (fun r => (r.usCardNumber, r.params)) = [(37, ['7', ' ', '0'])] := by
  obtain ⟨hnodup, hcarries⟩ :=
    (overheat_shutdown_exact fun _ => -eio).1 hotBoard idleJournal (by decide +kernel)
  have hplan : overheatPlan hotBoard.slot hotBoard.readings = [.shutdownLinecardLocal 0,
      .shutdownLinecardRemote 7, .shutdownFabriccard 1, .shutdownFabriccard 0] := by decide +kernel
  intro j
  refine ⟨hnodup, hcarries.actions.trans hplan, ?_, ?_⟩
  · rw [hcarries.writes, hplan]
    decide
  · rw [hcarries.requests, hplan]
    decide

end Exactness

end Chassisd
