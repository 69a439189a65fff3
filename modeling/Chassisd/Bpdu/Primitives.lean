import Chassisd.Bpdu.Ids
import Chassisd.Bpdu.Machine

namespace Chassisd

section Ports

variable (usNumber : Nat) (state : PortState) (sw : Switch)

theorem configPort_odd (h : usNumber % 2 = 1) (pid : Nat) :
    configPort usNumber state pid sw =
      ⟨fun p => if p = pid then some state else sw.port p, sw.writes ++ [(pid, state)]⟩ :=
  if_neg (by omega)

theorem port_foldl_configPort (h : usNumber % 2 = 1) (pids : List Nat) (p : Nat) :
    (pids.foldl (fun sw pid => configPort usNumber state pid sw) sw).port p =
      if p ∈ pids then some state else sw.port p := by
  induction pids generalizing sw with
  | nil => simp
  | cons pid pids ih =>
    rw [List.foldl_cons, ih, configPort_odd usNumber state sw h]
    by_cases hp : p ∈ pids
    · simp [hp]
    · simp [hp]

theorem port_configAllPort (h : usNumber % 2 = 1) (p : Nat) :
    (configAllPort usNumber state sw).port p =
      if p ∈ backplanePorts usNumber then some state else sw.port p :=
  port_foldl_configPort usNumber state sw h _ p

end Ports

section Frame

variable (bpdu : RstpBpdu) (bpduType : UInt8) (wins : Bool) (i : Nat) (c : Chassis)

@[simp] theorem touch_frame :
    (c.touch i).usCardNumber = c.usCardNumber ∧ (c.touch i).type = c.type ∧
    (c.touch i).ctpm = c.ctpm ∧ (c.touch i).rxBpdu = c.rxBpdu ∧
    (c.touch i).switch = c.switch ∧ (c.touch i).sent = c.sent ∧
    (c.touch i).touched = c.touched ++ [i] := ⟨rfl, rfl, rfl, rfl, rfl, rfl, rfl⟩

@[simp] theorem txInfoBpdu_frame :
    (txInfoBpdu bpduType c).usCardNumber = c.usCardNumber ∧
    (txInfoBpdu bpduType c).type = c.type ∧
    (txInfoBpdu bpduType c).ctpm =
      { c.ctpm with chassisExist := decChassisMember c.usCardNumber c.ctpm.chassisExist } ∧
    (txInfoBpdu bpduType c).rxBpdu = c.rxBpdu ∧ (txInfoBpdu bpduType c).switch = c.switch ∧
    (txInfoBpdu bpduType c).sent = c.sent ++ [infoBpdu c.usCardNumber c.ctpm
      (decChassisMember c.usCardNumber c.ctpm.chassisExist) bpduType] ∧
    (txInfoBpdu bpduType c).touched = c.touched := ⟨rfl, rfl, rfl, rfl, rfl, rfl, rfl⟩

@[simp] theorem inUpdateChassisMember_frame :
    (inUpdateChassisMember bpdu c).usCardNumber = c.usCardNumber ∧
    (inUpdateChassisMember bpdu c).type = c.type ∧
    (inUpdateChassisMember bpdu c).ctpm = { c.ctpm with
      chassisExist :=
        updateChassisMember c.usCardNumber bpdu.chassisExist c.ctpm.chassisExist } ∧
    (inUpdateChassisMember bpdu c).rxBpdu = c.rxBpdu ∧
    (inUpdateChassisMember bpdu c).switch = c.switch ∧
    (inUpdateChassisMember bpdu c).sent = c.sent ∧
    (inUpdateChassisMember bpdu c).touched = c.touched := ⟨rfl, rfl, rfl, rfl, rfl, rfl, rfl⟩

@[simp] theorem setDesigned_frame :
    (setDesigned bpdu c).usCardNumber = c.usCardNumber ∧ (setDesigned bpdu c).type = c.type ∧
    (setDesigned bpdu c).ctpm = { c.ctpm with
      rootLCPortId := bpdu.dbridgeId
      rootPrio.designPort := bpdu.dbridgeId
      rootPrio.designBridge := BridgeId.ofBytes bpdu.body.bridgeId } ∧
    (setDesigned bpdu c).rxBpdu = c.rxBpdu ∧ (setDesigned bpdu c).switch = c.switch ∧
    (setDesigned bpdu c).sent = c.sent ∧ (setDesigned bpdu c).touched = c.touched :=
  ⟨rfl, rfl, rfl, rfl, rfl, rfl, rfl⟩

@[simp] theorem enterForwarding_frame :
    (enterForwarding c).usCardNumber = c.usCardNumber ∧ (enterForwarding c).type = c.type ∧
    (enterForwarding c).ctpm = { c.ctpm with state := .forwarding, timeSinceTopoChange := 0 } ∧
    (enterForwarding c).rxBpdu = c.rxBpdu ∧
    (enterForwarding c).switch =
      enterForwardingState c.usCardNumber c.ctpm.rootPortId c.ctpm.rootLCPortId c.switch ∧
    (enterForwarding c).sent = c.sent ∧ (enterForwarding c).touched = c.touched :=
  ⟨rfl, rfl, rfl, rfl, rfl, rfl, rfl⟩

@[simp] theorem enterLearning_frame :
    (enterLearning c).usCardNumber = c.usCardNumber ∧ (enterLearning c).type = c.type ∧
    (enterLearning c).ctpm = { c.ctpm with state := .learning, timeSinceTopoChange := 0 } ∧
    (enterLearning c).rxBpdu = c.rxBpdu ∧
    (enterLearning c).sent = c.sent ∧ (enterLearning c).touched = c.touched :=
  ⟨rfl, rfl, rfl, rfl, rfl, rfl⟩

@[simp] theorem wake_frame :
    (wake c).usCardNumber = c.usCardNumber ∧ (wake c).type = c.type ∧
    (wake c).ctpm = { c.ctpm with
      state := .listening, topoChange := 1, timeSinceTopoChange := 0, topoChangeCount := 1 } ∧
    (wake c).rxBpdu = c.rxBpdu ∧ (wake c).sent = c.sent ∧ (wake c).touched = c.touched :=
  ⟨rfl, rfl, rfl, rfl, rfl, rfl⟩

@[simp] theorem takeTimes_frame :
    (takeTimes bpdu c).usCardNumber = c.usCardNumber ∧ (takeTimes bpdu c).type = c.type ∧
    (takeTimes bpdu c).ctpm = { c.ctpm with rootTimes := getTimes bpdu.body } ∧
    (takeTimes bpdu c).rxBpdu = c.rxBpdu ∧ (takeTimes bpdu c).switch = c.switch ∧
    (takeTimes bpdu c).sent = c.sent ∧ (takeTimes bpdu c).touched = c.touched :=
  ⟨rfl, rfl, rfl, rfl, rfl, rfl, rfl⟩

@[simp] theorem restartTimer_frame :
    (restartTimer c).usCardNumber = c.usCardNumber ∧ (restartTimer c).type = c.type ∧
    (restartTimer c).ctpm = { c.ctpm with timeSinceTopoChange := 0 } ∧
    (restartTimer c).rxBpdu = c.rxBpdu ∧ (restartTimer c).switch = c.switch ∧
    (restartTimer c).sent = c.sent ∧ (restartTimer c).touched = c.touched :=
  ⟨rfl, rfl, rfl, rfl, rfl, rfl, rfl⟩

def Ctpm.blocked (usNumber : Nat) (this : Ctpm) : Ctpm :=
  { (if 1 ≤ usNumber ∧ usNumber ≤ 32 then clearRootFc usNumber this
      else clearDesignedLc usNumber this) with
    state := .block
    timeSinceTopoChange := 0
    chassisExist := clearChassisMember usNumber this.brId }

@[simp] theorem enterBlock_frame :
    (enterBlock c).usCardNumber = c.usCardNumber ∧ (enterBlock c).type = c.type ∧
    (enterBlock c).ctpm = c.ctpm.blocked c.usCardNumber ∧
    (enterBlock c).rxBpdu = c.rxBpdu ∧ (enterBlock c).sent = c.sent ∧
    (enterBlock c).touched = c.touched := by
  unfold enterBlock Ctpm.blocked
  dsimp only
  split_ifs <;> exact ⟨rfl, rfl, rfl, rfl, rfl, rfl⟩

@[simp] theorem blocked_frame (usNumber : Nat) (this : Ctpm) :
    (this.blocked usNumber).state = .block ∧ (this.blocked usNumber).brId = this.brId ∧
    (this.blocked usNumber).adminState = this.adminState ∧
    (this.blocked usNumber).timeSinceTopoChange = 0 ∧
    (this.blocked usNumber).chassisExist = clearChassisMember usNumber this.brId := by
  unfold Ctpm.blocked
  split_ifs <;> exact ⟨rfl, rfl, rfl, rfl, rfl⟩

theorem blocked_of_line {usNumber : Nat} (this : Ctpm) (h : 1 ≤ usNumber ∧ usNumber ≤ 32) :
    this.blocked usNumber = { clearRootFc usNumber this with
      state := .block
      timeSinceTopoChange := 0
      chassisExist := clearChassisMember usNumber this.brId } := by
  rw [Ctpm.blocked, if_pos h]

theorem blocked_of_fabric {usNumber : Nat} (this : Ctpm) (h : 33 ≤ usNumber) :
    this.blocked usNumber = { clearDesignedLc usNumber this with
      state := .block
      timeSinceTopoChange := 0
      chassisExist := clearChassisMember usNumber this.brId } := by
  rw [Ctpm.blocked, if_neg (by omega)]

theorem blocked_chassisExist (usNumber : Nat) (this : Ctpm) (t : ChassisExist) :
    ({ this with chassisExist := t } : Ctpm).blocked usNumber = this.blocked usNumber := by
  unfold Ctpm.blocked
  split_ifs <;> rfl

end Frame

section Elections

def takesRoot (wins : Bool) (bpdu : RstpBpdu) (rootPortId : Nat) : Prop :=
  0 < bpdu.rootId ∧ 0 < (bpdu.chassisExist.entry (bpdu.rootId - 1)).age ∧
    (wins = true ∨ bpdu.rootId < rootPortId ∨ rootPortId = 0)

def takesDesigned (wins : Bool) (bpdu : RstpBpdu) (rootLCPortId : Nat) : Prop :=
  0 < bpdu.dbridgeId ∧ 0 < (bpdu.chassisExist.entry (bpdu.dbridgeId - 1)).age ∧
    (wins = true ∨ bpdu.dbridgeId < rootLCPortId ∨ rootLCPortId = 0)

instance (wins : Bool) (bpdu : RstpBpdu) (n : Nat) : Decidable (takesRoot wins bpdu n) :=
  inferInstanceAs (Decidable (_ ∧ _ ∧ _))

instance (wins : Bool) (bpdu : RstpBpdu) (n : Nat) : Decidable (takesDesigned wins bpdu n) :=
  inferInstanceAs (Decidable (_ ∧ _ ∧ _))

variable (bpdu : RstpBpdu) (wins : Bool) (c : Chassis)

def touchId (id : Nat) (touched : List Nat) : List Nat :=
  if 0 < id then touched ++ [id - 1] else touched

@[simp] theorem takeRoot_frame :
    (takeRoot wins bpdu c).usCardNumber = c.usCardNumber ∧
    (takeRoot wins bpdu c).type = c.type ∧
    (takeRoot wins bpdu c).ctpm = (if takesRoot wins bpdu c.ctpm.rootPortId then
      { c.ctpm with
        rootPortId := bpdu.rootId
        rootPrio.bridgePort := bpdu.rootId
        rootPrio.rootPathCost := (htonl (uInt32OfBytes bpdu.body.rootPathCost)).toUInt64
        rootPrio.rootBridge := BridgeId.ofBytes bpdu.body.rootId } else c.ctpm) ∧
    (takeRoot wins bpdu c).rxBpdu = c.rxBpdu ∧ (takeRoot wins bpdu c).switch = c.switch ∧
    (takeRoot wins bpdu c).sent = c.sent ∧
    (takeRoot wins bpdu c).touched = touchId bpdu.rootId c.touched := by
  unfold takeRoot takesRoot touchId
  by_cases h0 : 0 < bpdu.rootId
  · by_cases h1 : 0 < (bpdu.chassisExist.entry (bpdu.rootId - 1)).age
    · by_cases h2 : wins = true ∨ bpdu.rootId < c.ctpm.rootPortId ∨ c.ctpm.rootPortId = 0
      · simp [h0, h1, h2, or_assoc]
      · simp [h0, h1, h2, or_assoc]
    · simp [h0, h1]
  · simp [h0]

@[simp] theorem takeDesigned_frame :
    (takeDesigned wins bpdu c).usCardNumber = c.usCardNumber ∧
    (takeDesigned wins bpdu c).type = c.type ∧
    (takeDesigned wins bpdu c).ctpm = (if takesDesigned wins bpdu c.ctpm.rootLCPortId then
      (setDesigned bpdu c).ctpm else c.ctpm) ∧
    (takeDesigned wins bpdu c).rxBpdu = c.rxBpdu ∧
    (takeDesigned wins bpdu c).switch = c.switch ∧
    (takeDesigned wins bpdu c).sent = c.sent ∧
    (takeDesigned wins bpdu c).touched = touchId bpdu.dbridgeId c.touched := by
  unfold takeDesigned takesDesigned touchId
  by_cases h0 : 0 < bpdu.dbridgeId
  · by_cases h1 : 0 < (bpdu.chassisExist.entry (bpdu.dbridgeId - 1)).age
    · by_cases h2 : wins = true ∨ bpdu.dbridgeId < c.ctpm.rootLCPortId ∨ c.ctpm.rootLCPortId = 0
      · simp [h0, h1, h2, or_assoc]
      · simp [h0, h1, h2, or_assoc]
    · simp [h0, h1]
  · simp [h0]

-- chassis_bpdu_in_update_lc_root and chassis_bpdu_in_update_fc_designated in one
def adopt (winsRoot winsDesigned : Bool) (bpdu : RstpBpdu) (c : Chassis) : Chassis :=
  inUpdateChassisMember bpdu (takeDesigned winsDesigned bpdu (takeRoot winsRoot bpdu c))

variable (winsRoot winsDesigned : Bool)

@[simp] theorem adopt_frame :
    (adopt winsRoot winsDesigned bpdu c).usCardNumber = c.usCardNumber ∧
    (adopt winsRoot winsDesigned bpdu c).type = c.type ∧
    (adopt winsRoot winsDesigned bpdu c).rxBpdu = c.rxBpdu ∧
    (adopt winsRoot winsDesigned bpdu c).switch = c.switch ∧
    (adopt winsRoot winsDesigned bpdu c).sent = c.sent ∧
    (adopt winsRoot winsDesigned bpdu c).touched =
      touchId bpdu.dbridgeId (touchId bpdu.rootId c.touched) ∧
    (adopt winsRoot winsDesigned bpdu c).ctpm.state = c.ctpm.state ∧
    (adopt winsRoot winsDesigned bpdu c).ctpm.timeSinceTopoChange = c.ctpm.timeSinceTopoChange ∧
    (adopt winsRoot winsDesigned bpdu c).ctpm.brId = c.ctpm.brId ∧
    (adopt winsRoot winsDesigned bpdu c).ctpm.adminState = c.ctpm.adminState ∧
    (adopt winsRoot winsDesigned bpdu c).ctpm.chassisExist =
      updateChassisMember c.usCardNumber bpdu.chassisExist c.ctpm.chassisExist := by
  simp only [adopt, inUpdateChassisMember_frame, takeDesigned_frame, takeRoot_frame,
    setDesigned_frame]
  split_ifs <;> simp

theorem adopt_root :
    (adopt winsRoot winsDesigned bpdu c).ctpm.rootPortId =
      (if takesRoot winsRoot bpdu c.ctpm.rootPortId then bpdu.rootId else c.ctpm.rootPortId) ∧
    (adopt winsRoot winsDesigned bpdu c).ctpm.rootPrio.bridgePort =
      (if takesRoot winsRoot bpdu c.ctpm.rootPortId then bpdu.rootId
        else c.ctpm.rootPrio.bridgePort) ∧
    (adopt winsRoot winsDesigned bpdu c).ctpm.rootPrio.rootBridge =
      (if takesRoot winsRoot bpdu c.ctpm.rootPortId then BridgeId.ofBytes bpdu.body.rootId
        else c.ctpm.rootPrio.rootBridge) := by
  simp only [adopt, inUpdateChassisMember_frame, takeDesigned_frame, takeRoot_frame,
    setDesigned_frame]
  split_ifs <;> simp

theorem adopt_designated :
    (adopt winsRoot winsDesigned bpdu c).ctpm.rootLCPortId =
      (if takesDesigned winsDesigned bpdu c.ctpm.rootLCPortId then bpdu.dbridgeId
        else c.ctpm.rootLCPortId) ∧
    (adopt winsRoot winsDesigned bpdu c).ctpm.rootPrio.designBridge =
      (if takesDesigned winsDesigned bpdu c.ctpm.rootLCPortId
        then BridgeId.ofBytes bpdu.body.bridgeId else c.ctpm.rootPrio.designBridge) := by
  have hlc : (takeRoot winsRoot bpdu c).ctpm.rootLCPortId = c.ctpm.rootLCPortId := by
    rw [(takeRoot_frame bpdu winsRoot c).2.2.1]; split_ifs <;> rfl
  have hdb : (takeRoot winsRoot bpdu c).ctpm.rootPrio.designBridge =
      c.ctpm.rootPrio.designBridge := by
    rw [(takeRoot_frame bpdu winsRoot c).2.2.1]; split_ifs <;> rfl
  simp only [adopt, inUpdateChassisMember_frame, takeDesigned_frame, setDesigned_frame, hlc]
  split_ifs
  · exact ⟨rfl, rfl⟩
  · exact ⟨hlc, hdb⟩

end Elections

end Chassisd
