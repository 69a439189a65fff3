import Chassisd.Bpdu.Member
import Chassisd.Bpdu.Port

namespace Chassisd

def getTime2 (b : Vector UInt8 2) : UInt16 := htons b[0].toUInt16 >>> 8

def getTimes (b : BpduBody) : TimeValues where
  messageAge := getTime2 b.messageAge
  maxAge := getTime2 b.maxAge
  forwardDelay := getTime2 b.forwardDelay
  helloTime := getTime2 b.helloTime

def setTime (f : UInt16) : Vector UInt8 2 := bytesOfUInt16 (htons (f <<< 8))

def setTimes (v : TimeValues) (b : BpduBody) : BpduBody :=
  { b with
    messageAge := setTime v.messageAge
    maxAge := setTime v.maxAge
    forwardDelay := setTime v.forwardDelay
    helloTime := setTime v.helloTime }

def stateFlag (state : ChassisCtpmState) : UInt8 :=
  match state with
  | .forwarding => 0x30
  | .learning => 0x10
  | _ => 0

def typeFlag (bpduType : UInt8) : UInt8 :=
  if bpduType = bpduTypeFcChange ∨ bpduType = bpduTypeLcChange then 0x01
  else if bpduType = bpduTypeConfig then 0x02
  else if bpduType = bpduTypeReply then 0x40
  else if bpduType = bpduTopoChangeType then 0x80
  else 0

def roleFlag (ctpm : Ctpm) : UInt8 :=
  let rootId := ctpm.rootPrio.rootBridge.number
  let bridgeId := ctpm.rootPrio.designBridge.number
  let myId := ctpm.brId.number
  if myId = rootId then 0x0c else if myId = bridgeId then 0x08 else 0x04

def infoBpduFlag (ctpm : Ctpm) (bpduType : UInt8) : UInt8 :=
  stateFlag ctpm.state ||| typeFlag bpduType ||| roleFlag ctpm

def bpduMulticast (usNumber : Nat) : Vector UInt8 6 :=
  if (1 ≤ usNumber ∧ usNumber ≤ 16) ∨ (41 ≤ usNumber ∧ usNumber ≤ 48) then
    #v[0x1, 0x10, 0xb5, 0x0, 0x0, 0x2]
  else #v[0x1, 0x10, 0xb5, 0x0, 0x0, 0x1]

-- sizeof (BPDU_HEADER_T) + sizeof (BPDU_BODY_T) + 3 + MAXIMUM_MICRO_SERVER_CARD_NUMBER
def len8023 : UInt16 := 4 + 31 + 3 + 48

def infoBpdu (usNumber : Nat) (ctpm : Ctpm) (chassisExist : ChassisExist) (bpduType : UInt8) :
    RstpBpdu where
  mac := ⟨bpduMulticast usNumber, ctpm.brId.addr⟩
  eth := ⟨bytesOfUInt16 (htons len8023), 0x42, 0x42, 0x3⟩
  hdr := ⟨#v[0, 0], 0, bpduType⟩
  body := setTimes ctpm.rootTimes
    { flags := infoBpduFlag ctpm bpduType
      rootId := ctpm.rootPrio.rootBridge.toBytes
      rootPathCost := bytesOfUInt32 (htonl ctpm.rootPrio.rootPathCost.toUInt32)
      bridgeId := ctpm.rootPrio.designBridge.toBytes
      portId := #v[0, UInt8.ofNat usNumber]
      messageAge := #v[0, 0]
      maxAge := #v[0, 0]
      helloTime := #v[0, 0]
      forwardDelay := #v[0, 0] }
  ver1Len := #v[0, 0]
  chassisExist := chassisExist

-- The frame is filled in first; the table in it is the one left by the decrement.
def txInfoBpdu (bpduType : UInt8) (c : Chassis) : Chassis :=
  let chassisExist := decChassisMember c.usCardNumber c.ctpm.chassisExist
  { c with
    ctpm.chassisExist := chassisExist
    sent := c.sent ++ [infoBpdu c.usCardNumber c.ctpm chassisExist bpduType] }

def inClearChassisMember (c : Chassis) : Chassis :=
  { c with ctpm.chassisExist := clearChassisMember c.usCardNumber c.ctpm.brId }

def inUpdateChassisMember (bpdu : RstpBpdu) (c : Chassis) : Chassis :=
  { c with
    ctpm.chassisExist :=
      updateChassisMember c.usCardNumber bpdu.chassisExist c.ctpm.chassisExist }

def clearRootFc (usNumber : Nat) (this : Ctpm) : Ctpm :=
  { this with
    rootLCPortId := usNumber
    rootPortId := 0
    rootPrio := { PrioVector.zero with
      rootPathCost := 2000
      designBridge := this.brId
      designPort := usNumber
      bridgePort := 0 } }

def clearDesignedLc (usNumber : Nat) (this : Ctpm) : Ctpm :=
  { this with
    rootLCPortId := 0
    rootPortId := usNumber
    rootPrio := { PrioVector.zero with
      rootBridge := this.brId
      rootPathCost := 2000
      designPort := 1
      bridgePort := usNumber } }

-- chassis_initial_master_fc is empty unless ONLP is set, and it is not.
def enterBlock (c : Chassis) : Chassis :=
  let c := { c with ctpm.state := .block }
  let c :=
    if 1 ≤ c.usCardNumber ∧ c.usCardNumber ≤ 32 then
      { c with
        ctpm := clearRootFc c.usCardNumber c.ctpm
        switch := enterBlockState c.usCardNumber c.switch }
    else
      { c with
        ctpm := clearDesignedLc c.usCardNumber c.ctpm
        switch := configAllPort c.usCardNumber .forwarding c.switch }
  inClearChassisMember { c with ctpm.timeSinceTopoChange := 0 }

def enterListening (c : Chassis) : Chassis :=
  { c with
    ctpm.state := .listening
    ctpm.timeSinceTopoChange := 0
    switch := if 1 ≤ c.usCardNumber ∧ c.usCardNumber ≤ 32 then
        enterLearningState c.usCardNumber c.switch
      else c.switch }

def enterLearning (c : Chassis) : Chassis :=
  { c with
    ctpm.state := .learning
    ctpm.timeSinceTopoChange := 0
    switch := if 1 ≤ c.usCardNumber ∧ c.usCardNumber ≤ 32 then
        config1Port c.usCardNumber c.ctpm.rootPortId .forwarding c.switch
      else c.switch }

def enterForwarding (c : Chassis) : Chassis :=
  { c with
    ctpm.state := .forwarding
    ctpm.timeSinceTopoChange := 0
    switch := enterForwardingState c.usCardNumber c.ctpm.rootPortId c.ctpm.rootLCPortId c.switch }

end Chassisd
