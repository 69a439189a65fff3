import Chassisd.Bpdu.Interval
import Chassisd.Bpdu.Transmit

namespace Chassisd

def selectNewRootLc (oldRootLcId : Nat) (c : Chassis) : Chassis × Int :=
  let c := { c.touch oldRootLcId with
    ctpm.chassisExist := c.ctpm.chassisExist.setAge oldRootLcId 0 }
  match (List.range maximumLineServerCardNumber).find? (fun i =>
      decide (i + 1 ≠ c.usCardNumber ∧ 3 ≤ (c.ctpm.chassisExist.entry i).age)) with
  | some i =>
    ({ c with
        ctpm.rootLCPortId := i
        ctpm.rootPrio.designPort := i
        ctpm.rootPrio.designBridge := (c.ctpm.chassisExist.entry i).id }, 0)
  | none => (c, -1)

def selectNewRootLcBpdu (bpdu : RstpBpdu) (c : Chassis) : Chassis × Int :=
  selectNewRootLc bpdu.dbridgeId c

-- The two updates differ only in what overrides the smaller id: `wins`.
def takeRoot (wins : Bool) (bpdu : RstpBpdu) (c : Chassis) : Chassis :=
  let rootId := bpdu.rootId
  if 0 < rootId then
    let c := c.touch (rootId - 1)
    if 0 < (bpdu.chassisExist.entry (rootId - 1)).age then
      if wins || decide (rootId < c.ctpm.rootPortId) || decide (c.ctpm.rootPortId = 0) then
        { c with
          ctpm.rootPortId := rootId
          ctpm.rootPrio.bridgePort := rootId
          ctpm.rootPrio.rootPathCost := (htonl (uInt32OfBytes bpdu.body.rootPathCost)).toUInt64
          ctpm.rootPrio.rootBridge := BridgeId.ofBytes bpdu.body.rootId }
      else c
    else c
  else c

def setDesigned (bpdu : RstpBpdu) (c : Chassis) : Chassis :=
  { c with
    ctpm.rootLCPortId := bpdu.dbridgeId
    ctpm.rootPrio.designPort := bpdu.dbridgeId
    ctpm.rootPrio.designBridge := BridgeId.ofBytes bpdu.body.bridgeId }

def takeDesigned (wins : Bool) (bpdu : RstpBpdu) (c : Chassis) : Chassis :=
  let dbridgeId := bpdu.dbridgeId
  if 0 < dbridgeId then
    let c := c.touch (dbridgeId - 1)
    if 0 < (bpdu.chassisExist.entry (dbridgeId - 1)).age then
      if wins || decide (dbridgeId < c.ctpm.rootLCPortId) || decide (c.ctpm.rootLCPortId = 0) then
        setDesigned bpdu c
      else c
    else c
  else c

def inUpdateLcRoot (bpdu : RstpBpdu) (c : Chassis) : Chassis :=
  inUpdateChassisMember bpdu
    (takeDesigned (bpdu.bpduType == bpduTypeHello) bpdu (takeRoot false bpdu c))

def forwardingBit (bpdu : RstpBpdu) : UInt8 := (bpdu.body.flags &&& 0x20) >>> 5

def inUpdateFcDesignated (bpdu : RstpBpdu) (c : Chassis) : Chassis :=
  inUpdateChassisMember bpdu
    (takeDesigned false bpdu (takeRoot (forwardingBit bpdu == 1) bpdu c))

def lcSyncToHello (bpdu : RstpBpdu) (c : Chassis) : Chassis :=
  let dbridgeId := bpdu.dbridgeId
  let oriDbridgeId := c.ctpm.rootPrio.designBridge.number
  let oriRootLc := c.ctpm.rootLCPortId
  let myDbridgeId := c.ctpm.brId.number
  if 0 < dbridgeId ∧ dbridgeId ≠ oriDbridgeId then
    let c := c.touch (dbridgeId - 1)
    if 0 < (bpdu.chassisExist.entry (dbridgeId - 1)).age then
      let c := setDesigned bpdu c
      if oriRootLc = oriDbridgeId ∨ myDbridgeId = dbridgeId then enterForwarding c else c
    else c
  else c

def checkBpdu (bpdu : RstpBpdu) (c : Chassis) : Nat :=
  if bpdu.rootId ≠ c.ctpm.rootPrio.rootBridge.number then 1
  else if bpdu.dbridgeId ≠ c.ctpm.rootPrio.designBridge.number then 1
  else 0

-- what both receive functions do first in STATE_BLOCK
def wake (c : Chassis) : Chassis :=
  { enterListening c with
    ctpm.topoChange := 1
    ctpm.timeSinceTopoChange := 0
    ctpm.topoChangeCount := 1 }

def takeTimes (bpdu : RstpBpdu) (c : Chassis) : Chassis :=
  { c with ctpm.rootTimes := getTimes bpdu.body }

def restartTimer (c : Chassis) : Chassis := { c with ctpm.timeSinceTopoChange := 0 }

def forgetRootLc (c : Chassis) : Chassis :=
  let oriDbridgeId := c.ctpm.brId.number
  if c.ctpm.rootLCPortId ≠ oriDbridgeId then
    let c := c.touch oriDbridgeId
    if 1 ≤ (c.ctpm.chassisExist.entry oriDbridgeId).age then
      { c.touch c.ctpm.rootLCPortId with
        ctpm.chassisExist := c.ctpm.chassisExist.setAge c.ctpm.rootLCPortId 0 }
    else c
  else c

def helloFromFc (bpdu : RstpBpdu) (c : Chassis) : Chassis :=
  let c := restartTimer c
  let dbridgeId := bpdu.dbridgeId
  let oriDbridgeId := c.ctpm.brId.number
  let rootId := bpdu.rootId
  let oriRootId := c.ctpm.rootPrio.rootBridge.number
  if rootId = oriRootId ∧ dbridgeId ≠ c.ctpm.rootLCPortId then lcSyncToHello bpdu c
  else if dbridgeId = oriDbridgeId ∧ rootId = oriRootId ∧ bpdu.slotid = rootId then
    txInfoBpdu bpduTypeHello c
  else txInfoBpdu bpduTypeReply c

def inRxFcBpdu (bpdu : RstpBpdu) (c : Chassis) : Chassis :=
  match c.type with
  | .lineCard =>
    match c.ctpm.state with
    | .block =>
      inUpdateChassisMember bpdu (txInfoBpdu bpduTypeReply
        (takeTimes bpdu (inUpdateLcRoot bpdu (wake c))))
    | .learning | .listening =>
      inUpdateChassisMember bpdu (if checkBpdu bpdu c ≠ 0 then inUpdateLcRoot bpdu c else c)
    | .forwarding =>
      let c := inUpdateChassisMember bpdu c
      if bpdu.bpduType = bpduTypeLcChange then
        enterBlock (forgetRootLc (restartTimer (txInfoBpdu bpduTypeLcChange c)))
      else if bpdu.bpduType = bpduTypeHello then helloFromFc bpdu c
      else if bpdu.bpduType = bpduTypeConfig then txInfoBpdu bpduTypeReply c
      else c
    | .disable => c
  | .fabricCard => c

def helloFromLc (bpdu : RstpBpdu) (c : Chassis) : Chassis :=
  let c := restartTimer c
  let dbridgeId := bpdu.dbridgeId
  let oriDbridgeId := c.ctpm.rootPrio.designBridge.number
  let oriRootId := c.ctpm.rootPrio.rootBridge.number
  let rootId := bpdu.rootId
  let myId := c.ctpm.brId.number
  let c := if dbridgeId ≠ oriDbridgeId ∧ rootId = oriRootId then lcSyncToHello bpdu c else c
  if dbridgeId = oriDbridgeId ∧ rootId ≠ myId then txInfoBpdu bpduTypeHello c else c

def fcChange (bpdu : RstpBpdu) (c : Chassis) : Chassis :=
  if bpdu.rootId = c.ctpm.brId.number then
    match selectNewRootLcBpdu bpdu c with
    | (c, ret) => if ret = 0 then txInfoBpdu bpduTypeHello c else enterBlock c
  else c

def inRxLcBpdu (bpdu : RstpBpdu) (c : Chassis) : Chassis :=
  match c.type with
  | .lineCard => c
  | .fabricCard =>
    match c.ctpm.state with
    | .block =>
      inUpdateChassisMember bpdu (takeTimes bpdu (inUpdateFcDesignated bpdu (wake c)))
    | .learning | .listening =>
      inUpdateChassisMember bpdu (if checkBpdu bpdu c ≠ 0 then inUpdateFcDesignated bpdu c else c)
    | .forwarding =>
      let c := inUpdateChassisMember bpdu c
      if bpdu.bpduType = bpduTypeHello then helloFromLc bpdu c
      else if bpdu.bpduType = bpduTypeConfig then txInfoBpdu bpduTypeReply c
      else if bpdu.bpduType = bpduTypeFcChange then fcChange bpdu c
      else if bpdu.bpduType = bpduTypeLcChange then
        if bpdu.rootId ≠ c.ctpm.brId.number then enterBlock c else c
      else c
    | .disable => c

-- the part of chassis_bpdu_in_rx_bpdu behind the duplicate filter
def dispatchBpdu (bpdu : RstpBpdu) (c : Chassis) : Chassis :=
  if 33 ≤ bpdu.slotid ∧ bpdu.slotid ≤ 48 then inRxFcBpdu bpdu c
  else if 1 ≤ bpdu.slotid ∧ bpdu.slotid ≤ 32 then inRxLcBpdu bpdu c
  else c

def inRxBpdu (bpdu : RstpBpdu) (c : Chassis) : Chassis :=
  if c.usCardNumber % 2 = 0 then c
  else
    let (ret, rx) := checkRxBpduInterval bpdu c.rxBpdu
    let c := { c with rxBpdu := rx }
    if ret = 1 then c else dispatchBpdu bpdu c

-- the types and lengths chassis_bpdu_rx_bpdu lets through
def acceptsBpdu (bpduType : UInt8) (len : Nat) : Bool :=
  if bpduType = bpduTypeRstp then decide (36 ≤ len)
  else if bpduType = bpduTypeConfig ∨ bpduType = bpduTypeHello then decide (35 ≤ len)
  else decide (bpduType = bpduTypeReply ∨ bpduType = bpduTypeLcChange ∨
    bpduType = bpduTypeFcChange ∨ bpduType = bpduTopoChangeType)

def rxBpdu (bpdu : RstpBpdu) (len : Nat) (c : Chassis) : Chassis :=
  if acceptsBpdu bpdu.bpduType len then inRxBpdu bpdu c else c

end Chassisd
