import Chassisd.Bpdu.Receive

namespace Chassisd

def iterateBlock (this : Chassis) : Chassis :=
  if 33 ≤ this.usCardNumber ∧ this.usCardNumber ≤ 48 then
    let this :=
      { this with ctpm.timeSinceTopoChange := this.ctpm.timeSinceTopoChange + 1 }
    if this.ctpm.timeSinceTopoChange < defaultMaxAge.toNat then txInfoBpdu bpduTypeConfig this
    else
      { this with
        switch := blockTime this.usCardNumber this.switch
        ctpm.timeSinceTopoChange := 0 }
  else this

def iterateListening (this : Chassis) : Chassis :=
  if this.ctpm.timeSinceTopoChange > defaultForwardDelay.toNat then enterLearning this
  else
    let this :=
      { this with ctpm.timeSinceTopoChange := this.ctpm.timeSinceTopoChange + 1 }
    if 33 ≤ this.usCardNumber ∧ this.usCardNumber ≤ 48 then txInfoBpdu bpduTypeConfig this
    else this

def learningTicks (usNumber : Nat) : Nat :=
  if 33 ≤ usNumber ∧ usNumber ≤ 48 then defaultForwardDelay.toNat
  else defaultForwardDelay.toNat * 2 + 1

def iterateLearning (this : Chassis) : Chassis :=
  if this.ctpm.timeSinceTopoChange < learningTicks this.usCardNumber then
    let this := txInfoBpdu bpduTypeConfig this
    { this with ctpm.timeSinceTopoChange := this.ctpm.timeSinceTopoChange + 1 }
  else enterForwarding this

def iterateForwarding (this : Chassis) : Chassis :=
  if this.usCardNumber = this.ctpm.rootPortId then
    if this.ctpm.timeSinceTopoChange > defaultMaxAge.toNat then
      match selectNewRootLc this.ctpm.rootLCPortId this with
      | (this, ret) =>
        if ret = 0 then txInfoBpdu bpduTypeHello { this with ctpm.timeSinceTopoChange := 0 }
        else txInfoBpdu bpduTypeLcChange (enterBlock this)
    else
      let this := txInfoBpdu bpduTypeHello this
      { this with ctpm.timeSinceTopoChange := this.ctpm.timeSinceTopoChange + 1 }
  else if this.ctpm.timeSinceTopoChange > defaultMaxAge.toNat * defaultForwardDelay.toNat then
    enterBlock this
  else { this with ctpm.timeSinceTopoChange := this.ctpm.timeSinceTopoChange + 1 }

def ctpCtpmIterateMachines (this : Chassis) : Chassis :=
  let this := { this with rxBpdu := clearRxBpduInterval }
  match this.ctpm.state with
  | .block => iterateBlock this
  | .listening => iterateListening this
  | .learning => iterateLearning this
  | .forwarding => iterateForwarding this
  | .disable => this

def ctpmOneSecond (this : Chassis) : Chassis :=
  if this.ctpm.adminState ≠ .enabled then this else ctpCtpmIterateMachines this

-- chassis_bpdu_initial on the zeroed CTPM; `hwaddr` is what netif_utils_get_hwaddr returned.
def bpduInitial (usNumber : Nat) (state : CtpMode) (hwaddr : Vector UInt8 6) : Ctpm :=
  let brId : BridgeId := ⟨htons (UInt16.ofNat (4096 + usNumber)), hwaddr⟩
  let brTimes : TimeValues :=
    ⟨defaultMessageAge, defaultMaxAge, defaultForwardDelay, defaultHelloTime⟩
  { Ctpm.zero with
    brId := brId
    brTimes := brTimes
    rootLCPortId := if usNumber < 33 then usNumber else 0
    rootPortId := if usNumber < 33 then 0 else usNumber
    rootPrio :=
      if usNumber < 33 then
        { PrioVector.zero with
          rootPathCost := 2000, designBridge := brId, designPort := usNumber, bridgePort := 0 }
      else
        { PrioVector.zero with
          rootBridge := brId, rootPathCost := 2000, designPort := 1, bridgePort := usNumber }
    rootTimes := brTimes
    adminState := if usNumber % 2 = 1 then state else .disabled
    state := if usNumber % 2 = 1 ∧ state = .enabled then .block else .disable
    chassisExist :=
      (ChassisExist.zero.setAge (usNumber - 1) ownAge).setId (usNumber - 1) brId }

def defaultTopologyPorts (usNumber : Nat) : List (Nat × PortState) :=
  if 1 ≤ usNumber ∧ usNumber ≤ 32 then
    [(port8Port1, .disabled), (port8Port6, .disabled), (port8C1, .forwarding),
      (port8C2, .forwarding)]
  else
    [(port16Fc, .disabled), (port16Port8, .disabled), (port16Port10, .disabled),
      (port16Port12, .disabled), (port16Port13, .disabled), (port16Rj45, .forwarding),
      (port16C1, .forwarding), (port16C2, .forwarding)]

def initialStaticLc (usNumber : Nat) : List (Nat × PortState) :=
  if usNumber = 1 ∨ usNumber = 17 then
    [(port8Fc0, .forwarding), (port8Fc1, .forwarding), (port8Fc2, .forwarding),
      (port8Fc3, .forwarding)]
  else [(port8Fc0, .forwarding)]

def initialStaticFc (usNumber : Nat) : List (Nat × PortState) :=
  (if usNumber = 33 ∨ usNumber = 41 then
    [(port16Lc0, .forwarding), (port16Lc1, .forwarding), (port16Lc2, .forwarding),
      (port16Lc3, .forwarding), (port16Lc4, .forwarding), (port16Lc5, .forwarding),
      (port16Lc6, .forwarding), (port16Lc7, .forwarding), (port16Fc, .forwarding),
      (port16Rj45, .forwarding)]
  else []) ++ [(port16Lc0, .forwarding), (port16Rj45, .forwarding)]

def writePorts (ws : List (Nat × PortState)) (c : Chassis) : Chassis :=
  { c with switch := ws.foldl (fun sw w => configPort c.usCardNumber w.2 w.1 sw) c.switch }

-- What main does to the protocol state before the loop: chassis_parse_config_file (card number,
-- card type, topology), chassis_reset_cpld and chassis_initial_topology.
def startUp (usNumber : Nat) (type : CardType) (topology : CtpMode) (hwaddr : Vector UInt8 6) :
    Chassis :=
  let c : Chassis :=
    { usCardNumber := usNumber
      type := type
      ctpm := bpduInitial usNumber topology hwaddr
      rxBpdu := clearRxBpduInterval
      switch := ⟨fun _ => none, []⟩
      sent := []
      touched := [] }
  let c := enterBlock (writePorts (defaultTopologyPorts usNumber) (enterBlock c))
  if topology = .disabled then
    writePorts (if 1 ≤ usNumber ∧ usNumber ≤ 32 then initialStaticLc usNumber
      else initialStaticFc usNumber) c
  else c

-- Ahead of the exit itself, which puts the switch into reset.
def signalExit (c : Chassis) : Chassis :=
  let c := enterBlock c
  if c.usCardNumber = c.ctpm.rootLCPortId then txInfoBpdu bpduTypeFcChange c else c

inductive Event where
  | tick
  | rx (bpdu : RstpBpdu) (len : Nat)
  | exit

def quiet (c : Chassis) : Chassis :=
  { c with switch.writes := [], sent := [], touched := [] }

def handle : Event → Chassis → Chassis
  | .tick, c => ctpmOneSecond c
  | .rx bpdu len, c => rxBpdu bpdu len c
  | .exit, c => signalExit c

def step (e : Event) (c : Chassis) : Chassis := handle e (quiet c)

end Chassisd
