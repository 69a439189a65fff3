import Mathlib

namespace Chassisd

abbrev maximumMicroServerCardNumber : Nat := 48
abbrev maximumLineServerCardNumber : Nat := 32
abbrev maximumBpduIntervalSize : Nat := 1024

abbrev bpduTypeConfig : UInt8 := 0
abbrev bpduTypeReply : UInt8 := 0x01
abbrev bpduTypeRstp : UInt8 := 0x02
abbrev bpduTypeLcChange : UInt8 := 0x03
abbrev bpduTypeFcChange : UInt8 := 0x04
abbrev bpduTopoChangeType : UInt8 := 0x80
abbrev bpduTypeHello : UInt8 := 0xff

@[simp] theorem bpduType_ne :
    bpduTypeConfig ≠ bpduTypeReply ∧ bpduTypeConfig ≠ bpduTypeLcChange ∧
    bpduTypeConfig ≠ bpduTypeFcChange ∧ bpduTypeConfig ≠ bpduTypeHello ∧
    bpduTypeReply ≠ bpduTypeConfig ∧ bpduTypeReply ≠ bpduTypeLcChange ∧
    bpduTypeReply ≠ bpduTypeFcChange ∧ bpduTypeReply ≠ bpduTypeHello ∧
    bpduTypeLcChange ≠ bpduTypeConfig ∧ bpduTypeLcChange ≠ bpduTypeReply ∧
    bpduTypeLcChange ≠ bpduTypeFcChange ∧ bpduTypeLcChange ≠ bpduTypeHello ∧
    bpduTypeFcChange ≠ bpduTypeConfig ∧ bpduTypeFcChange ≠ bpduTypeReply ∧
    bpduTypeFcChange ≠ bpduTypeLcChange ∧ bpduTypeFcChange ≠ bpduTypeHello ∧
    bpduTypeHello ≠ bpduTypeConfig ∧ bpduTypeHello ≠ bpduTypeReply ∧
    bpduTypeHello ≠ bpduTypeLcChange ∧ bpduTypeHello ≠ bpduTypeFcChange := by decide

abbrev defaultMessageAge : UInt16 := 1
abbrev defaultMaxAge : UInt16 := 15
abbrev defaultForwardDelay : UInt16 := 3
abbrev defaultHelloTime : UInt16 := 200

inductive CardType where
  | fabricCard
  | lineCard
  deriving DecidableEq, Repr, Inhabited

inductive ChassisCtpmState where
  | block
  | listening
  | learning
  | forwarding
  | disable
  deriving DecidableEq, Repr, Inhabited

inductive CtpMode where
  | disabled
  | enabled
  deriving DecidableEq, Repr, Inhabited

inductive PortState where
  | noSpanningTree
  | disabled
  | blocking
  | listening
  | learning
  | forwarding
  deriving DecidableEq, Repr, Inhabited

-- The host is little-endian: an `unsigned short` lies in memory low byte first.
def htons (x : UInt16) : UInt16 := (x <<< 8) ||| (x >>> 8)

def htonl (x : UInt32) : UInt32 :=
  (x <<< 24) ||| ((x <<< 8) &&& (0x00ff0000 : UInt32)) ||| ((x >>> 8) &&& (0x0000ff00 : UInt32)) |||
    (x >>> 24)

def bytesOfUInt16 (x : UInt16) : Vector UInt8 2 := #v[x.toUInt8, (x >>> 8).toUInt8]

def bytesOfUInt32 (x : UInt32) : Vector UInt8 4 :=
  #v[x.toUInt8, (x >>> 8).toUInt8, (x >>> 16).toUInt8, (x >>> 24).toUInt8]

def uInt32OfBytes (v : Vector UInt8 4) : UInt32 :=
  v[0].toUInt32 ||| (v[1].toUInt32 <<< 8) ||| (v[2].toUInt32 <<< 16) ||| (v[3].toUInt32 <<< 24)

structure BridgeId where
  prio : UInt16
  addr : Vector UInt8 6
  deriving DecidableEq, Repr, Inhabited

namespace BridgeId

def zero : BridgeId := ⟨0, Vector.replicate 6 0⟩

def toBytes (b : BridgeId) : Vector UInt8 8 :=
  #v[b.prio.toUInt8, (b.prio >>> 8).toUInt8, b.addr[0], b.addr[1], b.addr[2], b.addr[3],
    b.addr[4], b.addr[5]]

def ofBytes (v : Vector UInt8 8) : BridgeId :=
  ⟨v[0].toUInt16 ||| (v[1].toUInt16 <<< 8), #v[v[2], v[3], v[4], v[5], v[6], v[7]]⟩

def idByte (v : Vector UInt8 8) : Nat := v[1].toNat

-- `htons(prio)&0x00FF`, the card number an id carries
def number (b : BridgeId) : Nat := (htons b.prio &&& 0x00ff).toNat

end BridgeId

structure BridgeExist where
  age : UInt8
  id : BridgeId
  deriving DecidableEq, Repr

namespace BridgeExist

def zero : BridgeExist := ⟨0, BridgeId.zero⟩

instance : Inhabited BridgeExist := ⟨zero⟩

end BridgeExist

structure ChassisExist where
  entries : Vector BridgeExist maximumMicroServerCardNumber
  deriving DecidableEq, Repr

def ChassisExist.zero : ChassisExist := ⟨Vector.replicate _ BridgeExist.zero⟩

instance : Inhabited ChassisExist := ⟨ChassisExist.zero⟩

structure TimeValues where
  messageAge : UInt16
  maxAge : UInt16
  forwardDelay : UInt16
  helloTime : UInt16
  deriving DecidableEq, Repr, Inhabited

structure MacHeader where
  dstMac : Vector UInt8 6
  srcMac : Vector UInt8 6
  deriving DecidableEq, Repr, Inhabited

structure EthHeader where
  len8023 : Vector UInt8 2
  dsap : UInt8
  ssap : UInt8
  llc : UInt8
  deriving DecidableEq, Repr, Inhabited

structure BpduHeader where
  protocol : Vector UInt8 2
  version : UInt8
  bpduType : UInt8
  deriving DecidableEq, Repr, Inhabited

structure BpduBody where
  flags : UInt8
  rootId : Vector UInt8 8
  rootPathCost : Vector UInt8 4
  bridgeId : Vector UInt8 8
  portId : Vector UInt8 2
  messageAge : Vector UInt8 2
  maxAge : Vector UInt8 2
  helloTime : Vector UInt8 2
  forwardDelay : Vector UInt8 2
  deriving DecidableEq, Repr, Inhabited

structure RstpBpdu where
  mac : MacHeader
  eth : EthHeader
  hdr : BpduHeader
  body : BpduBody
  ver1Len : Vector UInt8 2
  chassisExist : ChassisExist
  deriving DecidableEq, Repr, Inhabited

namespace RstpBpdu

def sizeof : Nat := 534

def slotid (m : RstpBpdu) : Nat := m.body.portId[1].toNat

def rootId (m : RstpBpdu) : Nat := m.body.rootId[1].toNat

def dbridgeId (m : RstpBpdu) : Nat := m.body.bridgeId[1].toNat

def bpduType (m : RstpBpdu) : UInt8 := m.hdr.bpduType

def withRootByte (b : UInt8) (m : RstpBpdu) : RstpBpdu :=
  { m with body.rootId := m.body.rootId.set 1 b }

end RstpBpdu

-- `PORT_ID` only ever holds frame bytes, card numbers and indices below 32.
structure PrioVector where
  rootBridge : BridgeId
  rootPathCost : UInt64
  designBridge : BridgeId
  designPort : Nat
  bridgePort : Nat
  deriving DecidableEq, Repr, Inhabited

def PrioVector.zero : PrioVector := ⟨BridgeId.zero, 0, BridgeId.zero, 0, 0⟩

structure Ctpm where
  state : ChassisCtpmState
  brId : BridgeId
  brTimes : TimeValues
  rootPortId : Nat
  rootLCPortId : Nat
  rootPrio : PrioVector
  rootTimes : TimeValues
  adminState : CtpMode
  timeSinceTopoChange : Nat
  topoChangeCount : Nat
  topoChange : Nat
  chassisExist : ChassisExist
  deriving DecidableEq, Repr, Inhabited

def Ctpm.zero : Ctpm where
  state := .block
  brId := BridgeId.zero
  brTimes := ⟨0, 0, 0, 0⟩
  rootPortId := 0
  rootLCPortId := 0
  rootPrio := PrioVector.zero
  rootTimes := ⟨0, 0, 0, 0⟩
  adminState := .disabled
  timeSinceTopoChange := 0
  topoChangeCount := 0
  topoChange := 0
  chassisExist := ChassisExist.zero

structure RxHeader where
  slotid : Nat
  type : UInt8
  count : Nat
  deriving DecidableEq, Repr, Inhabited

def RxHeader.zero : RxHeader := ⟨0, 0, 0⟩

-- `port` is the state last written to each port, `writes` the writes of the current event.
structure Switch where
  port : Nat → Option PortState
  writes : List (Nat × PortState)

-- `sent` and `touched` are what the current event did: the frames transmitted, and the indices
-- taken from frame or stored ids that were used on a `chassis_exist` table.
structure Chassis where
  usCardNumber : Nat
  type : CardType
  ctpm : Ctpm
  rxBpdu : List RxHeader
  switch : Switch
  sent : List RstpBpdu
  touched : List Nat

def Chassis.touch (i : Nat) (c : Chassis) : Chassis := { c with touched := c.touched ++ [i] }

end Chassisd
