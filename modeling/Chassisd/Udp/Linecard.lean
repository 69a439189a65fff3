import Chassisd.Bpdu.Machine
import Chassisd.Library.CString

namespace Chassisd

abbrev ctpRemoteshutdownRequest : UInt16 := 10002

abbrev chassisIsExist : UInt32 := 1

structure UsCard where
  ipaddress : Vector UInt8 4
  status : UInt32
  deriving DecidableEq, Repr, Inhabited

-- The global chassis_information: beside the protocol state, the card table and the master of
-- each group.
structure ChassisData extends Chassis where
  usCard : Vector UsCard maximumMicroServerCardNumber
  localMaster : Vector Int 4

def updateStatus (i : Nat) (f : UInt32 → UInt32) (c : ChassisData) : ChassisData :=
  match c.usCard[i]? with
  | none => c
  | some card => { c with usCard := c.usCard.setIfInBounds i { card with status := f card.status } }

structure UdpRequest where
  ipaddress : Vector UInt8 4
  usCardNumber : Nat
  type : UInt16
  length : UInt16
  params : List Char
  paramsLength : UInt16
  deriving DecidableEq, Repr

structure PowerWrite where
  path : String
  value : Int
  deriving DecidableEq, Repr

abbrev Driver := PowerWrite → Int

abbrev eio : Int := 5
abbrev einval : Int := 22

abbrev powerOffValue : Int := 0
abbrev powerOnValue : Int := 1

def lcPowerDir : Vector String 4 := #v["6-0013", "6-0010", "6-0053", "6-0050"]

def hotSwapOn (dir : String) : String := "/sys/bus/i2c/devices/" ++ dir ++ "/hot_swap_on"

def lcPath (lcSlotId : Int) : String := hotSwapOn (lcPowerDir.get (Fin.ofNat 4 lcSlotId.toNat))

section

variable (driver : Driver)

def shutdownMgrShutdownCard (path : String) : List PowerWrite × Int :=
  let w : PowerWrite := ⟨path, powerOffValue⟩
  ([w], if driver w < 0 then driver w else 0)

def shutdownMgrPoweronCard (path : String) : List PowerWrite × Int :=
  let w : PowerWrite := ⟨path, powerOnValue⟩
  ([w], if driver w < 0 then -eio else 0)

def shutdownMgrPoweronLinecardLocal (lcSlotId : Int) : List PowerWrite × Int :=
  if lcSlotId < 0 ∨ 7 < lcSlotId then ([], -einval)
  else shutdownMgrPoweronCard driver (lcPath lcSlotId)

def shutdownMgrShutdownLinecardLocal (lcSlotId : Int) : List PowerWrite × Int :=
  if lcSlotId < 0 ∨ 7 < lcSlotId then ([], -einval)
  else shutdownMgrShutdownCard driver (lcPath lcSlotId)

def shutdownMgrPowerLinecardLocal (lcSlotId option : Int) : List PowerWrite × Int :=
  if option = 0 then shutdownMgrShutdownLinecardLocal driver lcSlotId
  else shutdownMgrPoweronLinecardLocal driver lcSlotId

end

-- sprintf "%d %d"
def shutdownText (slotid option : UInt16) : List Char :=
  Nat.toDigits 10 slotid.toNat ++ ' ' :: Nat.toDigits 10 option.toNat

structure Outcome where
  chassis : ChassisData
  writes : List PowerWrite
  request : Option UdpRequest
  result : Int

-- An index past the table would be undefined; no entry of local_Master gives one.
def tcpServerDoSendShutdownToClient (usNumber : Int) (slotid option : UInt16) (c : ChassisData) :
    Outcome :=
  if 0 < usNumber then
    let i := usNumber.toNat - 1
    let c := updateStatus i (· &&& 1) c
    match c.usCard[i]? with
    | none => ⟨c, [], none, 0⟩
    | some card =>
      if card.status ≠ 0 then
        ⟨c, [], some
          { ipaddress := card.ipaddress
            usCardNumber := usNumber.toNat
            type := ctpRemoteshutdownRequest
            length := 4
            params := shutdownText slotid option
            paramsLength := UInt16.ofNat (shutdownText slotid option).length }, 0⟩
      else ⟨c, [], none, 0⟩
  else ⟨c, [], none, -1⟩

def partner : Fin 4 → Fin 4
  | 0 => 1
  | 1 => 0
  | 2 => 3
  | 3 => 2

def otherMaster (c : ChassisData) : Int :=
  match (List.finRange 4).find? fun i => c.localMaster.get i = c.usCardNumber with
  | some i => c.localMaster.get (partner i)
  | none => 0

def tcpServerDoShutdownToClient (slotid option : Int) (c : ChassisData) : Outcome :=
  let usNumber := otherMaster c
  if usNumber = 0 then ⟨c, [], none, -1⟩
  else tcpServerDoSendShutdownToClient usNumber (UInt16.ofInt slotid) (UInt16.ofInt option) c

def isBlank (c : Char) : Bool := c = ' '

def shutdownParams (params : List Char) : Int × Int :=
  match CString.strtok isBlank params with
  | none => (2, 0)
  | some (token, rest) =>
    (CString.atoi token,
      match CString.strtok isBlank rest with
      | none => 0
      | some (token, _) => CString.atoi token)

def udpServerDoShutdownMgrShutdownLinecardLocal (driver : Driver) (params : List Char)
    (c : ChassisData) : Outcome :=
  let (lcSlotId, option) := shutdownParams params
  let switched := shutdownMgrPowerLinecardLocal driver lcSlotId option
  if c.usCardNumber ∈ [33, 35, 41, 43] then
    if 3 < lcSlotId then tcpServerDoShutdownToClient lcSlotId option c
    else ⟨c, switched.1, none, switched.2⟩
  else if c.usCardNumber ∈ [37, 39, 45, 47] then
    if lcSlotId < 4 then tcpServerDoShutdownToClient lcSlotId option c
    else ⟨c, switched.1, none, switched.2⟩
  else ⟨c, [], none, -1⟩

end Chassisd
