import Chassisd.Udp.Server

namespace Chassisd

-- The server's memory, with the us_card_number each table entry was configured with.
structure Station extends UdpServer where
  memberNumber : Vector UInt32 maximumMicroServerCardNumber

-- What the stack holds where a sender leaves the params of its header unwritten.
structure Stack where
  params : List Char
  paramsLength : UInt16
  deriving DecidableEq, Repr, Inhabited

structure AnytoanyCommandParameter where
  select : UInt32
  inputCard : UInt32
  inputPort : UInt32
  outputCard : UInt32
  outputPort : UInt32
  srcBp : UInt32
  destBp : UInt32
  deriving DecidableEq, Repr

structure Sending where
  chassis : ChassisData
  request : Option UdpRequest
  payload : Option UsHwData
  result : Int

-- "%d" and "%2d" of an unsigned int
def intText (x : UInt32) : List Char :=
  let n := CString.toInt x.toNat
  if n < 0 then '-' :: Nat.toDigits 10 n.natAbs else Nat.toDigits 10 n.natAbs

def wideIntText (x : UInt32) : List Char :=
  List.replicate (2 - (intText x).length) ' ' ++ intText x

def anytoanyText (paras : AnytoanyCommandParameter) : List Char :=
  [' '].intercalate [intText paras.select, intText paras.inputCard, wideIntText paras.inputPort,
    intText paras.outputCard, wideIntText paras.outputPort, intText paras.srcBp,
    intText paras.destBp]

-- The senders differ in how they ask whether the card exists: `status==1` or `status&=1`.
inductive ExistTest where
  | equal
  | mask
  deriving DecidableEq, Repr

def ExistTest.apply : ExistTest → UInt32 → UInt32
  | equal, status => status
  | mask, status => status &&& 1

def ExistTest.holds : ExistTest → UInt32 → Bool
  | equal, status => status = 1
  | mask, status => status ≠ 0

section Senders

variable (socketFd : Int) (stack : Stack)

-- An index past the table would be undefined; the callers stay within it.
def sendToClient (test : ExistTest) (usNumber : Int) (message : UsCard → UdpRequest)
    (payload : Option UsHwData) (c : ChassisData) : Sending :=
  if 0 < usNumber then
    let i := usNumber.toNat - 1
    let c := updateStatus i test.apply c
    match c.usCard[i]? with
    | none => ⟨c, none, none, 0⟩
    | some card =>
      if test.holds card.status then ⟨c, some (message card), payload, socketFd⟩
      else ⟨c, none, none, 0⟩
  else ⟨c, none, none, -1⟩

def unwritten (usNumber : Nat) (type : UInt16) (length : UInt16) (card : UsCard) : UdpRequest :=
  ⟨card.ipaddress, usNumber, type, length, stack.params, stack.paramsLength⟩

def written (usNumber : Nat) (type : UInt16) (params : List Char) (card : UsCard) : UdpRequest :=
  ⟨card.ipaddress, usNumber, type, 4, params, UInt16.ofNat params.length⟩

def tcpServerDoSendPingTestToClient (usNumber : Int) : ChassisData → Sending :=
  sendToClient socketFd .equal usNumber (unwritten stack usNumber.toNat pingTestRequest 4) none

def tcpServerDoSendPoweCycleToClient (usNumber : Int) : ChassisData → Sending :=
  sendToClient socketFd .equal usNumber (unwritten stack usNumber.toNat powerCycleRequest 4) none

def tcpServerDoSendHwInformToClient (usHwInformation : Vector UsHwData maximumMicroServerCardNumber)
    (usNumber : Int) (c : ChassisData) : Sending :=
  sendToClient socketFd .equal usNumber
    (unwritten stack c.usCardNumber hwInformationRequest 344) usHwInformation[c.usCardNumber - 1]? c

def tcpServerDoSendTrafficToClient (usNumber : Int) (option : UInt16) : ChassisData → Sending :=
  sendToClient socketFd .mask usNumber
    (written usNumber.toNat
      (if option = trafficResultRequest then trafficResultRequest else trafficRequest)
      (Nat.toDigits 10 option.toNat)) none

def tcpServerDoSendHealthTestToClient (usNumber : Int) (option : UInt16) :
    ChassisData → Sending :=
  sendToClient socketFd .mask usNumber
    (written usNumber.toNat option (Nat.toDigits 10 option.toNat)) none

def tcpServerDoSendAnytoanyToClient (usNumber : Int) (paras : AnytoanyCommandParameter)
    (type : UInt16) : ChassisData → Sending :=
  sendToClient socketFd .mask usNumber (written usNumber.toNat type (anytoanyText paras)) none

end Senders

inductive Sender where
  | pingTest
  | poweCycle
  | hwInform
  | traffic (option : UInt16)
  | healthTest (option : UInt16)
  | anytoany (paras : AnytoanyCommandParameter) (type : UInt16)
  | shutdown (slotid option : UInt16)
  deriving DecidableEq, Repr

def Sender.send (socketFd : Int) (stack : Stack) (usNumber : Int) (s : UdpServer) :
    Sender → Sending
  | pingTest => tcpServerDoSendPingTestToClient socketFd stack usNumber s.chassis
  | poweCycle => tcpServerDoSendPoweCycleToClient socketFd stack usNumber s.chassis
  | hwInform =>
    tcpServerDoSendHwInformToClient socketFd stack s.usHwInformation usNumber s.chassis
  | traffic option => tcpServerDoSendTrafficToClient socketFd usNumber option s.chassis
  | healthTest option => tcpServerDoSendHealthTestToClient socketFd usNumber option s.chassis
  | anytoany paras type =>
    tcpServerDoSendAnytoanyToClient socketFd usNumber paras type s.chassis
  | shutdown slotid option =>
    let o := tcpServerDoSendShutdownToClient usNumber slotid option s.chassis
    ⟨o.chassis, o.request, none, o.result⟩

def Sender.existTest : Sender → ExistTest
  | pingTest | poweCycle | hwInform => .equal
  | traffic _ | healthTest _ | anytoany _ _ | shutdown _ _ => .mask

section Addressed

variable (socketFd : Int) (stack : Stack) {s : UdpServer}

theorem sendToClient_chassis {test : ExistTest} {k : Nat} (h : 0 < k)
    (message : UsCard → UdpRequest) (payload : Option UsHwData) (c : ChassisData) :
    (sendToClient socketFd test k message payload c).chassis =
      updateStatus (k - 1) test.apply c := by
  have hpos : (0 : Int) < k := by omega
  unfold sendToClient
  rw [if_pos hpos, Int.toNat_natCast]
  extract_lets i c'
  split
  · rfl
  · split_ifs <;> rfl

theorem Sender.send_chassis (sender : Sender) {k : Nat} (h : 0 < k) :
    (sender.send socketFd stack k s).chassis =
      updateStatus (k - 1) sender.existTest.apply s.chassis := by
  cases sender with
  | shutdown slotid option =>
    have hpos : (0 : Int) < k := by omega
    simp only [Sender.send, tcpServerDoSendShutdownToClient]
    rw [if_pos hpos, Int.toNat_natCast]
    split
    · rfl
    · split_ifs <;> rfl
  | _ => exact sendToClient_chassis socketFd h _ _ _

end Addressed

end Chassisd
