import Chassisd.Bpdu.Wire
import Chassisd.Udp.Shutdown

namespace Chassisd

abbrev pingTestRequest : UInt16 := 10109
abbrev pingTestReply : UInt16 := 20109
abbrev powerCycleRequest : UInt16 := 10110
abbrev powerCycleReply : UInt16 := 20110
abbrev hwInformationRequest : UInt16 := 10054
abbrev hwInformationReply : UInt16 := 20054
abbrev trafficRequest : UInt16 := 10211
abbrev trafficResultRequest : UInt16 := 11211
abbrev trafficReply : UInt16 := 20211
abbrev trafficResult : UInt16 := 30211
abbrev ctpInformationRequest : UInt16 := 10001
abbrev ctpInformationReply : UInt16 := 20001
abbrev ctpRemoteshutdownReply : UInt16 := 20002
abbrev healthRequest : UInt16 := 10996
abbrev healthResultRequest : UInt16 := 11996
abbrev healthReply : UInt16 := 20996
abbrev healthResult : UInt16 := 30996
abbrev anytoanyRequest : UInt16 := 10212
abbrev anytoanyResultRequest : UInt16 := 11212
abbrev anytoanyReply : UInt16 := 20212
abbrev anytoanyResult : UInt16 := 30212

abbrev resultSuccess : UInt16 := 4
abbrev resultFailed : UInt16 := 3
abbrev resultAck : UInt16 := 2

abbrev chassisPingReady : UInt32 := 2
abbrev chassisPowerReady : UInt32 := 4
abbrev chassisHwinfoReady : UInt32 := 8

def bufSize : Nat := 2048

def paramsSize : Nat := 256

def halfAt (bs : List UInt8) (off : Nat) : UInt16 :=
  (byteAt bs off).toUInt16 ||| ((byteAt bs (off + 1)).toUInt16 <<< 8)

structure UdpPacketCommandHeader where
  usCardNumber : UInt32
  type : UInt16
  length : UInt16
  params : Vector UInt8 256
  paramsLength : UInt16
  deriving DecidableEq, Repr

namespace UdpPacketCommandHeader

def sizeof : Nat := 266

def paramsOffset : Nat := 8

def ofBytes (bs : List UInt8) : UdpPacketCommandHeader where
  usCardNumber := uInt32OfBytes (bytesAt bs 0 4)
  type := halfAt bs 4
  length := halfAt bs 6
  params := bytesAt bs paramsOffset 256
  paramsLength := halfAt bs 264

end UdpPacketCommandHeader

abbrev UsHwData := Vector UInt8 344

-- sizeof(CTPM_T) on the 64-bit host
def ctpmSize : UInt16 := 600

structure UdpServer where
  chassis : ChassisData
  usHwInformation : Vector UsHwData maximumMicroServerCardNumber
  lastPayload : UInt16

-- The memory a reception touches: indices of the two tables, the bytes read of the received
-- params, the bytes written to the local params, the place of the terminating zero.
inductive Access where
  | usCard (i : Nat)
  | usHwInformation (i : Nat)
  | readParams (n : Nat)
  | writeParams (n : Nat)
  | terminate (i : Nat)
  deriving DecidableEq, Repr

def Access.Safe : Access → Prop
  | usCard i => i < maximumMicroServerCardNumber
  | usHwInformation i => i < maximumMicroServerCardNumber
  | readParams n => n ≤ paramsSize
  | writeParams n => n ≤ paramsSize
  | terminate i => i < paramsSize

inductive Payload where
  | word (w : UInt16)
  | hwInformation (data : Option UsHwData)
  | ctpm (ctpm : Ctpm)

structure UdpReply where
  usCardNumber : UInt32
  type : UInt16
  length : UInt16
  payload : Payload

structure Reception where
  server : UdpServer
  accesses : List Access
  replies : List UdpReply
  writes : List PowerWrite
  request : Option UdpRequest

-- What udp_server_do_system_command answers: it runs the diagnostics of the board.
abbrev SystemCommand := UInt16 → List Char → UInt16

namespace UdpServer

def ownNumber (s : UdpServer) : UInt32 := UInt32.ofNat s.chassis.usCardNumber

-- `us_card_number-1`, an unsigned int
def cardIndex (usCardNumber : UInt32) : Nat := (usCardNumber - 1).toNat

def mark (flag : UInt32) (usCardNumber : UInt32) (s : UdpServer) : UdpServer :=
  { s with chassis := updateStatus (cardIndex usCardNumber) (· ||| flag) s.chassis }

def hwData (packet : List UInt8) : UsHwData := bytesAt packet UdpPacketCommandHeader.sizeof 344

def udpServerDoParseUdp (packet : List UInt8) (s : UdpServer) : UdpServer × List Access × UInt16 :=
  let header := UdpPacketCommandHeader.ofBytes packet
  let i := cardIndex header.usCardNumber
  if header.type = pingTestRequest then
    (mark chassisPingReady header.usCardNumber s, [.usCard i], header.type)
  else if header.type = powerCycleRequest then
    (mark chassisPowerReady header.usCardNumber s, [.usCard i], header.type)
  else if header.type = hwInformationRequest then
    (mark chassisHwinfoReady header.usCardNumber
        { s with usHwInformation := s.usHwInformation.setIfInBounds i (hwData packet) },
      [.usHwInformation i, .usCard i], header.type)
  else (s, [], header.type)

def reply (type payload : UInt16) (s : UdpServer) : UdpReply :=
  ⟨s.ownNumber, type, 2, .word payload⟩

def cString (bytes : List UInt8) : List Char :=
  (bytes.takeWhile (· ≠ 0)).map fun b => Char.ofNat b.toNat

-- memcpy(params,header_ptr->params,header_ptr->params_length)
def copyParams (buf : List UInt8) : List Access × List Char :=
  let n := (UdpPacketCommandHeader.ofBytes buf).paramsLength.toNat
  if 0 < n then
    ([.readParams n, .writeParams n],
      cString ((List.range n).map fun j => byteAt buf (UdpPacketCommandHeader.paramsOffset + j)))
  else ([], [])

def resultOf (payload : UInt16) : UInt16 := if payload = 0 then resultSuccess else resultFailed

def receiveTest (command : SystemCommand) (request answer : UInt16) (s : UdpServer) : Reception :=
  ⟨s, [], [s.reply answer (command request [])], [], none⟩

def receiveHwInformation (s : UdpServer) : Reception :=
  let i := cardIndex s.ownNumber
  ⟨s, [.usHwInformation i],
    [⟨s.ownNumber, hwInformationReply, 344, .hwInformation s.usHwInformation[i]?⟩], [], none⟩

def receiveCtpInformation (s : UdpServer) : Reception :=
  ⟨s, [], [⟨s.ownNumber, ctpInformationReply, ctpmSize, .ctpm s.chassis.ctpm⟩], [], none⟩

def receiveRemoteshutdown (driver : Driver) (buf : List UInt8) (s : UdpServer) : Reception :=
  let (accesses, params) := copyParams buf
  let o := udpServerDoShutdownMgrShutdownLinecardLocal driver params s.chassis
  ⟨{ s with chassis := o.chassis }, accesses,
    [s.reply ctpRemoteshutdownReply (UInt16.ofInt o.result)], o.writes, o.request⟩

def receiveGroupTest (command : SystemCommand) (request answer result : UInt16)
    (params : List Access × List Char) (s : UdpServer) : Reception :=
  let payload := command request params.2
  ⟨{ s with lastPayload := payload }, params.1,
    [s.reply answer resultAck, s.reply result (resultOf payload)], [], none⟩

def receiveTraffic (command : SystemCommand) (buf : List UInt8) : UdpServer → Reception :=
  receiveGroupTest command trafficRequest trafficReply trafficResult (copyParams buf)

def receiveHealth (command : SystemCommand) (buf : List UInt8) : UdpServer → Reception :=
  receiveGroupTest command healthRequest healthReply healthResult (copyParams buf)

-- This test alone ends the copied parameters with a zero of its own.
def receiveAnytoany (command : SystemCommand) (buf : List UInt8) : UdpServer → Reception :=
  let n := (UdpPacketCommandHeader.ofBytes buf).paramsLength.toNat
  let params := copyParams buf
  receiveGroupTest command anytoanyRequest anytoanyReply anytoanyResult
    (if 0 < n then (params.1 ++ [.terminate n], params.2) else params)

def receiveResult (result : UInt16) (s : UdpServer) : Reception :=
  ⟨s, [], [s.reply result (resultOf s.lastPayload)], [], none⟩

def receiveOther (command : SystemCommand) (type : UInt16) (buf : List UInt8) (s : UdpServer) :
    Reception :=
  let (accesses, params) := copyParams buf
  ⟨s, accesses, [s.reply type (command type params)], [], none⟩

def answer (driver : Driver) (command : SystemCommand) (type : UInt16) (buf : List UInt8)
    (s : UdpServer) : Reception :=
  if type = pingTestRequest then receiveTest command pingTestRequest pingTestReply s
  else if type = powerCycleRequest then receiveTest command powerCycleRequest powerCycleReply s
  else if type = hwInformationRequest then receiveHwInformation s
  else if type = ctpInformationRequest then receiveCtpInformation s
  else if type = ctpRemoteshutdownRequest then receiveRemoteshutdown driver buf s
  else if type = trafficRequest then receiveTraffic command buf s
  else if type = trafficResultRequest then receiveResult trafficResult s
  else if type = healthRequest then receiveHealth command buf s
  else if type = healthResultRequest then receiveResult healthResult s
  else if type = anytoanyRequest then receiveAnytoany command buf s
  else if type = anytoanyResultRequest then receiveResult anytoanyResult s
  else receiveOther command type buf s

-- The buffer is cleared for each reception, and the socket cuts a datagram at its size.
def updServerRecev (driver : Driver) (command : SystemCommand) (datagram : List UInt8)
    (s : UdpServer) : Reception :=
  let buf := datagram.take bufSize
  if buf.length = 0 then ⟨s, [], [], [], none⟩
  else
    let (s, accesses, type) := udpServerDoParseUdp buf s
    let r := answer driver command type buf s
    { r with accesses := accesses ++ r.accesses }

def CardNumber (n : UInt32) : Prop := 1 ≤ n.toNat ∧ n.toNat ≤ maximumMicroServerCardNumber

def indexTypes : List UInt16 := [pingTestRequest, powerCycleRequest, hwInformationRequest]

def plainTypes : List UInt16 :=
  [ctpInformationRequest, trafficResultRequest, healthResultRequest, anytoanyResultRequest]

structure Fits (own : UInt32) (header : UdpPacketCommandHeader) : Prop where
  card : header.type ∈ indexTypes → CardNumber header.usCardNumber
  own : header.type = hwInformationRequest → CardNumber own
  room : header.type ∉ indexTypes → header.type ∉ plainTypes →
    if header.type = anytoanyRequest then header.paramsLength.toNat < paramsSize
    else header.paramsLength.toNat ≤ paramsSize

theorem cardIndex_lt_iff (n : UInt32) :
    cardIndex n < maximumMicroServerCardNumber ↔ CardNumber n := by
  have hn := n.toNat_lt
  have hindex : cardIndex n = (2 ^ 32 - 1 + n.toNat) % 2 ^ 32 := UInt32.toNat_sub n 1
  have hmax : maximumMicroServerCardNumber = 48 := rfl
  rw [hindex, CardNumber, hmax]
  omega

def AllSafe (accesses : List Access) : Prop := ∀ a ∈ accesses, a.Safe

@[simp] theorem allSafe_nil : AllSafe [] := fun _ h => absurd h List.not_mem_nil

@[simp] theorem allSafe_cons (a : Access) (l : List Access) :
    AllSafe (a :: l) ↔ a.Safe ∧ AllSafe l := List.forall_mem_cons

@[simp] theorem allSafe_append (l l' : List Access) :
    AllSafe (l ++ l') ↔ AllSafe l ∧ AllSafe l' := List.forall_mem_append

section Reception

variable (driver : Driver) (command : SystemCommand) (buf : List UInt8) (s : UdpServer)

theorem copyParams_safe :
    AllSafe (copyParams buf).1 ↔
      (UdpPacketCommandHeader.ofBytes buf).paramsLength.toNat ≤ paramsSize := by
  unfold copyParams
  extract_lets n
  split_ifs with hn
  · simp [Access.Safe, n]
  · refine iff_of_true allSafe_nil ?_
    exact (Nat.le_zero.mp (Nat.not_lt.mp hn)).trans_le (Nat.zero_le paramsSize)

theorem receiveAnytoany_safe :
    AllSafe (receiveAnytoany command buf s).accesses ↔
      (UdpPacketCommandHeader.ofBytes buf).paramsLength.toNat < paramsSize := by
  unfold receiveAnytoany
  split_ifs with hn
  · simp only [receiveGroupTest, allSafe_append, copyParams_safe, allSafe_cons, allSafe_nil,
      Access.Safe, and_true]
    exact and_iff_right_of_imp Nat.le_of_lt
  · simp only [receiveGroupTest, copyParams_safe]
    have hzero := Nat.le_zero.mp (Nat.not_lt.mp hn)
    rw [hzero]
    exact iff_of_true (Nat.zero_le paramsSize) (Nat.zero_lt_of_lt (by decide : 0 < paramsSize))

theorem updateStatus_usCardNumber (i : Nat) (f : UInt32 → UInt32) (c : ChassisData) :
    (updateStatus i f c).usCardNumber = c.usCardNumber := by
  unfold updateStatus
  split <;> rfl

theorem ownNumber_mark (flag usCardNumber : UInt32) :
    (mark flag usCardNumber s).ownNumber = s.ownNumber :=
  congrArg UInt32.ofNat (updateStatus_usCardNumber _ _ _)

theorem mem_indexTypes {type : UInt16} : type ∈ indexTypes ↔
    type = pingTestRequest ∨ type = powerCycleRequest ∨ type = hwInformationRequest := by
  simp [indexTypes]

theorem parse_type :
    (udpServerDoParseUdp buf s).2.2 = (UdpPacketCommandHeader.ofBytes buf).type := by
  simp only [udpServerDoParseUdp]
  split_ifs <;> rfl

theorem parse_ownNumber : (udpServerDoParseUdp buf s).1.ownNumber = s.ownNumber := by
  simp only [udpServerDoParseUdp]
  split_ifs
  · exact ownNumber_mark s _ _
  · exact ownNumber_mark s _ _
  · exact ownNumber_mark _ _ _
  · rfl

theorem parse_safe :
    AllSafe (udpServerDoParseUdp buf s).2.1 ↔
      ((UdpPacketCommandHeader.ofBytes buf).type ∈ indexTypes →
        CardNumber (UdpPacketCommandHeader.ofBytes buf).usCardNumber) := by
  simp only [udpServerDoParseUdp, mem_indexTypes]
  generalize UdpPacketCommandHeader.ofBytes buf = header
  have hindex := cardIndex_lt_iff header.usCardNumber
  split_ifs with hping hpower hhw
  · simp [hping, Access.Safe, hindex]
  · simp [hpower, Access.Safe, hindex]
  · simp [hhw, Access.Safe, hindex]
  · simp [hping, hpower, hhw]

theorem mem_plainTypes {type : UInt16} : type ∈ plainTypes ↔
    type = ctpInformationRequest ∨ type = trafficResultRequest ∨ type = healthResultRequest ∨
      type = anytoanyResultRequest := by
  simp [plainTypes]

def paramsTypes : List UInt16 :=
  [ctpRemoteshutdownRequest, trafficRequest, healthRequest, anytoanyRequest]

theorem mem_paramsTypes {type : UInt16} : type ∈ paramsTypes ↔
    type = ctpRemoteshutdownRequest ∨ type = trafficRequest ∨ type = healthRequest ∨
      type = anytoanyRequest := by
  simp [paramsTypes]

theorem dispatch_eq {α : Type} (type : UInt16) (hw group any other : α) :
    (if type = pingTestRequest then other
      else if type = powerCycleRequest then other
      else if type = hwInformationRequest then hw
      else if type = ctpInformationRequest then other
      else if type = ctpRemoteshutdownRequest then group
      else if type = trafficRequest then group
      else if type = trafficResultRequest then other
      else if type = healthRequest then group
      else if type = healthResultRequest then other
      else if type = anytoanyRequest then any
      else if type = anytoanyResultRequest then other
      else group) =
      if type = hwInformationRequest then hw
      else if type ∈ indexTypes ∨ type ∈ plainTypes then other
      else if type = anytoanyRequest then any
      else group := by
  by_cases hknown : (type ∈ indexTypes ∨ type ∈ plainTypes) ∨ type ∈ paramsTypes
  · simp only [mem_indexTypes, mem_plainTypes, mem_paramsTypes] at hknown
    rcases hknown with ((rfl | rfl | rfl) | rfl | rfl | rfl | rfl) | rfl | rfl | rfl | rfl
    all_goals rfl
  · simp only [mem_indexTypes, mem_plainTypes, mem_paramsTypes, not_or] at hknown ⊢
    simp only [hknown, if_false, or_self]

theorem answer_accesses (type : UInt16) :
    (answer driver command type buf s).accesses =
      if type = hwInformationRequest then [.usHwInformation (cardIndex s.ownNumber)]
      else if type ∈ indexTypes ∨ type ∈ plainTypes then []
      else if type = anytoanyRequest then (receiveAnytoany command buf s).accesses
      else (copyParams buf).1 := by
  simp only [answer, apply_ite Reception.accesses]
  exact dispatch_eq type _ _ _ _

theorem answer_safe (type : UInt16) :
    AllSafe (answer driver command type buf s).accesses ↔
      (type = hwInformationRequest → CardNumber s.ownNumber) ∧
      (type ∉ indexTypes → type ∉ plainTypes →
        if type = anytoanyRequest then
          (UdpPacketCommandHeader.ofBytes buf).paramsLength.toNat < paramsSize
        else (UdpPacketCommandHeader.ofBytes buf).paramsLength.toNat ≤ paramsSize) := by
  rw [answer_accesses]
  have hown := cardIndex_lt_iff s.ownNumber
  by_cases hhw : type = hwInformationRequest
  · simp [hhw, Access.Safe, hown, mem_indexTypes]
  · rw [if_neg hhw]
    by_cases hsafe : type ∈ indexTypes ∨ type ∈ plainTypes
    · rw [if_pos hsafe]
      refine iff_of_true allSafe_nil ⟨fun h => absurd h hhw, fun hi hp => ?_⟩
      exact absurd hsafe (not_or.mpr ⟨hi, hp⟩)
    · rw [if_neg hsafe]
      obtain ⟨hi, hp⟩ := not_or.mp hsafe
      split_ifs
      · simp [receiveAnytoany_safe, hhw, hi, hp]
      · simp [copyParams_safe, hhw, hi, hp]

end Reception

theorem datagram_safe_iff (driver : Driver) (command : SystemCommand) (datagram : List UInt8)
    (s : UdpServer) :
    (∀ a ∈ (updServerRecev driver command datagram s).accesses, a.Safe) ↔
      datagram = [] ∨
        Fits s.ownNumber (UdpPacketCommandHeader.ofBytes (datagram.take bufSize)) := by
  rcases eq_or_ne datagram [] with rfl | hne
  · exact iff_of_true allSafe_nil (.inl rfl)
  · have hbuf : ¬ (datagram.take bufSize).length = 0 := by simp [bufSize, hne]
    simp only [updServerRecev, if_neg hbuf, hne, false_or]
    refine (allSafe_append _ _).trans ?_
    rw [parse_safe, answer_safe, parse_type, parse_ownNumber]
    exact ⟨fun h => ⟨h.1, h.2.1, h.2.2⟩, fun h => ⟨h.card, h.own, h.room⟩⟩

def masterServer : UdpServer :=
  ⟨masterPair.chassis 33, Vector.replicate _ (Vector.replicate _ 0), 0⟩

theorem ping_of_card_49_overruns :
    ¬ ∀ a ∈ (updServerRecev (fun _ => 0) (fun _ _ => 0) [49, 0, 0, 0, 0x7d, 0x27]
      masterServer).accesses, a.Safe := by
  intro h
  have hmem : Access.usCard 48 ∈ (updServerRecev (fun _ => 0) (fun _ _ => 0)
      [49, 0, 0, 0, 0x7d, 0x27] masterServer).accesses := by decide +kernel
  exact absurd (h _ hmem) (lt_irrefl 48)

section Delivery

theorem halfAt_append (pre post : List UInt8) (x : UInt16) :
    halfAt (pre ++ ((bytesOfUInt16 x).toList ++ post)) pre.length = x := by
  have hlow := byteAt_append_right pre ((bytesOfUInt16 x).toList ++ post) 0
  have hhigh := byteAt_append_right pre ((bytesOfUInt16 x).toList ++ post) 1
  rw [halfAt, hhigh, ← Nat.add_zero pre.length, hlow]
  exact uInt16_of_bytes x

def charByte (c : Char) : UInt8 := UInt8.ofNat c.toNat

def paramsField (stale : Vector UInt8 256) (text : List Char) : List UInt8 :=
  text.map charByte ++ 0 :: stale.toList.drop (text.length + 1)

def requestBytes (stale : Vector UInt8 256) (payload : Vector UInt8 4) (r : UdpRequest) :
    List UInt8 :=
  (bytesOfUInt32 (UInt32.ofNat r.usCardNumber)).toList ++ ((bytesOfUInt16 r.type).toList ++
    ((bytesOfUInt16 r.length).toList ++ (paramsField stale r.params ++
      ((bytesOfUInt16 r.paramsLength).toList ++ payload.toList))))

variable {stale : Vector UInt8 256} {payload : Vector UInt8 4} {r : UdpRequest}

theorem paramsField_length {text : List Char} (h : text.length < 256) :
    (paramsField stale text).length = 256 := by
  simp [paramsField]
  omega

theorem requestBytes_type : halfAt (requestBytes stale payload r) 4 = r.type :=
  halfAt_append (bytesOfUInt32 (UInt32.ofNat r.usCardNumber)).toList _ r.type

theorem requestBytes_paramsLength (h : r.params.length < 256) :
    halfAt (requestBytes stale payload r) 264 = r.paramsLength := by
  have hpre : ((bytesOfUInt32 (UInt32.ofNat r.usCardNumber)).toList ++
      ((bytesOfUInt16 r.type).toList ++ ((bytesOfUInt16 r.length).toList ++
        paramsField stale r.params))).length = 264 := by
    simp [paramsField_length h]
  have hat := halfAt_append ((bytesOfUInt32 (UInt32.ofNat r.usCardNumber)).toList ++
    ((bytesOfUInt16 r.type).toList ++ ((bytesOfUInt16 r.length).toList ++
      paramsField stale r.params))) payload.toList r.paramsLength
  rw [hpre] at hat
  simpa only [requestBytes, List.append_assoc] using hat

theorem requestBytes_params :
    ((List.range r.params.length).map fun j => byteAt (requestBytes stale payload r) (8 + j)) =
      r.params.map charByte := by
  have hat : ∀ j, byteAt (requestBytes stale payload r) (8 + j) = byteAt (paramsField stale
      r.params ++ ((bytesOfUInt16 r.paramsLength).toList ++ payload.toList)) j :=
    byteAt_append_right ((bytesOfUInt32 (UInt32.ofNat r.usCardNumber)).toList ++
      ((bytesOfUInt16 r.type).toList ++ (bytesOfUInt16 r.length).toList)) _
  simp only [hat]
  refine List.ext_getElem (by simp) fun j hj hj' => ?_
  have hlt : j < (r.params.map charByte).length := hj'
  rw [List.getElem_map, List.getElem_range, paramsField, byteAt, List.append_assoc,
    List.getD_eq_getElem?_getD, List.getElem?_append_left hlt, List.getElem?_eq_getElem hlt,
    Option.getD_some]

theorem cString_charByte {text : List Char} (h : ∀ c ∈ text, 0 < c.toNat ∧ c.toNat < 256) :
    cString (text.map charByte) = text := by
  have hbyte : ∀ c ∈ text, (charByte c).toNat = c.toNat :=
    fun c hc => UInt8.toNat_ofNat_of_lt' (h c hc).2
  have hnonzero : ∀ b ∈ text.map charByte, decide (b ≠ 0) = true := by
    intro b hb
    obtain ⟨c, hc, rfl⟩ := List.mem_map.mp hb
    refine decide_eq_true fun hzero => ?_
    have htoNat := hbyte c hc
    rw [hzero] at htoNat
    exact (h c hc).1.ne htoNat
  rw [cString, List.takeWhile_eq_self_iff.mpr hnonzero, List.map_map]
  refine (List.map_congr_left fun c hc => ?_).trans (List.map_id text)
  rw [Function.comp_apply, hbyte c hc, Char.ofNat_toNat, id]

theorem mem_shutdownText {slotid option : UInt16} {c : Char}
    (hc : c ∈ shutdownText slotid option) : 0 < c.toNat ∧ c.toNat < 256 := by
  have hdigit : ∀ n, c ∈ Nat.toDigits 10 n → 0 < c.toNat ∧ c.toNat < 256 := by
    intro n hn
    have h := Char.isDigit_iff_toNat.mp (Nat.isDigit_of_mem_toDigits (by decide) (by decide) hn)
    have hnine : '9'.toNat < 256 := by decide
    exact ⟨Nat.zero_lt_of_lt (Nat.lt_of_succ_le h.1), h.2.trans_lt hnine⟩
  rcases List.mem_append.mp hc with hs | hs
  · exact hdigit _ hs
  · rcases List.mem_cons.mp hs with rfl | ho
    · decide
    · exact hdigit _ ho

theorem shutdownText_length (slotid option : UInt16) :
    0 < (shutdownText slotid option).length ∧ (shutdownText slotid option).length ≤ 11 := by
  have hlen : ∀ n : UInt16, (Nat.toDigits 10 n.toNat).length ≤ 5 := fun n =>
    (Nat.length_toDigits_le_iff (by decide) (by decide)).mpr (n.toNat_lt.trans (by decide))
  have hs := hlen slotid
  have ho := hlen option
  rw [shutdownText, List.length_append, List.length_cons]
  omega

structure ShutdownRequest (r : UdpRequest) : Prop where
  type : r.type = ctpRemoteshutdownRequest
  paramsLength : r.paramsLength = UInt16.ofNat r.params.length
  text : ∃ slotid option, r.params = shutdownText slotid option

theorem shutdownRequest_of_relay {slot option : Int} {c : ChassisData}
    (h : (tcpServerDoShutdownToClient slot option c).request = some r) : ShutdownRequest r := by
  simp only [tcpServerDoShutdownToClient, tcpServerDoSendShutdownToClient] at h
  split_ifs at h
  split at h
  · exact absurd h (Option.some_ne_none r).symm
  · split_ifs at h
    obtain rfl := Option.some.inj h
    exact ⟨rfl, rfl, _, _, rfl⟩

theorem shutdownRequest_of_handler {driver : Driver} {params : List Char} {c : ChassisData}
    (h : (udpServerDoShutdownMgrShutdownLinecardLocal driver params c).request = some r) :
    ShutdownRequest r := by
  unfold udpServerDoShutdownMgrShutdownLinecardLocal at h
  obtain ⟨slot, option⟩ := shutdownParams params
  dsimp only at h
  split_ifs at h
  · exact shutdownRequest_of_relay h
  · exact shutdownRequest_of_relay h

theorem copyParams_requestBytes (h : ShutdownRequest r) :
    copyParams (requestBytes stale payload r) =
      ([.readParams r.params.length, .writeParams r.params.length], r.params) := by
  obtain ⟨slotid, option, htext⟩ := h.text
  have hlen := shutdownText_length slotid option
  rw [← htext] at hlen
  have hn : (UdpPacketCommandHeader.ofBytes (requestBytes stale payload r)).paramsLength.toNat =
      r.params.length := by
    have hmod : r.params.length < 2 ^ 16 := by omega
    refine (congrArg UInt16.toNat (requestBytes_paramsLength (by omega))).trans ?_
    rw [h.paramsLength, UInt16.toNat_ofNat_of_lt' hmod]
  have hchars : ∀ c ∈ r.params, 0 < c.toNat ∧ c.toNat < 256 := by
    rw [htext]
    exact fun c hc => mem_shutdownText hc
  unfold copyParams
  rw [hn]
  extract_lets n
  rw [if_pos hlen.1]
  exact congrArg (Prod.mk _)
    ((congrArg cString requestBytes_params).trans (cString_charByte hchars))

theorem relayed_request_served (driver : Driver) (command : SystemCommand) {params : List Char}
    {c : ChassisData}
    (hrelay : (udpServerDoShutdownMgrShutdownLinecardLocal driver params c).request = some r)
    (s : UdpServer) :
    updServerRecev driver command (requestBytes stale payload r) s =
      { server :=
          { s with chassis :=
              (udpServerDoShutdownMgrShutdownLinecardLocal driver r.params s.chassis).chassis }
        accesses := [.readParams r.params.length, .writeParams r.params.length]
        replies := [s.reply ctpRemoteshutdownReply (UInt16.ofInt
          (udpServerDoShutdownMgrShutdownLinecardLocal driver r.params s.chassis).result)]
        writes := (udpServerDoShutdownMgrShutdownLinecardLocal driver r.params s.chassis).writes
        request :=
          (udpServerDoShutdownMgrShutdownLinecardLocal driver r.params s.chassis).request } := by
  have h := shutdownRequest_of_handler hrelay
  obtain ⟨slotid, option, htext⟩ := h.text
  have hlen := shutdownText_length slotid option
  rw [← htext] at hlen
  have hsize : (requestBytes stale payload r).length = 270 := by
    simp [requestBytes, paramsField_length (show r.params.length < 256 by omega)]
  have htake : (requestBytes stale payload r).take bufSize = requestBytes stale payload r :=
    List.take_of_length_le (by rw [hsize]; decide)
  have htype : (UdpPacketCommandHeader.ofBytes (requestBytes stale payload r)).type =
      ctpRemoteshutdownRequest := requestBytes_type.trans h.type
  have hparse : udpServerDoParseUdp (requestBytes stale payload r) s =
      (s, [], ctpRemoteshutdownRequest) := by
    simp only [udpServerDoParseUdp, htype]
    rfl
  have hanswer : answer driver command ctpRemoteshutdownRequest (requestBytes stale payload r) s =
      receiveRemoteshutdown driver (requestBytes stale payload r) s := rfl
  unfold updServerRecev
  rw [htake]
  simp only [hparse, hanswer, hsize, receiveRemoteshutdown, copyParams_requestBytes h]
  rfl

end Delivery

end UdpServer

end Chassisd
