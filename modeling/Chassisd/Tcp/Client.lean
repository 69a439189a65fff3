import Chassisd.Tcp.Processing

namespace Chassisd

-- What the user asks the client for; the numbers are what atoi makes of the arguments.
inductive ClientRequest where
  | pingTest
  | powerCycle
  | hwInformation
  | trafficTest (option : Int)
  | healthTest (option : Int)
  | anytoanyTest (paras : AnytoanyCommandParameter)
  deriving DecidableEq, Repr

-- `nothing` where the server closes the connection without a reply.
inductive Display where
  | nothing
  | crcError
  | results (header : TcpPacketCommandHeader) (csum : UInt8) (lines : List (Nat × Bool))
  deriving DecidableEq, Repr

namespace ClientRequest

section Source

-- The fields of US_HW_INFORMATION_T that the client fills in, by their place in it.
def hwInformationFields : List (Nat × List Char) :=
  [(4, "American Megatrends Inc.".toList), (36, "MF1_3A01".toList), (52, "5.6".toList),
    (56, "0.9".toList), (60, "Intel(R) Corporation".toList),
    (92, "Intel(R) Atom(TM) CPU  C2550  @ 2.40GHz".toList), (156, "100 MHz".toList),
    (164, "4".toList), (168, "2400 MHz".toList), (176, "8192 MB".toList),
    (184, "SODIMM".toList), (192, "DDR3".toList), (200, "1600 MHz".toList),
    (208, "Micron".toList), (224, "25121693".toList), (240, "18KSF1G72HZ-1G6E2".toList),
    (272, "INTEL SSDMCEAW120A4".toList), (304, "CVDA4233015Q120P".toList),
    (336, "DC33".toList)]

def strcpy (memory : Nat → UInt8) (field : Nat × List Char) : Nat → UInt8 := fun i =>
  if field.1 ≤ i ∧ i ≤ field.1 + field.2.length then
    byteAt (field.2.map UdpServer.charByte) (i - field.1)
  else memory i

def tcpClientHwInformationInit (memory : Nat → UInt8) : Nat → UInt8 :=
  hwInformationFields.foldl strcpy fun i =>
    if i < 4 then byteAt (bytesOfUInt32 2).toList i else memory i

def commandID : ClientRequest → UInt16
  | pingTest => pingTestRequest
  | powerCycle => powerCycleRequest
  | hwInformation => hwInformationRequest
  | trafficTest _ => trafficRequest
  | healthTest _ => healthRequest
  | anytoanyTest _ => anytoanyRequest

def parasBytes (paras : AnytoanyCommandParameter) : List UInt8 :=
  wordsBytes [paras.select, paras.inputCard, paras.inputPort, paras.outputCard,
    paras.outputPort, paras.srcBp, paras.destBp]

-- What the client writes of the payload union; the rest of the packet is stack memory.
def payload : ClientRequest → List UInt8
  | pingTest | powerCycle => (bytesOfUInt16 0).toList
  | hwInformation => []
  | trafficTest option | healthTest option =>
    (bytesOfUInt16 (UInt16.ofInt (option + 1))).toList
  | anytoanyTest paras => parasBytes paras

def body (memory : Nat → UInt8) : ClientRequest → List UInt8
  | hwInformation => (List.range 344).map (tcpClientHwInformationInit memory)
  | request =>
    request.payload ++ (List.range (192 - request.payload.length)).map memory

variable (request : ClientRequest)

def packet (usCardNumber : UInt32) (memory : Nat → UInt8) : List UInt8 :=
  sealed tcpClientCalculateCrc8ChecksumOfBuffer
    (TcpPacketCommandHeader.toBytes ⟨tcpMagic, 9, usCardNumber.toUInt16, request.commandID, 2⟩ ++
      request.body memory)

def passed (word : UInt32) : Bool :=
  match request with
  | trafficTest _ | anytoanyTest _ => word = 4
  | _ => word ≠ 0

def replySize : Nat :=
  match request with
  | hwInformation => hwInforeplaySize
  | _ => packetSize

def stride : Nat :=
  match request with
  | hwInformation => 344
  | _ => 4

-- One recvfrom of up to 10000 bytes; `rest` is the memory after what it received.
def display (rest received : List UInt8) : Display :=
  let recvline := received.take 10000
  if recvline = [] then .nothing
  else
    let reply := recvline ++ rest
    if CsumMatches tcpClientCalculateCrc8ChecksumOfBuffer request.replySize reply then
      .results (TcpPacketCommandHeader.ofBytes reply) (byteAt reply (request.replySize - 1))
        ((List.range maximumMicroServerCardNumber).map fun i =>
          (i + 1, request.passed (wordAt reply (10 + request.stride * i))))
    else .crcError

def session (w : Surroundings) (usCardNumber : UInt32) (memory : Nat → UInt8)
    (rest : List UInt8) : Display :=
  request.display rest
    ((tcpServerDoProcessing w (request.packet usCardNumber memory)).reply.getD [])

end Source

section Exchange

variable (request : ClientRequest) (w : Surroundings) (usCardNumber : UInt32)
variable (memory : Nat → UInt8) (rest : List UInt8)

def header : TcpPacketCommandHeader :=
  ⟨tcpMagic, 9, usCardNumber.toUInt16, request.commandID, 2⟩

def asked : ClientRequest → Asked
  | pingTest => .member .pingTest
  | powerCycle => .member .powerCycle
  | hwInformation => .member .hwInformation
  | trafficTest option => .traffic (UInt16.ofInt (option + 1))
  | healthTest _ => .health
  | anytoanyTest paras => .anytoany paras

def replyHeader : TcpPacketCommandHeader where
  magic := tcpMagic
  length := 199
  uSnumber := usCardNumber.toUInt16
  commandID := (requestKind request.commandID).reply
  externalMode :=
    match request with
    | pingTest | powerCycle => 2
    | _ => 0

variable {request}

theorem payload_le (request : ClientRequest) : request.payload.length ≤ 192 := by
  cases request <;> simp [payload, parasBytes, length_wordsBytes]

theorem length_body (h : request ≠ hwInformation) : (request.body memory).length = 192 := by
  have hbody : request.body memory =
      request.payload ++ (List.range (192 - request.payload.length)).map memory := by
    cases request <;> first | rfl | exact absurd rfl h
  have hle := payload_le request
  rw [hbody, List.length_append, List.length_map, List.length_range]
  omega

theorem length_packet (h : request ≠ hwInformation) :
    (request.packet usCardNumber memory).length = packetSize := by
  rw [packet, sealed, List.length_append, List.length_append, length_body memory h]
  rfl

theorem packet_header (tail : List UInt8) :
    TcpPacketCommandHeader.ofBytes (request.packet usCardNumber memory ++ tail) =
      request.header usCardNumber := by
  rw [packet, sealed, List.append_assoc, List.append_assoc,
    TcpPacketCommandHeader.ofBytes_toBytes]
  rfl

theorem packet_csumMatches (h : request ≠ hwInformation) (tail : List UInt8) :
    CsumMatches crcUtilCalculateCrc8ChecksumOfBuffer packetSize
      (request.packet usCardNumber memory ++ tail) := by
  have hcsum := sealed_csumMatches crcUtilCalculateCrc8ChecksumOfBuffer
    ((request.header usCardNumber).toBytes ++ request.body memory) tail
  rw [List.length_append, length_body memory h] at hcsum
  exact hcsum

theorem readBuffer_packet (h : request ≠ hwInformation) :
    ∃ tail, readBuffer (request.packet usCardNumber memory) =
      request.packet usCardNumber memory ++ tail := by
  refine ⟨_, readBuffer_eq ?_⟩
  rw [length_packet usCardNumber memory h]
  decide

theorem packet_body (tail : List UInt8) : ∃ more,
    request.packet usCardNumber memory ++ tail =
      (request.header usCardNumber).toBytes ++ (request.body memory ++ more) :=
  ⟨_, by rw [packet, sealed, List.append_assoc, List.append_assoc]; rfl⟩

theorem packet_option (option : Int) (tail : List UInt8) :
    halfAt ((trafficTest option).packet usCardNumber memory ++ tail) 10 =
      UInt16.ofInt (option + 1) := by
  obtain ⟨more, heq⟩ := @packet_body (trafficTest option) usCardNumber memory tail
  rw [heq, body, payload, List.append_assoc]
  · exact UdpServer.halfAt_append ((trafficTest option).header usCardNumber).toBytes _ _
  · exact fun h => ClientRequest.noConfusion h

theorem packet_paras (paras : AnytoanyCommandParameter) (tail : List UInt8) :
    parasAt ((anytoanyTest paras).packet usCardNumber memory ++ tail) = paras := by
  obtain ⟨more, heq⟩ := @packet_body (anytoanyTest paras) usCardNumber memory tail
  have hword : ∀ i word, [paras.select, paras.inputCard, paras.inputPort, paras.outputCard,
      paras.outputPort, paras.srcBp, paras.destBp][i]? = some word →
      wordAt ((anytoanyTest paras).packet usCardNumber memory ++ tail) (10 + 4 * i) = word := by
    intro i word hi
    rw [heq, body, payload, List.append_assoc]
    · exact wordAt_wordsBytes ((anytoanyTest paras).header usCardNumber).toBytes _ hi
    · exact fun h => ClientRequest.noConfusion h
  have hselect := hword 0 _ rfl
  have hinputCard := hword 1 _ rfl
  have hinputPort := hword 2 _ rfl
  have houtputCard := hword 3 _ rfl
  have houtputPort := hword 4 _ rfl
  have hsrcBp := hword 5 _ rfl
  have hdestBp := hword 6 _ rfl
  rw [parasAt, hselect, hinputCard, hinputPort, houtputCard, houtputPort, hsrcBp, hdestBp]

theorem doRequest_packet (h : request ≠ hwInformation) (tail : List UInt8) (asked : Asked)
    (commandID : UInt16) (mode : TcpPacketCommandHeader → UInt16) :
    doRequest w (request.packet usCardNumber memory ++ tail) asked commandID mode =
      ⟨some asked, some (sealed crcUtilCalculateCrc8ChecksumOfBuffer
        (TcpPacketCommandHeader.toBytes ⟨tcpMagic, 199, usCardNumber.toUInt16, commandID,
          mode (request.header usCardNumber)⟩ ++ tableBytes (asked.table w)))⟩ := by
  unfold doRequest replyPacket
  dsimp only
  rw [if_pos (packet_csumMatches usCardNumber memory h tail), packet_header,
    length_tableBytes]
  rfl

theorem processing_packet (h : request ≠ hwInformation) :
    tcpServerDoProcessing w (request.packet usCardNumber memory) =
      ⟨some request.asked, some (sealed crcUtilCalculateCrc8ChecksumOfBuffer
        ((request.replyHeader usCardNumber).toBytes ++ tableBytes (request.asked.table w)))⟩ := by
  obtain ⟨tail, htail⟩ := readBuffer_packet usCardNumber memory h
  have hparsing : tcpServerDoParsing (request.packet usCardNumber memory ++ tail) =
      some request.commandID := by
    rw [tcpServerDoParsing, packet_header]
    rfl
  unfold tcpServerDoProcessing
  dsimp only
  rw [htail, hparsing]
  dsimp only
  cases request with
  | hwInformation => exact absurd rfl h
  | pingTest =>
    rw [commandID, if_pos rfl]
    exact doRequest_packet w usCardNumber memory h tail _ _ _
  | powerCycle =>
    rw [commandID, if_neg (by decide), if_pos rfl]
    exact doRequest_packet w usCardNumber memory h tail _ _ _
  | trafficTest option =>
    rw [commandID, if_neg (by decide), if_neg (by decide), if_neg (by decide), if_pos rfl,
      tcpServerDoTrafficRequest, packet_option]
    exact doRequest_packet w usCardNumber memory h tail _ _ _
  | healthTest option =>
    rw [commandID, if_neg (by decide), if_neg (by decide), if_neg (by decide),
      if_neg (by decide), if_pos rfl]
    exact doRequest_packet w usCardNumber memory h tail _ _ _
  | anytoanyTest paras =>
    rw [commandID, if_neg (by decide), if_neg (by decide), if_neg (by decide),
      if_neg (by decide), if_neg (by decide), if_pos rfl, tcpServerDoAnytoanyRequest, packet_paras]
    exact doRequest_packet w usCardNumber memory h tail _ _ _

def Displays (d : Display) (k : Nat) (passed : Bool) : Prop :=
  ∃ header csum lines, d = .results header csum lines ∧ (k, passed) ∈ lines

theorem session_eq (h : request ≠ hwInformation) : ∃ csum,
    request.session w usCardNumber memory rest = .results (request.replyHeader usCardNumber) csum
      ((List.range maximumMicroServerCardNumber).map fun i : Nat =>
        (i + 1, request.passed (request.asked.table w i))) := by
  have hsize : request.replySize = packetSize := by
    cases request <;> first | rfl | exact absurd rfl h
  have hstride : request.stride = 4 := by
    cases request <;> first | rfl | exact absurd rfl h
  rw [session, processing_packet w usCardNumber memory h, display, Option.getD_some]
  generalize htable : request.asked.table w = table
  generalize hdata : (request.replyHeader usCardNumber).toBytes ++ tableBytes table = data
  have hlength : data.length = packetSize - 1 := by
    rw [← hdata, List.length_append, length_tableBytes]
    rfl
  have hcsum := sealed_csumMatches tcpClientCalculateCrc8ChecksumOfBuffer data rest
  have hsplit : sealed crcUtilCalculateCrc8ChecksumOfBuffer data ++ rest =
      (request.replyHeader usCardNumber).toBytes ++
        (tableBytes table ++ ([crcUtilCalculateCrc8ChecksumOfBuffer (data.drop 2)] ++ rest)) := by
    rw [sealed, List.append_assoc, ← hdata, List.append_assoc]
  have htake : (sealed crcUtilCalculateCrc8ChecksumOfBuffer data).take 10000 =
      sealed crcUtilCalculateCrc8ChecksumOfBuffer data := by
    refine List.take_of_length_le ?_
    rw [sealed, List.length_append, hlength, List.length_singleton]
    decide
  have hnonempty : sealed crcUtilCalculateCrc8ChecksumOfBuffer data ≠ [] := by
    rw [sealed]
    exact List.append_ne_nil_of_right_ne_nil _ (List.cons_ne_nil _ _)
  rw [hlength] at hcsum
  dsimp only
  rw [htake, if_neg hnonempty, hsize, hstride]
  refine ⟨byteAt (sealed crcUtilCalculateCrc8ChecksumOfBuffer data ++ rest) (packetSize - 1),
    (if_pos hcsum).trans ?_⟩
  generalize byteAt (sealed crcUtilCalculateCrc8ChecksumOfBuffer data ++ rest) _ = csum
  refine congrArg₂ (Display.results · csum ·) ?_ ?_
  · rw [hsplit, TcpPacketCommandHeader.ofBytes_toBytes]
  · refine List.map_congr_left fun i hi => ?_
    have hword := wordAt_tableBytes table (request.replyHeader usCardNumber).toBytes
      ([crcUtilCalculateCrc8ChecksumOfBuffer (data.drop 2)] ++ rest) (List.mem_range.mp hi)
    rw [hsplit]
    exact congrArg (fun word => (i + 1, request.passed word)) hword

theorem shows_session (h : request ≠ hwInformation) {k : Nat} {passed : Bool} :
    Displays (request.session w usCardNumber memory rest) k passed ↔
      k ∈ MemberTest.cards ∧ request.passed (request.asked.table w ((k : Int) - 1)) = passed := by
  obtain ⟨csum, heq⟩ := session_eq w usCardNumber memory rest h
  rw [heq]
  constructor
  · rintro ⟨header, csum', lines, hlines, hmem⟩
    cases hlines
    obtain ⟨i, hi, hline⟩ := List.mem_map.mp hmem
    obtain ⟨rfl, rfl⟩ := Prod.ext_iff.mp hline
    have hlt := List.mem_range.mp hi
    exact ⟨MemberTest.mem_cards.mpr ⟨by omega, hlt⟩, by simp⟩
  · rintro ⟨hk, rfl⟩
    obtain ⟨hlow, hhigh⟩ := MemberTest.mem_cards.mp hk
    refine ⟨_, _, _, rfl, List.mem_map.mpr ⟨k - 1, List.mem_range.mpr (Nat.lt_of_lt_of_le
      (Nat.sub_lt hlow Nat.one_pos) hhigh), ?_⟩⟩
    rw [Nat.sub_add_cancel hlow, Nat.cast_sub hlow]
    rfl

end Exchange

section Corruption

theorem within_append {n : Nat} {xs ys : List Bool} (h : Crc.Within n (xs ++ ys)) :
    Crc.Within n ys := by
  obtain ⟨start, hstart⟩ := h
  refine ⟨start - xs.length, fun i hi => ?_⟩
  have hwindow := hstart (xs.length + i) (by
    rw [List.getElem?_append_right (Nat.le_add_right ..), Nat.add_sub_cancel_left]
    exact hi)
  omega

theorem bufferBits_append (a b : List UInt8) : bufferBits (a ++ b) = bufferBits a ++ bufferBits b :=
  List.flatMap_append

theorem differingBits_self (a : List UInt8) :
    differingBits a a = List.replicate (8 * a.length) false := by
  rw [differingBits, List.zipWith_self, ← length_bufferBits]
  exact List.ext_getElem (by simp) fun i hi hi' => by simp

theorem differingBits_append (head a b : List UInt8) :
    differingBits (head ++ a) (head ++ b) =
      List.replicate (8 * head.length) false ++ differingBits a b := by
  rw [differingBits, bufferBits_append, bufferBits_append, List.zipWith_append rfl]
  exact congrArg (· ++ differingBits a b) (differingBits_self head)

-- What the checksum is made to notice: one burst, or an odd number of wrong bits.
structure Garbled (sent received : List UInt8) : Prop where
  length : sent.length = received.length
  ne : sent ≠ received
  error : Crc.Within 8 (differingBits sent received) ∨
    Odd ((differingBits sent received).count true)

theorem Garbled.tail {head a b : List UInt8} (h : Garbled (head ++ a) (head ++ b)) :
    Garbled a b := by
  obtain ⟨hlength, hne, herror⟩ := h
  rw [List.length_append, List.length_append] at hlength
  rw [differingBits_append] at herror
  refine ⟨by omega, fun heq => hne (by rw [heq]), herror.imp within_append fun hodd => ?_⟩
  rw [List.count_append, List.count_replicate] at hodd
  simpa using hodd

theorem Garbled.checksum {a b : List UInt8} (h : Garbled a b) :
    crcUtilCalculateCrc8ChecksumOfBuffer a ≠ crcUtilCalculateCrc8ChecksumOfBuffer b := by
  have hbits : (bufferBits a).length = (bufferBits b).length := by
    rw [length_bufferBits, length_bufferBits, h.length]
  apply checksum_ne_of_crc_ne
  rcases h.error with hburst | hodd
  · exact Crc.crc_ne_of_burst (by decide) 0#8 hbits
      (fun heq => h.ne (bufferBits_injective h.length heq)) hburst
  · exact Crc.crc_ne_of_odd (by decide) 0#8 hbits hodd

variable {request : ClientRequest} {usCardNumber : UInt32} {memory : Nat → UInt8}
variable {received : List UInt8} (w : Surroundings)

theorem halves (low high : UInt8) :
    (low.toUInt16 ||| (high.toUInt16 <<< 8)).toUInt8 = low ∧
      ((low.toUInt16 ||| (high.toUInt16 <<< 8)) >>> 8).toUInt8 = high := by
  rw [← UInt8.toBitVec_inj, ← UInt8.toBitVec_inj]
  constructor
  · refine BitVec.eq_of_getLsbD_eq fun i hi => ?_
    simp only [UInt16.toBitVec_toUInt8, UInt16.toBitVec_or, UInt16.toBitVec_shiftLeft,
      UInt8.toBitVec_toUInt16]
    interval_cases i <;> simp
  · refine BitVec.eq_of_getLsbD_eq fun i hi => ?_
    simp only [UInt16.toBitVec_toUInt8, UInt16.toBitVec_or, UInt16.toBitVec_shiftLeft,
      UInt16.toBitVec_shiftRight, UInt8.toBitVec_toUInt16]
    interval_cases i <;> simp

theorem magic_bytes {bs : List UInt8} (hlength : 2 ≤ bs.length)
    (h : (TcpPacketCommandHeader.ofBytes bs).magic = tcpMagic) :
    bs = [0xFB, 0xFB] ++ bs.drop 2 := by
  match bs, hlength with
  | low :: high :: rest, _ =>
    have hhalf : low.toUInt16 ||| (high.toUInt16 <<< 8) = tcpMagic := h
    obtain ⟨hlow, hhigh⟩ := halves low high
    rw [hhalf] at hlow hhigh
    rw [← hlow, ← hhigh]
    rfl

variable {request : ClientRequest} {usCardNumber : UInt32} {memory : Nat → UInt8}
variable {received : List UInt8} (w : Surroundings)

theorem garbled_csum {sent : List UInt8}
    (hcodeword : crcUtilCalculateCrc8ChecksumOfBuffer (sent.drop 2) = 0)
    (h : Garbled (sent.drop 2) (received.drop 2)) (hlength : received.length = packetSize) :
    ¬CsumMatches crcUtilCalculateCrc8ChecksumOfBuffer packetSize (readBuffer received) ∧
      ¬CsumMatches crcUtilCalculateCrc8ChecksumOfBuffer hwInforequestSize
        (readBuffer received) := by
  have hresidue : crcUtilCalculateCrc8ChecksumOfBuffer (received.drop 2) ≠ 0 :=
    fun hzero => h.checksum (hcodeword.trans hzero.symm)
  have hbuffer := @readBuffer_eq received (by rw [hlength]; decide)
  have hle : hwInforequestSize ≤ (readBuffer received).length := by
    rw [length_readBuffer]
    decide
  constructor
  · rw [csumMatches_iff (by decide) (le_trans (by decide) hle), hbuffer,
      List.take_left' hlength]
    exact hresidue
  · rw [csumMatches_iff (by decide) hle, hbuffer, List.take_append, List.take_of_length_le
      (by rw [hlength]; decide), List.take_replicate, List.drop_append_of_le_length
      (by rw [hlength]; decide), checksum_zeros]
    exact hresidue

theorem packet_codeword (h : request ≠ hwInformation) :
    crcUtilCalculateCrc8ChecksumOfBuffer ((request.packet usCardNumber memory).drop 2) = 0 := by
  have hlength := length_packet usCardNumber memory h
  have hcsum := packet_csumMatches usCardNumber memory h []
  rw [List.append_nil, csumMatches_iff (by decide) hlength.ge,
    List.take_of_length_le hlength.le] at hcsum
  exact hcsum

theorem garbled_request_starts_nothing (h : request ≠ hwInformation)
    (hgarbled : Garbled (request.packet usCardNumber memory) received) :
    (tcpServerDoProcessing w received).asked = none := by
  have hlength : received.length = packetSize :=
    hgarbled.length.symm.trans (length_packet usCardNumber memory h)
  by_cases hmagic : (TcpPacketCommandHeader.ofBytes (readBuffer received)).magic = tcpMagic
  · have hreceived : received = [0xFB, 0xFB] ++ received.drop 2 := by
      have hbuffer := magic_bytes (by rw [length_readBuffer]; decide) hmagic
      rw [readBuffer_eq (by rw [hlength]; decide)] at hbuffer
      have htake : received.take 2 = [0xFB, 0xFB] := by
        rw [← List.take_append_of_le_length (by rw [hlength]; decide), hbuffer]
        rfl
      rw [← htake, List.take_append_drop]
    have hsent := @magic_bytes (request.packet usCardNumber memory)
      (by rw [length_packet usCardNumber memory h]; decide)
      (by have hheader := @packet_header request usCardNumber memory []
          rw [List.append_nil] at hheader
          rw [hheader]
          rfl)
    rw [hreceived, hsent] at hgarbled
    obtain ⟨hpacket, hhw⟩ := garbled_csum (packet_codeword h) hgarbled.tail hlength
    have hserved := processing_kind w received hmagic
    cases hkind : requestKind (TcpPacketCommandHeader.ofBytes (readBuffer received)).commandID with
    | table reply =>
      rw [hkind] at hserved
      obtain ⟨asked, mode, hserved⟩ := hserved
      rw [hserved, doRequest, if_neg hpacket]
    | hwInformation =>
      rw [hkind] at hserved
      rw [hserved, tcpServerDoHwInformationRequest, if_pos hhw]
    | unknown =>
      rw [hkind] at hserved
      rw [hserved]
      rfl
  · rw [processing_bad_magic w received hmagic]

def quietSurroundings : Surroundings :=
  ⟨Collector.masterStation, fun _ => ⟨5, fun _ _ => default, fun _ => []⟩, fun _ => 0⟩

def garbledPing : List UInt8 := (pingTest.packet 1 fun _ => 0).set 6 0x46

theorem garbled_ping_starts_nothing :
    (tcpServerDoProcessing quietSurroundings garbledPing).asked = none :=
  @garbled_request_starts_nothing pingTest 1 (fun _ => 0) garbledPing quietSurroundings
    (by decide) ⟨by decide +kernel, by decide +kernel, .inr (by decide +kernel)⟩

end Corruption

end ClientRequest

end Chassisd
