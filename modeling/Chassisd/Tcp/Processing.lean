import Chassisd.Tcp.GroupTest
import Chassisd.Tcp.Packet

namespace Chassisd

-- sizeof of the packets of all tests but the hardware information's
abbrev packetSize : Nat := 203

abbrev hwInforequestSize : Nat := 355

abbrev hwInforeplaySize : Nat := 16523

-- The daemon when it forks for a request, what each of the tests a request runs will hear,
-- and the memory around a handler's table.
structure Surroundings where
  station : Station
  net : Nat → Network
  around : Int → UInt32

inductive Asked where
  | member (test : MemberTest)
  | traffic (option : UInt16)
  | health
  | anytoany (paras : AnytoanyCommandParameter)
  deriving DecidableEq, Repr

structure Serving where
  asked : Option Asked
  reply : Option (List UInt8)
  deriving DecidableEq, Repr

section Traffic

def GroupTest.after (test : GroupTest) (net : Network) (g : GroupRun) : GroupRun :=
  test.perform net g.result g.station

def tcpServerDoTrafficRequestMember (option : UInt16) (net : Nat → Network)
    (trafficStatus : Int → UInt32) (s : Station) : GroupRun :=
  let lineCard := GroupTest.trafficLineCard option
  let fabricCard := GroupTest.trafficFabricCard option
  match option.toNat with
  | 0 => fabricCard.after (net 1) (lineCard.perform (net 0) trafficStatus s)
  | 1 | 2 | 3 => lineCard.perform (net 0) trafficStatus s
  | 4 => fabricCard.perform (net 0) trafficStatus s
  | 5 =>
    let g := fabricCard.perform (net 0) trafficStatus s
    if g.status fabricCard ≠ 0 then g else lineCard.after (net 1) g
  | 6 | 7 | 8 => lineCard.after (net 1) (fabricCard.perform (net 0) trafficStatus s)
  | 9 =>
    let g := lineCard.perform (net 0) trafficStatus s
    if g.status lineCard ≠ 0 then g else fabricCard.after (net 1) g
  | _ => .start trafficStatus s

variable {option : UInt16} {net : Nat → Network} {I : (Int → UInt32) → Prop}

theorem traffic_preserves
    (hline : ∀ j, GroupRun.Preserves (.trafficLineCard option) (net j) I)
    (hfabric : ∀ j, GroupRun.Preserves (.trafficFabricCard option) (net j) I)
    {table : Int → UInt32} (h : I table) (s : Station) :
    I (tcpServerDoTrafficRequestMember option net table s).result := by
  have hone : ∀ j table s, I table →
      I (GroupTest.perform (.trafficLineCard option) (net j) table s).result :=
    fun j _ _ hg => GroupRun.perform_preserves (hline j) hg
  have hother : ∀ j table s, I table →
      I (GroupTest.perform (.trafficFabricCard option) (net j) table s).result :=
    fun j _ _ hg => GroupRun.perform_preserves (hfabric j) hg
  unfold tcpServerDoTrafficRequestMember GroupTest.after
  dsimp only
  split
  · exact hother 1 _ _ (hone 0 _ _ h)
  · exact hone 0 _ _ h
  · exact hone 0 _ _ h
  · exact hone 0 _ _ h
  · exact hother 0 _ _ h
  · split_ifs
    · exact hother 0 _ _ h
    · exact hone 1 _ _ (hother 0 _ _ h)
  · exact hone 1 _ _ (hother 0 _ _ h)
  · exact hone 1 _ _ (hother 0 _ _ h)
  · exact hone 1 _ _ (hother 0 _ _ h)
  · split_ifs
    · exact hone 0 _ _ h
    · exact hother 1 _ _ (hone 0 _ _ h)
  · exact h

end Traffic

section Handlers

variable (w : Surroundings) (buffer : List UInt8)

-- The handlers clear their table before the test.
def Surroundings.cleared : Int → UInt32 :=
  fun i => if 0 ≤ i ∧ i < maximumMicroServerCardNumber then 0 else w.around i

def Asked.table : Asked → Int → UInt32
  | member test => (test.perform (w.net 0) w.around w.station).testResult
  | traffic option =>
    (tcpServerDoTrafficRequestMember option w.net w.cleared w.station).result
  | health => (tcpServerDoHealthRequestMember (w.net 0) w.cleared w.station).result
  | anytoany paras => (tcpServerDoAnytoanyRequestMember paras (w.net 0) w.cleared w.station).result

def replyPacket (request : TcpPacketCommandHeader) (commandID externalMode : UInt16)
    (payload : List UInt8) : List UInt8 :=
  sealed crcUtilCalculateCrc8ChecksumOfBuffer
    (TcpPacketCommandHeader.toBytes ⟨tcpMagic, UInt16.ofNat (7 + payload.length),
      request.uSnumber, commandID, externalMode⟩ ++ payload)

def doRequest (asked : Asked) (commandID : UInt16)
    (externalMode : TcpPacketCommandHeader → UInt16) : Serving :=
  let request := TcpPacketCommandHeader.ofBytes buffer
  if CsumMatches crcUtilCalculateCrc8ChecksumOfBuffer packetSize buffer then
    ⟨some asked, some (replyPacket request commandID (externalMode request)
      (tableBytes (asked.table w)))⟩
  else ⟨none, none⟩

def parasAt : AnytoanyCommandParameter where
  select := wordAt buffer 10
  inputCard := wordAt buffer 14
  inputPort := wordAt buffer 18
  outputCard := wordAt buffer 22
  outputPort := wordAt buffer 26
  srcBp := wordAt buffer 30
  destBp := wordAt buffer 34

def tcpServerDoPingTestRequest : Serving :=
  doRequest w buffer (.member .pingTest) pingTestReply (·.externalMode)

def tcpServerDoPowerCycleRequest : Serving :=
  doRequest w buffer (.member .powerCycle) powerCycleReply (·.externalMode)

-- The mode of the three below is assigned to itself, after the reply was cleared.
def tcpServerDoTrafficRequest : Serving :=
  doRequest w buffer (.traffic (halfAt buffer 10)) trafficResult fun _ => 0

def tcpServerDoHealthRequest : Serving := doRequest w buffer .health healthResult fun _ => 0

def tcpServerDoAnytoanyRequest : Serving :=
  doRequest w buffer (.anytoany (parasAt buffer)) anytoanyResult fun _ => 0

def hwInformationBytes (s : Station) : List UInt8 :=
  s.usHwInformation.toList.flatMap fun data => data.toList

def tcpServerDoHwInformationRequest : Serving :=
  let request := TcpPacketCommandHeader.ofBytes buffer
  if ¬CsumMatches crcUtilCalculateCrc8ChecksumOfBuffer hwInforequestSize buffer then ⟨none, none⟩
  else if request.uSnumber < 1 ∨ request.uSnumber > 12 then ⟨none, none⟩
  else
    ⟨some (.member .hwInformation), some (replyPacket request hwInformationReply
      request.externalMode (hwInformationBytes
        (tcpServerDoHwInformationRequestMember (w.net 0) w.around w.station).station))⟩

def tcpServerDoErrorCommand : Serving :=
  let request := TcpPacketCommandHeader.ofBytes buffer
  ⟨none, some (sealed crcUtilCalculateCrc8ChecksumOfBuffer
    (TcpPacketCommandHeader.toBytes ⟨tcpMagic, 9, request.uSnumber, errorCommand,
      request.externalMode⟩ ++ List.replicate 192 0))⟩

def tcpServerDoParsing (data : List UInt8) : Option UInt16 :=
  let header := TcpPacketCommandHeader.ofBytes data
  if header.magic ≠ tcpMagic then none else some header.commandID

def readBuffer (received : List UInt8) : List UInt8 :=
  (received.take (bufSize - 1) ++ List.replicate bufSize 0).take bufSize

def tcpServerDoProcessing (received : List UInt8) : Serving :=
  let buffer := readBuffer received
  match tcpServerDoParsing buffer with
  | none => ⟨none, none⟩
  | some commandID =>
    if commandID = pingTestRequest then tcpServerDoPingTestRequest w buffer
    else if commandID = powerCycleRequest then tcpServerDoPowerCycleRequest w buffer
    else if commandID = hwInformationRequest then tcpServerDoHwInformationRequest w buffer
    else if commandID = trafficRequest then tcpServerDoTrafficRequest w buffer
    else if commandID = healthRequest then tcpServerDoHealthRequest w buffer
    else if commandID = anytoanyRequest then tcpServerDoAnytoanyRequest w buffer
    else tcpServerDoErrorCommand buffer

end Handlers

section Around

open MemberTest Collector

variable {around table : Int → UInt32} {w : Surroundings}

def KeepsAround (around table : Int → UInt32) : Prop := ∀ i, ¬ InTable i → table i = around i

theorem KeepsAround.update {i : Int} (h : KeepsAround around table) (hi : InTable i)
    (word : UInt32) : KeepsAround around (Function.update table i word) := by
  intro j hj
  rw [Function.update_of_ne (by rintro rfl; exact hj hi)]
  exact h j hj

theorem keepsAround_cleared (w : Surroundings) : KeepsAround w.around w.cleared :=
  fun _ hi => if_neg hi

theorem keepsAround_ask {test : MemberTest} {net : Network} {c : Collector} {i : Nat}
    (hi : i ∈ List.range maximumMicroServerCardNumber) (r : Nat)
    (h : KeepsAround around c.testResult) : KeepsAround around (c.ask test net r i).testResult := by
  unfold ask
  split_ifs
  · exact h.update ⟨Int.natCast_nonneg i, Int.ofNat_lt.mpr (List.mem_range.mp hi)⟩ 1
  · exact h
  · exact h
  · exact h

theorem keepsAround_collect {test : MemberTest} {c : Collector} {datagram : List UInt8}
    (hcard : test.FromCard datagram) (h : KeepsAround around c.testResult) :
    KeepsAround around (c.collect test datagram).testResult := by
  rcases test.check_cases datagram with ⟨n, hn, hanswer, -⟩ | ⟨hsilent, -⟩
  · have hin : InTable ((n : Int) - 1) := inTable_pred.mpr (hcard n hn hanswer)
    rw [collect_answer hn hanswer]
    extract_lets
    split_ifs
    · exact h.update hin 1
    · exact h.update hin 1
    · exact h
  · rw [collect_silent hsilent]
    exact h

theorem keepsAround_member (test : MemberTest) {net : Network}
    (hcards : ∀ r, ∀ d ∈ net.delivered r, test.FromCard d) (s : Station) :
    KeepsAround around (test.perform net around s).testResult := by
  rw [perform_eq]
  refine Retry.invariant (I := fun c : Collector => KeepsAround around c.testResult)
    (fun r c hc => ?_) _ 0 (fun _ hi => if_neg hi)
  exact Runs.invariant_of_mem (I := fun c : Collector => KeepsAround around c.testResult)
    (fun d hd _ hc => keepsAround_collect (hcards r d hd) hc)
    (Runs.invariant_of_mem (I := fun c : Collector => KeepsAround around c.testResult)
      (fun _ hi _ hc => keepsAround_ask hi r hc) hc)

theorem polled_subset (test : GroupTest) :
    test.polled ⊆ List.range maximumMicroServerCardNumber := by
  cases test with
  | trafficLineCard option => exact List.filter_subset_self _
  | trafficFabricCard option =>
    change [4, 5, 6, 7] ⊆ List.range 48
    decide
  | health => exact List.Subset.refl _
  | anytoany paras => exact List.Subset.refl _

theorem keepsAround_preserves (test : GroupTest) {net : Network}
    (hcards : GroupTest.FromCards net) : GroupRun.Preserves test net (KeepsAround around) where
  ask i hi table h :=
    h.update ⟨Int.natCast_nonneg i, Int.ofNat_lt.mpr (List.mem_range.mp (polled_subset test hi))⟩ _
  store r d hd number word hreport table h := by
    obtain ⟨⟨card, word'⟩, hcheck, heq⟩ := Option.map_eq_some_iff.mp hreport
    obtain ⟨rfl, rfl⟩ := Prod.ext_iff.mp heq
    refine h.update (inTable_pred.mpr ?_) _
    rw [test.check_card hcheck]
    exact GroupRun.delivered_card hcards r d hd

theorem keepsAround_table (hcards : ∀ j, GroupTest.FromCards (w.net j)) (asked : Asked) :
    KeepsAround w.around (asked.table w) := by
  have hkept := keepsAround_cleared w
  cases asked with
  | member test =>
    refine keepsAround_member test (fun r d hd k _ hanswer => ?_) w.station
    rw [← hanswer.card]
    exact GroupRun.delivered_card (hcards 0) r d hd
  | traffic option =>
    exact traffic_preserves (fun j => keepsAround_preserves _ (hcards j))
      (fun j => keepsAround_preserves _ (hcards j)) hkept w.station
  | health =>
    exact GroupRun.perform_preserves (keepsAround_preserves .health (hcards 0)) hkept
  | anytoany paras =>
    exact GroupRun.perform_preserves (keepsAround_preserves (.anytoany paras) (hcards 0)) hkept

end Around

section Buffer

variable {received : List UInt8}

theorem length_readBuffer (received : List UInt8) : (readBuffer received).length = bufSize := by
  rw [readBuffer, List.length_take, List.length_append, List.length_replicate]
  omega

theorem readBuffer_eq (h : received.length < bufSize) :
    readBuffer received = received ++ List.replicate (bufSize - received.length) 0 := by
  have htake : received.take (bufSize - 1) = received := List.take_of_length_le (by omega)
  rw [readBuffer, htake, List.take_append, List.take_of_length_le h.le, List.take_replicate,
    Nat.min_eq_left (Nat.sub_le ..)]

end Buffer

section Replies

inductive RequestKind where
  | table (reply : UInt16)
  | hwInformation
  | unknown

def requestKind (commandID : UInt16) : RequestKind :=
  if commandID = pingTestRequest then .table pingTestReply
  else if commandID = powerCycleRequest then .table powerCycleReply
  else if commandID = hwInformationRequest then .hwInformation
  else if commandID = trafficRequest then .table trafficResult
  else if commandID = healthRequest then .table healthResult
  else if commandID = anytoanyRequest then .table anytoanyResult
  else .unknown

def RequestKind.reply : RequestKind → UInt16
  | table reply => reply
  | hwInformation => hwInformationReply
  | unknown => errorCommand

def RequestKind.replySize : RequestKind → Nat
  | table _ | unknown => packetSize
  | hwInformation => hwInforeplaySize

def RequestKind.Admits (buffer : List UInt8) : RequestKind → Prop
  | table _ => CsumMatches crcUtilCalculateCrc8ChecksumOfBuffer packetSize buffer
  | hwInformation =>
    CsumMatches crcUtilCalculateCrc8ChecksumOfBuffer hwInforequestSize buffer ∧
      1 ≤ (TcpPacketCommandHeader.ofBytes buffer).uSnumber ∧
      (TcpPacketCommandHeader.ofBytes buffer).uSnumber ≤ 12
  | unknown => True

def Admitted (buffer : List UInt8) : Prop :=
  (TcpPacketCommandHeader.ofBytes buffer).magic = tcpMagic ∧
    (requestKind (TcpPacketCommandHeader.ofBytes buffer).commandID).Admits buffer

variable (w : Surroundings) (received : List UInt8)

theorem processing_bad_magic
    (h : (TcpPacketCommandHeader.ofBytes (readBuffer received)).magic ≠ tcpMagic) :
    tcpServerDoProcessing w received = ⟨none, none⟩ := by
  unfold tcpServerDoProcessing tcpServerDoParsing
  dsimp only
  rw [if_pos h]

theorem processing_kind
    (h : (TcpPacketCommandHeader.ofBytes (readBuffer received)).magic = tcpMagic) :
    match requestKind (TcpPacketCommandHeader.ofBytes (readBuffer received)).commandID with
    | .table reply => ∃ asked mode, tcpServerDoProcessing w received =
        doRequest w (readBuffer received) asked reply mode
    | .hwInformation => tcpServerDoProcessing w received =
        tcpServerDoHwInformationRequest w (readBuffer received)
    | .unknown => tcpServerDoProcessing w received =
        tcpServerDoErrorCommand (readBuffer received) := by
  unfold tcpServerDoProcessing tcpServerDoParsing requestKind
  dsimp only
  rw [if_neg (not_not.mpr h)]
  generalize (TcpPacketCommandHeader.ofBytes (readBuffer received)).commandID = commandID
  dsimp only
  split_ifs
  · exact ⟨_, _, rfl⟩
  · exact ⟨_, _, rfl⟩
  · rfl
  · exact ⟨_, _, rfl⟩
  · exact ⟨_, _, rfl⟩
  · exact ⟨_, _, rfl⟩
  · rfl

structure WellFormed (request : TcpPacketCommandHeader) (r : List UInt8) : Prop where
  csum : CsumMatches tcpClientCalculateCrc8ChecksumOfBuffer r.length r
  magic : (TcpPacketCommandHeader.ofBytes r).magic = tcpMagic
  uSnumber : (TcpPacketCommandHeader.ofBytes r).uSnumber = request.uSnumber
  commandID : (TcpPacketCommandHeader.ofBytes r).commandID =
    (requestKind request.commandID).reply
  size : r.length = (requestKind request.commandID).replySize

theorem wellFormed_sealed {request header : TcpPacketCommandHeader} {payload : List UInt8}
    (hmagic : header.magic = tcpMagic) (hnumber : header.uSnumber = request.uSnumber)
    (hcommand : header.commandID = (requestKind request.commandID).reply)
    (hsize : payload.length + 11 = (requestKind request.commandID).replySize) :
    WellFormed request
      (sealed crcUtilCalculateCrc8ChecksumOfBuffer (header.toBytes ++ payload)) := by
  have hheader : TcpPacketCommandHeader.ofBytes
      (sealed crcUtilCalculateCrc8ChecksumOfBuffer (header.toBytes ++ payload)) = header := by
    rw [sealed, List.append_assoc, TcpPacketCommandHeader.ofBytes_toBytes]
  have hcsum := sealed_csumMatches crcUtilCalculateCrc8ChecksumOfBuffer
    (header.toBytes ++ payload) []
  rw [List.append_nil] at hcsum
  have hlength : (sealed crcUtilCalculateCrc8ChecksumOfBuffer (header.toBytes ++ payload)).length =
      (header.toBytes ++ payload).length + 1 := List.length_append
  refine ⟨by rw [hlength]; exact hcsum, by rw [hheader, hmagic], by rw [hheader, hnumber],
    by rw [hheader, hcommand], ?_⟩
  rw [hlength, List.length_append, ← hsize, TcpPacketCommandHeader.length_toBytes,
    TcpPacketCommandHeader.sizeof]
  omega

theorem length_hwInformationBytes (s : Station) : (hwInformationBytes s).length = 16512 := by
  have hdata : ∀ datas : List UsHwData,
      (datas.flatMap fun data => data.toList).length = datas.length * 344 := by
    intro datas
    induction datas with
    | nil => rfl
    | cons data datas ih =>
      rw [List.flatMap_cons, List.length_append, ih, List.length_cons, Vector.length_toList]
      omega
  rw [hwInformationBytes, hdata, Vector.length_toList, maximumMicroServerCardNumber]

theorem doRequest_reply (buffer : List UInt8) (asked : Asked) (commandID : UInt16)
    (mode : TcpPacketCommandHeader → UInt16)
    (hkind : requestKind (TcpPacketCommandHeader.ofBytes buffer).commandID = .table commandID) :
    ((doRequest w buffer asked commandID mode).reply.isSome ↔
        CsumMatches crcUtilCalculateCrc8ChecksumOfBuffer packetSize buffer) ∧
      ∀ r ∈ (doRequest w buffer asked commandID mode).reply,
        WellFormed (TcpPacketCommandHeader.ofBytes buffer) r := by
  unfold doRequest
  dsimp only
  by_cases hcsum : CsumMatches crcUtilCalculateCrc8ChecksumOfBuffer packetSize buffer
  · rw [if_pos hcsum]
    refine ⟨iff_of_true rfl hcsum, fun r hr => ?_⟩
    obtain rfl := Option.some.inj hr
    exact wellFormed_sealed rfl rfl (by rw [hkind]; rfl)
      (by rw [hkind, length_tableBytes]; rfl)
  · rw [if_neg hcsum]
    exact ⟨iff_of_false Bool.false_ne_true hcsum, fun r hr => absurd hr (Option.not_mem_none r)⟩

theorem hwInformation_reply (buffer : List UInt8)
    (hkind : requestKind (TcpPacketCommandHeader.ofBytes buffer).commandID = .hwInformation) :
    ((tcpServerDoHwInformationRequest w buffer).reply.isSome ↔
        RequestKind.hwInformation.Admits buffer) ∧
      ∀ r ∈ (tcpServerDoHwInformationRequest w buffer).reply,
        WellFormed (TcpPacketCommandHeader.ofBytes buffer) r := by
  unfold tcpServerDoHwInformationRequest RequestKind.Admits
  dsimp only
  by_cases hcsum : CsumMatches crcUtilCalculateCrc8ChecksumOfBuffer hwInforequestSize buffer
  · rw [if_neg (not_not.mpr hcsum)]
    by_cases hrange : (TcpPacketCommandHeader.ofBytes buffer).uSnumber < 1 ∨
        (TcpPacketCommandHeader.ofBytes buffer).uSnumber > 12
    · rw [if_pos hrange]
      refine ⟨iff_of_false Bool.false_ne_true fun h => ?_,
        fun r hr => absurd hr (Option.not_mem_none r)⟩
      exact hrange.elim (fun hlow => UInt16.not_lt.mpr h.2.1 hlow)
        fun hhigh => UInt16.not_lt.mpr h.2.2 hhigh
    · rw [if_neg hrange]
      rw [not_or, UInt16.not_lt, gt_iff_lt, UInt16.not_lt] at hrange
      refine ⟨iff_of_true rfl ⟨hcsum, hrange⟩, fun r hr => ?_⟩
      obtain rfl := Option.some.inj hr
      exact wellFormed_sealed rfl rfl (by rw [hkind]; rfl)
        (by rw [hkind, length_hwInformationBytes]; rfl)
  · rw [if_pos hcsum]
    exact ⟨iff_of_false Bool.false_ne_true fun h => hcsum h.1,
      fun r hr => absurd hr (Option.not_mem_none r)⟩

theorem server_replies_well_formed (hcards : ∀ j, GroupTest.FromCards (w.net j)) :
    ((tcpServerDoProcessing w received).reply.isSome ↔ Admitted (readBuffer received)) ∧
      (∀ r ∈ (tcpServerDoProcessing w received).reply,
        WellFormed (TcpPacketCommandHeader.ofBytes (readBuffer received)) r) ∧
      ∀ asked ∈ (tcpServerDoProcessing w received).asked,
        KeepsAround w.around (asked.table w) := by
  rw [← and_assoc]
  refine ⟨?_, fun asked _ => keepsAround_table hcards asked⟩
  by_cases hmagic : (TcpPacketCommandHeader.ofBytes (readBuffer received)).magic = tcpMagic
  · have hserved := processing_kind w received hmagic
    rw [Admitted, and_iff_right hmagic]
    cases hkind : requestKind (TcpPacketCommandHeader.ofBytes (readBuffer received)).commandID with
    | table reply =>
      rw [hkind] at hserved
      obtain ⟨asked, mode, hserved⟩ := hserved
      rw [hserved]
      exact doRequest_reply w _ asked reply mode hkind
    | hwInformation =>
      rw [hkind] at hserved
      rw [hserved]
      exact hwInformation_reply w _ hkind
    | unknown =>
      rw [hkind] at hserved
      rw [hserved]
      refine ⟨iff_of_true rfl trivial, fun r hr => ?_⟩
      obtain rfl := Option.some.inj hr
      exact wellFormed_sealed rfl rfl (by rw [hkind]; rfl)
        (by rw [hkind, List.length_replicate]; rfl)
  · rw [processing_bad_magic w received hmagic]
    exact ⟨iff_of_false Bool.false_ne_true fun h => hmagic h.1,
      fun r hr => absurd hr (Option.not_mem_none r)⟩

def fabricSurroundings : Surroundings :=
  ⟨Collector.masterStation, fun _ => GroupRun.fabricNetwork 4, fun _ => 0⟩

def trafficData : List UInt8 :=
  TcpPacketCommandHeader.toBytes ⟨tcpMagic, 9, 33, trafficRequest, 2⟩ ++
    (4 :: List.replicate 191 0)

def trafficPacket : List UInt8 := sealed crcUtilCalculateCrc8ChecksumOfBuffer trafficData

theorem length_trafficData : trafficData.length + 1 = packetSize := by
  rw [trafficData, List.length_append, List.length_cons, List.length_replicate]
  rfl

theorem length_trafficPacket : trafficPacket.length = packetSize := by
  rw [trafficPacket, sealed, List.length_append, List.length_singleton, length_trafficData]

theorem server_replies_well_formed_traffic :
    (tcpServerDoProcessing fabricSurroundings trafficPacket).reply.isSome ∧
      (∀ r ∈ (tcpServerDoProcessing fabricSurroundings trafficPacket).reply,
        WellFormed ⟨tcpMagic, 9, 33, trafficRequest, 2⟩ r) ∧
      ∀ asked ∈ (tcpServerDoProcessing fabricSurroundings trafficPacket).asked,
        KeepsAround (fun _ => 0) (asked.table fabricSurroundings) := by
  have hbuffer : readBuffer trafficPacket = trafficPacket ++ List.replicate _ 0 :=
    readBuffer_eq (by rw [length_trafficPacket]; decide)
  have hheader : TcpPacketCommandHeader.ofBytes (readBuffer trafficPacket) =
      ⟨tcpMagic, 9, 33, trafficRequest, 2⟩ := by
    rw [hbuffer, trafficPacket, trafficData, sealed, List.append_assoc, List.append_assoc,
      TcpPacketCommandHeader.ofBytes_toBytes]
  have hcsum : CsumMatches crcUtilCalculateCrc8ChecksumOfBuffer packetSize
      (readBuffer trafficPacket) := by
    have hsealed := sealed_csumMatches crcUtilCalculateCrc8ChecksumOfBuffer trafficData
      (List.replicate (bufSize - trafficPacket.length) 0)
    rw [length_trafficData] at hsealed
    rw [hbuffer]
    exact hsealed
  obtain ⟨hreply, hformed, hkept⟩ := server_replies_well_formed fabricSurroundings trafficPacket
    fun _ => GroupRun.fabricNetwork_fromCards 4 (by decide +kernel)
  rw [Admitted, hheader] at hreply
  rw [hheader] at hformed
  exact ⟨hreply.mpr ⟨rfl, hcsum⟩, hformed, hkept⟩

end Replies

end Chassisd
