import Chassisd.Tcp.GroupTest
import Chassisd.Udp.Results

namespace Chassisd

open MemberTest Collector

inductive Activity where
  | request (a : Arrival)
  | memberTest (test : MemberTest) (net : Network) (around : Int → UInt32)
  | groupTest (test : GroupTest) (net : Network) (trafficStatus : Int → UInt32)

def Activity.apply : Activity → Station → Station
  | request a, s => { s with toUdpServer := a.serve s.toUdpServer }
  | memberTest test net around, s => (test.perform net around s).station
  | groupTest test net trafficStatus, s => (test.perform net trafficStatus s).station

-- The status says whether the card exists and nothing else, as the configuration leaves it.
def Plain (c : ChassisData) : Prop :=
  ∀ (i : Nat) (card : UsCard), c.usCard[i]? = some card →
    card.status &&& chassisIsExist = card.status

def addressOf (card : UsCard) : Option (Vector UInt8 4) :=
  if card.status &&& chassisIsExist = chassisIsExist then some card.ipaddress else none

def Addresses (s : UdpServer) : Prop :=
  ∀ (sender : Sender) (socketFd : Int) (stack : Stack) (i : Nat) (card : UsCard),
    s.chassis.usCard[i]? = some card →
      (sender.send socketFd stack (i + 1 : Nat) s).request.map UdpRequest.ipaddress =
          addressOf card ∧
        (sender.send socketFd stack (i + 1 : Nat) s).chassis.usCard = s.chassis.usCard

section Status

variable {c : ChassisData} {i : Nat} {f : UInt32 → UInt32}

theorem updateStatus_getElem? (j : Nat) :
    (updateStatus i f c).usCard[j]? =
      if i = j then c.usCard[j]?.map fun card => { card with status := f card.status }
      else c.usCard[j]? := by
  unfold updateStatus
  by_cases hij : i = j
  · subst hij
    rw [if_pos rfl]
    cases hcard : c.usCard[i]? with
    | none => exact hcard
    | some card =>
      obtain ⟨hi, -⟩ := Vector.getElem?_eq_some_iff.mp hcard
      exact Vector.getElem?_setIfInBounds_self_of_lt hi
  · rw [if_neg hij]
    split
    · rfl
    · exact Vector.getElem?_setIfInBounds_ne hij

theorem updateStatus_usCard (h : ∀ card, c.usCard[i]? = some card → f card.status = card.status) :
    (updateStatus i f c).usCard = c.usCard := by
  refine Vector.ext fun j hj => Option.some.inj ?_
  rw [← Vector.getElem?_eq_getElem hj, ← Vector.getElem?_eq_getElem hj, updateStatus_getElem?]
  split_ifs with hij
  · subst hij
    cases hcard : c.usCard[i]? with
    | none => rfl
    | some card => rw [Option.map_some, h card hcard]
  · rfl

theorem plain_updateStatus (h : Plain c)
    (hf : ∀ status, status &&& chassisIsExist = status →
      f status &&& chassisIsExist = f status) : Plain (updateStatus i f c) := by
  intro j card hcard
  rw [updateStatus_getElem?] at hcard
  split_ifs at hcard
  · obtain ⟨old, hold, rfl⟩ := Option.map_eq_some_iff.mp hcard
    exact hf old.status (h j old hold)
  · exact h j card hcard

theorem plain_cases {status : UInt32} (h : status &&& chassisIsExist = status) :
    status = 0 ∨ status = 1 := by
  have hle : status.toNat ≤ 1 := by
    rw [← h, UInt32.toNat_and]
    exact Nat.and_le_right
  rcases Nat.le_one_iff_eq_zero_or_eq_one.mp hle with hzero | hone
  · exact .inl (UInt32.toNat.inj hzero)
  · exact .inr (UInt32.toNat.inj hone)

end Status

section Senders

variable (socketFd : Int) (stack : Stack) {s : UdpServer} {c : ChassisData} {i : Nat}
  {card : UsCard}

theorem updateStatus_self (f : UInt32 → UInt32) (h : c.usCard[i]? = some card) :
    (updateStatus i f c).usCard[i]? = some { card with status := f card.status } := by
  rw [updateStatus_getElem?, if_pos rfl, h, Option.map_some]

theorem sendToClient_request (test : ExistTest) {message : UsCard → UdpRequest}
    (hmessage : ∀ card, (message card).ipaddress = card.ipaddress) (payload : Option UsHwData)
    (h : c.usCard[i]? = some card) :
    (sendToClient socketFd test (i + 1 : Nat) message payload c).request.map
        UdpRequest.ipaddress =
      if test.holds (test.apply card.status) then some card.ipaddress else none := by
  have hpos : (0 : Int) < (i + 1 : Nat) := by omega
  unfold sendToClient
  simp only [if_pos hpos, Int.toNat_natCast, Nat.add_sub_cancel, updateStatus_self _ h]
  split_ifs
  · exact congrArg some (hmessage _)
  · rfl

theorem Sender.send_request (sender : Sender) (h : s.chassis.usCard[i]? = some card) :
    (sender.send socketFd stack (i + 1 : Nat) s).request.map UdpRequest.ipaddress =
      if sender.existTest.holds (sender.existTest.apply card.status) then some card.ipaddress
      else none := by
  cases sender with
  | shutdown slotid option =>
    have hpos : (0 : Int) < (i + 1 : Nat) := by omega
    simp only [Sender.send, tcpServerDoSendShutdownToClient, if_pos hpos, Int.toNat_natCast,
      Nat.add_sub_cancel, updateStatus_self _ h, Sender.existTest, ExistTest.holds,
      ExistTest.apply, decide_eq_true_eq]
    split_ifs <;> rfl
  | _ => exact sendToClient_request socketFd _ (fun _ => rfl) _ h

theorem existTest_plain (test : ExistTest) {status : UInt32}
    (h : status &&& chassisIsExist = status) :
    test.apply status = status ∧ (test.holds status = true ↔ status = chassisIsExist) := by
  rcases plain_cases h with rfl | rfl
  · cases test <;> decide
  · cases test <;> decide

theorem addresses_iff : Addresses s ↔ Plain s.chassis := by
  constructor
  · intro h i card hcard
    have hkept := (h (.traffic 0) 0 default i card hcard).2
    rw [Sender.send_chassis _ _ _ (Nat.succ_pos i), Nat.succ_sub_one] at hkept
    have hself := updateStatus_self (Sender.traffic 0).existTest.apply hcard
    rw [hkept, hcard] at hself
    exact (congrArg UsCard.status (Option.some.inj hself)).symm
  · intro h sender socketFd stack i card hcard
    have hplain := h i card hcard
    obtain ⟨happly, hholds⟩ := existTest_plain sender.existTest hplain
    refine ⟨?_, ?_⟩
    · rw [Sender.send_request _ _ _ hcard, happly, addressOf, hplain]
      exact if_congr hholds rfl rfl
    · rw [Sender.send_chassis _ _ _ (Nat.succ_pos i), Nat.succ_sub_one]
      refine updateStatus_usCard fun other hother => ?_
      exact (existTest_plain sender.existTest (h i other hother)).1

theorem plain_send (sender : Sender) (h : Plain s.chassis) :
    Plain (sender.send socketFd stack (i + 1 : Nat) s).chassis := by
  rw [Sender.send_chassis _ _ _ (Nat.succ_pos i)]
  refine plain_updateStatus h fun status hstatus => ?_
  rw [(existTest_plain sender.existTest hstatus).1, hstatus]

end Senders

section Requests

variable {s : UdpServer} {c : ChassisData}

theorem readyBit_not_plain {flag : UInt32} (hflag : 1 < flag.toNat) (status : UInt32) :
    (status ||| flag) &&& chassisIsExist ≠ status ||| flag := by
  intro h
  have hle : flag.toNat ≤ (status ||| flag).toNat := by
    rw [UInt32.toNat_or]
    exact Nat.right_le_or
  rcases plain_cases h with hzero | hone
  · rw [hzero] at hle
    exact absurd (hflag.trans_le hle) (by decide)
  · rw [hone] at hle
    exact absurd (hflag.trans_le hle) (by decide)

theorem plain_mark_iff {flag usCardNumber : UInt32} (hflag : 1 < flag.toNat) :
    Plain (UdpServer.mark flag usCardNumber s).chassis ↔
      Plain s.chassis ∧ ¬ UdpServer.CardNumber usCardNumber := by
  rw [← UdpServer.cardIndex_lt_iff]
  by_cases hlt : UdpServer.cardIndex usCardNumber < maximumMicroServerCardNumber
  · refine iff_of_false (fun hmark => ?_) fun h => h.2 hlt
    have hcard : s.chassis.usCard[UdpServer.cardIndex usCardNumber]? = some _ :=
      Vector.getElem?_eq_getElem hlt
    exact readyBit_not_plain hflag _ (hmark _ _ (updateStatus_self (· ||| flag) hcard))
  · have hnone : s.chassis.usCard[UdpServer.cardIndex usCardNumber]? = none :=
      Vector.getElem?_eq_none (not_lt.mp hlt)
    rw [UdpServer.mark, updateStatus, hnone]
    exact (and_iff_left hlt).symm

theorem plain_shutdown (h : Plain c) (usNumber : Int) (slotid option : UInt16) :
    Plain (tcpServerDoSendShutdownToClient usNumber slotid option c).chassis := by
  have hmask : Plain (updateStatus (usNumber.toNat - 1) (· &&& 1) c) :=
    plain_updateStatus h fun status hstatus => by rw [hstatus, hstatus]
  unfold tcpServerDoSendShutdownToClient
  split_ifs
  · dsimp only
    split
    · exact hmask
    · split_ifs
      · exact hmask
      · exact hmask
  · exact h

theorem plain_relay (h : Plain c) (slotid option : Int) :
    Plain (tcpServerDoShutdownToClient slotid option c).chassis := by
  simp only [tcpServerDoShutdownToClient]
  split_ifs
  · exact h
  · exact plain_shutdown h _ _ _

theorem plain_handler (h : Plain c) (driver : Driver) (params : List Char) :
    Plain (udpServerDoShutdownMgrShutdownLinecardLocal driver params c).chassis := by
  unfold udpServerDoShutdownMgrShutdownLinecardLocal
  obtain ⟨slot, option⟩ := shutdownParams params
  dsimp only
  split_ifs
  · exact plain_relay h slot option
  · exact h
  · exact plain_relay h slot option
  · exact h
  · exact h

open UdpServer in
theorem answer_chassis (driver : Driver) (command : SystemCommand) (buf : List UInt8)
    {type : UInt16} (htype : type ≠ ctpRemoteshutdownRequest) :
    (answer driver command type buf s).server.chassis = s.chassis := by
  by_cases hknown : (type ∈ indexTypes ∨ type ∈ plainTypes) ∨ type ∈ paramsTypes
  · simp only [mem_indexTypes, mem_plainTypes, mem_paramsTypes] at hknown
    rcases hknown with ((rfl | rfl | rfl) | rfl | rfl | rfl | rfl) | rfl | rfl | rfl | rfl
    any_goals rfl
    exact absurd rfl htype
  · simp only [mem_indexTypes, mem_plainTypes, mem_paramsTypes, not_or] at hknown
    simp only [answer, hknown, if_false]
    rfl

open UdpServer in
theorem plain_answer (h : Plain s.chassis) (driver : Driver) (command : SystemCommand)
    (buf : List UInt8) (type : UInt16) :
    Plain (answer driver command type buf s).server.chassis := by
  by_cases htype : type = ctpRemoteshutdownRequest
  · subst htype
    exact plain_handler h driver _
  · rwa [answer_chassis driver command buf htype]

-- The three requests that raise a ready bit take the card's number from the sender.
open UdpServer in
theorem plain_parse_iff (h : Plain s.chassis) (buf : List UInt8) :
    Plain (udpServerDoParseUdp buf s).1.chassis ↔
      ¬ ((UdpPacketCommandHeader.ofBytes buf).type ∈ indexTypes ∧
        CardNumber (UdpPacketCommandHeader.ofBytes buf).usCardNumber) := by
  simp only [udpServerDoParseUdp, mem_indexTypes]
  split_ifs with hping hpower hhw
  · refine (plain_mark_iff (by decide)).trans ?_
    simp [hping, h]
  · refine (plain_mark_iff (by decide)).trans ?_
    simp [hpower, h]
  · refine (plain_mark_iff (by decide)).trans ?_
    simp [hhw, h]
  · simp [hping, hpower, hhw, h]

theorem plain_serve_iff (h : Plain s.chassis) (a : Arrival) :
    Plain (a.serve s).chassis ↔ ¬ (a.buf.length ≠ 0 ∧ a.type ∈ UdpServer.indexTypes ∧
      UdpServer.CardNumber (UdpPacketCommandHeader.ofBytes a.buf).usCardNumber) := by
  by_cases hempty : a.buf.length = 0
  · have hbuf : (a.datagram.take bufSize).length = 0 := hempty
    have hserve : a.serve s = s := by
      unfold Arrival.serve Arrival.recev UdpServer.updServerRecev
      simp only [if_pos hbuf]
    rw [hserve]
    exact iff_of_true h fun hraise => hraise.1 hempty
  · have hparse := plain_parse_iff h a.buf
    change _ ↔ ¬ (a.type ∈ UdpServer.indexTypes ∧ _) at hparse
    rw [Arrival.serve, (recev_answer hempty s).1, and_iff_right hempty, ← hparse]
    by_cases hindex : a.type ∈ UdpServer.indexTypes
    · have hshutdown : a.type ≠ ctpRemoteshutdownRequest := by
        intro heq
        rw [heq] at hindex
        exact absurd hindex (by decide)
      rw [answer_chassis _ _ _ hshutdown]
    · have hplain := hparse.mpr fun hraise => hindex hraise.1
      exact iff_of_true (plain_answer hplain _ _ _ _) hplain

end Requests

section Tests

variable {test : MemberTest} {own : Nat} {before : Int → UInt32} {c : Collector} {net : Network}
  {datagram : List UInt8}

theorem plain_of_usCard {c c' : ChassisData} (h : c'.usCard = c.usCard) : Plain c' ↔ Plain c := by
  rw [Plain, Plain, h]

theorem ask_usCard (r i : Nat) (h : test.sender.existTest = .equal) :
    (c.ask test net r i).station.chassis.usCard = c.station.chassis.usCard := by
  unfold Collector.ask
  split_ifs
  · rfl
  · rfl
  · change (test.sender.send _ _ _ _).chassis.usCard = _
    rw [Sender.send_chassis _ _ _ (Nat.succ_pos i), h]
    exact updateStatus_usCard fun _ _ => rfl
  · rfl

def Undisturbed (test : MemberTest) (own : Nat) (log : List (List UInt8)) : Prop :=
  test = .hwInformation → ∀ d ∈ log, ∀ k ∈ cards, test.Answers k d → k = own

theorem undisturbed_concat {log : List (List UInt8)} :
    Undisturbed test own (log ++ [datagram]) ↔
      Undisturbed test own log ∧ Undisturbed test own [datagram] := by
  simp only [Undisturbed, List.forall_mem_append, forall_and]

theorem plain_updateHwInform_iff {line : List UInt8} {s : UdpServer}
    (h : (UdpPacketCommandHeader.ofBytes line).type = hwInformationReply) :
    Plain (tcpServerDoUpdateHwInform line s).chassis ↔
      Plain s.chassis ∧
        ¬ UdpServer.CardNumber (UdpPacketCommandHeader.ofBytes line).usCardNumber := by
  unfold tcpServerDoUpdateHwInform
  extract_lets header i
  rw [if_pos h]
  exact plain_mark_iff (by decide)

theorem collect_plain_iff (h : Settled test own before c)
    (hbefore : ∀ k ∈ cards, before ((k : Int) - 1) ≠ 1)
    (hexact : Plain c.station.chassis ↔ Undisturbed test own c.received) :
    Plain (c.collect test datagram).station.chassis ↔
      Undisturbed test own (c.received ++ [datagram]) := by
  rw [undisturbed_concat, ← hexact]
  rcases test.check_cases datagram with ⟨n, hn, hanswer, -⟩ | ⟨hsilent, -⟩
  · have hquiet : Undisturbed test own [datagram] ↔
        (test = .hwInformation → n ∈ cards → n = own) := by
      refine forall_congr' fun _ => List.forall_mem_singleton.trans ⟨fun hall hk =>
        hall n hk hanswer, fun hone k hk hother => ?_⟩
      obtain rfl : k = n := hother.card.symm.trans hanswer.card
      exact hone hk
    rw [hquiet, collect_answer hn hanswer]
    extract_lets c'
    split_ifs with hcell hhw
    · subst hhw
      refine (plain_updateHwInform_iff hanswer.type).trans (and_congr_right fun _ => ?_)
      have hnumber : UdpServer.CardNumber
          (UdpPacketCommandHeader.ofBytes (recvline datagram)).usCardNumber ↔ n ∈ cards := by
        rw [UdpServer.CardNumber, hanswer.card, mem_cards]
      rw [hnumber]
      refine ⟨fun hout _ hin => absurd hin hout, fun hown hin => hcell ?_⟩
      exact (h.cells n).trans (if_pos ((mem_numbers hin).mpr (.inl (hown rfl hin))))
    · exact (and_iff_left fun hhw' => absurd hhw' hhw).symm
    · refine (and_iff_left_of_imp fun hplain hhw hin => ?_).symm
      have hmem : n ∈ test.numbers own c.received := by
        by_contra hout
        have hold : c.testResult (n - 1) = 1 := not_not.mp hcell
        rw [h.cells n, if_neg hout] at hold
        exact hbefore n hin hold
      rcases (mem_numbers hin).mp hmem with hself | ⟨d, hd, hearlier⟩
      · exact hself
      · exact hexact.mp hplain hhw d hd n hin hearlier
  · rw [collect_silent hsilent]
    refine (and_iff_left fun _ d hd k hk hanswer => absurd ?_ (hsilent k ?_)).symm
    · rwa [← List.mem_singleton.mp hd]
    · exact (mem_cards.mp hk).2.trans_lt (by decide)

def Heeds (test : MemberTest) (own : Nat) (c : Collector) : Prop :=
  Plain c.station.chassis ↔ Undisturbed test own c.received

theorem Heeds.asked (h : Heeds test own c) (net : Network) (r : Nat) (cs : List Nat) :
    Heeds test own (Runs.run (Collector.ask test net r) c cs) := by
  have hequal : test.sender.existTest = .equal := by cases test <;> rfl
  refine Runs.invariant (I := Heeds test own) (fun c i hc => ?_) h cs
  rw [Heeds, (ask_frame r i).1, plain_of_usCard (ask_usCard r i hequal)]
  exact hc

theorem Heeds.collected (h : Heeds test own c) (hsettled : Settled test own before c)
    (hbefore : ∀ k ∈ cards, before ((k : Int) - 1) ≠ 1) (ds : List (List UInt8)) :
    Heeds test own (Runs.run (Collector.collect test) c ds) := by
  refine (Runs.invariant (I := fun c => Settled test own before c ∧ Heeds test own c)
    (fun c d hc => ⟨hc.1.collect d, ?_⟩) ⟨hsettled, h⟩ ds).2
  rw [Heeds, collect_received]
  exact collect_plain_iff hc.1 hbefore hc.2

theorem plain_memberTest_iff {s : Station} (h : Plain s.chassis) (around : Int → UInt32) :
    Plain (test.perform net around s).station.chassis ↔
      Undisturbed test s.chassis.usCardNumber (test.heard net around s) := by
  have hbefore : ∀ k ∈ cards, (start around s).testResult ((k : Int) - 1) ≠ 1 := by
    intro k hk
    have hzero : (start around s).testResult ((k : Int) - 1) = 0 := if_pos (inTable_pred.mpr hk)
    rw [hzero]
    decide
  have hstart : Heeds test s.chassis.usCardNumber (start around s) :=
    iff_of_true h fun _ _ hd => absurd hd List.not_mem_nil
  rw [perform_eq, ← (requestMember_heard test net around s).1]
  refine (Retry.invariant (I := fun c => Prepared test s.chassis.usCardNumber
      (start around s).testResult c ∧ Heeds test s.chassis.usCardNumber c)
    (fun r c hc => ⟨(hc.1.round net r).prepared, ?_⟩) _ _
    ⟨start_prepared around s, hstart⟩).2
  exact (hc.2.asked net r _).collected (hc.1.asked net r) hbefore (net.delivered r)

end Tests

section Groups

variable {test : GroupTest} {net : Network} {g : GroupRun}

theorem group_send_plain (sender : Sender) (r i : Nat) (h : Plain g.station.chassis) :
    Plain (g.send sender net r i).station.chassis := plain_send _ _ sender h

theorem poll_plain (r i : Nat) (h : Plain g.station.chassis) :
    Plain (g.poll test net r i).station.chassis := by
  unfold GroupRun.poll
  split_ifs
  · exact group_send_plain test.request r i h
  · exact h

theorem pollResult_plain (r i : Nat) (h : Plain g.station.chassis) :
    Plain (g.pollResult test net r i).station.chassis := by
  unfold GroupRun.pollResult
  split_ifs
  · exact group_send_plain test.resultRequest r i h
  · exact h

theorem group_collect_station (last : Bool) (datagram : List UInt8) :
    (g.collect test last datagram).station = g.station := by
  unfold GroupRun.collect
  cases test.check (recvline datagram) with
  | none => rfl
  | some r =>
    dsimp only
    split_ifs <;> rfl

theorem plain_groupTest {s : Station} (h : Plain s.chassis) (trafficStatus : Int → UInt32) :
    Plain (test.perform net trafficStatus s).station.chassis := by
  rw [GroupTest.perform_eq]
  have hcollected : ∀ (last : Bool) (g : GroupRun) (ds : List (List UInt8)),
      Plain g.station.chassis →
        Plain (Runs.run (GroupRun.collect test last) g ds).station.chassis :=
    fun last g ds hg => Runs.invariant (I := fun g : GroupRun => Plain g.station.chassis)
      (fun g d hg => by rwa [group_collect_station]) hg ds
  have hrounds : Plain (GroupRun.rounds test net trafficStatus s).station.chassis :=
    Retry.invariant (I := fun g : GroupRun => Plain g.station.chassis)
      (fun r g hg => hcollected false _ _ (Runs.invariant
        (I := fun g : GroupRun => Plain g.station.chassis) (fun _ i hg => poll_plain r i hg) hg _))
      _ _ h
  unfold GroupRun.requestMember
  dsimp only
  split_ifs
  · exact hcollected true _ _ (Runs.invariant (I := fun g : GroupRun => Plain g.station.chassis)
      (fun _ i hg => pollResult_plain _ i hg) hrounds _)
  · exact hrounds

end Groups

section History

def Activity.Raises : Activity → Station → Prop
  | .request a, _ => a.buf.length ≠ 0 ∧ a.type ∈ UdpServer.indexTypes ∧
      UdpServer.CardNumber (UdpPacketCommandHeader.ofBytes a.buf).usCardNumber
  | .memberTest test net around, s =>
    ¬ Undisturbed test s.chassis.usCardNumber (test.heard net around s)
  | .groupTest _ _ _, _ => False

theorem plain_apply_iff (e : Activity) {s : Station} (h : Plain s.chassis) :
    Plain (e.apply s).chassis ↔ ¬ e.Raises s := by
  cases e with
  | request a => exact plain_serve_iff h a
  | memberTest test net around => exact (plain_memberTest_iff h around).trans not_not.symm
  | groupTest test net trafficStatus =>
    exact iff_of_true (plain_groupTest h trafficStatus) not_false

theorem present_cards_addressed_iff (s : Station) (h : Plain s.chassis) (es : List Activity) :
    (Addresses s.toUdpServer ∧
        Runs.Along Activity.apply (fun s e => Addresses (e.apply s).toUdpServer) s es) ↔
      Runs.Along Activity.apply (fun s e => ¬ e.Raises s) s es := by
  rw [and_iff_right (addresses_iff.mpr h)]
  refine Runs.along_iff (I := fun s : Station => Plain s.chassis) (fun s e hs hquiet => ?_)
    (fun s e hs => ?_) h
  · exact (plain_apply_iff e hs).mpr hquiet
  · exact addresses_iff.trans (plain_apply_iff e hs)

def pingOfCard1 : Arrival := ⟨fun _ => 0, fun _ _ => 0, [1, 0, 0, 0, 0x7d, 0x27]⟩

theorem masterStation_plain : Plain masterStation.chassis := by
  intro i card hcard
  obtain ⟨hi, rfl⟩ := Vector.getElem?_eq_some_iff.mp hcard
  exact (by decide +kernel : ∀ i : Fin maximumMicroServerCardNumber,
    (masterStation.chassis.usCard.get i).status &&& chassisIsExist =
      (masterStation.chassis.usCard.get i).status) ⟨i, hi⟩

theorem health_test_keeps_presence :
    Addresses masterStation.toUdpServer ∧
      Runs.Along Activity.apply (fun s e => Addresses (e.apply s).toUdpServer) masterStation
        [.groupTest .health namelessNetwork fun _ => 0] :=
  (present_cards_addressed_iff masterStation masterStation_plain _).mpr ⟨not_false, trivial⟩

theorem pinged_card_drops_out :
    ¬ ∀ (s : Station), Plain s.chassis → ∀ es : List Activity,
      Addresses s.toUdpServer ∧
        Runs.Along Activity.apply (fun s e => Addresses (e.apply s).toUdpServer) s es := by
  intro h
  have hafter := (h masterStation masterStation_plain [.request pingOfCard1]).2.1
  have hraises : (Activity.request pingOfCard1).Raises masterStation := by
    refine ⟨?_, ?_, ?_, ?_⟩ <;> decide +kernel
  exact (plain_apply_iff _ masterStation_plain).mp (addresses_iff.mp hafter) hraises

end History

end Chassisd
