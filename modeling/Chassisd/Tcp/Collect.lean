import Chassisd.Library.Retry
import Chassisd.Library.Runs
import Chassisd.Tcp.Send

namespace Chassisd

abbrev buffSize : Nat := 10000

abbrev countChassisPing : Nat := 6
abbrev countChassisPower : Nat := 6
abbrev countHwInform : Nat := 6

structure Network where
  socketFd : Int
  stack : Nat → Nat → Stack
  arrivals : Nat → List (List UInt8)

-- The buffer is cleared before each reception; a datagram without bytes ends the round.
def recvline (datagram : List UInt8) : List UInt8 := datagram.take buffSize

def Network.delivered (net : Network) (r : Nat) : List (List UInt8) :=
  (net.arrivals r).takeWhile (· ≠ [])

def payloadAt (recvline : List UInt8) : UInt32 :=
  uInt32OfBytes (bytesAt recvline UdpPacketCommandHeader.sizeof 4)

def tcpServerDoCheckUdpClientPacket (recvline : List UInt8) (type : UInt16) : Int :=
  let receiver := UdpPacketCommandHeader.ofBytes recvline
  let payload :=
    if receiver.type = pingTestReply ∨ receiver.type = powerCycleReply then payloadAt recvline
    else 0
  if receiver.type = type ∧ payload = 0 then CString.toInt receiver.usCardNumber.toNat else -1

def tcpServerGetChassisMemberCount (s : Station) : Nat := s.memberNumber.toList.countP (0 < ·)

def tcpServerDoUpdateHwInform (recvline : List UInt8) (s : UdpServer) : UdpServer :=
  let header := UdpPacketCommandHeader.ofBytes recvline
  let i := UdpServer.cardIndex header.usCardNumber
  if header.type = hwInformationReply then
    UdpServer.mark chassisHwinfoReady header.usCardNumber
      { s with usHwInformation := s.usHwInformation.setIfInBounds i (UdpServer.hwData recvline) }
  else s

inductive MemberTest where
  | pingTest
  | powerCycle
  | hwInformation
  deriving DecidableEq, Repr

namespace MemberTest

def sender : MemberTest → Sender
  | pingTest => .pingTest
  | powerCycle => .poweCycle
  | hwInformation => .hwInform

def reply : MemberTest → UInt16
  | pingTest => pingTestReply
  | powerCycle => powerCycleReply
  | hwInformation => hwInformationReply

def count : MemberTest → Nat
  | pingTest => countChassisPing
  | powerCycle => countChassisPower
  | hwInformation => countHwInform

end MemberTest

-- The memory around the table is part of the function; accesses lists the entries that a
-- reply makes the test touch.
structure Collector where
  station : Station
  testResult : Int → UInt32
  successCount : Nat
  accesses : List Int
  sent : List (UdpRequest × Option UsHwData)
  received : List (List UInt8)

namespace Collector

def start (around : Int → UInt32) (s : Station) : Collector where
  station := s
  testResult := fun i => if 0 ≤ i ∧ i < maximumMicroServerCardNumber then 0 else around i
  successCount := 0
  accesses := []
  sent := []
  received := []

def succeed (i : Int) (c : Collector) : Collector :=
  { c with testResult := Function.update c.testResult i 1, successCount := c.successCount + 1 }

def ask (test : MemberTest) (net : Network) (r i : Nat) (c : Collector) : Collector :=
  if i + 1 = c.station.chassis.usCardNumber then
    if c.testResult i ≠ 1 then c.succeed i else c
  else if c.testResult i ≠ 1 then
    let o := test.sender.send net.socketFd (net.stack r i) (i + 1 : Nat) c.station.toUdpServer
    { c with
      station := { c.station with chassis := o.chassis }
      sent := c.sent ++ o.request.toList.map fun request => (request, o.payload) }
  else c

def updateHwInform (recvline : List UInt8) (c : Collector) : Collector :=
  { c with
    station :=
      { c.station with toUdpServer := tcpServerDoUpdateHwInform recvline c.station.toUdpServer }
    accesses := c.accesses ++
      [(UdpServer.cardIndex (UdpPacketCommandHeader.ofBytes recvline).usCardNumber : Int)] }

def collect (test : MemberTest) (datagram : List UInt8) (c : Collector) : Collector :=
  let result := tcpServerDoCheckUdpClientPacket (recvline datagram) test.reply
  let c := { c with received := c.received ++ [datagram] }
  if 0 ≤ result then
    let c := { c with accesses := c.accesses ++ [result - 1] }
    if c.testResult (result - 1) ≠ 1 then
      let c := c.succeed (result - 1)
      if test = .hwInformation then c.updateHwInform (recvline datagram) else c
    else c
  else c

def round (test : MemberTest) (net : Network) (r : Nat) (c : Collector) : Collector :=
  Runs.run (collect test)
    (Runs.run (ask test net r) c (List.range maximumMicroServerCardNumber)) (net.delivered r)

def requestMember (test : MemberTest) (net : Network) (around : Int → UInt32) (s : Station) :
    Collector :=
  Retry.attempts (round test net)
    (fun c => c.successCount < tcpServerGetChassisMemberCount s) (test.count - 1) 0
    (start around s)

end Collector

def tcpServerDoPingTestRequestMember : Network → (Int → UInt32) → Station → Collector :=
  Collector.requestMember .pingTest

def tcpServerDoPowerCycleRequestMember : Network → (Int → UInt32) → Station → Collector :=
  Collector.requestMember .powerCycle

def tcpServerDoHwInformationRequestMember : Network → (Int → UInt32) → Station → Collector :=
  Collector.requestMember .hwInformation

namespace MemberTest

def perform : MemberTest → Network → (Int → UInt32) → Station → Collector
  | pingTest => tcpServerDoPingTestRequestMember
  | powerCycle => tcpServerDoPowerCycleRequestMember
  | hwInformation => tcpServerDoHwInformationRequestMember

theorem perform_eq (test : MemberTest) : test.perform = Collector.requestMember test := by
  cases test <;> rfl

variable (test : MemberTest)

structure Answers (k : Nat) (datagram : List UInt8) : Prop where
  type : (UdpPacketCommandHeader.ofBytes (recvline datagram)).type = test.reply
  card : (UdpPacketCommandHeader.ofBytes (recvline datagram)).usCardNumber.toNat = k
  payload : test ≠ hwInformation → payloadAt (recvline datagram) = 0

instance (k : Nat) (datagram : List UInt8) : Decidable (test.Answers k datagram) :=
  decidable_of_iff (_ ∧ _ ∧ (_ → _)) ⟨fun h => ⟨h.1, h.2.1, h.2.2⟩, fun h => ⟨h.1, h.2, h.3⟩⟩

def cards : Finset Nat := Finset.Icc 1 maximumMicroServerCardNumber

def number (datagram : List UInt8) : Nat :=
  (UdpPacketCommandHeader.ofBytes (recvline datagram)).usCardNumber.toNat

-- Numbers from 2^31 on read as negative and count as no answer.
def accepted (datagram : List UInt8) : Finset Nat :=
  ({number datagram} : Finset Nat).filter fun k => k < 2 ^ 31 ∧ test.Answers k datagram

def numbers (own : Nat) (received : List (List UInt8)) : Finset Nat :=
  cards.filter (· = own) ∪ received.toFinset.biUnion test.accepted

def FromCard (datagram : List UInt8) : Prop :=
  ∀ k < 2 ^ 31, test.Answers k datagram → k ∈ cards

-- An entry that holds a 1 beforehand, as only memory around the table may, is not counted.
def counted (own : Nat) (before : Int → UInt32) (received : List (List UInt8)) : Finset Nat :=
  (test.numbers own received).filter fun k => before ((k : Int) - 1) ≠ 1

def heard (net : Network) (around : Int → UInt32) (s : Station) : List (List UInt8) :=
  Retry.attempts (fun r received => received ++ net.delivered r)
    (fun received => (test.counted s.chassis.usCardNumber (Collector.start around s).testResult
      received).card < tcpServerGetChassisMemberCount s) (test.count - 1) 0 []

theorem payload_eq_zero {datagram : List UInt8}
    (h : (UdpPacketCommandHeader.ofBytes (recvline datagram)).type = test.reply) :
    (if (UdpPacketCommandHeader.ofBytes (recvline datagram)).type = pingTestReply ∨
        (UdpPacketCommandHeader.ofBytes (recvline datagram)).type = powerCycleReply then
        payloadAt (recvline datagram) else 0) = 0 ↔
      (test ≠ hwInformation → payloadAt (recvline datagram) = 0) := by
  rw [h]
  cases test with
  | pingTest => simp [reply]
  | powerCycle => simp [reply]
  | hwInformation =>
    rw [if_neg (by decide)]
    exact iff_of_true rfl fun hne => absurd rfl hne

theorem toInt_ofNat {n : Nat} (h : n < 2 ^ 32) :
    CString.toInt n = if n < 2 ^ 31 then (n : Int) else n - 2 ^ 32 := by
  unfold CString.toInt
  rw [Int.bmod_def]
  split_ifs <;> omega

theorem check_cases (datagram : List UInt8) :
    (∃ n : Nat, n < 2 ^ 31 ∧ test.Answers n datagram ∧
        tcpServerDoCheckUdpClientPacket (recvline datagram) test.reply = n) ∨
      ((∀ n < 2 ^ 31, ¬ test.Answers n datagram) ∧
        tcpServerDoCheckUdpClientPacket (recvline datagram) test.reply < 0) := by
  have hlt := (UdpPacketCommandHeader.ofBytes (recvline datagram)).usCardNumber.toNat_lt
  unfold tcpServerDoCheckUdpClientPacket
  extract_lets receiver payload
  by_cases htype : receiver.type = test.reply
  · have hzero := test.payload_eq_zero htype
    by_cases hpayload : payload = 0
    · rw [if_pos ⟨htype, hpayload⟩, toInt_ofNat hlt]
      split_ifs with hsmall
      · exact .inl ⟨_, hsmall, ⟨htype, rfl, hzero.mp hpayload⟩, rfl⟩
      · refine .inr ⟨fun n hn h => hsmall (h.card.trans_lt hn), Int.sub_neg_of_lt ?_⟩
        exact_mod_cast hlt
    · rw [if_neg fun h => hpayload h.2]
      exact .inr ⟨fun n _ h => hpayload (hzero.mpr h.payload), by decide⟩
  · rw [if_neg fun h => htype h.1]
    exact .inr ⟨fun n _ h => htype h.type, by decide⟩

variable {test} {own k n : Nat} {datagram : List UInt8} {log : List (List UInt8)}

theorem mem_cards : k ∈ cards ↔ 1 ≤ k ∧ k ≤ 48 := Finset.mem_Icc

theorem mem_accepted : k ∈ test.accepted datagram ↔ k < 2 ^ 31 ∧ test.Answers k datagram := by
  rw [accepted, Finset.mem_filter, Finset.mem_singleton, and_iff_right_of_imp]
  exact fun h => h.2.card.symm

theorem accepted_of_answers (hn : n < 2 ^ 31) (h : test.Answers n datagram) :
    test.accepted datagram = {n} := by
  ext k
  rw [mem_accepted, Finset.mem_singleton]
  refine ⟨fun hk => hk.2.card.symm.trans h.card, ?_⟩
  rintro rfl
  exact ⟨hn, h⟩

theorem accepted_of_silent (h : ∀ n < 2 ^ 31, ¬ test.Answers n datagram) :
    test.accepted datagram = ∅ := by
  refine Finset.eq_empty_of_forall_notMem fun k hk => ?_
  rw [mem_accepted] at hk
  exact h k hk.1 hk.2

theorem numbers_concat :
    test.numbers own (log ++ [datagram]) = test.numbers own log ∪ test.accepted datagram := by
  simp only [numbers, List.toFinset_append, Finset.union_biUnion, List.toFinset_cons,
    List.toFinset_nil, insert_empty_eq, Finset.singleton_biUnion, Finset.union_assoc]

theorem numbers_self : test.numbers own log ∪ cards.filter (· = own) = test.numbers own log :=
  Finset.union_eq_left.mpr Finset.subset_union_left

theorem mem_numbers (hk : k ∈ cards) :
    k ∈ test.numbers own log ↔ k = own ∨ ∃ d ∈ log, test.Answers k d := by
  have hlt : k < 2 ^ 31 := (mem_cards.mp hk).2.trans_lt (by decide)
  simp only [numbers, Finset.mem_union, Finset.mem_filter, hk, true_and, Finset.mem_biUnion,
    List.mem_toFinset, mem_accepted, hlt]

theorem numbers_subset (h : ∀ d ∈ log, test.FromCard d) : test.numbers own log ⊆ cards := by
  refine Finset.union_subset (Finset.filter_subset _ _) (Finset.biUnion_subset.mpr fun d hd k => ?_)
  rw [mem_accepted]
  exact fun hk => h d (List.mem_toFinset.mp hd) k hk.1 hk.2

end MemberTest

namespace Collector

open MemberTest

def InTable (i : Int) : Prop := 0 ≤ i ∧ i < maximumMicroServerCardNumber

def Within (c : Collector) : Prop := ∀ i ∈ c.accesses, InTable i

structure Represents (own : Nat) (before : Int → UInt32) (S : Finset Nat) (c : Collector) :
    Prop where
  self : c.station.chassis.usCardNumber = own
  cells : ∀ k : Nat, c.testResult (k - 1) = if k ∈ S then 1 else before (k - 1)
  count : c.successCount = (S.filter fun k : Nat => before (k - 1) ≠ 1).card

section Steps

variable {test : MemberTest} {own : Nat} {before : Int → UInt32} {S : Finset Nat} {c : Collector}

theorem inTable_pred {k : Nat} : InTable (k - 1) ↔ k ∈ cards := by
  have hmax : maximumMicroServerCardNumber = 48 := rfl
  rw [mem_cards, InTable, hmax]
  omega

theorem Represents.succeed (h : Represents own before S c) {k : Nat}
    (hnew : c.testResult (k - 1) ≠ 1) :
    Represents own before (insert k S) (c.succeed (k - 1)) := by
  have hout : k ∉ S := fun hk => hnew ((h.cells k).trans (if_pos hk))
  have hbefore : before (k - 1) ≠ 1 := by rwa [h.cells k, if_neg hout] at hnew
  refine ⟨h.self, fun j => ?_, ?_⟩
  · by_cases hjk : j = k
    · rw [hjk, if_pos (Finset.mem_insert_self k S)]
      exact Function.update_self ..
    · have hcell : (j : Int) - 1 ≠ k - 1 := by omega
      have hmem : j ∈ insert k S ↔ j ∈ S := Finset.mem_insert.trans (or_iff_right hjk)
      simp only [hmem]
      exact (Function.update_of_ne hcell _ _).trans (h.cells j)
  · rw [Finset.filter_insert, if_pos hbefore, Finset.card_insert_of_notMem, ← h.count]
    · rfl
    · exact fun hk => hout (Finset.mem_of_mem_filter k hk)

theorem Represents.again (h : Represents own before S c) {k : Nat}
    (hold : c.testResult (k - 1) = 1) : Represents own before (insert k S) c := by
  by_cases hk : k ∈ S
  · rwa [Finset.insert_eq_of_mem hk]
  · have hbefore : before (k - 1) = 1 := by rwa [h.cells k, if_neg hk] at hold
    refine ⟨h.self, fun j => ?_, ?_⟩
    · by_cases hjk : j = k
      · rw [hjk, if_pos (Finset.mem_insert_self k S), hold]
      · have hmem : j ∈ insert k S ↔ j ∈ S := Finset.mem_insert.trans (or_iff_right hjk)
        simp only [hmem, h.cells j]
    · rw [Finset.filter_insert, if_neg (not_not.mpr hbefore), h.count]

theorem Represents.ask (h : Represents own before S c) (net : Network) (r i : Nat) :
    Represents own before (S ∪ ({i + 1} : Finset Nat).filter (· = own))
      (c.ask test net r i) := by
  have hindex : ((i + 1 : Nat) : Int) - 1 = i := by omega
  unfold Collector.ask
  rw [h.self, Finset.filter_singleton]
  split_ifs with hown hcell hcell
  · rw [← hindex] at hcell ⊢
    rw [Finset.union_comm, ← Finset.insert_eq]
    exact h.succeed hcell
  · rw [← hindex] at hcell
    rw [Finset.union_comm, ← Finset.insert_eq]
    exact h.again (not_not.mp hcell)
  · rw [Finset.union_empty]
    refine ⟨?_, h.cells, h.count⟩
    change (test.sender.send _ _ _ _).chassis.usCardNumber = own
    rw [Sender.send_chassis _ _ _ (Nat.succ_pos i), UdpServer.updateStatus_usCardNumber, h.self]
  · rwa [Finset.union_empty]

theorem Represents.asked (h : Represents own before S c) (net : Network) (r n : Nat) :
    Represents own before (S ∪ (Finset.Icc 1 n).filter (· = own))
      (Runs.run (Collector.ask test net r) c (List.range n)) := by
  induction n with
  | zero => simpa using h
  | succ n ih =>
    have hstep : Represents own before _ (Collector.ask test net r n _) := ih.ask net r n
    rwa [List.range_succ, Runs.run_concat, ← Finset.insert_Icc_right_eq_Icc_add_one (by omega),
      Finset.insert_eq, Finset.filter_union, Finset.union_comm (Finset.filter _ {n + 1}),
      ← Finset.union_assoc]

end Steps

section Replies

variable {test : MemberTest} {own : Nat} {before : Int → UInt32} {S : Finset Nat} {c : Collector}
  {datagram : List UInt8}

theorem collect_silent (h : ∀ n < 2 ^ 31, ¬ test.Answers n datagram) :
    c.collect test datagram = { c with received := c.received ++ [datagram] } := by
  rcases test.check_cases datagram with ⟨n, hn, hanswer, -⟩ | ⟨-, hneg⟩
  · exact absurd hanswer (h n hn)
  · unfold collect
    simp only [if_neg (not_le.mpr hneg)]

theorem collect_answer {n : Nat} (hn : n < 2 ^ 31) (h : test.Answers n datagram) :
    c.collect test datagram =
      let c := { c with
        received := c.received ++ [datagram], accesses := c.accesses ++ [(n : Int) - 1] }
      if c.testResult (n - 1) ≠ 1 then
        if test = .hwInformation then
          (c.succeed (n - 1)).updateHwInform (recvline datagram)
        else c.succeed (n - 1)
      else c := by
  rcases test.check_cases datagram with ⟨m, -, hanswer, hcheck⟩ | ⟨hnone, -⟩
  · obtain rfl : m = n := hanswer.card.symm.trans h.card
    unfold collect
    simp only [hcheck, if_pos (Int.natCast_nonneg m)]
  · exact absurd h (hnone n hn)

theorem collect_received : (c.collect test datagram).received = c.received ++ [datagram] := by
  rcases test.check_cases datagram with ⟨n, hn, hanswer, -⟩ | ⟨hsilent, -⟩
  · rw [collect_answer hn hanswer]
    extract_lets
    split_ifs <;> rfl
  · rw [collect_silent hsilent]

theorem fromCard_of_silent (h : ∀ n < 2 ^ 31, ¬ test.Answers n datagram) :
    test.FromCard datagram := fun k hk hanswer => absurd hanswer (h k hk)

theorem fromCard_iff {n : Nat} (hn : n < 2 ^ 31) (h : test.Answers n datagram) :
    test.FromCard datagram ↔ n ∈ cards := by
  refine ⟨fun hcard => hcard n hn h, fun hmem k _ hk => ?_⟩
  rwa [← hk.card, h.card]

theorem hwIndex {n : Nat} (h : test.Answers n datagram) :
    InTable (UdpServer.cardIndex
      (UdpPacketCommandHeader.ofBytes (recvline datagram)).usCardNumber) ↔ n ∈ cards := by
  rw [InTable, and_iff_right (Int.natCast_nonneg _), Nat.cast_lt, UdpServer.cardIndex_lt_iff,
    UdpServer.CardNumber, h.card, mem_cards]

theorem collect_within :
    Within (c.collect test datagram) ↔ Within c ∧ test.FromCard datagram := by
  rcases test.check_cases datagram with ⟨n, hn, hanswer, -⟩ | ⟨hsilent, -⟩
  · rw [collect_answer hn hanswer, fromCard_iff hn hanswer]
    have hsingle : (∀ i ∈ [(n : Int) - 1], InTable i) ↔ n ∈ cards :=
      List.forall_mem_singleton.trans inTable_pred
    have hbase : Within { c with
        received := c.received ++ [datagram], accesses := c.accesses ++ [(n : Int) - 1] } ↔
          Within c ∧ n ∈ cards := List.forall_mem_append.trans (and_congr_right' hsingle)
    extract_lets c'
    split_ifs
    · refine (List.forall_mem_append.trans (and_congr hbase (List.forall_mem_singleton.trans
        (hwIndex hanswer)))).trans ?_
      rw [and_assoc, and_self]
    · exact hbase
    · exact hbase
  · rw [collect_silent hsilent]
    exact (and_iff_left (fromCard_of_silent hsilent)).symm

theorem updateHwInform_self (line : List UInt8) (s : UdpServer) :
    (tcpServerDoUpdateHwInform line s).chassis.usCardNumber = s.chassis.usCardNumber := by
  unfold tcpServerDoUpdateHwInform
  extract_lets header i
  split_ifs
  · exact UdpServer.updateStatus_usCardNumber _ _ _
  · rfl

theorem Represents.collect (h : Represents own before S c) :
    Represents own before (S ∪ test.accepted datagram) (c.collect test datagram) := by
  rcases test.check_cases datagram with ⟨n, hn, hanswer, -⟩ | ⟨hsilent, -⟩
  · rw [accepted_of_answers hn hanswer, Finset.union_comm, ← Finset.insert_eq,
      collect_answer hn hanswer]
    have hnoted : Represents own before S { c with
        received := c.received ++ [datagram], accesses := c.accesses ++ [(n : Int) - 1] } :=
      ⟨h.self, h.cells, h.count⟩
    extract_lets c'
    split_ifs with hcell hhw
    · have hmark := hnoted.succeed hcell
      exact ⟨(updateHwInform_self _ _).trans hmark.self, hmark.cells, hmark.count⟩
    · exact hnoted.succeed hcell
    · exact hnoted.again (not_not.mp hcell)
  · rw [accepted_of_silent hsilent, Finset.union_empty, collect_silent hsilent]
    exact ⟨h.self, h.cells, h.count⟩

end Replies

section Rounds

variable {test : MemberTest} {own : Nat} {before : Int → UInt32} {c : Collector} {net : Network}
  {datagrams : List (List UInt8)}

def Settled (test : MemberTest) (own : Nat) (before : Int → UInt32) (c : Collector) : Prop :=
  Represents own before (test.numbers own c.received) c

def Prepared (test : MemberTest) (own : Nat) (before : Int → UInt32) (c : Collector) : Prop :=
  ∃ S, Represents own before S c ∧ S ∪ cards.filter (· = own) = test.numbers own c.received

theorem Settled.prepared (h : Settled test own before c) : Prepared test own before c :=
  ⟨_, h, numbers_self⟩

theorem start_prepared (around : Int → UInt32) (s : Station) :
    Prepared test s.chassis.usCardNumber (start around s).testResult (start around s) := by
  refine ⟨∅, ⟨rfl, fun k => (if_neg (Finset.notMem_empty k)).symm, rfl⟩, ?_⟩
  rw [Finset.empty_union]
  exact (Finset.union_empty _).symm

theorem Settled.collect (h : Settled test own before c) (datagram : List UInt8) :
    Settled test own before (c.collect test datagram) := by
  rw [Settled, collect_received, numbers_concat]
  exact Represents.collect h

theorem collected_received :
    (Runs.run (collect test) c datagrams).received = c.received ++ datagrams := by
  induction datagrams generalizing c with
  | nil => exact (List.append_nil _).symm
  | cons d ds ih => rw [Runs.run_cons, ih, collect_received, List.append_assoc]; rfl

theorem collected_within :
    Within (Runs.run (collect test) c datagrams) ↔
      Within c ∧ ∀ d ∈ datagrams, test.FromCard d := by
  induction datagrams generalizing c with
  | nil => simp
  | cons d ds ih => rw [Runs.run_cons, ih, collect_within, List.forall_mem_cons, and_assoc]

theorem ask_frame (r i : Nat) :
    (c.ask test net r i).received = c.received ∧ (c.ask test net r i).accesses = c.accesses := by
  unfold ask
  split_ifs <;> exact ⟨rfl, rfl⟩

theorem asked_frame (r : Nat) (cs : List Nat) :
    (Runs.run (ask test net r) c cs).received = c.received ∧
      (Runs.run (ask test net r) c cs).accesses = c.accesses :=
  Runs.invariant (I := fun c' : Collector => c'.received = c.received ∧ c'.accesses = c.accesses)
    (fun _ i h => ⟨(ask_frame r i).1.trans h.1, (ask_frame r i).2.trans h.2⟩) ⟨rfl, rfl⟩ cs

theorem Prepared.asked (h : Prepared test own before c) (net : Network) (r : Nat) :
    Settled test own before
      (Runs.run (Collector.ask test net r) c (List.range maximumMicroServerCardNumber)) := by
  obtain ⟨S, hS, hself⟩ := h
  rw [Settled, (asked_frame r _).1, ← hself]
  exact hS.asked net r maximumMicroServerCardNumber

theorem Prepared.round (h : Prepared test own before c) (net : Network) (r : Nat) :
    Settled test own before (c.round test net r) :=
  Runs.invariant (I := Settled test own before) (fun _ d hc => hc.collect d) (h.asked net r)
    (net.delivered r)

theorem round_received (r : Nat) :
    (c.round test net r).received = c.received ++ net.delivered r := by
  rw [round, collected_received, (asked_frame r _).1]

theorem round_within (r : Nat) :
    Within (c.round test net r) ↔ Within c ∧ ∀ d ∈ net.delivered r, test.FromCard d := by
  rw [round, collected_within, Within, (asked_frame r _).2]
  rfl

end Rounds

section Verdict

variable (test : MemberTest) (net : Network) (around : Int → UInt32) (s : Station)

theorem requestMember_within :
    Within (requestMember test net around s) ↔
      ∀ d ∈ (requestMember test net around s).received, test.FromCard d := by
  refine Retry.invariant (I := fun c => Within c ↔ ∀ d ∈ c.received, test.FromCard d)
    (fun r c h => ?_) _ _
    (iff_of_true (fun _ h => absurd h List.not_mem_nil) fun _ h => absurd h List.not_mem_nil)
  rw [round_within, round_received, List.forall_mem_append, h]

theorem requestMember_heard :
    (requestMember test net around s).received = test.heard net around s ∧
      Settled test s.chassis.usCardNumber (start around s).testResult
        (requestMember test net around s) := by
  refine Retry.simulates
    (I := fun c log => c.received = log ∧
      Prepared test s.chassis.usCardNumber (start around s).testResult c)
    (J := fun c log => c.received = log ∧
      Settled test s.chassis.usCardNumber (start around s).testResult c)
    ?_ (fun c log h => ⟨h.1, h.2.prepared⟩) ?_ (test.count - 1) 0 ⟨rfl, start_prepared around s⟩
  · rintro r c _ ⟨rfl, hc⟩
    exact ⟨round_received r, hc.round net r⟩
  · rintro c _ ⟨rfl, hc⟩
    rw [hc.count]
    rfl

structure MarksExactly (own : Nat) (c : Collector) : Prop where
  marked : ∀ k ∈ cards, c.testResult ((k : Int) - 1) = 1 ↔
    k = own ∨ ∃ d ∈ c.received, test.Answers k d
  unmarked : ∀ k ∈ cards, c.testResult ((k : Int) - 1) ≠ 1 → c.testResult ((k : Int) - 1) = 0
  count : c.successCount = (cards.filter fun k : Nat => c.testResult (k - 1) = 1).card
  within : Within c

variable {test around s}

theorem Settled.marksExactly {own : Nat} {c : Collector}
    (h : Settled test own (start around s).testResult c) (hcard : ∀ d ∈ c.received, test.FromCard d)
    (hwithin : Within c) : MarksExactly test own c := by
  have hzero : ∀ k ∈ cards, (start around s).testResult ((k : Int) - 1) = 0 :=
    fun k hk => if_pos (inTable_pred.mpr hk)
  have hcell : ∀ k ∈ cards, c.testResult ((k : Int) - 1) = 1 ↔ k ∈ test.numbers own c.received := by
    intro k hk
    rw [h.cells k, hzero k hk]
    split_ifs with hmem
    · exact iff_of_true rfl hmem
    · exact iff_of_false (by decide) hmem
  have hsubset : test.numbers own c.received ⊆ cards := numbers_subset hcard
  have hall : ∀ k ∈ test.numbers own c.received,
      (start around s).testResult ((k : Int) - 1) ≠ 1 := by
    intro k hk
    rw [hzero k (hsubset hk)]
    decide
  refine ⟨fun k hk => ?_, fun k hk hne => ?_, ?_, hwithin⟩
  · rw [hcell k hk, mem_numbers hk]
  · rw [h.cells k, if_neg fun hmem => hne ((hcell k hk).mpr hmem), hzero k hk]
  · rw [h.count, Finset.filter_congr hcell, Finset.filter_mem_eq_inter,
      Finset.inter_eq_right.mpr hsubset, Finset.filter_true_of_mem hall]

variable (test around s)

theorem member_test_exact_iff :
    MarksExactly test s.chassis.usCardNumber (test.perform net around s) ↔
      ∀ d ∈ test.heard net around s, test.FromCard d := by
  obtain ⟨hreceived, hsettled⟩ := requestMember_heard test net around s
  rw [perform_eq, ← hreceived]
  refine ⟨fun h => (requestMember_within test net around s).mp h.within, fun h => ?_⟩
  exact hsettled.marksExactly h ((requestMember_within test net around s).mpr h)

end Verdict

def namelessReply : List UInt8 := [0, 0, 0, 0, 0x8d, 0x4e] ++ List.replicate 262 0

def namelessNetwork : Network :=
  ⟨5, fun _ _ => default, fun r => if r = 0 then [namelessReply] else []⟩

def masterStation : Station :=
  { UdpServer.masterServer with
    memberNumber := Vector.ofFn fun i =>
      if i.val = 32 ∨ i.val = 36 then UInt32.ofNat (i.val + 1) else 0 }

theorem nameless_reply_out_of_table :
    ¬ ∀ (test : MemberTest) (net : Network) (around : Int → UInt32) (s : Station),
      MarksExactly test s.chassis.usCardNumber (test.perform net around s) := by
  intro h
  have hmem : -1 ∈ (MemberTest.pingTest.perform namelessNetwork (fun _ => 0)
      masterStation).accesses := by decide +kernel
  have hin := (h .pingTest namelessNetwork (fun _ => 0) masterStation).within _ hmem
  exact absurd hin.1 (by decide)

end Collector

end Chassisd
