import Chassisd.Tcp.Client
import Chassisd.Udp.Results

namespace Chassisd

open MemberTest

section Cells

variable {test : GroupTest} {net : Network} {said : Nat → UInt32 → Prop} {base : UInt32 → Prop}
variable {g : GroupRun} {datagram : List UInt8}

def Backed (base : UInt32 → Prop) (said : Nat → UInt32 → Prop) (result : Int → UInt32) : Prop :=
  ∀ k ∈ cards, base (result ((k : Int) - 1)) ∨ said k (result ((k : Int) - 1))

def Told (test : GroupTest) (said : Nat → UInt32 → Prop) (datagram : List UInt8) : Prop :=
  ∀ k word, test.report datagram = some (k, word) → said k word

theorem cards_pred {k : Nat} (hk : k ∈ cards) :
    (k : Int) - 1 = (k - 1 : Nat) ∧ k - 1 ∈ List.range maximumMicroServerCardNumber := by
  obtain ⟨hlow, hhigh⟩ := mem_cards.mp hk
  exact ⟨by omega, List.mem_range.mpr (Nat.lt_of_lt_of_le (Nat.sub_lt hlow Nat.one_pos) hhigh)⟩

-- The words a test writes by itself are those it starts with and the mark of a request.
theorem backed_preserves (hbase : base Entry.ready)
    (htold : ∀ r, ∀ d ∈ net.delivered r, Told test said d) :
    GroupRun.Preserves test net (Backed base said) where
  ask i _ table h k hk := by
    by_cases hindex : (k : Int) - 1 = i
    · rw [hindex, Function.update_self]
      exact .inl hbase
    · rw [Function.update_of_ne hindex]
      exact h k hk
  store r d hd number word hreport table h k hk := by
    by_cases hnumber : number = k
    · rw [← hnumber, Function.update_self]
      exact .inr (htold r d hd number word hreport)
    · rw [Function.update_of_ne (by omega)]
      exact h k hk

theorem poll_result (r j i : Nat) : (g.poll test net r j).result i =
    if i = j ∧ g.result i = Entry.notReady then Entry.ready else g.result i := by
  unfold GroupRun.poll
  by_cases hfree : g.result j = Entry.notReady
  · rw [if_pos hfree]
    by_cases hindex : i = j
    · subst hindex
      rw [if_pos ⟨rfl, hfree⟩]
      exact Function.update_self ..
    · rw [if_neg fun h => hindex h.1]
      exact Function.update_of_ne (by omega) _ _
  · rw [if_neg hfree, if_neg]
    rintro ⟨rfl, hzero⟩
    exact hfree hzero

theorem polled_result (r : Nat) (is : List Nat) (i : Nat) :
    (Runs.run (GroupRun.poll test net r) g is).result i =
      if i ∈ is ∧ g.result i = Entry.notReady then Entry.ready else g.result i := by
  induction is generalizing g with
  | nil => exact (if_neg fun h => List.not_mem_nil h.1).symm
  | cons j is ih =>
    simp only [Runs.run_cons, ih, poll_result, List.mem_cons]
    by_cases hindex : i = j
    · by_cases hfree : g.result i = Entry.notReady
      · simp [hindex, hindex ▸ hfree]
      · simp [hfree]
    · simp [hindex]

def Idle (word : UInt32) : Prop := word = Entry.notReady ∨ word = Entry.ready

theorem ready_round (hall : test.polled = List.range maximumMicroServerCardNumber)
    (htold : ∀ r, ∀ d ∈ net.delivered r, Told test said d) (r : Nat)
    (h : Backed Idle said g.result) :
    Backed (· = Entry.ready) said (g.round test net r).result := by
  have hstores : GroupRun.Preserves test net (Backed (· = Entry.ready) said) :=
    backed_preserves rfl htold
  refine GroupRun.collected_preserves hstores false r fun k hk => ?_
  obtain ⟨hindex, hmem⟩ := cards_pred hk
  have hcell := h k hk
  rw [hindex] at hcell
  rw [hindex, polled_result, hall]
  split_ifs with hfree
  · exact .inl rfl
  · rcases hcell with (hzero | hready) | hsaid
    · exact absurd ⟨hmem, hzero⟩ hfree
    · exact .inl hready
    · exact .inr hsaid

variable (test) in
theorem ready_perform (hall : test.polled = List.range maximumMicroServerCardNumber)
    (htold : ∀ r, ∀ d ∈ net.delivered r, Told test said d) {table : Int → UInt32}
    (h : Backed Idle said table) (s : Station) :
    Backed (· = Entry.ready) said (test.perform net table s).result :=
  GroupRun.perform_of_rounds (backed_preserves rfl htold)
    (Retry.established (I := fun g : GroupRun => Backed Idle said g.result)
      (J := fun g : GroupRun => Backed (· = Entry.ready) said g.result)
      (fun r _ hg => ready_round hall htold r hg)
      (fun _ hg k hk => (hg k hk).imp_left .inr) _ 0 h)

end Cells

section Replies

open UdpServer

def wordBytes (r : UdpReply) (word : UInt16) : List UInt8 :=
  (bytesOfUInt32 r.usCardNumber).toList ++ ((bytesOfUInt16 r.type).toList ++
    ((bytesOfUInt16 r.length).toList ++ (List.replicate 258 0 ++ (bytesOfUInt16 word).toList)))

variable {r : UdpReply} {word : UInt16}

theorem recvline_wordBytes : recvline (wordBytes r word) = wordBytes r word := by
  refine List.take_of_length_le ?_
  rw [wordBytes, List.length_append, List.length_append, List.length_append, List.length_append,
    List.length_replicate, Vector.length_toList, Vector.length_toList, Vector.length_toList,
    Vector.length_toList]
  decide

theorem wordBytes_number :
    (UdpPacketCommandHeader.ofBytes (wordBytes r word)).usCardNumber = r.usCardNumber :=
  (congrArg uInt32OfBytes (bytesAt_toList _ _)).trans (uInt32OfBytes_bytesOfUInt32 _)

theorem wordBytes_type :
    (UdpPacketCommandHeader.ofBytes (wordBytes r word)).type = r.type :=
  halfAt_append (bytesOfUInt32 r.usCardNumber).toList _ r.type

theorem uInt32_of_half (x : UInt16) :
    uInt32OfBytes #v[x.toUInt8, (x >>> 8).toUInt8, 0, 0] = x.toUInt32 := by
  apply UInt32.toBitVec_inj.mp
  refine BitVec.eq_of_getLsbD_eq fun i hi => ?_
  simp only [uInt32OfBytes, UInt32.toBitVec_or, UInt32.toBitVec_shiftLeft,
    UInt8.toBitVec_toUInt32, UInt16.toBitVec_toUInt32]
  interval_cases i <;> simp

theorem payloadAt_wordBytes : payloadAt (wordBytes r word) = word.toUInt32 := by
  have hskip := bytesAt_append_right ((bytesOfUInt32 r.usCardNumber).toList ++
    ((bytesOfUInt16 r.type).toList ++ ((bytesOfUInt16 r.length).toList ++ List.replicate 258 0)))
    (bytesOfUInt16 word).toList 0 4
  have hlength : ((bytesOfUInt32 r.usCardNumber).toList ++ ((bytesOfUInt16 r.type).toList ++
      ((bytesOfUInt16 r.length).toList ++ List.replicate 258 (0 : UInt8)))).length =
        UdpPacketCommandHeader.sizeof := by
    rw [List.length_append, List.length_append, List.length_append, List.length_replicate,
      Vector.length_toList, Vector.length_toList, Vector.length_toList]
    rfl
  rw [hlength] at hskip
  simp only [List.append_assoc] at hskip
  rw [payloadAt, wordBytes]
  exact (congrArg uInt32OfBytes hskip).trans (uInt32_of_half word)

def TestKind.reply : TestKind → UInt16
  | traffic => trafficReply
  | health => healthReply
  | anytoany => anytoanyReply

structure Answered (kind : TestKind) (a : Arrival) (s : UdpServer) (datagram : List UInt8) :
    Prop where
  nonempty : a.buf.length ≠ 0
  type : a.type = kind.request ∨ a.type = kind.resultRequest
  sent : ∃ r ∈ (a.recev s).replies, ∃ word, r.payload = .word word ∧ datagram = wordBytes r word

theorem replies_request {kind : TestKind} {a : Arrival} (hne : a.buf.length ≠ 0)
    (htype : a.type = kind.request) (s : UdpServer) : (a.recev s).replies =
      [s.reply kind.reply resultAck, s.reply kind.result (resultOf (a.serve s).lastPayload)] := by
  rw [Arrival.serve, (recev_answer hne s).2, (recev_answer hne s).1, htype]
  unfold Arrival.type at htype
  cases kind with
  | traffic => simp only [udpServerDoParseUdp, htype]; rfl
  | health => simp only [udpServerDoParseUdp, htype]; rfl
  | anytoany =>
    simp only [udpServerDoParseUdp, htype, answer, receiveAnytoany, receiveGroupTest]
    rfl

theorem serve_resultRequest {kind : TestKind} {a : Arrival} (htype : a.type = kind.resultRequest)
    (s : UdpServer) : (a.serve s).lastPayload = s.lastPayload := by
  have hnone : a.test = none := by
    unfold Arrival.test
    rw [htype]
    split_ifs
    · rfl
    · cases kind <;> rfl
  rw [serve_lastPayload, hnone]
  rfl

theorem answered_word {kind : TestKind} {a : Arrival} {s : UdpServer} {datagram : List UInt8}
    (h : Answered kind a s datagram) :
    datagram = wordBytes (s.reply kind.reply resultAck) resultAck ∨
      datagram = wordBytes (s.reply kind.result (resultOf (a.serve s).lastPayload))
        (resultOf (a.serve s).lastPayload) := by
  obtain ⟨r, hr, word, hword, rfl⟩ := h.sent
  rcases h.type with htype | htype
  · rw [replies_request h.nonempty htype, List.mem_cons, List.mem_singleton] at hr
    rcases hr with rfl | rfl
    · obtain rfl := Payload.word.inj hword
      exact .inl rfl
    · obtain rfl := Payload.word.inj hword
      exact .inr rfl
  · rw [replies_result ⟨h.nonempty, htype⟩, List.mem_singleton,
      ← serve_resultRequest htype] at hr
    obtain rfl := hr
    obtain rfl := Payload.word.inj hword
    exact .inr rfl

def GroupTest.kind : GroupTest → TestKind
  | trafficLineCard _ | trafficFabricCard _ => .traffic
  | health => .health
  | anytoany _ => .anytoany

theorem report_wordBytes (test : GroupTest) :
    test.report (wordBytes r word) =
      if r.type = test.kind.result then some (r.usCardNumber.toNat, word.toUInt32)
      else if r.type = test.kind.reply then some (r.usCardNumber.toNat, Entry.ack) else none := by
  have hcheck : ∀ result reply,
      (checkPacket result reply (recvline (wordBytes r word))).map (fun r => (r.1.toNat, r.2)) =
        if r.type = result then some (r.usCardNumber.toNat, word.toUInt32)
        else if r.type = reply then some (r.usCardNumber.toNat, Entry.ack) else none := by
    intro result reply
    rw [checkPacket, recvline_wordBytes, wordBytes_type, wordBytes_number, payloadAt_wordBytes]
    split_ifs <;> rfl
  cases test <;> exact hcheck _ _

theorem answered_report {test : GroupTest} {a : Arrival} {s : UdpServer} {datagram : List UInt8}
    {k : Nat} {word : UInt32} (h : Answered test.kind a s datagram)
    (hreport : test.report datagram = some (k, word)) :
    s.ownNumber.toNat = k ∧
      (word = Entry.ack ∨ word = (resultOf (a.serve s).lastPayload).toUInt32) := by
  rcases answered_word h with rfl | rfl
  · rw [report_wordBytes] at hreport
    split_ifs at hreport
    · obtain ⟨rfl, rfl⟩ := Prod.ext_iff.mp (Option.some.inj hreport)
      exact ⟨rfl, .inl rfl⟩
    · obtain ⟨rfl, rfl⟩ := Prod.ext_iff.mp (Option.some.inj hreport)
      exact ⟨rfl, .inl rfl⟩
  · rw [report_wordBytes] at hreport
    split_ifs at hreport
    · obtain ⟨rfl, rfl⟩ := Prod.ext_iff.mp (Option.some.inj hreport)
      exact ⟨rfl, .inr rfl⟩
    · obtain ⟨rfl, rfl⟩ := Prod.ext_iff.mp (Option.some.inj hreport)
      exact ⟨rfl, .inl rfl⟩

theorem answered_report_ne_zero {test : GroupTest} {a : Arrival} {s : UdpServer}
    {datagram : List UInt8} {k : Nat} {word : UInt32} (h : Answered test.kind a s datagram)
    (hreport : test.report datagram = some (k, word)) : word ≠ 0 := by
  rintro rfl
  obtain ⟨-, hack | hresult⟩ := answered_report h hreport
  · exact absurd hack (by decide)
  · unfold UdpServer.resultOf at hresult
    split_ifs at hresult <;> exact absurd hresult (by decide)

end Replies

section Verdicts

open ClientRequest

variable {w : Surroundings} (usCardNumber : UInt32) (memory : Nat → UInt8) (rest : List UInt8)
variable {said : Nat → UInt32 → Prop} {base : UInt32 → Prop} {k : Nat}

theorem backed_cleared (w : Surroundings) : Backed Idle said w.cleared :=
  fun k hk => by
    have hcell : w.cleared ((k : Int) - 1) = 0 :=
      if_pos (Collector.inTable_pred.mpr hk)
    exact .inl (.inl hcell)

theorem health_client_passes_all (option : Int)
    (hcards : ∀ r, ∀ d ∈ (w.net 0).delivered r, ∃ a s, Answered .health a s d) (hk : k ∈ cards) :
    Displays ((healthTest option).session w usCardNumber memory rest) k true := by
  refine (shows_session w usCardNumber memory rest ClientRequest.noConfusion).mpr
    ⟨hk, ?_⟩
  have hbacked : Backed (· = Entry.ready) (fun _ word => word ≠ 0)
      ((healthTest option).asked.table w) :=
    ready_perform .health rfl
      (fun r d hd k word hreport => by
        obtain ⟨a, s, h⟩ := hcards r d hd
        exact @answered_report_ne_zero .health _ _ _ _ _ h hreport) (backed_cleared w) w.station
  refine decide_eq_true fun hzero => ?_
  rcases hbacked k hk with hready | hne
  · rw [hzero] at hready
    exact absurd hready (by decide)
  · exact hne hzero

def ClientRequest.collected : ClientRequest → Option MemberTest
  | pingTest => some .pingTest
  | powerCycle => some .powerCycle
  | _ => none

theorem shown_iff_answered {request : ClientRequest} {test : MemberTest}
    (hrequest : request.collected = some test)
    (hcards : ∀ d ∈ test.heard (w.net 0) w.around w.station, test.FromCard d) (hk : k ∈ cards) :
    Displays (request.session w usCardNumber memory rest) k true ↔
      k = w.station.chassis.usCardNumber ∨
        ∃ d ∈ test.heard (w.net 0) w.around w.station, test.Answers k d := by
  have hhw : request ≠ ClientRequest.hwInformation := by
    rintro rfl
    exact absurd hrequest (by simp [collected])
  have htable : request.asked.table w = (test.perform (w.net 0) w.around w.station).testResult ∧
      ∀ word, request.passed word = decide (word ≠ 0) := by
    cases request with
    | pingTest => obtain rfl := Option.some.inj hrequest; exact ⟨rfl, fun _ => rfl⟩
    | powerCycle => obtain rfl := Option.some.inj hrequest; exact ⟨rfl, fun _ => rfl⟩
    | _ => exact absurd hrequest (by simp [collected])
  obtain ⟨hreceived, hsettled⟩ := Collector.requestMember_heard test (w.net 0) w.around w.station
  have hcards' := hcards
  rw [← hreceived] at hcards' ⊢
  have hmarks := hsettled.marksExactly hcards'
    ((Collector.requestMember_within test (w.net 0) w.around w.station).mpr hcards')
  rw [shows_session w usCardNumber memory rest hhw, and_iff_right hk, htable.1, htable.2,
    decide_eq_true_iff, test.perform_eq, ← hmarks.marked k hk]
  constructor
  · intro hne
    by_contra hone
    exact hne (hmarks.unmarked k hk hone)
  · intro hone
    rw [hone]
    decide

end Verdicts

section Examples

open ClientRequest

def cardServer (k : Nat) (payload : UInt16) : UdpServer :=
  { UdpServer.masterServer with chassis := masterPair.chassis k, lastPayload := payload }

def resultDatagram (kind : TestKind) (payload : UInt16) (k : Nat) : List UInt8 :=
  wordBytes ((cardServer k payload).reply kind.result (UdpServer.resultOf payload))
    (UdpServer.resultOf payload)

theorem answered_resultDatagram (kind : TestKind) (payload : UInt16) (k : Nat) :
    Answered kind (arrivalOf kind.resultRequest) (cardServer k payload)
      (resultDatagram kind payload k) := by
  have hasks : (arrivalOf kind.resultRequest).AsksResult kind := by
    cases kind <;> exact ⟨by decide, by decide⟩
  exact ⟨hasks.1, .inr hasks.2, _, by rw [replies_result hasks]; exact List.mem_singleton.mpr rfl,
    _, rfl, rfl⟩

def resultSurroundings (kind : TestKind) (payload : UInt16) : Surroundings :=
  ⟨Collector.masterStation,
    fun _ => ⟨5, fun _ _ => default,
      fun r => if r = 0 then [5, 6, 7, 8].map (resultDatagram kind payload) else []⟩, fun _ => 0⟩

theorem answered_resultSurroundings (kind : TestKind) (payload : UInt16) (j r : Nat) :
    ∀ d ∈ ((resultSurroundings kind payload).net j).delivered r, ∃ a s, Answered kind a s d := by
  intro d hd
  have hmem := List.takeWhile_subset _ hd
  change d ∈ (if r = 0 then _ else _) at hmem
  split_ifs at hmem
  · obtain ⟨k, -, rfl⟩ := List.mem_map.mp hmem
    exact ⟨_, _, answered_resultDatagram kind payload k⟩
  · exact absurd hmem List.not_mem_nil

theorem failed_card_shown_passed :
    Displays ((healthTest 0).session (resultSurroundings .health 1) 33 (fun _ => 0) []) 5 true :=
  health_client_passes_all 33 (fun _ => 0) [] 0 (answered_resultSurroundings .health 1 0)
    (by decide)

def pingDatagram : List UInt8 := wordBytes ((cardServer 1 0).reply pingTestReply 0) 0

def pingSurroundings : Surroundings :=
  ⟨Collector.masterStation,
    fun _ => ⟨5, fun _ _ => default, fun r => if r = 0 then [pingDatagram] else []⟩, fun _ => 0⟩

theorem answering_card_shown :
    Displays (pingTest.session pingSurroundings 33 (fun _ => 0) []) 1 true := by
  have hanswer : MemberTest.pingTest.Answers 1 pingDatagram := by decide
  have hheard : MemberTest.pingTest.heard (pingSurroundings.net 0) pingSurroundings.around
      pingSurroundings.station = [pingDatagram] := by decide +kernel
  refine (@shown_iff_answered pingSurroundings 33 (fun _ => 0) [] 1 pingTest .pingTest rfl
    ?_ (by decide)).mpr (.inr ⟨pingDatagram, ?_, hanswer⟩)
  · intro d hd
    rw [hheard, List.mem_singleton] at hd
    rw [hd]
    exact (Collector.fromCard_iff (by decide) hanswer).mpr (by decide)
  · rw [hheard]
    exact List.mem_singleton.mpr rfl

end Examples

end Chassisd
