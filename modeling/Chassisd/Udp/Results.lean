import Chassisd.Library.Runs
import Chassisd.Udp.Server

namespace Chassisd

inductive TestKind where
  | traffic
  | health
  | anytoany
  deriving DecidableEq, Repr

namespace TestKind

def request : TestKind → UInt16
  | traffic => trafficRequest
  | health => healthRequest
  | anytoany => anytoanyRequest

def resultRequest : TestKind → UInt16
  | traffic => trafficResultRequest
  | health => healthResultRequest
  | anytoany => anytoanyResultRequest

def result : TestKind → UInt16
  | traffic => trafficResult
  | health => healthResult
  | anytoany => anytoanyResult

def ofType (type : UInt16) : Option TestKind :=
  if type = trafficRequest then some traffic
  else if type = healthRequest then some health
  else if type = anytoanyRequest then some anytoany
  else none

end TestKind

structure Arrival where
  driver : Driver
  command : SystemCommand
  datagram : List UInt8

namespace Arrival

open UdpServer

def buf (a : Arrival) : List UInt8 := a.datagram.take bufSize

def type (a : Arrival) : UInt16 := (UdpPacketCommandHeader.ofBytes a.buf).type

def recev (a : Arrival) (s : UdpServer) : Reception :=
  updServerRecev a.driver a.command a.datagram s

def serve (a : Arrival) (s : UdpServer) : UdpServer := (a.recev s).server

def test (a : Arrival) : Option (TestKind × UInt16) :=
  if a.buf.length = 0 then none
  else (TestKind.ofType a.type).map fun kind => (kind, a.command a.type (copyParams a.buf).2)

def AsksResult (kind : TestKind) (a : Arrival) : Prop :=
  a.buf.length ≠ 0 ∧ a.type = kind.resultRequest

end Arrival

def lastTest (history : List Arrival) : Option UInt16 :=
  (history.filterMap Arrival.test).getLast?.map Prod.snd

def lastOwnTest (kind : TestKind) (history : List Arrival) : Option UInt16 :=
  ((history.filterMap Arrival.test).filter fun t => t.1 = kind).getLast?.map Prod.snd

def startServer (chassis : ChassisData)
    (usHwInformation : Vector UsHwData maximumMicroServerCardNumber) : UdpServer :=
  ⟨chassis, usHwInformation, 0⟩

section Reception

open UdpServer

variable (driver : Driver) (command : SystemCommand) (buf : List UInt8) (s : UdpServer)

theorem parse_lastPayload : (udpServerDoParseUdp buf s).1.lastPayload = s.lastPayload := by
  simp only [udpServerDoParseUdp]
  split_ifs <;> rfl

theorem answer_lastPayload (type : UInt16) :
    (answer driver command type buf s).server.lastPayload =
      match TestKind.ofType type with
      | some _ => command type (copyParams buf).2
      | none => s.lastPayload := by
  by_cases hknown : (type ∈ indexTypes ∨ type ∈ plainTypes) ∨ type ∈ paramsTypes
  · simp only [mem_indexTypes, mem_plainTypes, mem_paramsTypes] at hknown
    rcases hknown with ((rfl | rfl | rfl) | rfl | rfl | rfl | rfl) | rfl | rfl | rfl | rfl
    any_goals rfl
    simp only [answer, receiveAnytoany, receiveGroupTest]
    exact congrArg (command anytoanyRequest) ((apply_ite Prod.snd _ _ _).trans (ite_self _))
  · simp only [mem_indexTypes, mem_plainTypes, mem_paramsTypes, not_or] at hknown
    simp only [answer, TestKind.ofType, hknown, if_false]
    rfl

end Reception

section Remembered

open UdpServer

theorem recev_answer {a : Arrival} (h : a.buf.length ≠ 0) (s : UdpServer) :
    (a.recev s).server =
        (answer a.driver a.command a.type a.buf (udpServerDoParseUdp a.buf s).1).server ∧
      (a.recev s).replies =
        (answer a.driver a.command a.type a.buf (udpServerDoParseUdp a.buf s).1).replies := by
  have hbuf : ¬ (a.datagram.take bufSize).length = 0 := h
  unfold Arrival.recev updServerRecev
  simp only [if_neg hbuf, parse_type]
  exact ⟨rfl, rfl⟩

theorem serve_lastPayload (a : Arrival) (s : UdpServer) :
    (a.serve s).lastPayload = (a.test.map Prod.snd).getD s.lastPayload := by
  unfold Arrival.test
  split_ifs with hempty
  · have hbuf : (a.datagram.take bufSize).length = 0 := hempty
    unfold Arrival.serve Arrival.recev updServerRecev
    simp only [if_pos hbuf]
    rfl
  · rw [Arrival.serve, (recev_answer hempty s).1, answer_lastPayload, parse_lastPayload]
    cases TestKind.ofType a.type <;> rfl

theorem lastTest_concat (history : List Arrival) (a : Arrival) :
    lastTest (history ++ [a]) = (a.test.map Prod.snd).or (lastTest history) := by
  unfold lastTest
  rw [List.filterMap_append, List.filterMap_cons]
  cases a.test with
  | none => simp
  | some t => simp

-- One variable keeps the outcome of whichever test came last; it starts as zero.
theorem run_lastPayload (s : UdpServer) (history : List Arrival) :
    (Runs.run Arrival.serve s history).lastPayload = (lastTest history).getD s.lastPayload := by
  induction history using List.reverseRecOn with
  | nil => rfl
  | append_singleton history a ih =>
    rw [Runs.run_concat, serve_lastPayload, ih, lastTest_concat]
    cases a.test.map Prod.snd <;> rfl

theorem replies_result {kind : TestKind} {a : Arrival} (h : a.AsksResult kind) (s : UdpServer) :
    (a.recev s).replies = [s.reply kind.result (resultOf s.lastPayload)] := by
  obtain ⟨hne, htype⟩ := h
  rw [(recev_answer hne s).2, htype]
  unfold Arrival.type at htype
  cases kind <;> simp only [udpServerDoParseUdp, htype] <;> rfl

theorem resultOf_eq_success {payload : UInt16} :
    resultOf payload = resultSuccess ↔ payload = 0 := by
  unfold resultOf
  split_ifs with h
  · exact iff_of_true rfl h
  · exact iff_of_false (by decide) h

end Remembered

section OwnKind

variable (s : UdpServer)

def AnswersSuccess (s : UdpServer) (a : Arrival) : Prop :=
  (a.recev s).replies.map UdpReply.payload = [.word resultSuccess]

def ReportsOwnKind (history : List Arrival) (a : Arrival) : Prop :=
  ∀ kind : TestKind, a.AsksResult kind →
    (AnswersSuccess (Runs.run Arrival.serve s history) a ↔ lastOwnTest kind history = some 0)

def LastTestAgrees (history : List Arrival) (a : Arrival) : Prop :=
  ∀ kind : TestKind, a.AsksResult kind →
    match lastOwnTest kind history with
    | some outcome => outcome = 0 ↔ lastTest history = some 0
    | none => ∃ outcome, lastTest history = some outcome ∧ outcome ≠ 0

theorem answersSuccess_iff {kind : TestKind} {a : Arrival} (h : a.AsksResult kind) :
    AnswersSuccess s a ↔ s.lastPayload = 0 := by
  unfold AnswersSuccess
  rw [replies_result h, List.map_singleton, List.singleton_inj, ← resultOf_eq_success]
  exact ⟨Payload.word.inj, congrArg Payload.word⟩

theorem lastTest_of_own {kind : TestKind} {history : List Arrival} {outcome : UInt16}
    (h : lastOwnTest kind history = some outcome) : ∃ other, lastTest history = some other := by
  unfold lastOwnTest at h
  unfold lastTest
  cases hlog : history.filterMap Arrival.test with
  | nil => rw [hlog] at h; cases h
  | cons t log => exact ⟨_, by rw [List.getLast?_cons]; rfl⟩

theorem result_of_own_kind_iff (chassis : ChassisData)
    (usHwInformation : Vector UsHwData maximumMicroServerCardNumber) (es : List Arrival) :
    Runs.Along Runs.remember (ReportsOwnKind (startServer chassis usHwInformation)) [] es ↔
      Runs.Along Runs.remember LastTestAgrees [] es := by
  refine Runs.along_iff (I := fun _ => True) (fun _ _ _ _ => trivial) (fun history a _ => ?_)
    trivial
  refine forall₂_congr fun kind hask => ?_
  rw [answersSuccess_iff _ hask, run_lastPayload]
  change ((lastTest history).getD 0 = 0 ↔ _) ↔ _
  cases hown : lastOwnTest kind history with
  | none =>
    cases lastTest history with
    | none => simp
    | some outcome => simp
  | some outcome =>
    obtain ⟨other, hother⟩ := lastTest_of_own hown
    rw [hother]
    simp only [Option.getD_some, Option.some_inj]
    tauto

def arrivalOf (type : UInt16) : Arrival :=
  ⟨fun _ => 0, fun type _ => if type = trafficRequest then 1 else 0,
    [0, 0, 0, 0] ++ (bytesOfUInt16 type).toList⟩

theorem health_test_hides_traffic_failure :
    ¬ ∀ (chassis : ChassisData) (usHwInformation : Vector UsHwData maximumMicroServerCardNumber)
      (es : List Arrival),
      Runs.Along Runs.remember (ReportsOwnKind (startServer chassis usHwInformation)) [] es := by
  intro h
  have hask : (arrivalOf trafficResultRequest).AsksResult .traffic := by
    refine ⟨?_, ?_⟩ <;> decide +kernel
  have hlast := (h UdpServer.masterServer.chassis UdpServer.masterServer.usHwInformation
    [arrivalOf trafficRequest, arrivalOf healthRequest, arrivalOf trafficResultRequest]).2.2.1
    .traffic hask
  rw [answersSuccess_iff _ hask, run_lastPayload] at hlast
  have hzero : lastTest ([] ++ [arrivalOf trafficRequest] ++ [arrivalOf healthRequest]) =
      some 0 := by decide +kernel
  have hown : lastOwnTest .traffic ([] ++ [arrivalOf trafficRequest] ++
      [arrivalOf healthRequest]) = some 1 := by decide +kernel
  have hsuccess := hlast.mp (congrArg (fun t => t.getD 0) hzero)
  exact absurd (hown.symm.trans hsuccess) (by decide)

end OwnKind

end Chassisd
