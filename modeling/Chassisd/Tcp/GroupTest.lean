import Chassisd.Tcp.Collect

namespace Chassisd

namespace Entry

abbrev notReady : UInt32 := 0
abbrev ready : UInt32 := 1
abbrev ack : UInt32 := resultAck.toUInt32
abbrev failed : UInt32 := resultFailed.toUInt32
abbrev success : UInt32 := resultSuccess.toUInt32

end Entry

abbrev countHealth : Nat := 100

-- Indexed by the option, which the only caller keeps below 10.
def lineCardWaitTime : List Nat := [5, 50, 50, 50, 45, 50, 10, 10, 10, 10]

def fabricCardWaitTime : List Nat := [5, 50, 50, 50, 45, 20, 10, 10, 10, 40]

def checkPacket (result reply : UInt16) (recvline : List UInt8) : Option (UInt32 × UInt32) :=
  let receiver := UdpPacketCommandHeader.ofBytes recvline
  if receiver.type = result then some (receiver.usCardNumber, payloadAt recvline)
  else if receiver.type = reply then some (receiver.usCardNumber, Entry.ack)
  else none

def tcpServerDoCheckTrafficPacket : List UInt8 → Option (UInt32 × UInt32) :=
  checkPacket trafficResult trafficReply

def tcpServerDoCheckHealthPacket : List UInt8 → Option (UInt32 × UInt32) :=
  checkPacket healthResult healthReply

def tcpServerDoCheckAnytoanyPacket : List UInt8 → Option (UInt32 × UInt32) :=
  checkPacket anytoanyResult anytoanyReply

inductive GroupTest where
  | trafficLineCard (option : UInt16)
  | trafficFabricCard (option : UInt16)
  | health
  | anytoany (paras : AnytoanyCommandParameter)
  deriving DecidableEq, Repr

namespace GroupTest

def polled : GroupTest → List Nat
  | trafficLineCard _ =>
    (List.range maximumMicroServerCardNumber).filter fun i => ¬ (4 ≤ i ∧ i ≤ 7)
  | trafficFabricCard _ => [4, 5, 6, 7]
  | health | anytoany _ => List.range maximumMicroServerCardNumber

def request : GroupTest → Sender
  | trafficLineCard option | trafficFabricCard option => .traffic option
  | health => .healthTest healthRequest
  | anytoany paras => .anytoany paras anytoanyRequest

def resultRequest : GroupTest → Sender
  | trafficLineCard _ | trafficFabricCard _ => .traffic trafficResultRequest
  | health => .healthTest healthResultRequest
  | anytoany paras => .anytoany paras anytoanyResultRequest

def check : GroupTest → List UInt8 → Option (UInt32 × UInt32)
  | trafficLineCard _ | trafficFabricCard _ => tcpServerDoCheckTrafficPacket
  | health => tcpServerDoCheckHealthPacket
  | anytoany _ => tcpServerDoCheckAnytoanyPacket

def chassisCount : GroupTest → Nat
  | trafficLineCard _ => 8
  | trafficFabricCard _ => 4
  | health | anytoany _ => maximumMicroServerCardNumber

def waitCount : GroupTest → Nat
  | trafficLineCard option => lineCardWaitTime.getD option.toNat 0
  | trafficFabricCard option => fabricCardWaitTime.getD option.toNat 0
  | health => countHealth
  | anytoany _ => 10

def lastRound (test : GroupTest) : Nat := test.waitCount - 1 + 1

end GroupTest

structure GroupRun where
  station : Station
  result : Int → UInt32
  successCount : UInt32
  ret : Bool
  sent : List UdpRequest

namespace GroupRun

def start (trafficStatus : Int → UInt32) (s : Station) : GroupRun :=
  ⟨s, trafficStatus, 0, false, []⟩

def send (sender : Sender) (net : Network) (r i : Nat) (g : GroupRun) : GroupRun :=
  let o := sender.send net.socketFd (net.stack r i) (i + 1 : Nat) g.station.toUdpServer
  { g with
    station := { g.station with chassis := o.chassis }
    sent := g.sent ++ o.request.toList }

def poll (test : GroupTest) (net : Network) (r i : Nat) (g : GroupRun) : GroupRun :=
  if g.result i = Entry.notReady then
    let g := g.send test.request net r i
    { g with result := Function.update g.result i Entry.ready }
  else g

def pollResult (test : GroupTest) (net : Network) (r i : Nat) (g : GroupRun) : GroupRun :=
  if g.result i = Entry.ack then g.send test.resultRequest net r i else g

def store (i : Int) (word : UInt32) (g : GroupRun) : GroupRun :=
  { g with
    result := Function.update g.result i word
    successCount :=
      if word = Entry.success ∨ word = Entry.failed then g.successCount + 1 else g.successCount }

-- A failure counts like a success; only the last round remembers it in ret.
def collect (test : GroupTest) (last : Bool) (datagram : List UInt8) (g : GroupRun) : GroupRun :=
  match test.check (recvline datagram) with
  | none => g
  | some (number, word) =>
    let index := CString.toInt number.toNat
    if 0 ≤ index ∧ g.result (index - 1) ≠ word then
      let g := g.store (index - 1) word
      { g with ret := g.ret || (last && word = Entry.failed) }
    else g

def round (test : GroupTest) (net : Network) (r : Nat) (g : GroupRun) : GroupRun :=
  Runs.run (collect test false) (Runs.run (poll test net r) g test.polled) (net.delivered r)

def lastRound (test : GroupTest) (net : Network) (g : GroupRun) : GroupRun :=
  Runs.run (collect test true) (Runs.run (pollResult test net test.lastRound) g test.polled)
    (net.delivered test.lastRound)

def missing (test : GroupTest) (g : GroupRun) : Bool := g.successCount.toNat < test.chassisCount

def rounds (test : GroupTest) (net : Network) (trafficStatus : Int → UInt32) (s : Station) :
    GroupRun :=
  Retry.attempts (round test net) (missing test) (test.waitCount - 1) 0 (start trafficStatus s)

def requestMember (test : GroupTest) (net : Network) (trafficStatus : Int → UInt32)
    (s : Station) : GroupRun :=
  let g := rounds test net trafficStatus s
  if g.missing test then g.lastRound test net else g

def status (test : GroupTest) (g : GroupRun) : Int := if g.ret ∨ g.missing test then 1 else 0

end GroupRun

def tcpServerDoTrafficTestLineCard (option : UInt16) :
    Network → (Int → UInt32) → Station → GroupRun :=
  GroupRun.requestMember (.trafficLineCard option)

def tcpServerDoTrafficTestFabricCard (option : UInt16) :
    Network → (Int → UInt32) → Station → GroupRun :=
  GroupRun.requestMember (.trafficFabricCard option)

def tcpServerDoHealthRequestMember : Network → (Int → UInt32) → Station → GroupRun :=
  GroupRun.requestMember .health

def tcpServerDoAnytoanyRequestMember (paras : AnytoanyCommandParameter) :
    Network → (Int → UInt32) → Station → GroupRun :=
  GroupRun.requestMember (.anytoany paras)

namespace GroupTest

def perform : GroupTest → Network → (Int → UInt32) → Station → GroupRun
  | trafficLineCard option => tcpServerDoTrafficTestLineCard option
  | trafficFabricCard option => tcpServerDoTrafficTestFabricCard option
  | health => tcpServerDoHealthRequestMember
  | anytoany paras => tcpServerDoAnytoanyRequestMember paras

theorem perform_eq (test : GroupTest) : test.perform = GroupRun.requestMember test := by
  cases test <;> rfl

open MemberTest Collector

variable (test : GroupTest) (table : Int → UInt32)

def report (datagram : List UInt8) : Option (Nat × UInt32) :=
  (test.check (recvline datagram)).map fun r => (r.1.toNat, r.2)

def heardWord (k : Nat) (word : UInt32) (datagram : List UInt8) : UInt32 :=
  match test.report datagram with
  | some (number, report) => if number = k then report else word
  | none => word

def entry (log : List (List UInt8)) (k : Nat) : UInt32 :=
  log.foldl (test.heardWord k) (table (k - 1))

def Denies (log : List (List UInt8)) (k : Nat) (word : UInt32) : Prop :=
  ∃ d ∈ log, ∃ r ∈ test.report d, r.1 = k ∧ r.2 ≠ word

instance (log : List (List UInt8)) (k : Nat) (word : UInt32) :
    Decidable (test.Denies log k word) :=
  inferInstanceAs (Decidable (∃ d ∈ log, ∃ r ∈ test.report d, _ ∧ _))

-- The cards that came to a success; an entry that has been one from the start is not counted.
def gained (log : List (List UInt8)) : Finset Nat :=
  cards.filter fun k => test.entry table log k = Entry.success ∧
    (table (k - 1) ≠ Entry.success ∨ test.Denies log k Entry.success)

-- No new failure before the last round, and nothing but a failure takes a counted success back.
def Keeps (last : Bool) (log : List (List UInt8)) (datagram : List UInt8) : Prop :=
  ∀ r ∈ test.report datagram,
    (r.2 = Entry.failed → last = true ∨ test.entry table log r.1 = Entry.failed) ∧
    (r.1 ∈ test.gained table log → r.2 = Entry.success ∨ r.2 = Entry.failed)

instance (last : Bool) (log : List (List UInt8)) (datagram : List UInt8) :
    Decidable (test.Keeps table last log datagram) :=
  inferInstanceAs (Decidable (∀ r ∈ test.report datagram, _ ∧ _))

def heard (net : Network) : List (List UInt8) :=
  Retry.attempts (fun r log => log ++ net.delivered r)
    (fun log => (test.gained table log).card < test.chassisCount) (test.waitCount - 1) 0 []

def lastHeard (net : Network) : List (List UInt8) :=
  if (test.gained table (test.heard table net)).card < test.chassisCount then
    net.delivered test.lastRound
  else []

structure Upright (net : Network) : Prop where
  fresh : ∀ k ∈ cards, table ((k : Int) - 1) = Entry.failed →
    test.Denies (test.heard table net ++ test.lastHeard table net) k Entry.failed
  rounds : Runs.Along Runs.remember (test.Keeps table false) [] (test.heard table net)
  lastRound : Runs.Along Runs.remember (test.Keeps table true) (test.heard table net)
    (test.lastHeard table net)

def FromCards (net : Network) : Prop :=
  ∀ r, ∀ d ∈ net.arrivals r,
    (UdpPacketCommandHeader.ofBytes (recvline d)).usCardNumber.toNat ∈ cards

theorem check_card {datagram : List UInt8} {number word : UInt32}
    (h : test.check (recvline datagram) = some (number, word)) :
    number = (UdpPacketCommandHeader.ofBytes (recvline datagram)).usCardNumber := by
  have hpacket : ∀ result reply, checkPacket result reply (recvline datagram) =
      some (number, word) →
        number = (UdpPacketCommandHeader.ofBytes (recvline datagram)).usCardNumber := by
    intro result reply hcheck
    unfold checkPacket at hcheck
    extract_lets receiver at hcheck
    split_ifs at hcheck
    · exact (congrArg Prod.fst (Option.some.inj hcheck)).symm
    · exact (congrArg Prod.fst (Option.some.inj hcheck)).symm
  cases test <;> exact hpacket _ _ h

variable {test table} {log : List (List UInt8)} {datagram : List UInt8} {number k : Nat}
  {word : UInt32}

theorem entry_concat : test.entry table (log ++ [datagram]) k =
    test.heardWord k (test.entry table log k) datagram := List.foldl_append

theorem entry_silent (h : test.report datagram = none) :
    test.entry table (log ++ [datagram]) k = test.entry table log k := by
  rw [entry_concat, heardWord, h]

theorem entry_report (h : test.report datagram = some (number, word)) :
    test.entry table (log ++ [datagram]) k =
      if number = k then word else test.entry table log k := by
  rw [entry_concat, heardWord, h]

theorem denies_concat :
    test.Denies (log ++ [datagram]) k word ↔
      test.Denies log k word ∨ ∃ r ∈ test.report datagram, r.1 = k ∧ r.2 ≠ word := by
  simp only [Denies, List.mem_append, List.mem_singleton, or_and_right, exists_or, exists_eq_left]

theorem denies_silent (h : test.report datagram = none) :
    test.Denies (log ++ [datagram]) k word ↔ test.Denies log k word := by
  rw [denies_concat, h]
  exact or_iff_left fun ⟨_, hr, _⟩ => absurd hr (Option.not_mem_none _)

theorem denies_report {said : UInt32} (h : test.report datagram = some (number, said)) :
    test.Denies (log ++ [datagram]) k word ↔
      test.Denies log k word ∨ (number = k ∧ said ≠ word) := by
  rw [denies_concat, h]
  refine or_congr_right ⟨?_, fun hsaid => ⟨_, rfl, hsaid⟩⟩
  rintro ⟨r, hr, hsaid⟩
  obtain rfl := Option.some.inj hr
  exact hsaid

theorem denies_of_entry_ne (h : test.entry table log k ≠ table (k - 1)) :
    test.Denies log k (table (k - 1)) := by
  induction log using List.reverseRecOn with
  | nil => exact absurd rfl h
  | append_singleton log d ih =>
    cases hreport : test.report d with
    | none =>
      rw [entry_silent hreport] at h
      rw [denies_silent hreport]
      exact ih h
    | some r =>
      obtain ⟨number, said⟩ := r
      rw [entry_report hreport] at h
      rw [denies_report hreport]
      split_ifs at h with hk
      · exact .inr ⟨hk, h⟩
      · exact .inl (ih h)

theorem mem_gained : k ∈ test.gained table log ↔ k ∈ cards ∧
    test.entry table log k = Entry.success ∧
      (table (k - 1) ≠ Entry.success ∨ test.Denies log k Entry.success) := Finset.mem_filter

theorem gained_silent (h : test.report datagram = none) :
    test.gained table (log ++ [datagram]) = test.gained table log := by
  ext k
  rw [mem_gained, mem_gained, entry_silent h, denies_silent h]

theorem mem_gained_other (h : test.report datagram = some (number, word)) (hk : number ≠ k) :
    k ∈ test.gained table (log ++ [datagram]) ↔ k ∈ test.gained table log := by
  have hdenies : test.Denies (log ++ [datagram]) k Entry.success ↔
      test.Denies log k Entry.success :=
    (denies_report h).trans (or_iff_left fun hsaid => hk hsaid.1)
  rw [mem_gained, mem_gained, entry_report h, if_neg hk, hdenies]

theorem gained_repeated (h : test.report datagram = some (number, word))
    (hsame : word = Entry.success ↔ test.entry table log number = Entry.success) :
    test.gained table (log ++ [datagram]) = test.gained table log := by
  ext k
  by_cases hk : number = k
  · subst hk
    rw [mem_gained, mem_gained, entry_report h, denies_report h, if_pos rfl, ← hsame]
    refine and_congr_right' (and_congr_right fun hword => ?_)
    rw [and_iff_right rfl, or_iff_left (not_not.mpr hword)]
  · exact mem_gained_other h hk

theorem gained_lost (h : test.report datagram = some (number, word))
    (hword : word ≠ Entry.success) (hout : number ∉ test.gained table log) :
    test.gained table (log ++ [datagram]) = test.gained table log := by
  ext k
  by_cases hk : number = k
  · subst hk
    refine iff_of_false (fun hin => ?_) hout
    rw [mem_gained, entry_report h, if_pos rfl] at hin
    exact hword hin.2.1
  · exact mem_gained_other h hk

theorem gained_insert (h : test.report datagram = some (number, Entry.success))
    (hmem : number ∈ cards) (hnew : test.entry table log number ≠ Entry.success) :
    test.gained table (log ++ [datagram]) = insert number (test.gained table log) := by
  ext k
  rw [Finset.mem_insert]
  by_cases hk : number = k
  · subst hk
    rw [mem_gained, entry_report h, denies_report h]
    refine iff_of_true ⟨hmem, if_pos rfl, ?_⟩ (.inl rfl)
    by_cases hstart : table (number - 1) = Entry.success
    · rw [← hstart] at hnew ⊢
      exact .inr (.inl (denies_of_entry_ne hnew))
    · exact .inl hstart
  · rw [mem_gained_other h hk, or_iff_right fun heq => hk heq.symm]

end GroupTest

namespace GroupRun

open MemberTest Collector GroupTest

variable {test : GroupTest} {table : Int → UInt32} {net : Network} {log : List (List UInt8)}
  {datagram : List UInt8} {last : Bool} {g : GroupRun}

-- Apart from the words the test writes by itself, the table holds the latest reports.
structure Tracks (test : GroupTest) (table : Int → UInt32) (log : List (List UInt8))
    (g : GroupRun) : Prop where
  cells : ∀ k ∈ cards, ∀ word, word ≠ Entry.notReady → word ≠ Entry.ready →
    (g.result ((k : Int) - 1) = word ↔ test.entry table log k = word)
  sound : ∀ k ∈ cards, g.result ((k : Int) - 1) = Entry.failed →
    table ((k : Int) - 1) = Entry.failed ∧ ¬ test.Denies log k Entry.failed
  count : g.successCount.toNat = (test.gained table log).card
  ret : g.ret = false

theorem Tracks.success (h : Tracks test table log g) {k : Nat} (hk : k ∈ cards) :
    g.result ((k : Int) - 1) = Entry.success ↔ test.entry table log k = Entry.success :=
  h.cells k hk _ (by decide) (by decide)

theorem gained_card_le : (test.gained table log).card ≤ 48 :=
  (Finset.card_filter_le _ _).trans_eq (by decide)

theorem Tracks.silent (h : Tracks test table log g) (hsilent : test.report datagram = none) :
    Tracks test table (log ++ [datagram]) g := by
  refine ⟨fun k hk word hnot hready => ?_, fun k hk hfailed => ?_, ?_, h.ret⟩
  · rw [entry_silent hsilent]
    exact h.cells k hk word hnot hready
  · rw [denies_silent hsilent]
    exact h.sound k hk hfailed
  · rw [gained_silent hsilent]
    exact h.count

theorem Tracks.repeated (h : Tracks test table log g) {number : Nat} {word : UInt32}
    (hreport : test.report datagram = some (number, word)) (hmem : number ∈ cards)
    (hsame : g.result (number - 1) = word) : Tracks test table (log ++ [datagram]) g := by
  refine ⟨fun k hk other hnot hready => ?_, fun k hk hfailed => ?_, ?_, h.ret⟩
  · rw [entry_report hreport]
    split_ifs with hk'
    · rw [← hk', hsame]
    · exact h.cells k hk other hnot hready
  · obtain ⟨hstart, hkept⟩ := h.sound k hk hfailed
    refine ⟨hstart, fun hdenies => ?_⟩
    rcases (denies_report hreport).mp hdenies with hold | ⟨rfl, hne⟩
    · exact hkept hold
    · exact hne (hsame.symm.trans hfailed)
  · rw [gained_repeated hreport (by rw [← hsame]; exact h.success hmem)]
    exact h.count

theorem store_result (number k : Nat) (word : UInt32) :
    (g.store (number - 1) word).result ((k : Int) - 1) =
      if number = k then word else g.result ((k : Int) - 1) := by
  by_cases hk : number = k
  · rw [if_pos hk, ← hk]
    exact Function.update_self ..
  · rw [if_neg hk]
    exact Function.update_of_ne (by omega) _ _

theorem Tracks.stored_count (h : Tracks test table log g) {number : Nat} {word : UInt32}
    (hreport : test.report datagram = some (number, word)) (hmem : number ∈ cards)
    (hnew : g.result (number - 1) ≠ word)
    (hkeep : number ∈ test.gained table log → word = Entry.success)
    (hword : word ≠ Entry.failed) :
    (g.store (number - 1) word).successCount.toNat =
      (test.gained table (log ++ [datagram])).card := by
  by_cases hsuccess : word = Entry.success
  · subst hsuccess
    have hentry : test.entry table log number ≠ Entry.success :=
      fun hold => hnew ((h.success hmem).mpr hold)
    have hout : number ∉ test.gained table log := fun hin => hentry (mem_gained.mp hin).2.1
    have hle : (test.gained table log).card ≤ 48 := gained_card_le
    have hstore : (g.store (number - 1) Entry.success).successCount = g.successCount + 1 := rfl
    rw [gained_insert hreport hmem hentry, Finset.card_insert_of_notMem hout, ← h.count,
      hstore, UInt32.toNat_add, h.count]
    exact Nat.mod_eq_of_lt (by change _ + 1 < _; omega)
  · have hstore : (g.store (number - 1) word).successCount = g.successCount :=
      if_neg (not_or.mpr ⟨hsuccess, hword⟩)
    rw [hstore, h.count, gained_lost hreport hsuccess fun hin => hsuccess (hkeep hin)]

theorem Tracks.stored (h : Tracks test table log g) {number : Nat} {word : UInt32}
    (hreport : test.report datagram = some (number, word)) (hmem : number ∈ cards)
    (hnew : g.result (number - 1) ≠ word)
    (hkeep : number ∈ test.gained table log → word = Entry.success)
    (hword : word ≠ Entry.failed) :
    Tracks test table (log ++ [datagram]) (g.store (number - 1) word) := by
  refine ⟨fun k hk other hnot hready => ?_, fun k hk hfailed => ?_,
    h.stored_count hreport hmem hnew hkeep hword, h.ret⟩
  · rw [store_result, entry_report hreport]
    split_ifs
    · rfl
    · exact h.cells k hk other hnot hready
  · rw [store_result] at hfailed
    split_ifs at hfailed with hk'
    · exact absurd hfailed hword
    · obtain ⟨hstart, hkept⟩ := h.sound k hk hfailed
      refine ⟨hstart, fun hdenies => ?_⟩
      rcases (denies_report hreport).mp hdenies with hold | ⟨heq, -⟩
      · exact hkept hold
      · exact hk' heq

theorem check_report {number word : UInt32}
    (h : test.check (recvline datagram) = some (number, word)) :
    test.report datagram = some (number.toNat, word) := by
  rw [report, h]
  rfl

theorem Tracks.collect (h : Tracks test table log g)
    (hcard : (UdpPacketCommandHeader.ofBytes (recvline datagram)).usCardNumber.toNat ∈ cards)
    (hkeep : test.Keeps table last log datagram) :
    Tracks test table (log ++ [datagram]) (g.collect test last datagram) ∨
      (g.collect test last datagram).ret = true := by
  unfold GroupRun.collect
  cases hcheck : test.check (recvline datagram) with
  | none => exact .inl (h.silent (by rw [report, hcheck]; rfl))
  | some r =>
    obtain ⟨number, word⟩ := r
    rw [← check_card test hcheck] at hcard
    have hreport := check_report hcheck
    have hindex : CString.toInt number.toNat = number.toNat := by
      rw [toInt_ofNat number.toNat_lt, if_pos ((mem_cards.mp hcard).2.trans_lt (by decide))]
    dsimp only
    rw [hindex]
    split_ifs with hnew
    · obtain ⟨hfailed, hback⟩ := hkeep _ hreport
      by_cases hword : word = Entry.failed
      · have hlast : last = true := by
          refine (hfailed hword).resolve_right fun hold => hnew.2 ?_
          rw [hword]
          exact (h.cells _ hcard _ (by decide) (by decide)).mpr hold
        refine .inr ?_
        rw [hlast, hword]
        exact Bool.or_true _
      · have hstored := h.stored hreport hcard hnew.2
          (fun hin => (hback hin).resolve_right hword) hword
        refine .inl ⟨hstored.cells, hstored.sound, hstored.count, ?_⟩
        change (g.ret || (last && decide (word = Entry.failed))) = false
        rw [h.ret, decide_eq_false hword, Bool.and_false, Bool.or_false]
    · have hsame := not_not.mp (not_and.mp hnew (Int.natCast_nonneg _))
      exact .inl (h.repeated hreport hcard hsame)

theorem collect_ret (h : g.ret = true) : (g.collect test last datagram).ret = true := by
  unfold collect
  cases test.check (recvline datagram) with
  | none => exact h
  | some r =>
    dsimp only
    split_ifs
    · exact Bool.or_eq_true_iff.mpr (.inl h)
    · exact h

theorem Tracks.poll (h : Tracks test table log g) (r i : Nat) :
    Tracks test table log (g.poll test net r i) := by
  unfold GroupRun.poll
  split_ifs with hfree
  · have hcell : ∀ k : Nat, ∀ word, word ≠ Entry.notReady → word ≠ Entry.ready →
        (Function.update g.result i Entry.ready ((k : Int) - 1) = word ↔
          g.result ((k : Int) - 1) = word) := by
      intro k word hnot hready
      by_cases hk : (k : Int) - 1 = i
      · rw [hk, Function.update_self, hfree]
        exact iff_of_false hready.symm hnot.symm
      · rw [Function.update_of_ne hk]
    refine ⟨fun k hk word hnot hready => ?_, fun k hk hfailed => ?_, h.count, h.ret⟩
    · exact (hcell k word hnot hready).trans (h.cells k hk word hnot hready)
    · exact h.sound k hk ((hcell k _ (by decide) (by decide)).mp hfailed)
  · exact h

theorem Tracks.pollResult (h : Tracks test table log g) (r i : Nat) :
    Tracks test table log (g.pollResult test net r i) := by
  unfold GroupRun.pollResult
  split_ifs
  · exact ⟨h.cells, h.sound, h.count, h.ret⟩
  · exact h

section Tables

variable {I : (Int → UInt32) → Prop} {s : Station}

-- What the two writes of a test do not break: READY for a card asked, and the word of a reply.
structure Preserves (test : GroupTest) (net : Network) (I : (Int → UInt32) → Prop) : Prop where
  ask : ∀ i ∈ test.polled, ∀ table, I table → I (Function.update table (i : Int) Entry.ready)
  store : ∀ r, ∀ d ∈ net.delivered r, ∀ number word, test.report d = some (number, word) →
    ∀ table, I table → I (Function.update table ((number : Int) - 1) word)

theorem poll_preserves (hI : Preserves test net I) {i : Nat} (hi : i ∈ test.polled) (r : Nat)
    (h : I g.result) : I (g.poll test net r i).result := by
  unfold poll
  split_ifs
  · exact hI.ask i hi _ h
  · exact h

theorem pollResult_result (r i : Nat) : (g.pollResult test net r i).result = g.result := by
  unfold pollResult
  split_ifs <;> rfl

theorem toInt_of_nonneg {number : UInt32} (h : 0 ≤ CString.toInt number.toNat) :
    CString.toInt number.toNat = number.toNat := by
  rw [toInt_ofNat number.toNat_lt] at h ⊢
  split_ifs at h ⊢
  · rfl
  · have := number.toNat_lt
    omega

theorem collect_preserves (hI : Preserves test net I) {r : Nat} (hd : datagram ∈ net.delivered r)
    (h : I g.result) : I (g.collect test last datagram).result := by
  unfold collect
  cases hcheck : test.check (recvline datagram) with
  | none => exact h
  | some reply =>
    dsimp only
    split_ifs with hnew
    · have hstored := hI.store r _ hd _ _ (check_report hcheck) _ h
      rwa [← toInt_of_nonneg hnew.1] at hstored
    · exact h

theorem collected_preserves (hI : Preserves test net I) (last : Bool) (r : Nat)
    (h : I g.result) : I (Runs.run (collect test last) g (net.delivered r)).result :=
  Runs.invariant_of_mem (I := fun g : GroupRun => I g.result)
    (fun _ hd _ hg => collect_preserves hI hd hg) h

theorem round_preserves (hI : Preserves test net I) (r : Nat) (h : I g.result) :
    I (g.round test net r).result :=
  collected_preserves hI false r (Runs.invariant_of_mem (I := fun g : GroupRun => I g.result)
    (fun _ hi _ hg => poll_preserves hI hi r hg) h)

theorem lastRound_preserves (hI : Preserves test net I) (h : I g.result) :
    I (g.lastRound test net).result := by
  refine collected_preserves hI true _ ?_
  exact Runs.invariant (I := fun g : GroupRun => I g.result)
    (fun g i hg => by rw [pollResult_result]; exact hg) h _

theorem perform_of_rounds (hI : Preserves test net I)
    (h : I (rounds test net table s).result) : I (test.perform net table s).result := by
  rw [GroupTest.perform_eq]
  unfold requestMember
  dsimp only
  split_ifs
  · exact lastRound_preserves hI h
  · exact h

theorem perform_preserves (hI : Preserves test net I) (h : I table) :
    I (test.perform net table s).result :=
  perform_of_rounds hI (Retry.invariant (I := fun g : GroupRun => I g.result)
    (fun r _ hg => round_preserves hI r hg) _ 0 h)

end Tables

section Verdict

variable {datagrams : List (List UInt8)} {s : Station}

theorem collect_ret_false : (g.collect test false datagram).ret = g.ret := by
  unfold collect
  cases test.check (recvline datagram) with
  | none => rfl
  | some r =>
    dsimp only
    split_ifs
    · exact Bool.or_false _
    · rfl

theorem Tracks.collected (h : Tracks test table log g)
    (hcards : ∀ d ∈ datagrams,
      (UdpPacketCommandHeader.ofBytes (recvline d)).usCardNumber.toNat ∈ cards)
    (hkeeps : Runs.Along Runs.remember (test.Keeps table last) log datagrams) :
    Tracks test table (log ++ datagrams) (Runs.run (GroupRun.collect test last) g datagrams) ∨
      (Runs.run (GroupRun.collect test last) g datagrams).ret = true := by
  induction datagrams generalizing log g with
  | nil => exact .inl (by rwa [List.append_nil])
  | cons d ds ih =>
    rcases h.collect (hcards d List.mem_cons_self) hkeeps.1 with hstep | hret
    · have hrest := ih hstep (fun e he => hcards e (List.mem_cons_of_mem d he)) hkeeps.2
      rwa [List.append_assoc] at hrest
    · exact .inr (Runs.invariant (I := fun g : GroupRun => g.ret = true)
        (fun _ _ hg => collect_ret hg) hret ds)

theorem Tracks.round (h : Tracks test table log g) {r : Nat}
    (hcards : ∀ d ∈ net.delivered r,
      (UdpPacketCommandHeader.ofBytes (recvline d)).usCardNumber.toNat ∈ cards)
    (hkeeps : Runs.Along Runs.remember (test.Keeps table false) log (net.delivered r)) :
    Tracks test table (log ++ net.delivered r) (g.round test net r) := by
  have hpolled : Tracks test table log (Runs.run (GroupRun.poll test net r) g test.polled) :=
    Runs.invariant (fun _ i hg => hg.poll r i) h _
  refine (hpolled.collected hcards hkeeps).resolve_right fun hret => ?_
  have hkept : (Runs.run (GroupRun.collect test false) _ (net.delivered r)).ret = false :=
    Runs.invariant (I := fun g : GroupRun => g.ret = false)
      (fun _ _ hg => collect_ret_false.trans hg) hpolled.ret (net.delivered r)
  exact absurd (hret.symm.trans hkept) (by decide)

theorem Tracks.lastRound (h : Tracks test table log g)
    (hcards : ∀ d ∈ net.delivered test.lastRound,
      (UdpPacketCommandHeader.ofBytes (recvline d)).usCardNumber.toNat ∈ cards)
    (hkeeps : Runs.Along Runs.remember (test.Keeps table true) log
      (net.delivered test.lastRound)) :
    Tracks test table (log ++ net.delivered test.lastRound) (g.lastRound test net) ∨
      (g.lastRound test net).ret = true := by
  have hpolled : Tracks test table log
      (Runs.run (GroupRun.pollResult test net test.lastRound) g test.polled) :=
    Runs.invariant (fun _ i hg => hg.pollResult test.lastRound i) h _
  exact hpolled.collected hcards hkeeps

theorem Tracks.start (test : GroupTest) (table : Int → UInt32) (s : Station) :
    Tracks test table [] (start table s) := by
  refine ⟨fun _ _ _ _ _ => Iff.rfl, fun _ _ hfailed => ⟨hfailed, ?_⟩, ?_, rfl⟩
  · rintro ⟨d, hd, -⟩
    exact absurd hd List.not_mem_nil
  · have hnone : test.gained table [] = ∅ := by
      refine Finset.filter_eq_empty_iff.mpr fun k _ hk => ?_
      rcases hk.2 with hstart | ⟨d, hd, -⟩
      · exact hstart hk.1
      · exact absurd hd List.not_mem_nil
    rw [hnone]
    rfl

theorem delivered_card (h : FromCards net) (r : Nat) : ∀ d ∈ net.delivered r,
    (UdpPacketCommandHeader.ofBytes (recvline d)).usCardNumber.toNat ∈ cards :=
  fun d hd => h r d (List.takeWhile_subset _ hd)

theorem rounds_tracks (hcards : FromCards net) (h : test.Upright table net) :
    Tracks test table (test.heard table net) (rounds test net table s) := by
  have htogether := Retry.together (round test net) (missing test)
    (fun r log => log ++ net.delivered r)
    (fun log => decide ((test.gained table log).card < test.chassisCount))
    (R := fun g log => Tracks test table log g ∧
      Runs.Along Runs.remember (test.Keeps table false) [] log)
    (P := fun _ => True)
    (Q := fun log => ¬ Runs.Along Runs.remember (test.Keeps table false) [] log)
    ?_ ?_ (fun _ _ _ => trivial) ?_ (test.waitCount - 1) 0
    (s := GroupRun.start table s) (t := []) ⟨Tracks.start test table s, trivial⟩
  · exact (htogether.resolve_right fun hlost => hlost.2 h.rounds).1
  · rintro r g log ⟨hg, hlog⟩
    by_cases hnew : Runs.Along Runs.remember (test.Keeps table false) log (net.delivered r)
    · refine .inl ⟨hg.round (delivered_card hcards r) hnew, ?_⟩
      rw [Runs.along_append, Runs.run_remember]
      exact ⟨hlog, hnew⟩
    · refine .inr ⟨trivial, fun hall => hnew ?_⟩
      rw [Runs.along_append, Runs.run_remember] at hall
      exact hall.2
  · rintro r g log - ⟨hg, -⟩
    rw [missing, hg.count]
  · intro r log hlost hall
    rw [Runs.along_append] at hall
    exact hlost hall.1

def Sound (test : GroupTest) (g : GroupRun) : Prop :=
  test.chassisCount ≤ (cards.filter fun k : Nat => g.result (k - 1) = Entry.success).card ∧
    ∀ k ∈ cards, g.result ((k : Int) - 1) ≠ Entry.failed

theorem Tracks.verdict (h : Tracks test table log g) (hcount : g.missing test = false)
    (hfresh : ∀ k ∈ cards, table ((k : Int) - 1) = Entry.failed →
      test.Denies log k Entry.failed) : Sound test g := by
  refine ⟨?_, fun k hk hfailed => ?_⟩
  · have henough : test.chassisCount ≤ g.successCount.toNat :=
      not_lt.mp (of_decide_eq_false hcount)
    refine (henough.trans_eq h.count).trans (Finset.card_le_card fun k hk => ?_)
    obtain ⟨hmem, hentry, -⟩ := mem_gained.mp hk
    exact Finset.mem_filter.mpr ⟨hmem, (h.success hmem).mpr hentry⟩
  · obtain ⟨hstart, hkept⟩ := h.sound k hk hfailed
    exact hkept (hfresh k hk hstart)

theorem status_eq_zero : g.status test = 0 ↔ g.ret = false ∧ g.missing test = false := by
  unfold status
  split_ifs with hbad
  · refine iff_of_false (by decide) fun h => ?_
    rw [h.1, h.2] at hbad
    exact hbad.elim Bool.false_ne_true Bool.false_ne_true
  · exact iff_of_true rfl (not_or.mp hbad |>.imp Bool.eq_false_of_not_eq_true
      Bool.eq_false_of_not_eq_true)

theorem group_verdict_sound (hcards : FromCards net) (h : test.Upright table net)
    (hstatus : (test.perform net table s).status test = 0) :
    Sound test (test.perform net table s) := by
  rw [GroupTest.perform_eq] at hstatus ⊢
  obtain ⟨hret, hcount⟩ := status_eq_zero.mp hstatus
  have hrounds := rounds_tracks (s := s) hcards h
  unfold requestMember at hret hcount ⊢
  dsimp only at hret hcount ⊢
  obtain ⟨hfresh, -, hlast⟩ := h
  unfold lastHeard at hfresh hlast
  split_ifs at hret hcount ⊢ with hmissing
  · have hmore : (test.gained table (test.heard table net)).card < test.chassisCount := by
      rw [← hrounds.count]
      exact of_decide_eq_true hmissing
    rw [if_pos hmore] at hfresh hlast
    have htracks := (hrounds.lastRound (delivered_card hcards _) hlast).resolve_right fun hlost =>
      absurd (hret.symm.trans hlost) (by decide)
    exact htracks.verdict hcount hfresh
  · have henough : ¬ (test.gained table (test.heard table net)).card < test.chassisCount := by
      rw [← hrounds.count]
      exact fun hmore => hmissing (decide_eq_true hmore)
    rw [if_neg henough, List.append_nil] at hfresh
    exact hrounds.verdict hcount hfresh

end Verdict

def trafficResultOf (word number : UInt8) : List UInt8 :=
  [number, 0, 0, 0, 0x03, 0x76] ++ List.replicate 260 0 ++ [word, 0]

def fabricNetwork (word : UInt8) : Network :=
  ⟨5, fun _ _ => default, fun r => if r = 0 then [5, 6, 7, 8].map (trafficResultOf word) else []⟩

theorem fabricNetwork_fromCards (word : UInt8)
    (h : ∀ d ∈ [5, 6, 7, 8].map (trafficResultOf word),
      (UdpPacketCommandHeader.ofBytes (recvline d)).usCardNumber.toNat ∈ cards) :
    FromCards (fabricNetwork word) := by
  intro r d hd
  change d ∈ (if r = 0 then _ else _) at hd
  split_ifs at hd
  · exact h d hd
  · exact absurd hd List.not_mem_nil

def lateNetwork : Network :=
  ⟨5, fun _ _ => default, fun r =>
    if r = 0 then [5, 6, 7].map (trafficResultOf 4)
    else if r = 5 then [trafficResultOf 4 8] else []⟩

theorem lateNetwork_fromCards : FromCards lateNetwork := by
  intro r d hd
  change d ∈ (if r = 0 then _ else if r = 5 then _ else _) at hd
  split_ifs at hd
  · exact (by decide : ∀ d ∈ [5, 6, 7].map (trafficResultOf 4),
      (UdpPacketCommandHeader.ofBytes (recvline d)).usCardNumber.toNat ∈ cards) d hd
  · rw [List.mem_singleton] at hd
    rw [hd]
    decide
  · exact absurd hd List.not_mem_nil

theorem late_success_sound :
    (rounds (.trafficFabricCard 0) lateNetwork (fun _ => 0) masterStation).missing
        (.trafficFabricCard 0) = true ∧
      Sound (.trafficFabricCard 0)
        (tcpServerDoTrafficTestFabricCard 0 lateNetwork (fun _ => 0) masterStation) :=
  ⟨by decide +kernel, group_verdict_sound lateNetwork_fromCards
    ⟨by decide +kernel, by decide +kernel, by decide +kernel⟩ (by decide +kernel)⟩

theorem fabric_failures_pass :
    ¬ ∀ (test : GroupTest) (net : Network) (table : Int → UInt32) (s : Station), FromCards net →
      (test.perform net table s).status test = 0 → Sound test (test.perform net table s) := by
  intro h
  have hsound := h (.trafficFabricCard 4) (fabricNetwork 3) (fun _ => 0) masterStation
    (fabricNetwork_fromCards 3 (by decide +kernel)) (by decide +kernel)
  exact hsound.2 5 (by decide) (by decide +kernel)

end GroupRun

end Chassisd
