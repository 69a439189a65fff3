import Chassisd.Udp.Linecard

namespace Chassisd

open CString

def Requests (params : List Char) (slot option : Int) : Prop :=
  ∃ a b, Fields isBlank params a b ∧ Denotes a slot ∧ Denotes b option

inductive SlotHalf where
  | lower
  | upper
  deriving DecidableEq, Repr

namespace SlotHalf

def other : SlotHalf → SlotHalf
  | lower => upper
  | upper => lower

def Owns : SlotHalf → Int → Prop
  | lower, slot => slot ≤ 3
  | upper, slot => 4 ≤ slot

instance (half : SlotHalf) (slot : Int) : Decidable (half.Owns slot) :=
  match half with
  | lower => inferInstanceAs (Decidable (slot ≤ 3))
  | upper => inferInstanceAs (Decidable (4 ≤ slot))

theorem other_owns {half : SlotHalf} {slot : Int} (h : ¬ half.Owns slot) :
    half.other.Owns slot := by
  cases half with
  | lower => exact Int.not_le.mp h
  | upper => exact Int.le_of_lt_add_one (Int.not_le.mp h)

end SlotHalf

def slotHalf (k : Nat) : Option SlotHalf :=
  if k ∈ [33, 35, 41, 43] then some .lower
  else if k ∈ [37, 39, 45, 47] then some .upper
  else none

theorem isBlank_eq_false {c : Char} (h : isspace c = false) : isBlank c = false := by
  by_contra hb
  obtain rfl : c = ' ' := by simpa [isBlank] using hb
  exact absurd h (by decide)

theorem shutdownParams_of_requests {params : List Char} {slot option : Int}
    (h : Requests params slot option) :
    shutdownParams params = (toInt (saturate slot), toInt (saturate option)) := by
  obtain ⟨a, b, hfields, ha, hb⟩ := h
  obtain ⟨rest, last, hfirst, hsecond⟩ := hfields.strtok ha.ne_nil hb.ne_nil
    (fun c hc => isBlank_eq_false (ha.isspace_of_mem hc))
    (fun c hc => isBlank_eq_false (hb.isspace_of_mem hc))
  rw [shutdownParams, hfirst]
  simp only [hsecond, ha.atoi, hb.atoi]

theorem requests_shutdownText (slotid option : UInt16) :
    Requests (shutdownText slotid option) slotid.toNat option.toNat := by
  refine ⟨_, _, ⟨[], [' '], [], by simp [shutdownText], by simp, by simp, by simp [isBlank],
    by simp [Stops]⟩, denotes_toDigits _, denotes_toDigits _⟩

theorem shutdownParams_shutdownText (slotid option : UInt16) :
    shutdownParams (shutdownText slotid option) =
      ((slotid.toNat : Int), (option.toNat : Int)) := by
  have hs := slotid.toNat_lt
  have ho := option.toNat_lt
  rw [shutdownParams_of_requests (requests_shutdownText slotid option),
    toInt_saturate (by omega) (by omega), toInt_saturate (by omega) (by omega)]

section Handler

variable (driver : Driver)

def powerValue (option : Int) : Int := if option = 0 then powerOffValue else powerOnValue

def localWrites (slot option : Int) : List PowerWrite :=
  if 0 ≤ slot ∧ slot ≤ 7 then
    [⟨lcPath slot, powerValue option⟩]
  else []

theorem powerLinecardLocal_writes (slot option : Int) :
    (shutdownMgrPowerLinecardLocal driver slot option).1 = localWrites slot option := by
  unfold shutdownMgrPowerLinecardLocal shutdownMgrShutdownLinecardLocal
    shutdownMgrPoweronLinecardLocal localWrites
  by_cases hrange : 0 ≤ slot ∧ slot ≤ 7
  · have hin : ¬ (slot < 0 ∨ 7 < slot) := by omega
    rw [if_neg hin, if_neg hin, if_pos hrange]
    unfold powerValue
    split_ifs <;> rfl
  · have hout : slot < 0 ∨ 7 < slot := by omega
    rw [if_pos hout, if_pos hout, if_neg hrange, ite_self]

variable {driver} {c : ChassisData} {params : List Char} {half : SlotHalf} {slot option : Int}

theorem handler_eq (hhalf : slotHalf c.usCardNumber = some half)
    (hparams : shutdownParams params = (slot, option)) :
    udpServerDoShutdownMgrShutdownLinecardLocal driver params c =
      if half.Owns slot then
        ⟨c, localWrites slot option, none,
          (shutdownMgrPowerLinecardLocal driver slot option).2⟩
      else tcpServerDoShutdownToClient slot option c := by
  unfold udpServerDoShutdownMgrShutdownLinecardLocal
  rw [hparams]
  simp only [powerLinecardLocal_writes]
  unfold slotHalf at hhalf
  split_ifs at hhalf with hlower hupper
  · obtain rfl : SlotHalf.lower = half := Option.some.inj hhalf
    rw [if_pos hlower]
    by_cases howns : SlotHalf.lower.Owns slot
    · rw [if_pos howns, if_neg (Int.not_lt.mpr howns)]
    · rw [if_neg howns, if_pos (Int.not_le.mp howns)]
  · obtain rfl : SlotHalf.upper = half := Option.some.inj hhalf
    rw [if_neg hlower, if_pos hupper]
    by_cases howns : SlotHalf.upper.Owns slot
    · rw [if_pos howns, if_neg (Int.not_lt.mpr howns)]
    · rw [if_neg howns, if_pos (Int.not_le.mp howns)]

end Handler

def isPresent (card : Option UsCard) : Bool :=
  card.any fun card => card.status &&& chassisIsExist ≠ 0

def shutdownPeer (c : ChassisData) : Option Nat :=
  if 0 < otherMaster c ∧ isPresent c.usCard[(otherMaster c).toNat - 1]? = true then
    some (otherMaster c).toNat
  else none

structure Steady (c c' : ChassisData) : Prop where
  number : c'.usCardNumber = c.usCardNumber
  masters : c'.localMaster = c.localMaster
  present : ∀ i : Nat, isPresent c'.usCard[i]? = isPresent c.usCard[i]?
  address : ∀ i : Nat, c'.usCard[i]?.map UsCard.ipaddress = c.usCard[i]?.map UsCard.ipaddress

def peerRequest (c : ChassisData) (slotid option : UInt16) : Option UdpRequest :=
  (shutdownPeer c).bind fun k => (c.usCard[k - 1]?.map UsCard.ipaddress).map fun ipaddress =>
    { ipaddress := ipaddress
      usCardNumber := k
      type := ctpRemoteshutdownRequest
      length := 4
      params := shutdownText slotid option
      paramsLength := UInt16.ofNat (shutdownText slotid option).length }

namespace Steady

variable {c c' c'' : ChassisData}

theorem refl (c : ChassisData) : Steady c c := ⟨rfl, rfl, fun _ => rfl, fun _ => rfl⟩

theorem trans (h : Steady c c') (h' : Steady c' c'') : Steady c c'' :=
  ⟨h'.number.trans h.number, h'.masters.trans h.masters,
    fun i => (h'.present i).trans (h.present i), fun i => (h'.address i).trans (h.address i)⟩

theorem shutdownPeer (h : Steady c c') : shutdownPeer c' = shutdownPeer c := by
  have hmaster : otherMaster c' = otherMaster c := by
    unfold otherMaster
    rw [h.number, h.masters]
  unfold Chassisd.shutdownPeer
  rw [hmaster, h.present]

theorem peerRequest (h : Steady c c') : peerRequest c' = peerRequest c := by
  funext slotid option
  unfold Chassisd.peerRequest
  simp only [h.shutdownPeer, h.address]

end Steady

theorem usCard_updateStatus (i j : Nat) (f : UInt32 → UInt32) (c : ChassisData) :
    (updateStatus i f c).usCard[j]? =
      if i = j then c.usCard[j]?.map fun card => { card with status := f card.status }
      else c.usCard[j]? := by
  unfold updateStatus
  cases hcard : c.usCard[i]? with
  | none =>
    split_ifs with hij
    · rw [← hij, hcard, Option.map_none]
    · rfl
  | some card =>
    have hi : i < maximumMicroServerCardNumber := (Vector.getElem?_eq_some_iff.mp hcard).1
    simp only [Vector.getElem?_setIfInBounds]
    split_ifs with hij
    · rw [← hij, hcard, Option.map_some]
    · rfl

theorem steady_updateStatus (i : Nat) (c : ChassisData) :
    Steady c (updateStatus i (· &&& 1) c) := by
  refine ⟨?_, ?_, fun j => ?_, fun j => ?_⟩
  · unfold updateStatus
    split <;> rfl
  · unfold updateStatus
    split <;> rfl
  · rw [usCard_updateStatus]
    split_ifs
    · cases c.usCard[j]? <;> simp [isPresent, UInt32.and_assoc]
    · rfl
  · rw [usCard_updateStatus]
    split_ifs
    · cases c.usCard[j]? <;> rfl
    · rfl

section Send

variable (usNumber : Int) (slotid option : UInt16) (c : ChassisData)

theorem send_spec :
    Steady c (tcpServerDoSendShutdownToClient usNumber slotid option c).chassis ∧
      (tcpServerDoSendShutdownToClient usNumber slotid option c).writes = [] ∧
      (tcpServerDoSendShutdownToClient usNumber slotid option c).request.map
          (fun r => (r.usCardNumber, r.params)) =
        if 0 < usNumber ∧ isPresent c.usCard[usNumber.toNat - 1]? = true then
          some (usNumber.toNat, shutdownText slotid option)
        else none := by
  unfold tcpServerDoSendShutdownToClient
  by_cases hpos : 0 < usNumber
  · rw [if_pos hpos]
    have hsteady := steady_updateStatus (usNumber.toNat - 1) c
    have hcard := usCard_updateStatus (usNumber.toNat - 1) (usNumber.toNat - 1) (· &&& 1) c
    rw [if_pos rfl] at hcard
    simp only [hcard, hpos, true_and]
    cases c.usCard[usNumber.toNat - 1]? with
    | none => exact ⟨hsteady, rfl, rfl⟩
    | some card =>
      by_cases hstatus : card.status &&& 1 = 0
      · simp [hsteady, isPresent, hstatus]
      · simp [hsteady, isPresent, hstatus]
  · rw [if_neg hpos]
    exact ⟨Steady.refl c, rfl, by simp [hpos]⟩

end Send

theorem relay_spec (slot option : Int) (c : ChassisData) :
    Steady c (tcpServerDoShutdownToClient slot option c).chassis ∧
      (tcpServerDoShutdownToClient slot option c).writes = [] ∧
      (tcpServerDoShutdownToClient slot option c).request.map
          (fun r => (r.usCardNumber, r.params)) =
        (shutdownPeer c).map
          fun k => (k, shutdownText (UInt16.ofInt slot) (UInt16.ofInt option)) := by
  unfold tcpServerDoShutdownToClient shutdownPeer
  by_cases hzero : otherMaster c = 0
  · simp [hzero, Steady.refl]
  · rw [if_neg hzero]
    obtain ⟨hsteady, hwrites, hrequest⟩ := send_spec (otherMaster c) (UInt16.ofInt slot)
      (UInt16.ofInt option) c
    refine ⟨hsteady, hwrites, hrequest.trans ?_⟩
    split_ifs <;> rfl

theorem relay_request (slot option : Int) (c : ChassisData) :
    (tcpServerDoShutdownToClient slot option c).request =
      peerRequest c (UInt16.ofInt slot) (UInt16.ofInt option) := by
  unfold tcpServerDoShutdownToClient tcpServerDoSendShutdownToClient peerRequest shutdownPeer
  dsimp only
  generalize otherMaster c = usNumber
  by_cases hpos : 0 < usNumber
  · rw [if_neg hpos.ne', if_pos hpos]
    have hcard := usCard_updateStatus (usNumber.toNat - 1) (usNumber.toNat - 1) (· &&& 1) c
    rw [if_pos rfl] at hcard
    simp only [hcard, hpos, true_and]
    cases hentry : c.usCard[usNumber.toNat - 1]? with
    | none => simp [isPresent]
    | some card =>
      by_cases hstatus : card.status &&& 1 = 0
      · simp [isPresent, hstatus]
      · simp [isPresent, hstatus, hentry]
  · simp [hpos]

theorem handler_steady (driver : Driver) (params : List Char) (c : ChassisData) :
    Steady c (udpServerDoShutdownMgrShutdownLinecardLocal driver params c).chassis := by
  unfold udpServerDoShutdownMgrShutdownLinecardLocal
  obtain ⟨slot, option⟩ := shutdownParams params
  have hrelay := (relay_spec slot option c).1
  dsimp only
  split_ifs
  · exact hrelay
  · exact Steady.refl c
  · exact hrelay
  · exact Steady.refl c
  · exact Steady.refl c

-- The cards of a chassis, each with its own chassis_information: an entry of local_Master is 0
-- or an odd card of the group of that entry.
structure Fleet where
  chassis : Nat → ChassisData
  number : ∀ k, (chassis k).usCardNumber = k
  own_group : ∀ k (i : Fin 4), (chassis k).localMaster.get i = 0 ∨
    ((chassis k).localMaster.get i % 2 = 1 ∧ 33 + 4 * (i : Int) ≤ (chassis k).localMaster.get i ∧
      (chassis k).localMaster.get i ≤ 36 + 4 * (i : Int))

inductive Happening where
  | power (card : Nat) (write : PowerWrite)
  | relay (source target : Nat)
  deriving DecidableEq, Repr

namespace Fleet

def peer (f : Fleet) (k : Nat) : Option Nat := shutdownPeer (f.chassis k)

def update (f : Fleet) (k : Nat) (c : ChassisData) (h : Steady (f.chassis k) c) : Fleet where
  chassis := Function.update f.chassis k c
  number j := by
    by_cases hj : j = k
    · subst hj
      rw [Function.update_self, h.number, f.number]
    · rw [Function.update_of_ne hj, f.number]
  own_group j := by
    by_cases hj : j = k
    · subst hj
      rw [Function.update_self, h.masters]
      exact f.own_group j
    · rw [Function.update_of_ne hj]
      exact f.own_group j

-- A relayed request is delivered to the card it is addressed to, whose server runs the same
-- handler on it.
def chain (driver : Driver) : Nat → Fleet → Nat → List Char → List Happening
  | 0, _, _, _ => []
  | n + 1, f, k, params =>
    let o := udpServerDoShutdownMgrShutdownLinecardLocal driver params (f.chassis k)
    o.writes.map (.power k) ++
      match o.request with
      | none => []
      | some r =>
        .relay k r.usCardNumber ::
          chain driver n (f.update k o.chassis (handler_steady driver params (f.chassis k)))
            r.usCardNumber r.params

variable {f : Fleet} {k k' : Nat} {half : SlotHalf}

theorem peer_update (c : ChassisData) (h : Steady (f.chassis k) c) :
    (f.update k c h).peer = f.peer := by
  funext j
  unfold peer update
  by_cases hj : j = k
  · subst hj
    simp only [Function.update_self, h.shutdownPeer]
  · simp only [Function.update_of_ne hj]

theorem slotHalf_group {i : Fin 4} {m : Int} (hodd : m % 2 = 1) (hl : 33 + 4 * (i : Int) ≤ m)
    (hu : m ≤ 36 + 4 * (i : Int)) :
    slotHalf m.toNat = some (if i = 0 ∨ i = 2 then .lower else .upper) := by
  have hm : m = 33 + 4 * (i : Int) ∨ m = 35 + 4 * (i : Int) := by omega
  fin_cases i <;> rcases hm with rfl | rfl <;> decide

theorem slotHalf_peer (hk : slotHalf k = some half) (hpeer : f.peer k = some k') :
    slotHalf k' = some half.other := by
  have hpositive : k ≠ 0 := by
    rintro rfl
    exact absurd hk (by simp [slotHalf])
  unfold peer shutdownPeer at hpeer
  split_ifs at hpeer with hto
  obtain rfl : (otherMaster (f.chassis k)).toNat = k' := Option.some.inj hpeer
  have hmaster := hto.1
  unfold otherMaster at hmaster ⊢
  split at hmaster
  · rename_i i hfind
    have hown : (f.chassis k).localMaster.get i = k := by
      have := List.find?_some hfind
      rw [f.number] at this
      exact of_decide_eq_true this
    have hi := f.own_group k i
    have hp := f.own_group k (partner i)
    rw [hown] at hi
    obtain ⟨hodd, hl, hu⟩ := hi.resolve_left (by omega)
    obtain ⟨hodd', hl', hu'⟩ := hp.resolve_left (by omega)
    have hhalf := slotHalf_group hodd hl hu
    rw [Int.toNat_natCast, hk] at hhalf
    rw [slotHalf_group hodd' hl' hu', Option.some.inj hhalf]
    fin_cases i <;> rfl
  · exact absurd hmaster (lt_irrefl 0)

section Chain

variable (driver : Driver) {params : List Char} {slot option : Int}

theorem chain_of_no_request
    (h : (udpServerDoShutdownMgrShutdownLinecardLocal driver params (f.chassis k)).request = none)
    (n : Nat) : chain driver (n + 1) f k params =
      (udpServerDoShutdownMgrShutdownLinecardLocal driver params (f.chassis k)).writes.map
        (.power k) := by
  rw [chain]
  simp only [h, List.append_nil]

theorem chain_of_request {r : UdpRequest}
    (h : (udpServerDoShutdownMgrShutdownLinecardLocal driver params (f.chassis k)).request = some r)
    (n : Nat) : chain driver (n + 1) f k params =
      (udpServerDoShutdownMgrShutdownLinecardLocal driver params (f.chassis k)).writes.map
        (.power k) ++ .relay k r.usCardNumber ::
          chain driver n (f.update k _ (handler_steady driver params (f.chassis k)))
            r.usCardNumber r.params := by
  rw [chain]
  simp only [h]

theorem handler_chassis (hhalf : slotHalf k = some half)
    (hparams : shutdownParams params = (slot, option)) :
    udpServerDoShutdownMgrShutdownLinecardLocal driver params (f.chassis k) =
      if half.Owns slot then
        ⟨f.chassis k, localWrites slot option, none,
          (shutdownMgrPowerLinecardLocal driver slot option).2⟩
      else tcpServerDoShutdownToClient slot option (f.chassis k) :=
  handler_eq ((congrArg slotHalf (f.number k)).trans hhalf) hparams

theorem chain_owns (hhalf : slotHalf k = some half)
    (hparams : shutdownParams params = (slot, option)) (howns : half.Owns slot) (n : Nat) :
    chain driver (n + 1) f k params = (localWrites slot option).map (.power k) := by
  have hhandler := (handler_chassis driver (f := f) hhalf hparams).trans (if_pos howns)
  rw [chain_of_no_request driver (by rw [hhandler]), hhandler]

theorem chain_stops (hhalf : slotHalf k = some half)
    (hparams : shutdownParams params = (slot, option)) (howns : ¬ half.Owns slot)
    (hpeer : f.peer k = none) (n : Nat) : chain driver (n + 1) f k params = [] := by
  have hhandler := (handler_chassis driver (f := f) hhalf hparams).trans (if_neg howns)
  obtain ⟨-, hwrites, hrequest⟩ := relay_spec slot option (f.chassis k)
  rw [← peer, hpeer, Option.map_none, Option.map_eq_none_iff] at hrequest
  rw [chain_of_no_request driver (by rw [hhandler, hrequest]), hhandler, hwrites, List.map_nil]

theorem chain_relays (hhalf : slotHalf k = some half)
    (hparams : shutdownParams params = (slot, option)) (howns : ¬ half.Owns slot)
    (hpeer : f.peer k = some k') :
    ∃ f' : Fleet, f'.peer = f.peer ∧ ∀ n, chain driver (n + 1) f k params = .relay k k' ::
      chain driver n f' k' (shutdownText (UInt16.ofInt slot) (UInt16.ofInt option)) := by
  have hhandler := (handler_chassis driver (f := f) hhalf hparams).trans (if_neg howns)
  obtain ⟨-, hwrites, hrequest⟩ := relay_spec slot option (f.chassis k)
  rw [← peer, hpeer, Option.map_some, Option.map_eq_some_iff] at hrequest
  obtain ⟨r, hr, hfields⟩ := hrequest
  obtain ⟨hnumber, htext⟩ := Prod.mk.inj hfields
  rw [← hhandler] at hwrites hr
  refine ⟨_, peer_update _ (handler_steady driver params (f.chassis k)), fun n => ?_⟩
  rw [chain_of_request driver hr, hwrites, hnumber, htext, List.map_nil, List.nil_append]

end Chain

end Fleet

def Happening.isRelay : Happening → Bool
  | .power _ _ => false
  | .relay _ _ => true

def OwnsSlot (k : Nat) (slot : Int) : Prop :=
  match slotHalf k with
  | some half => half.Owns slot
  | none => False

instance (k : Nat) (slot : Int) : Decidable (OwnsSlot k slot) :=
  match h : slotHalf k with
  | some half => decidable_of_iff (half.Owns slot) (by simp only [OwnsSlot, h])
  | none => .isFalse (by simp only [OwnsSlot, h, not_false_eq_true])

structure SwitchesExactly (slot option : Int) (chain : List Happening) : Prop where
  relayed_once : chain.countP Happening.isRelay ≤ 1
  switched : ∀ card write, .power card write ∈ chain → 0 ≤ slot ∧ slot ≤ 7 ∧ OwnsSlot card slot ∧
    write = ⟨lcPath slot, powerValue option⟩

def Intact (slot option slot' option' : Int) : Prop :=
  0 ≤ slot' → slot' ≤ 7 → slot' = slot ∧ (option' = 0 ↔ option = 0)

instance (slot option slot' option' : Int) : Decidable (Intact slot option slot' option') :=
  inferInstanceAs (Decidable (_ → _ → _))

def Fleet.Conveys (f : Fleet) (k : Nat) (slot option : Int) : Prop :=
  if OwnsSlot k (toInt (saturate slot)) then
    Intact slot option (toInt (saturate slot)) (toInt (saturate option))
  else ∀ k' ∈ f.peer k,
    if OwnsSlot k' (toInt (saturate slot) % 65536) then
      Intact slot option (toInt (saturate slot) % 65536) (toInt (saturate option) % 65536)
    else f.peer k' = none

instance (f : Fleet) (k : Nat) (slot option : Int) : Decidable (f.Conveys k slot option) :=
  inferInstanceAs (Decidable (ite _ _ _))

theorem lcPath_injective {slot slot' : Int} (h : lcPath slot = lcPath slot') :
    slot.toNat % 4 = slot'.toNat % 4 := by
  have hdir : ∀ i j : Fin 4,
      hotSwapOn (lcPowerDir.get i) = hotSwapOn (lcPowerDir.get j) → i = j := by decide
  exact congrArg Fin.val (hdir _ _ h)

section Exact

variable {k : Nat} {slot option slot' option' : Int}

theorem OwnsSlot.eq_of_lcPath (h : OwnsSlot k slot) (h' : OwnsSlot k slot')
    (hrange : 0 ≤ slot ∧ slot ≤ 7) (hrange' : 0 ≤ slot' ∧ slot' ≤ 7)
    (hpath : lcPath slot = lcPath slot') : slot = slot' := by
  have hmod := lcPath_injective hpath
  unfold OwnsSlot at h h'
  split at h
  · rename_i half hhalf
    rw [hhalf] at h'
    cases half with
    | lower =>
      have hs : slot ≤ 3 := h
      have hs' : slot' ≤ 3 := h'
      omega
    | upper =>
      have hs : 4 ≤ slot := h
      have hs' : 4 ≤ slot' := h'
      omega
  · exact h.elim

theorem powerValue_inj : powerValue option' = powerValue option ↔ (option' = 0 ↔ option = 0) := by
  unfold powerValue
  split_ifs <;> simp [*]

theorem switchesExactly_localWrites (howns : OwnsSlot k slot') :
    SwitchesExactly slot option ((localWrites slot' option').map (.power k)) ↔
      Intact slot option slot' option' := by
  unfold localWrites
  split_ifs with hrange
  · constructor
    · intro h _ _
      obtain ⟨hl, hu, howns', hwrite⟩ := h.switched k _ (List.mem_singleton.mpr rfl)
      obtain ⟨hpath, hvalue⟩ := PowerWrite.mk.inj hwrite
      exact ⟨howns.eq_of_lcPath howns' hrange ⟨hl, hu⟩ hpath, powerValue_inj.mp hvalue⟩
    · intro h
      obtain ⟨rfl, hoption⟩ := h hrange.1 hrange.2
      refine ⟨by simp [Happening.isRelay], fun card write hmem => ?_⟩
      obtain ⟨rfl, rfl⟩ := Happening.power.inj (List.mem_singleton.mp hmem)
      exact ⟨hrange.1, hrange.2, howns, by rw [powerValue_inj.mpr hoption]⟩
  · refine ⟨fun _ hl hu => absurd ⟨hl, hu⟩ hrange, fun _ => ⟨by simp, fun _ _ hmem => ?_⟩⟩
    exact absurd hmem List.not_mem_nil

theorem countP_power (writes : List PowerWrite) :
    (writes.map (Happening.power k)).countP Happening.isRelay = 0 := by
  rw [List.countP_eq_zero]
  intro h hmem
  obtain ⟨w, -, rfl⟩ := List.mem_map.mp hmem
  exact Bool.false_ne_true

theorem switchesExactly_relay {a b : Nat} {tail : List Happening} :
    SwitchesExactly slot option (.relay a b :: tail) ↔
      SwitchesExactly slot option tail ∧ tail.countP Happening.isRelay = 0 := by
  have hcount : (Happening.relay a b :: tail).countP Happening.isRelay =
      tail.countP Happening.isRelay + 1 := List.countP_cons_of_pos rfl
  constructor
  · intro h
    have honce := h.relayed_once
    exact ⟨⟨by omega, fun card w hmem => h.switched card w (List.mem_cons_of_mem _ hmem)⟩, by omega⟩
  · rintro ⟨h, hnone⟩
    refine ⟨by omega, fun card w hmem => h.switched card w ?_⟩
    exact (List.mem_cons.mp hmem).resolve_left Happening.noConfusion

theorem switchesExactly_nil : SwitchesExactly slot option [] :=
  ⟨Nat.zero_le 1, fun _ _ hmem => absurd hmem List.not_mem_nil⟩

end Exact

theorem ownsSlot_iff {k : Nat} {half : SlotHalf} {slot : Int} (h : slotHalf k = some half) :
    OwnsSlot k slot ↔ half.Owns slot := by
  unfold OwnsSlot
  rw [h]

theorem toNat_ofInt (x : Int) : ((UInt16.ofInt x).toNat : Int) = x % 65536 := by
  have hbound : (x % 2 ^ 16).toNat < 2 ^ 16 := by omega
  rw [UInt16.ofInt, UInt16.toNat_ofNat_of_lt' hbound]
  omega

namespace Fleet

variable {driver : Driver} {f : Fleet} {k k' : Nat} {half : SlotHalf} {params : List Char}
  {slot option slot' option' : Int}

theorem switchesExactly_succ :
    (∀ n, SwitchesExactly slot option (f.chain driver n k params)) ↔
      ∀ n, SwitchesExactly slot option (f.chain driver (n + 1) k params) := by
  refine ⟨fun h n => h (n + 1), fun h n => ?_⟩
  cases n with
  | zero => exact switchesExactly_nil
  | succ n => exact h n

theorem switchesExactly_of_owns (hhalf : slotHalf k = some half)
    (hparams : shutdownParams params = (slot', option')) (howns : half.Owns slot') :
    (∀ n, SwitchesExactly slot option (f.chain driver n k params)) ↔
      Intact slot option slot' option' := by
  rw [← switchesExactly_localWrites ((ownsSlot_iff hhalf).mpr howns), switchesExactly_succ]
  simp only [chain_owns driver hhalf hparams howns, forall_const]

theorem countP_chain_of_owns (hhalf : slotHalf k = some half)
    (hparams : shutdownParams params = (slot', option')) (howns : half.Owns slot') (n : Nat) :
    (f.chain driver n k params).countP Happening.isRelay = 0 := by
  cases n with
  | zero => rfl
  | succ n => rw [chain_owns driver hhalf hparams howns, countP_power]

theorem switchesExactly_relayed (a : Nat) (hhalf : slotHalf k = some half)
    (hparams : shutdownParams params = (slot', option')) :
    (∀ n, SwitchesExactly slot option (.relay a k :: f.chain driver n k params)) ↔
      if OwnsSlot k slot' then Intact slot option slot' option' else f.peer k = none := by
  simp only [switchesExactly_relay, forall_and]
  by_cases howns : half.Owns slot'
  · rw [if_pos ((ownsSlot_iff hhalf).mpr howns), switchesExactly_of_owns hhalf hparams howns]
    exact and_iff_left (countP_chain_of_owns hhalf hparams howns)
  · rw [if_neg (mt (ownsSlot_iff hhalf).mp howns)]
    cases hpeer : f.peer k with
    | none =>
      refine iff_of_true ⟨switchesExactly_succ.mpr fun n => ?_, fun n => ?_⟩ rfl
      · rw [chain_stops driver hhalf hparams howns hpeer]
        exact switchesExactly_nil
      · cases n with
        | zero => rfl
        | succ n => rw [chain_stops driver hhalf hparams howns hpeer, List.countP_nil]
    | some k' =>
      obtain ⟨f', -, hchain⟩ := chain_relays driver hhalf hparams howns hpeer
      refine iff_of_false (fun h => ?_) (Option.some_ne_none k')
      have hrelay := h.2 1
      rw [hchain, List.countP_cons_of_pos rfl] at hrelay
      exact Nat.succ_ne_zero _ hrelay

end Fleet

theorem exists_slotHalf {k : Nat} (hk : k ∈ [33, 35, 37, 39, 41, 43, 45, 47]) :
    ∃ half, slotHalf k = some half := by
  simp only [List.mem_cons, List.not_mem_nil, or_false] at hk
  rcases hk with rfl | rfl | rfl | rfl | rfl | rfl | rfl | rfl
  all_goals exact ⟨_, rfl⟩

theorem remote_power_exact_iff (driver : Driver) (f : Fleet) (k : Nat)
    (hk : k ∈ [33, 35, 37, 39, 41, 43, 45, 47]) (params : List Char) (slot option : Int)
    (hrequest : Requests params slot option) :
    (∀ n, SwitchesExactly slot option (f.chain driver n k params)) ↔ f.Conveys k slot option := by
  obtain ⟨half, hhalf⟩ := exists_slotHalf hk
  have hparams := shutdownParams_of_requests hrequest
  unfold Fleet.Conveys
  by_cases howns : half.Owns (toInt (saturate slot))
  · rw [if_pos ((ownsSlot_iff hhalf).mpr howns)]
    exact Fleet.switchesExactly_of_owns hhalf hparams howns
  · rw [if_neg (mt (ownsSlot_iff hhalf).mp howns), Fleet.switchesExactly_succ]
    cases hpeer : f.peer k with
    | none =>
      refine iff_of_true (fun n => ?_) fun k' hk' => absurd hk' (Option.not_mem_none k')
      rw [Fleet.chain_stops driver hhalf hparams howns hpeer]
      exact switchesExactly_nil
    | some k' =>
      obtain ⟨f', hpeers, hchain⟩ := Fleet.chain_relays driver hhalf hparams howns hpeer
      have htext := shutdownParams_shutdownText (UInt16.ofInt (toInt (saturate slot)))
        (UInt16.ofInt (toInt (saturate option)))
      rw [toNat_ofInt, toNat_ofInt] at htext
      simp only [hchain, Option.mem_some_iff, forall_eq']
      rw [Fleet.switchesExactly_relayed k (Fleet.slotHalf_peer hhalf hpeer) htext, hpeers]

theorem Fleet.conveys_in_range (f : Fleet) {k : Nat} {half : SlotHalf} {slot option : Int}
    (hhalf : slotHalf k = some half) (hslot : 0 ≤ slot ∧ slot ≤ 7)
    (hoption : 0 ≤ option ∧ option < 65536) : f.Conveys k slot option := by
  have hs := toInt_saturate (n := slot) (by omega) (by omega)
  have ho := toInt_saturate (n := option) (by omega) (by omega)
  have hs' : slot % 65536 = slot := Int.emod_eq_of_lt hslot.1 (by omega)
  have ho' : option % 65536 = option := Int.emod_eq_of_lt hoption.1 hoption.2
  have hintact : Intact slot option slot option := fun _ _ => ⟨rfl, Iff.rfl⟩
  unfold Conveys
  rw [hs, ho, hs', ho']
  split_ifs with howns
  · exact hintact
  · intro k' hk'
    have howns' : OwnsSlot k' slot := (ownsSlot_iff (slotHalf_peer hhalf hk')).mpr
      (SlotHalf.other_owns (mt (ownsSlot_iff hhalf).mpr howns))
    rw [if_pos howns']
    exact hintact

def masterPair : Fleet where
  chassis k :=
    { usCardNumber := k
      type := .fabricCard
      ctpm := Ctpm.zero
      rxBpdu := []
      switch := ⟨fun _ => none, []⟩
      sent := []
      touched := []
      usCard := Vector.replicate _ ⟨#v[192, 168, 0, 1], chassisIsExist⟩
      localMaster := #v[33, 37, 0, 0] }
  number _ := rfl
  own_group _ := by
    have hmasters : ∀ i : Fin 4, (#v[33, 37, 0, 0] : Vector Int 4).get i = 0 ∨
        ((#v[33, 37, 0, 0] : Vector Int 4).get i % 2 = 1 ∧
          33 + 4 * (i : Int) ≤ (#v[33, 37, 0, 0] : Vector Int 4).get i ∧
          (#v[33, 37, 0, 0] : Vector Int 4).get i ≤ 36 + 4 * (i : Int)) := by decide
    exact hmasters

theorem remote_power_slot_2 :
    SwitchesExactly 2 1 (masterPair.chain (fun _ => 0) 3 37 (shutdownText 2 1)) := by
  have hconveys : masterPair.Conveys 37 2 1 := by decide +kernel
  exact (remote_power_exact_iff _ masterPair 37 (by decide) _ 2 1
    (requests_shutdownText 2 1)).mpr hconveys 3

theorem slot_65538_switches_slot_2 :
    Requests ['6', '5', '5', '3', '8', ' ', '0'] 65538 0 ∧
      ¬ SwitchesExactly 65538 0
        (masterPair.chain (fun _ => 0) 3 33 ['6', '5', '5', '3', '8', ' ', '0']) := by
  refine ⟨⟨_, _, ⟨[], [' '], [], rfl, by simp, by simp, by simp [isBlank], by simp [Stops]⟩,
    denotes_toDigits 65538, denotes_toDigits 0⟩, fun h => ?_⟩
  exact absurd h.relayed_once (by decide +kernel)

end Chassisd
