import Chassisd.Bpdu.Dispatch
import Chassisd.Bpdu.Handover
import Chassisd.Bpdu.Socket
import Chassisd.Bpdu.Unfiltered
import Chassisd.Election.Refinement
import Chassisd.Library.Isolation

namespace Chassisd

open RxInterval (Key Holds)

-- The cards on the wire that reaches all of them: every frame is offered to every socket.
def wireMachine (pad : TablePadding) (stale : List UInt8 → Chassis → ReceiveBuffer) :
    LossyNet.Machine Nat Own Chassis (List UInt8) where
  act _ e c := (step e.event c, (step e.event c).sent.map (RstpBpdu.toBytes pad))
  recv k frame c :=
    let c' := bpduSocketRcv k (stale frame c) frame (quiet c)
    (c', c'.sent.map (RstpBpdu.toBytes pad))

abbrev Wire := LossyNet.Cloud Nat Chassis (List UInt8)

def switchedOnWire (topology : Nat → CtpMode) (hwaddr : Nat → Vector UInt8 6) : Wire where
  node k := startUp k (cardTypeOf k) (topology k) (hwaddr k)
  flight := []

def FrameOf (k : Nat) (m : RstpBpdu) : Prop :=
  ∃ this t, ∃ bpduType ∈ sentTypes, m = infoBpdu k this t bpduType

section Speaking

def Utters (c c' : Chassis) : Prop :=
  c'.sent = c.sent ∨ ∃ m, FrameOf c.usCardNumber m ∧ c'.sent = c.sent ++ [m]

variable {c c' : Chassis} {m : RstpBpdu}

theorem utters_tx {bpduType : UInt8} (ht : bpduType ∈ sentTypes) (hn : SameCard c c')
    (hsent : c'.sent = c.sent) : Utters c (txInfoBpdu bpduType c') := by
  refine .inr ⟨_, ⟨c'.ctpm, decChassisMember c'.usCardNumber c'.ctpm.chassisExist, bpduType, ht,
    rfl⟩, ?_⟩
  rw [(txInfoBpdu_frame bpduType c').2.2.2.2.2.1, hsent, hn.number]

theorem Utters.congr (h : Utters c c') {c'' : Chassis} (hsent : c''.sent = c'.sent) :
    Utters c c'' := by
  unfold Utters
  rw [hsent]
  exact h

theorem LineRx.utters (h : LineRx m c c') : Utters c c' := by
  obtain ⟨-, hreply, hlc, -, hhello⟩ := mem_sentTypes
  have hmerge := sameCard_inUpdateChassisMember m c
  have htimer := hmerge.trans (sameCard_restartTimer (inUpdateChassisMember m c))
  cases h with
  | wake =>
    refine (utters_tx hreply ((sameCard_wake c).trans ((sameCard_adopt _ _ m _).trans
      (sameCard_takeTimes m _))) ?_).congr (inUpdateChassisMember_frame m _).2.2.2.2.2.1
    simp only [takeTimes_frame, adopt_frame, wake_frame]
  | adopt | agree | other => exact .inl (by simp)
  | lcChange => exact (utters_tx hlc hmerge rfl).congr (by simp)
  | sync => exact .inl (by simp)
  | relay => exact utters_tx hhello htimer rfl
  | reply => exact utters_tx hreply htimer rfl
  | config => exact utters_tx hreply hmerge rfl
  | disabled => exact .inl rfl

theorem FabricRx.utters (h : FabricRx m c c') : Utters c c' := by
  obtain ⟨-, hreply, -, -, hhello⟩ := mem_sentTypes
  have hmerge := sameCard_inUpdateChassisMember m c
  cases h with
  | echo =>
    exact utters_tx hhello (hmerge.trans (sameCard_restartTimer _)) rfl
  | config => exact utters_tx hreply hmerge rfl
  | elect => exact utters_tx hhello (hmerge.trans (sameCard_electLc _ _ _)) rfl
  | _ => exact .inl (by simp)

theorem Ticked.utters (h : Ticked c c') : Utters c c' := by
  obtain ⟨hconfig, -, hlc, -, hhello⟩ := mem_sentTypes
  cases h with
  | config | listenFabric => exact utters_tx hconfig ⟨rfl, rfl, rfl, rfl⟩ rfl
  | learning => exact (utters_tx hconfig (.refl c) rfl).congr rfl
  | elect => exact utters_tx hhello ⟨rfl, rfl, rfl, rfl⟩ rfl
  | alone =>
    exact utters_tx hlc ((sameCard_dropLc _ c).trans (sameCard_enterBlock _)) (by simp)
  | hello => exact (utters_tx hhello (.refl c) rfl).congr rfl
  | _ => exact .inl (by simp)

theorem frameOf_ready {rx : List RxHeader} (h : Utters (ready rx c) c') :
    ∀ m ∈ c'.sent, FrameOf c.usCardNumber m := by
  intro m hm
  rcases h with hsent | ⟨m', hm', hsent⟩
  · rw [hsent] at hm
    exact absurd hm List.not_mem_nil
  · rw [hsent, (ready_frame rx c).2.2.2.2.2.2.1, List.nil_append, List.mem_singleton] at hm
    rw [hm]
    exact hm'

theorem frameOf_step (e : Event) (c : Chassis) :
    ∀ m ∈ (step e c).sent, FrameOf c.usCardNumber m := by
  have h := stepped e c
  generalize step e c = c' at h
  cases h with
  | idle | dropped => exact fun _ hm => absurd hm List.not_mem_nil
  | tick _ h => exact frameOf_ready h.utters
  | line _ _ h => exact frameOf_ready h.utters
  | fabric _ _ h => exact frameOf_ready h.utters
  | exit =>
    refine @frameOf_ready _ _ c.rxBpdu ?_
    unfold signalExit
    dsimp only
    split_ifs
    · exact utters_tx mem_sentTypes.2.2.2.1 (sameCard_enterBlock _) (by simp)
    · exact .inl (by simp)

end Speaking

section Frames

variable {k : Nat} {m : RstpBpdu}

theorem FrameOf.slotid (h : FrameOf k m) (hk : k ≤ 48) : m.slotid = k := by
  obtain ⟨this, t, bpduType, -, rfl⟩ := h
  exact infoBpdu_slotid k this t bpduType (by omega)

theorem FrameOf.type (h : FrameOf k m) : m.bpduType ∈ sentTypes := by
  obtain ⟨this, t, bpduType, ht, rfl⟩ := h
  exact ht

theorem FrameOf.dstMac (h : FrameOf k m) : m.mac.dstMac = bpduMulticast k := by
  obtain ⟨this, t, bpduType, -, rfl⟩ := h
  rfl

theorem FrameOf.received {j : Nat} {pad : TablePadding} (h : FrameOf k m) (hj : 1 ≤ j ∧ j ≤ 48)
    (hk : 1 ≤ k ∧ k ≤ 48) (stale : ReceiveBuffer) (c : Chassis) :
    bpduSocketRcv j stale (m.toBytes pad) c =
      if tier j = tier k ↔ ¬(j < 33 ↔ k < 33) then rxBpdu m RstpBpdu.sizeof c else c := by
  obtain ⟨this, t, bpduType, -, rfl⟩ := h
  exact socket_hears_iff this t bpduType pad hj hk stale c

end Frames

-- Two states of one card that differ in what the other tier left in the duplicate table.
structure Twin (T : Tier) (c d : Chassis) : Prop where
  same : quiet d = (quiet c).withRx d.rxBpdu
  seen : ∃ seen, SeenKeys seen ∧ Holds c.rxBpdu seen ∧
    Holds d.rxBpdu (seen.filter fun key => tier key.1 = T)

section Tables

variable {j : Nat} {c : Chassis} {m : RstpBpdu} {seen : List Key}

theorem SeenKeys.concat (h : SeenKeys seen) (hm : FrameOf j m) (hj : 1 ≤ j ∧ j ≤ 48)
    (hnew : key m ∉ seen) : SeenKeys (seen ++ [key m]) := by
  refine ⟨h.1.append (List.nodup_singleton _) (List.disjoint_singleton.mpr hnew), ?_⟩
  intro x hx
  rcases List.mem_append.mp hx with hx | hx
  · exact h.2 x hx
  · rw [List.mem_singleton.mp hx, key, hm.slotid hj.2]
    exact ⟨hj, hm.type⟩

theorem SeenKeys.filter (h : SeenKeys seen) (p : Key → Bool) : SeenKeys (seen.filter p) :=
  ⟨h.1.filter p, fun x hx => h.2 x (List.mem_of_mem_filter hx)⟩

theorem check_frameOf (h : Holds c.rxBpdu seen) (hs : SeenKeys seen) (hm : FrameOf j m)
    (hj : 1 ≤ j ∧ j ≤ 48) (hnew : key m ∉ seen) :
    (checkRxBpduInterval m c.rxBpdu).1 = 0 ∧
      Holds (checkRxBpduInterval m c.rxBpdu).2 (seen ++ [key m]) :=
  RxInterval.check_of_not_mem h (by rw [hm.slotid hj.2]; omega) hs.length_lt hnew

theorem rxBpdu_frameOf (h : Holds c.rxBpdu seen) (hs : SeenKeys seen) (hm : FrameOf j m)
    (hj : 1 ≤ j ∧ j ≤ 48) : rxBpdu m RstpBpdu.sizeof c =
      if c.usCardNumber % 2 = 0 ∨ key m ∈ seen then c
      else dispatchBpdu m (c.withRx (checkRxBpduInterval m c.rxBpdu).2) := by
  rw [rxBpdu, if_pos (accepts_sentTypes _ hm.type), inRxBpdu]
  by_cases heven : c.usCardNumber % 2 = 0
  · rw [if_pos heven, if_pos (.inl heven)]
  · rw [if_neg heven]
    by_cases hkey : key m ∈ seen
    · rw [if_pos (.inr hkey), RxInterval.check_of_mem h hkey]
      rfl
    · rw [if_neg (by tauto)]
      dsimp only
      rw [(check_frameOf h hs hm hj hkey).1, if_neg (by decide)]

theorem rxBpdu_dispatchBpdu (m : RstpBpdu) (c : Chassis) :
    (dispatchBpdu m c).rxBpdu = c.rxBpdu := by
  have h := dispatched m c
  generalize dispatchBpdu m c = c' at h
  cases h with
  | line _ _ h => exact h.rxBpdu
  | fabric _ _ h => exact h.rxBpdu
  | ignored => rfl

theorem dispatchBpdu_same_kind {k : Nat} (hm : FrameOf j m) (hj : 1 ≤ j ∧ j ≤ 48)
    (htype : c.type = cardTypeOf k) (hjk : j < 33 ↔ k < 33) : dispatchBpdu m c = c := by
  have hslot := hm.slotid hj.2
  unfold cardTypeOf at htype
  rcases Nat.lt_or_ge j 33 with hline | hfabric
  · rw [if_pos (hjk.mp hline)] at htype
    rw [dispatchBpdu, hslot, if_neg (by omega), if_pos ⟨hj.1, by omega⟩, inRxLcBpdu, htype]
  · rw [if_neg (by omega)] at htype
    rw [dispatchBpdu, hslot, if_pos ⟨hfabric, hj.2⟩, inRxFcBpdu, htype]

end Tables

section Twins

variable {T : Tier} {j k : Nat} {c d : Chassis} {m : RstpBpdu}

theorem Twin.clear (h : quiet d = (quiet c).withRx d.rxBpdu)
    (hc : c.rxBpdu = clearRxBpduInterval) (hd : d.rxBpdu = clearRxBpduInterval) : Twin T c d :=
  ⟨h, [], ⟨List.nodup_nil, fun _ hkey => absurd hkey List.not_mem_nil⟩,
    hc ▸ RxInterval.holds_clear, hd ▸ RxInterval.holds_clear⟩

theorem Twin.ctpm (h : Twin T c d) : d.ctpm = c.ctpm := congrArg (fun c => c.ctpm) h.same

theorem Twin.port (h : Twin T c d) : d.switch.port = c.switch.port := by
  have hport := congrArg (fun c => c.switch.port) h.same
  exact hport

theorem Twin.number (h : Twin T c d) : d.usCardNumber = c.usCardNumber := by
  have hnumber := congrArg (fun c => c.usCardNumber) h.same
  exact hnumber

theorem Twin.hush (h : Twin T c d) : Twin T (quiet c) (quiet d) := ⟨h.same, h.seen⟩

theorem Twin.hear (h : Twin T c d) (hm : FrameOf j m) (hj : 1 ≤ j ∧ j ≤ 48) (ht : tier j = T) :
    Twin T (rxBpdu m RstpBpdu.sizeof (quiet c)) (rxBpdu m RstpBpdu.sizeof (quiet d)) ∧
      (rxBpdu m RstpBpdu.sizeof (quiet c)).sent = (rxBpdu m RstpBpdu.sizeof (quiet d)).sent := by
  obtain ⟨seen, hs, hc, hd⟩ := h.seen
  have hmine : key m ∈ seen.filter (fun key => tier key.1 = T) ↔ key m ∈ seen := by
    rw [List.mem_filter, key, hm.slotid hj.2, decide_eq_true ht, and_iff_left rfl]
  rw [rxBpdu_frameOf (c := quiet c) hc hs hm hj,
    rxBpdu_frameOf (c := quiet d) hd (hs.filter _) hm hj]
  by_cases hskip : (quiet c).usCardNumber % 2 = 0 ∨ key m ∈ seen
  · rw [if_pos hskip, if_pos (hskip.imp (fun h' => h.number.symm ▸ h') hmine.mpr)]
    exact ⟨h.hush, rfl⟩
  · rw [if_neg hskip, if_neg fun h' => hskip (h'.imp (fun h' => h.number ▸ h') hmine.mp)]
    have hnew : key m ∉ seen := fun h' => hskip (.inr h')
    have hc' := (check_frameOf (c := quiet c) hc hs hm hj hnew).2
    have hd' := (check_frameOf (c := quiet d) hd (hs.filter _) hm hj (hnew ∘ hmine.mp)).2
    have heq : dispatchBpdu m ((quiet d).withRx (checkRxBpduInterval m d.rxBpdu).2) =
        (dispatchBpdu m ((quiet c).withRx (checkRxBpduInterval m c.rxBpdu).2)).withRx
          (checkRxBpduInterval m d.rxBpdu).2 := by
      rw [h.same, ← dispatchBpdu_withRx]
    refine ⟨⟨?_, seen ++ [key m], hs.concat hm hj hnew, ?_, ?_⟩, ?_⟩
    · rw [rxBpdu_dispatchBpdu]
      exact congrArg quiet heq
    · rw [rxBpdu_dispatchBpdu]
      exact hc'
    · rw [rxBpdu_dispatchBpdu, List.filter_append, List.filter_singleton, key, hm.slotid hj.2,
        decide_eq_true ht]
      rw [key, hm.slotid hj.2] at hd'
      exact hd'
    · exact (congrArg (fun c => c.sent) heq).symm

theorem Twin.ignore (h : Twin T c d) (hm : FrameOf j m) (hj : 1 ≤ j ∧ j ≤ 48)
    (ht : tier j ≠ T) (htype : c.type = cardTypeOf k) (hjk : j < 33 ↔ k < 33) :
    Twin T (rxBpdu m RstpBpdu.sizeof (quiet c)) d ∧
      (rxBpdu m RstpBpdu.sizeof (quiet c)).sent = [] := by
  obtain ⟨seen, hs, hc, hd⟩ := h.seen
  rw [rxBpdu_frameOf (c := quiet c) hc hs hm hj]
  by_cases hskip : (quiet c).usCardNumber % 2 = 0 ∨ key m ∈ seen
  · rw [if_pos hskip]
    exact ⟨⟨h.same, h.seen⟩, rfl⟩
  · rw [if_neg hskip]
    have hnew : key m ∉ seen := fun h' => hskip (.inr h')
    have hc' := (check_frameOf (c := quiet c) hc hs hm hj hnew).2
    rw [dispatchBpdu_same_kind (k := k) hm hj (by exact htype) hjk]
    refine ⟨⟨h.same, seen ++ [key m], hs.concat hm hj hnew, hc', ?_⟩, rfl⟩
    rw [List.filter_append, List.filter_singleton, key, hm.slotid hj.2, decide_eq_false ht]
    simpa using hd

theorem Twin.tick (h : Twin T c d) :
    Twin T (step .tick c) (step .tick d) ∧ (step .tick c).sent = (step .tick d).sent := by
  have hstep : step .tick d = ctpmOneSecond ((quiet c).withRx d.rxBpdu) :=
    congrArg ctpmOneSecond h.same
  rw [ctpmOneSecond_withRx] at hstep
  by_cases hadmin : (quiet c).ctpm.adminState = .enabled
  · rw [if_neg (not_not.mpr hadmin)] at hstep
    have hclear : (step .tick c).rxBpdu = clearRxBpduInterval := by
      have ht := step_tick (c := c) hadmin
      exact ht.rxBpdu.trans (ready_frame clearRxBpduInterval c).2.2.2.1
    have heq : step .tick d = step .tick c := hstep
    rw [heq]
    exact ⟨.clear rfl hclear hclear, rfl⟩
  · have hc : step .tick c = quiet c := if_pos hadmin
    have hd : step .tick d = quiet d := by
      rw [hstep, if_pos hadmin, ctpmOneSecond, if_pos hadmin, h.same]
    rw [hc, hd]
    exact ⟨h.hush, rfl⟩

theorem Twin.exit (h : Twin T c d) :
    Twin T (step .exit c) (step .exit d) ∧ (step .exit c).sent = (step .exit d).sent := by
  have hstep : step .exit d = (step .exit c).withRx d.rxBpdu :=
    (congrArg signalExit h.same).trans (signalExit_withRx (quiet c) d.rxBpdu)
  obtain ⟨seen, hs, hc, hd⟩ := h.seen
  have hrx : (step .exit c).rxBpdu = c.rxBpdu := by
    change (signalExit (quiet c)).rxBpdu = _
    unfold signalExit
    dsimp only
    split_ifs <;> simp [quiet]
  refine ⟨⟨?_, seen, hs, ?_, ?_⟩, ?_⟩
  · rw [hstep]; rfl
  · rw [hrx]; exact hc
  · rw [hstep]; exact hd
  · rw [hstep]

end Twins

section Isolation

variable {T : Tier} {pad : TablePadding} {stale : List UInt8 → Chassis → ReceiveBuffer}
variable {cards : Nat → Prop}

def IsCard (k : Nat) (c : Chassis) : Prop :=
  (1 ≤ k ∧ k ≤ 48) ∧ c.usCardNumber = k ∧ c.type = cardTypeOf k

def OnWire (pad : TablePadding) (frame : List UInt8) : Prop :=
  ∃ k m, (1 ≤ k ∧ k ≤ 48) ∧ FrameOf k m ∧ frame = m.toBytes pad

def tierOf (frame : List UInt8) : Tier := tier (RstpBpdu.ofBytes frame).slotid

theorem tierOf_toBytes {k : Nat} {m : RstpBpdu} (hm : FrameOf k m) (hk : k ≤ 48) :
    tierOf (m.toBytes pad) = tier k := by
  have hback := RstpBpdu.ofBytes_toBytes pad m []
  rw [List.append_nil] at hback
  rw [tierOf, hback, hm.slotid hk]

theorem IsCard.same {k : Nat} {c c' : Chassis} (h : IsCard k c) (hsame : SameCard c c') :
    IsCard k c' :=
  ⟨h.1, hsame.number.trans h.2.1, hsame.type.trans h.2.2⟩

theorem onWire_step {k : Nat} {c : Chassis} (h : IsCard k c) (e : Event) :
    ∀ frame ∈ (step e c).sent.map (RstpBpdu.toBytes pad), ∃ m, FrameOf k m ∧
      frame = m.toBytes pad := by
  intro frame hframe
  obtain ⟨m, hm, rfl⟩ := List.mem_map.mp hframe
  exact ⟨m, h.2.1 ▸ frameOf_step e c m hm, rfl⟩

theorem received_of_onWire {j k : Nat} {m : RstpBpdu} (hm : FrameOf j m) (hj : 1 ≤ j ∧ j ≤ 48)
    (hk : 1 ≤ k ∧ k ≤ 48) (c : Chassis) (buf : ReceiveBuffer) :
    bpduSocketRcv k buf (m.toBytes pad) (quiet c) =
      if tier k = tier j ↔ ¬(k < 33 ↔ j < 33) then step (.rx m RstpBpdu.sizeof) c
      else quiet c :=
  hm.received hk hj buf (quiet c)

theorem closed_wire :
    LossyNet.Closed (wireMachine pad stale) cards IsCard (OnWire pad) where
  act k e c hk hc := by
    refine ⟨hc.same (sameCard_step e.event c), fun frame hframe => ?_⟩
    obtain ⟨m, hm, hbytes⟩ := onWire_step hc e.event frame hframe
    exact ⟨k, m, hc.1, hm, hbytes⟩
  recv k frame c hk hc := by
    rintro ⟨j, m, hj, hm, rfl⟩
    dsimp only [wireMachine]
    rw [received_of_onWire hm hj hc.1 c]
    split_ifs
    · refine ⟨hc.same (sameCard_step _ c), fun frame hframe => ?_⟩
      obtain ⟨m', hm', hbytes⟩ := onWire_step hc _ frame hframe
      exact ⟨k, m', hc.1, hm', hbytes⟩
    · exact ⟨hc, fun _ hframe => absurd hframe List.not_mem_nil⟩

theorem isolated_tier :
    LossyNet.Isolated (wireMachine pad stale) cards (fun k => tier k = T) IsCard (OnWire pad)
      (fun frame => tierOf frame = T) (fun _ => Twin T) where
  act k e c d hk hT hc h := by
    dsimp only [wireMachine]
    cases e with
    | tick =>
      obtain ⟨htwin, hsent⟩ := h.tick
      exact ⟨htwin, congrArg _ hsent⟩
    | exit =>
      obtain ⟨htwin, hsent⟩ := h.exit
      exact ⟨htwin, congrArg _ hsent⟩
  hear k frame c d hk hT hc := by
    rintro ⟨j, m, hj, hm, rfl⟩ hmine h
    rw [tierOf_toBytes hm hj.2] at hmine
    dsimp only [wireMachine]
    rw [received_of_onWire hm hj hc.1 c, received_of_onWire hm hj hc.1 d]
    split_ifs
    · obtain ⟨htwin, hsent⟩ := h.hear hm hj hmine
      exact ⟨htwin, congrArg _ hsent⟩
    · exact ⟨h.hush, rfl⟩
  ignore k frame c d hk hT hc := by
    rintro ⟨j, m, hj, hm, rfl⟩ hmine h
    rw [tierOf_toBytes hm hj.2] at hmine
    dsimp only [wireMachine]
    rw [received_of_onWire hm hj hc.1 c]
    split_ifs with hheard
    · have hjk : j < 33 ↔ k < 33 := by
        by_contra hkinds
        exact hmine ((hheard.mpr fun h => hkinds h.symm).symm.trans hT)
      obtain ⟨htwin, hsent⟩ := h.ignore hm hj hmine hc.2.2 hjk
      exact ⟨htwin, congrArg _ hsent⟩
    · exact ⟨⟨h.same, h.seen⟩, rfl⟩
  actMine k e c hk hc frame hframe := by
    obtain ⟨m, hm, rfl⟩ := onWire_step hc e.event frame hframe
    rw [tierOf_toBytes hm hc.1.2]
  recvMine k frame c hk hc := by
    rintro ⟨j, m, hj, hm, rfl⟩ frame hframe
    dsimp only [wireMachine] at hframe
    rw [received_of_onWire hm hj hc.1 c] at hframe
    split_ifs at hframe
    · obtain ⟨m', hm', rfl⟩ := onWire_step hc _ frame hframe
      rw [tierOf_toBytes hm' hc.1.2]
    · exact absurd hframe List.not_mem_nil

theorem local_switchedOnWire (hcards : ∀ k, cards k → 1 ≤ k ∧ k ≤ 48) (topology : Nat → CtpMode)
    (hwaddr : Nat → Vector UInt8 6) :
    LossyNet.Local cards IsCard (OnWire pad) (switchedOnWire topology hwaddr) :=
  ⟨fun k hk => ⟨hcards k hk, (startUp_frame k _ _ _).1, (startUp_frame k _ _ _).2.1⟩,
    fun _ hframe => absurd hframe List.not_mem_nil⟩

-- Whatever the other tier sends, and however its frames fall between theirs, the cards of a tier
-- are in a state that they reach on their own, with the same frames of theirs in flight.
theorem tier_isolated (T : Tier) (pad : TablePadding) (stale : List UInt8 → Chassis → ReceiveBuffer)
    (hcards : ∀ k, cards k → 1 ≤ k ∧ k ≤ 48) (topology : Nat → CtpMode)
    (hwaddr : Nat → Vector UInt8 6) (n : Wire)
    (hreach : LossyNet.Reach (wireMachine pad stale) cards (switchedOnWire topology hwaddr) n) :
    ∃ alone : Wire,
      LossyNet.Reach (wireMachine pad stale) (fun k => cards k ∧ tier k = T)
        (switchedOnWire topology hwaddr) alone ∧
      (∀ k, cards k → tier k = T → (alone.node k).ctpm = (n.node k).ctpm ∧
        (alone.node k).switch.port = (n.node k).switch.port) ∧
      alone.flight = n.flight.filter fun frame => tierOf frame = T := by
  have hstart : LossyNet.Follows cards (fun k => tier k = T) (fun frame => tierOf frame = T)
      (fun _ => Twin T) (switchedOnWire topology hwaddr) (switchedOnWire topology hwaddr) := by
    refine ⟨fun k _ _ => ?_, rfl⟩
    have hclear := rxBpdu_startUp k (cardTypeOf k) (topology k) (hwaddr k)
    exact .clear rfl hclear hclear
  obtain ⟨alone, halone, hfollows⟩ := isolated_tier.reach closed_wire
    (local_switchedOnWire hcards topology hwaddr) hstart hreach
  exact ⟨alone, halone, fun k hk hT => ⟨(hfollows.node k hk hT).ctpm, (hfollows.node k hk hT).port⟩,
    hfollows.flight⟩

abbrev quitMachine : LossyNet.Machine Nat Own Chassis (List UInt8) :=
  wireMachine noPadding fun _ _ => Vector.replicate 2048 0

abbrev switchedLineCards : Wire :=
  switchedOnWire (fun _ => .enabled) fun _ => Vector.replicate 6 0

def quitOnWire : Wire := LossyNet.acted quitMachine 17 .exit switchedLineCards

theorem quitOnWire_flight : ∃ m, FrameOf 17 m ∧ quitOnWire.flight = [m.toBytes noPadding] := by
  have hnumber : (switchedLineCards.node 17).usCardNumber = 17 := (startUp_frame 17 _ _ _).1
  have hsent := sent_exit (switchedLineCards.node 17) (by rw [hnumber]; decide)
  have hm := frameOf_step .exit (switchedLineCards.node 17) _
    (by rw [hsent]; exact List.mem_singleton_self _)
  rw [hnumber] at hm
  refine ⟨_, hm, ?_⟩
  rw [quitOnWire, LossyNet.acted]
  change [] ++ (step .exit (switchedLineCards.node 17)).sent.map (RstpBpdu.toBytes noPadding) = _
  rw [hsent, List.nil_append, List.map_singleton, hnumber]

theorem tier_isolated_line_cards : ∃ frame ∈ quitOnWire.flight, tierOf frame = .down ∧
    ∃ alone : Wire,
      LossyNet.Reach quitMachine (fun k => (k = 1 ∨ k = 17) ∧ tier k = .upper)
        switchedLineCards alone ∧
      (alone.node 1).ctpm = ((LossyNet.received quitMachine 1 frame quitOnWire).node 1).ctpm ∧
      frame ∉ alone.flight := by
  obtain ⟨m, hm, hflight⟩ := quitOnWire_flight
  have hmem : m.toBytes noPadding ∈ quitOnWire.flight := by
    rw [hflight]
    exact List.mem_singleton_self _
  have htier : tierOf (m.toBytes noPadding) = .down := tierOf_toBytes hm (by decide)
  have hquit : LossyNet.Move quitMachine (fun k => k = 1 ∨ k = 17) switchedLineCards
      (LossyNet.acted quitMachine 17 .exit switchedLineCards) :=
    LossyNet.Move.act (M := quitMachine) switchedLineCards 17 .exit (.inr rfl)
  have hreach : LossyNet.Reach quitMachine (fun k => k = 1 ∨ k = 17) switchedLineCards
      (LossyNet.received quitMachine 1 (m.toBytes noPadding) quitOnWire) :=
    .tail (.single hquit) (.recv quitOnWire 1 _ (.inl rfl) hmem)
  obtain ⟨alone, halone, hsame, hkept⟩ := tier_isolated .upper noPadding _ (by omega) _ _ _ hreach
  refine ⟨_, hmem, htier, alone, halone, (hsame 1 (.inl rfl) (by decide)).1, ?_⟩
  rw [hkept, List.mem_filter, htier]
  exact fun h => absurd h.2 (by decide)

end Isolation

end Chassisd
