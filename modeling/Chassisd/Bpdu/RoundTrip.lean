import Chassisd.Bpdu.Identity
import Chassisd.Bpdu.Wire

namespace Chassisd

def TimesFit (v : TimeValues) : Prop :=
  v.messageAge.toNat < 256 ∧ v.maxAge.toNat < 256 ∧ v.forwardDelay.toNat < 256 ∧
    v.helloTime.toNat < 256

instance (v : TimeValues) : Decidable (TimesFit v) := inferInstanceAs (Decidable (_ ∧ _ ∧ _ ∧ _))

-- What the wire keeps of the sender: 32 bits of the path cost, 8 bits of each timer.
def WireFit (this : Ctpm) : Prop :=
  this.rootPrio.rootPathCost.toNat < 2 ^ 32 ∧ TimesFit this.rootTimes

structure ReadsBack (usNumber : Nat) (this : Ctpm) (bpduType : UInt8) (m : RstpBpdu) : Prop where
  rootId : m.rootId = this.rootPrio.rootBridge.number
  dbridgeId : m.dbridgeId = this.rootPrio.designBridge.number
  rootBridge : BridgeId.ofBytes m.body.rootId = this.rootPrio.rootBridge
  designBridge : BridgeId.ofBytes m.body.bridgeId = this.rootPrio.designBridge
  rootPathCost :
    (htonl (uInt32OfBytes m.body.rootPathCost)).toUInt64 = this.rootPrio.rootPathCost
  slotid : m.slotid = usNumber
  type : m.bpduType = bpduType
  forwarding : forwardingBit m = 1 ↔ this.state = .forwarding
  times : getTimes m.body = this.rootTimes
  table : m.chassisExist = decChassisMember usNumber this.chassisExist

theorem getTimes_infoBpdu (usNumber : Nat) {this : Ctpm} (t : ChassisExist) (bpduType : UInt8)
    (h : TimesFit this.rootTimes) :
    getTimes (infoBpdu usNumber this t bpduType).body = this.rootTimes := by
  obtain ⟨hmsg, hmax, hfwd, hhello⟩ := h
  simp only [infoBpdu, getTimes, setTimes, getTime2_setTime hmsg, getTime2_setTime hmax,
    getTime2_setTime hfwd, getTime2_setTime hhello]

theorem pathCost_wire {x : UInt64} (h : x.toNat < 2 ^ 32) :
    (htonl (uInt32OfBytes (bytesOfUInt32 (htonl x.toUInt32)))).toUInt64 = x := by
  rw [uInt32OfBytes_bytesOfUInt32, htonl_htonl]
  apply UInt64.toNat_inj.mp
  rw [UInt32.toNat_toUInt64, UInt64.toNat_toUInt32]
  exact Nat.mod_eq_of_lt h

theorem readsBack_infoBpdu {usNumber : Nat} (hk : usNumber < 256) {this : Ctpm}
    (bpduType : UInt8) (h : WireFit this) :
    ReadsBack usNumber this bpduType
      (infoBpdu usNumber this (decChassisMember usNumber this.chassisExist) bpduType) where
  rootId := infoBpdu_rootId _ _ _ _
  dbridgeId := infoBpdu_dbridgeId _ _ _ _
  rootBridge := BridgeId.ofBytes_toBytes _
  designBridge := BridgeId.ofBytes_toBytes _
  rootPathCost := pathCost_wire h.1
  slotid := infoBpdu_slotid _ _ _ _ hk
  type := rfl
  forwarding := forwardingBit_infoBpdu _ _ _ _
  times := getTimes_infoBpdu usNumber _ bpduType h.2
  table := rfl

section Received

variable {usNumber : Nat} {this : Ctpm} {bpduType : UInt8} {m : RstpBpdu}

theorem ReadsBack.takeTimes (h : ReadsBack usNumber this bpduType m) (d : Chassis) :
    (takeTimes m d).ctpm.rootTimes = this.rootTimes := h.times

theorem ReadsBack.takeRoot (h : ReadsBack usNumber this bpduType m) {wins : Bool} {d : Chassis}
    (htakes : takesRoot wins m d.ctpm.rootPortId) :
    (takeRoot wins m d).ctpm.rootPortId = this.rootPrio.rootBridge.number ∧
      (takeRoot wins m d).ctpm.rootPrio.rootBridge = this.rootPrio.rootBridge ∧
      (takeRoot wins m d).ctpm.rootPrio.rootPathCost = this.rootPrio.rootPathCost := by
  rw [(takeRoot_frame m wins d).2.2.1, if_pos htakes]
  exact ⟨h.rootId, h.rootBridge, h.rootPathCost⟩

theorem ReadsBack.setDesigned (h : ReadsBack usNumber this bpduType m) (d : Chassis) :
    (setDesigned m d).ctpm.rootLCPortId = this.rootPrio.designBridge.number ∧
      (setDesigned m d).ctpm.rootPrio.designBridge = this.rootPrio.designBridge :=
  ⟨h.dbridgeId, h.designBridge⟩

end Received

theorem wireFit_blocked {this : Ctpm} (usNumber : Nat) (h : TimesFit this.rootTimes) :
    WireFit (this.blocked usNumber) := by
  have hcost : (2000 : UInt64).toNat < 2 ^ 32 := by decide
  unfold Ctpm.blocked
  split_ifs
  · exact ⟨hcost, h⟩
  · exact ⟨hcost, h⟩

structure Wired (c : Chassis) : Prop where
  fit : WireFit c.ctpm
  sent : ∀ m ∈ c.sent, ∃ this bpduType, WireFit this ∧
    m = infoBpdu c.usCardNumber this (decChassisMember c.usCardNumber this.chassisExist) bpduType

namespace Wired

variable {c c' : Chassis}

theorem congr (h : Wired c) (hsame : SameCard c c')
    (hcost : c'.ctpm.rootPrio.rootPathCost = c.ctpm.rootPrio.rootPathCost)
    (htimes : c'.ctpm.rootTimes = c.ctpm.rootTimes) (hsent : c'.sent = c.sent) : Wired c' := by
  constructor
  · unfold WireFit
    rw [hcost, htimes]
    exact h.fit
  · rw [hsent, hsame.number]
    exact h.sent

theorem ready (h : Wired c) (rx : List RxHeader) : Wired (ready rx c) :=
  ⟨h.fit, by simp⟩

theorem merge (h : Wired c) (bpdu : RstpBpdu) : Wired (inUpdateChassisMember bpdu c) :=
  h.congr (sameCard_inUpdateChassisMember bpdu c) rfl rfl rfl

theorem tx (h : Wired c) (bpduType : UInt8) : Wired (txInfoBpdu bpduType c) := by
  refine ⟨h.fit, fun m hm => ?_⟩
  simp only [txInfoBpdu_frame, List.mem_append, List.mem_singleton] at hm ⊢
  rcases hm with hm | rfl
  · exact h.sent m hm
  · exact ⟨c.ctpm, bpduType, h.fit, rfl⟩

theorem wake (h : Wired c) : Wired (wake c) := h.congr (sameCard_wake c) rfl rfl rfl

theorem restart (h : Wired c) : Wired (restartTimer c) :=
  h.congr (sameCard_restartTimer c) rfl rfl rfl

theorem timer (h : Wired c) (n : Nat) : Wired { c with ctpm.timeSinceTopoChange := n } :=
  h.congr ⟨rfl, rfl, rfl, rfl⟩ rfl rfl rfl

theorem drop (h : Wired c) (old : Nat) : Wired (dropLc old c) :=
  h.congr (sameCard_dropLc old c) rfl rfl rfl

theorem elect (h : Wired c) (old i : Nat) : Wired (electLc old i c) :=
  h.congr (sameCard_electLc old i c) rfl rfl rfl

theorem forget (h : Wired c) : Wired (forgetRootLc c) := by
  refine h.congr (sameCard_forgetRootLc c) ?_ ?_ ?_
  all_goals
    unfold forgetRootLc
    dsimp only
    split_ifs <;> rfl

theorem sync (h : Wired c) (bpdu : RstpBpdu) : Wired (lcSyncToHello bpdu c) := by
  refine h.congr (sameCard_lcSyncToHello bpdu c) ?_ ?_ ?_
  all_goals
    unfold lcSyncToHello
    dsimp only
    split_ifs <;> rfl

theorem times (h : Wired c) (bpdu : RstpBpdu) : Wired (takeTimes bpdu c) :=
  ⟨⟨h.fit.1, getTime2_lt _, getTime2_lt _, getTime2_lt _, getTime2_lt _⟩, h.sent⟩

theorem block (h : Wired c) : Wired (enterBlock c) := by
  constructor
  · rw [(enterBlock_frame c).2.2.1]
    exact wireFit_blocked _ h.fit.2
  · simp only [enterBlock_frame]
    exact h.sent

theorem adopt (h : Wired c) (wr wd : Bool) (bpdu : RstpBpdu) : Wired (adopt wr wd bpdu c) := by
  have htake : (takeRoot wr bpdu c).ctpm.rootTimes = c.ctpm.rootTimes ∧
      (takeRoot wr bpdu c).ctpm.rootPrio.rootPathCost.toNat < 2 ^ 32 := by
    rw [(takeRoot_frame bpdu wr c).2.2.1]
    split_ifs
    · exact ⟨rfl, by rw [UInt32.toNat_toUInt64]; exact UInt32.toNat_lt _⟩
    · exact ⟨rfl, h.fit.1⟩
  constructor
  · unfold Chassisd.adopt WireFit
    simp only [inUpdateChassisMember_frame, takeDesigned_frame, setDesigned_frame]
    split_ifs
    · exact ⟨htake.2, htake.1 ▸ h.fit.2⟩
    · exact ⟨htake.2, htake.1 ▸ h.fit.2⟩
  · simp only [adopt_frame]
    exact h.sent

end Wired

theorem LineRx.wired {bpdu : RstpBpdu} {c c' : Chassis} (h : LineRx bpdu c c') (hw : Wired c) :
    Wired c' := by
  cases h with
  | wake => exact (((hw.wake.adopt _ _ bpdu).times bpdu).tx _).merge bpdu
  | adopt => exact (hw.adopt _ _ bpdu).merge bpdu
  | agree => exact hw.merge bpdu
  | lcChange => exact (((hw.merge bpdu).tx _).restart.forget).block
  | sync => exact (hw.merge bpdu).restart.sync bpdu
  | relay => exact (hw.merge bpdu).restart.tx _
  | reply => exact (hw.merge bpdu).restart.tx _
  | config => exact (hw.merge bpdu).tx _
  | other => exact hw.merge bpdu
  | disabled => exact hw

theorem FabricRx.wired {bpdu : RstpBpdu} {c c' : Chassis} (h : FabricRx bpdu c c')
    (hw : Wired c) : Wired c' := by
  cases h with
  | wake => exact ((hw.wake.adopt _ _ bpdu).times bpdu).merge bpdu
  | adopt => exact (hw.adopt _ _ bpdu).merge bpdu
  | agree => exact hw.merge bpdu
  | sync => exact (hw.merge bpdu).restart.sync bpdu
  | echo => exact (hw.merge bpdu).restart.tx _
  | hear => exact (hw.merge bpdu).restart
  | config => exact (hw.merge bpdu).tx _
  | elect => exact ((hw.merge bpdu).elect _ _).tx _
  | alone => exact ((hw.merge bpdu).drop _).block
  | lcChange => exact (hw.merge bpdu).block
  | other => exact hw.merge bpdu
  | disabled => exact hw

theorem Ticked.wired {c c' : Chassis} (h : Ticked c c') (hw : Wired c) : Wired c' := by
  cases h with
  | config => exact (hw.timer _).tx _
  | blockTimeout => exact hw.congr ⟨rfl, rfl, rfl, rfl⟩ rfl rfl rfl
  | blockLine => exact hw
  | learn => exact hw.congr ⟨rfl, rfl, rfl, rfl⟩ rfl rfl rfl
  | listenFabric => exact (hw.timer _).tx _
  | listenLine => exact hw.timer _
  | learning => exact (hw.tx _).timer _
  | forward => exact hw.congr ⟨rfl, rfl, rfl, rfl⟩ rfl rfl rfl
  | elect _ _ _ i => exact ((hw.elect _ i).timer _).tx _
  | alone => exact (hw.drop _).block.tx _
  | hello => exact (hw.tx _).timer _
  | lost => exact hw.block
  | wait => exact hw.timer _
  | disabled => exact hw

theorem wired_step {c : Chassis} (hw : Wired c) (e : Event) : Wired (step e c) := by
  have h := stepped e c
  generalize step e c = c' at h
  cases h with
  | idle => exact hw.ready _
  | tick _ h => exact h.wired (hw.ready _)
  | dropped _ rx => exact hw.ready rx
  | line _ _ h => exact h.wired (hw.ready _)
  | fabric _ _ h => exact h.wired (hw.ready _)
  | exit =>
    unfold signalExit
    dsimp only
    split_ifs
    · exact (hw.ready _).block.tx _
    · exact (hw.ready _).block

theorem wired_startUp (k : Nat) (type : CardType) (topology : CtpMode)
    (hwaddr : Vector UInt8 6) : Wired (startUp k type topology hwaddr) := by
  constructor
  · have htimes : TimesFit (bpduInitial k topology hwaddr).rootTimes := by
      change TimesFit ⟨defaultMessageAge, defaultMaxAge, defaultForwardDelay, defaultHelloTime⟩
      decide
    rw [startUp_ctpm]
    exact wireFit_blocked k (wireFit_blocked k htimes).2
  · have hsent : (startUp k type topology hwaddr).sent = [] := by
      unfold startUp
      dsimp only
      split_ifs <;> simp [writePorts]
    simp [hsent]

theorem wired_run (k : Nat) (type : CardType) (topology : CtpMode) (hwaddr : Vector UInt8 6)
    (es : List Event) : Wired (Runs.run step (startUp k type topology hwaddr) es) :=
  Runs.invariant (I := Wired) (fun _ e hc => wired_step hc e)
    (wired_startUp k type topology hwaddr) es

theorem readsBack_received {usNumber : Nat} (hk : usNumber < 256) {this : Ctpm} {bpduType : UInt8}
    {m : RstpBpdu} (hfit : WireFit this)
    (hm : m = infoBpdu usNumber this (decChassisMember usNumber this.chassisExist) bpduType)
    {pad : TablePadding} {buf : ReceiveBuffer} (hbuf : m.toBytes pad <+: buf.toList) :
    ReadsBack usNumber this bpduType (RstpBpdu.ofBytes buf.toList) := by
  obtain ⟨stale, hstale⟩ := hbuf
  rw [← hstale, RstpBpdu.ofBytes_toBytes, hm]
  exact readsBack_infoBpdu hk bpduType hfit

theorem bpdu_round_trip (k : Nat) (hk : k ≤ 48) (type : CardType) (topology : CtpMode)
    (hwaddr : Vector UInt8 6) (es : List Event) (c : Chassis)
    (hc : c = Runs.run step (startUp k type topology hwaddr) es) :
    (∀ bpduType, ∃ m, (txInfoBpdu bpduType c).sent = c.sent ++ [m] ∧
      ∀ (pad : TablePadding) (buf : ReceiveBuffer), m.toBytes pad <+: buf.toList →
        ReadsBack k c.ctpm bpduType (RstpBpdu.ofBytes buf.toList) ∧
          (RstpBpdu.ofBytes buf.toList).chassisExist =
            (txInfoBpdu bpduType c).ctpm.chassisExist) ∧
    ∀ e, ∀ m ∈ (step e c).sent, ∃ this bpduType,
      m = infoBpdu k this (decChassisMember k this.chassisExist) bpduType ∧
      ∀ (pad : TablePadding) (buf : ReceiveBuffer), m.toBytes pad <+: buf.toList →
        ReadsBack k this bpduType (RstpBpdu.ofBytes buf.toList) := by
  have hw : Wired c := hc ▸ wired_run k type topology hwaddr es
  have hnum : c.usCardNumber = k := by
    rw [hc, (sameCard_run es _).number, (startUp_frame k type topology hwaddr).1]
  constructor
  · intro bpduType
    refine ⟨_, rfl, fun pad buf hbuf => ?_⟩
    have hread := readsBack_received (by omega : c.usCardNumber < 256) hw.fit rfl hbuf
    refine ⟨hnum ▸ hread, hread.table⟩
  · intro e m hm
    obtain ⟨this, bpduType, hfit, hbuilt⟩ := (wired_step hw e).sent m hm
    rw [(sameCard_step e c).number, hnum] at hbuilt
    exact ⟨this, bpduType, hbuilt, fun pad buf hbuf =>
      readsBack_received (by omega) hfit hbuilt hbuf⟩

set_option maxRecDepth 10000 in
theorem bpdu_round_trip_config :
    ∃ m, (txInfoBpdu bpduTypeConfig
        (startUp 33 .fabricCard .enabled (Vector.replicate 6 0))).sent = [m] ∧
      ∀ (pad : TablePadding) (buf : ReceiveBuffer), m.toBytes pad <+: buf.toList →
        (RstpBpdu.ofBytes buf.toList).slotid = 33 ∧ (RstpBpdu.ofBytes buf.toList).rootId = 33 ∧
          getTimes (RstpBpdu.ofBytes buf.toList).body = ⟨1, 15, 3, 200⟩ := by
  obtain ⟨m, hsent, hread⟩ := (bpdu_round_trip 33 (by decide) .fabricCard .enabled
    (Vector.replicate 6 0) [] _ rfl).1 bpduTypeConfig
  refine ⟨m, ?_, fun pad buf hbuf => ?_⟩
  · rw [Runs.run_nil] at hsent
    exact hsent
  · obtain ⟨h, -⟩ := hread pad buf hbuf
    refine ⟨h.slotid, h.rootId.trans ?_, h.times.trans ?_⟩
    · decide +kernel
    · decide +kernel

end Chassisd
