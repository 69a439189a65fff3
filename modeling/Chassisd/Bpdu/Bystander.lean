import Chassisd.Bpdu.Handover

namespace Chassisd

structure NamesOther (bpdu : RstpBpdu) (len : Nat) (c : Chassis) : Prop where
  handled : Handled bpdu len c
  hello : bpdu.bpduType = bpduTypeHello
  root : bpdu.rootId = c.ctpm.rootPrio.rootBridge.number
  line : 1 ≤ bpdu.dbridgeId ∧ bpdu.dbridgeId ≤ 32
  other : bpdu.dbridgeId ≠ c.ctpm.rootLCPortId
  live : 0 < (bpdu.chassisExist.entry (bpdu.dbridgeId - 1)).age

instance (this : Ctpm) : Decidable (LcCoherent this) := inferInstanceAs (Decidable (_ = _))

structure BystanderSpared (bpdu : RstpBpdu) (len : Nat) (c : Chassis) : Prop where
  rewritten : (step (.rx bpdu len) c).switch.writes ≠ [] ↔
    c.ctpm.rootLCPortId = c.usCardNumber ∨ bpdu.dbridgeId = c.usCardNumber
  leaf : c.ctpm.rootLCPortId ≠ c.usCardNumber → bpdu.dbridgeId ≠ c.usCardNumber →
    (step (.rx bpdu len) c).switch.port = c.switch.port ∧
      (step (.rx bpdu len) c).ctpm =
        (setDesigned bpdu (restartTimer (inUpdateChassisMember bpdu c))).ctpm

section Writes

variable {usNumber : Nat} (hodd : usNumber % 2 = 1)

include hodd

theorem writes_configAllPort (state : PortState) (sw : Switch) :
    (configAllPort usNumber state sw).writes =
      sw.writes ++ (backplanePorts usNumber).map fun pid => (pid, state) := by
  unfold configAllPort
  generalize backplanePorts usNumber = pids
  induction pids generalizing sw with
  | nil => simp
  | cons pid pids ih =>
    rw [List.foldl_cons, ih]
    simp [configPort, hodd]

theorem writes_configOptional (state : PortState) (pid : Option Nat) (sw : Switch) :
    ∃ ws, (configOptional usNumber state pid sw).writes = sw.writes ++ ws := by
  cases pid with
  | none => exact ⟨[], (List.append_nil _).symm⟩
  | some pid => exact ⟨[(pid, state)], by simp [configOptional, configPort, hodd]⟩

theorem writes_enterForwardingState (hline : 1 ≤ usNumber ∧ usNumber ≤ 32) (root designed : Nat)
    (sw : Switch) : (enterForwardingState usNumber root designed sw).writes ≠ [] := by
  have hnumber : isLineNumber usNumber = true := decide_eq_true hline
  have hports : backplanePorts usNumber ≠ [] := by simp [backplanePorts, hnumber]
  unfold enterForwardingState
  rw [hnumber, Bool.true_or, Bool.true_or, if_pos rfl]
  split_ifs
  · simp [writes_configAllPort hodd, hports]
  · obtain ⟨ws, hws⟩ := writes_configOptional hodd .forwarding
      (forwardingPort usNumber root designed) (configAllPort usNumber .blocking sw)
    simp [hws, writes_configAllPort hodd, hports]

end Writes

section Sync

variable {bpdu : RstpBpdu} {len : Nat} {c : Chassis}

def heard (bpdu : RstpBpdu) (c : Chassis) : Chassis :=
  restartTimer (inUpdateChassisMember bpdu (ready (checkRxBpduInterval bpdu c.rxBpdu).2 c))

theorem heard_frame (bpdu : RstpBpdu) (c : Chassis) :
    (heard bpdu c).usCardNumber = c.usCardNumber ∧
    (heard bpdu c).ctpm = (restartTimer (inUpdateChassisMember bpdu c)).ctpm ∧
    (heard bpdu c).switch = { c.switch with writes := [] } := by
  simp only [heard, restartTimer_frame, inUpdateChassisMember_frame, ready_frame, true_and]
  rfl

theorem step_namesOther (h : NamesOther bpdu len c) (htype : c.type = .lineCard)
    (hs : c.ctpm.state = .forwarding) :
    step (.rx bpdu len) c = lcSyncToHello bpdu (heard bpdu c) := by
  have hstep := stepped (.rx bpdu len) c
  generalize step (.rx bpdu len) c = c' at hstep
  cases hstep with
  | dropped hn => exact absurd h.handled hn
  | fabric _ hfabric => exact absurd (htype.symm.trans hfabric) (by decide)
  | line _ _ hrx =>
    have hello := h.hello
    cases hrx with
    | sync => rfl
    | wake hs' | disabled hs' => exact absurd (hs.symm.trans hs') (by decide)
    | adopt hs' | agree hs' => exact absurd hs (waiting_ne_forwarding hs')
    | lcChange _ ht | config _ ht => exact absurd (hello.symm.trans ht) (by decide)
    | relay _ _ _ hd => exact absurd hd h.other
    | reply _ _ hd => exact absurd (hd h.root).1 h.other
    | other _ ht => exact absurd hello (by simp at ht; exact ht.2.1)

theorem syncs_heard (h : NamesOther bpdu len c) : syncs bpdu (heard bpdu c) ↔
    bpdu.dbridgeId ≠ c.ctpm.rootPrio.designBridge.number := by
  simp only [syncs, heard_frame, restartTimer_frame, inUpdateChassisMember_frame]
  exact ⟨fun hsync => hsync.1.2, fun hne => ⟨⟨h.line.1, hne⟩, h.live⟩⟩

variable (h : NamesOther bpdu len c) (htype : c.type = .lineCard)
  (hs : c.ctpm.state = .forwarding)

include h htype hs

theorem ctpm_namesOther : (step (.rx bpdu len) c).ctpm =
    if bpdu.dbridgeId ≠ c.ctpm.rootPrio.designBridge.number then
      (setDesigned bpdu (restartTimer (inUpdateChassisMember bpdu c))).ctpm
    else (restartTimer (inUpdateChassisMember bpdu c)).ctpm := by
  rw [step_namesOther h htype hs,
    lcSyncToHello_ctpm bpdu (heard bpdu c) hs (by rw [heard_frame bpdu c |>.2.1]; rfl)]
  simp only [syncs_heard h, setDesigned_frame, heard_frame]

variable (hodd : c.usCardNumber % 2 = 1) (hline : 1 ≤ c.usCardNumber ∧ c.usCardNumber ≤ 32)
  (hown : c.ctpm.brId.number = c.usCardNumber)

include hodd hline hown

theorem switch_namesOther :
    ((step (.rx bpdu len) c).switch.writes ≠ [] ↔
      bpdu.dbridgeId ≠ c.ctpm.rootPrio.designBridge.number ∧
        (LcCoherent c.ctpm ∨ bpdu.dbridgeId = c.usCardNumber)) ∧
      ((step (.rx bpdu len) c).switch.writes = [] →
        (step (.rx bpdu len) c).switch.port = c.switch.port) := by
  have hrole : rewrites bpdu (heard bpdu c) ↔
      LcCoherent c.ctpm ∨ bpdu.dbridgeId = c.usCardNumber := by
    simp only [rewrites, LcCoherent, heard_frame, restartTimer_frame, inUpdateChassisMember_frame,
      hown]
    exact or_congr_right eq_comm
  rw [step_namesOther h htype hs, ← hrole, ← syncs_heard h,
    (lcSyncToHello_frame bpdu (heard bpdu c)).2.2.2.1]
  split_ifs with hrewrite
  · rw [(heard_frame bpdu c).1]
    have hwrites := writes_enterForwardingState hodd hline (heard bpdu c).ctpm.rootPortId
      bpdu.dbridgeId (heard bpdu c).switch
    exact ⟨iff_of_true hwrites hrewrite, fun hnone => absurd hnone hwrites⟩
  · rw [(heard_frame bpdu c).2.2]
    exact ⟨iff_of_false (fun hne => hne rfl) hrewrite, fun _ => rfl⟩

theorem bystanderSpared_iff : BystanderSpared bpdu len c ↔
    if LcCoherent c.ctpm then
      c.ctpm.rootLCPortId = c.usCardNumber ∨ bpdu.dbridgeId = c.usCardNumber
    else c.ctpm.rootLCPortId ≠ c.usCardNumber ∧
      bpdu.dbridgeId ≠ c.ctpm.rootPrio.designBridge.number := by
  obtain ⟨hwrites, hports⟩ := switch_namesOther h htype hs hodd hline hown
  have hctpm := ctpm_namesOther h htype hs
  have hother := h.other
  split_ifs with hlc
  · have hne : bpdu.dbridgeId ≠ c.ctpm.rootPrio.designBridge.number :=
      fun heq => hother (heq.trans hlc.symm)
    have hrewritten := hwrites.mpr ⟨hne, .inl hlc⟩
    constructor
    · exact fun hspared => hspared.rewritten.mp hrewritten
    · intro hrole
      refine ⟨iff_of_true hrewritten hrole, fun hwas his => ?_⟩
      exact absurd hrole (not_or.mpr ⟨hwas, his⟩)
  · simp only [hlc, false_or] at hwrites
    constructor
    · intro hspared
      have hrole := hwrites.symm.trans hspared.rewritten
      have hwas : c.ctpm.rootLCPortId ≠ c.usCardNumber :=
        fun hwas => hother ((hrole.mpr (.inl hwas)).2.trans hwas.symm)
      refine ⟨hwas, fun heq => ?_⟩
      have hnot : bpdu.dbridgeId ≠ c.usCardNumber := fun his => (hrole.mpr (.inr his)).1 heq
      have hleaf := (hspared.leaf hwas hnot).2
      rw [hctpm, if_neg (not_not.mpr heq)] at hleaf
      exact hother (congrArg Ctpm.rootLCPortId hleaf).symm
    · rintro ⟨hwas, hne⟩
      refine ⟨hwrites.trans ?_, fun _ his => ?_⟩
      · rw [or_iff_right hwas]
        exact and_iff_right hne
      · refine ⟨hports ?_, by rw [hctpm, if_pos hne]⟩
        by_contra hrewritten
        exact his (hwrites.mp hrewritten).2

end Sync

theorem bystander_spared_iff (k : Nat) (hodd : k % 2 = 1) (hk : k ≤ 32) (topology : CtpMode)
    (hwaddr : Vector UInt8 6) (es : List Event) (c : Chassis)
    (hc : c = Runs.run step (startUp k .lineCard topology hwaddr) es)
    (hs : c.ctpm.state = .forwarding) (bpdu : RstpBpdu) (len : Nat) (h : NamesOther bpdu len c) :
    BystanderSpared bpdu len c ↔
      if LcCoherent c.ctpm then c.ctpm.rootLCPortId = k ∨ bpdu.dbridgeId = k
      else c.ctpm.rootLCPortId ≠ k ∧
        bpdu.dbridgeId ≠ c.ctpm.rootPrio.designBridge.number := by
  obtain ⟨hnum, htype⟩ := number_run k .lineCard topology hwaddr es
  have hown := brId_run k (by omega) .lineCard topology hwaddr es
  rw [← hc] at hnum htype hown
  have hiff := bystanderSpared_iff h htype hs (by rw [hnum]; exact hodd)
    (by rw [hnum]; omega) (by rw [hown, hnum])
  rwa [hnum] at hiff

def helloNaming (line : Nat) : RstpBpdu :=
  let bpdu := configFrame 33
  { bpdu with
    hdr.bpduType := bpduTypeHello
    body.bridgeId := (configFrame line).body.bridgeId
    chassisExist := (bpdu.chassisExist.setAge (line - 1) 3).setAge 32 3 }

def leafCard : Chassis :=
  Runs.run step (startUp 5 .lineCard .enabled (Vector.replicate 6 0))
    (.rx (helloNaming 1) RstpBpdu.sizeof :: List.replicate 14 .tick)

set_option maxRecDepth 100000 in
theorem leafCard_forwards : leafCard.ctpm.state = .forwarding := by decide +kernel

set_option maxRecDepth 100000 in
theorem leafCard_namesOther {line : Nat} (h : line = 3 ∨ line = 5) :
    NamesOther (helloNaming line) RstpBpdu.sizeof leafCard := by
  rcases h with rfl | rfl
  · refine ⟨⟨?_, ?_, ?_, ?_⟩, ?_, ?_, ?_, ?_, ?_⟩ <;> decide +kernel
  · refine ⟨⟨?_, ?_, ?_, ?_⟩, ?_, ?_, ?_, ?_, ?_⟩ <;> decide +kernel

theorem named_leaf_takes_over :
    BystanderSpared (helloNaming 5) RstpBpdu.sizeof leafCard ↔
      if LcCoherent leafCard.ctpm then
        leafCard.ctpm.rootLCPortId = 5 ∨ (helloNaming 5).dbridgeId = 5
      else leafCard.ctpm.rootLCPortId ≠ 5 ∧
        (helloNaming 5).dbridgeId ≠ leafCard.ctpm.rootPrio.designBridge.number :=
  bystander_spared_iff 5 (by decide) (by decide) .enabled (Vector.replicate 6 0) _ leafCard rfl
    leafCard_forwards (helloNaming 5) RstpBpdu.sizeof (leafCard_namesOther (.inr rfl))

set_option maxRecDepth 100000 in
theorem bystander_reconfigured :
    ¬ ∀ (k : Nat), k % 2 = 1 → k ≤ 32 → ∀ (topology : CtpMode) (hwaddr : Vector UInt8 6)
      (es : List Event) (bpdu : RstpBpdu) (len : Nat),
      (Runs.run step (startUp k .lineCard topology hwaddr) es).ctpm.state = .forwarding →
      NamesOther bpdu len (Runs.run step (startUp k .lineCard topology hwaddr) es) →
      BystanderSpared bpdu len (Runs.run step (startUp k .lineCard topology hwaddr) es) := by
  intro h
  have hspared := h 5 (by decide) (by decide) .enabled (Vector.replicate 6 0) _ (helloNaming 3)
    RstpBpdu.sizeof leafCard_forwards (leafCard_namesOther (.inl rfl))
  have hwrites : (step (.rx (helloNaming 3) RstpBpdu.sizeof) leafCard).switch.writes ≠ [] := by
    decide +kernel
  have hrole := hspared.rewritten.mp hwrites
  revert hrole
  decide +kernel

end Chassisd
