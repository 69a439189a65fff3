import Chassisd.Bpdu.Coherence

namespace Chassisd

def expectedPort (usNumber rootPortId rootLCPortId p : Nat) : PortState :=
  if isElected usNumber rootPortId rootLCPortId then .forwarding
  else if forwardingPort usNumber rootPortId rootLCPortId = some p then .forwarding
  else .blocking

def PortsMatch (c : Chassis) : Prop :=
  ∀ p ∈ backplanePorts c.usCardNumber,
    c.switch.port p = some (expectedPort c.usCardNumber c.ctpm.rootPortId c.ctpm.rootLCPortId p)

def legalIds (bpdu : RstpBpdu) : Prop :=
  (bpdu.rootId = 0 ∨ (33 ≤ bpdu.rootId ∧ bpdu.rootId ≤ 47 ∧ bpdu.rootId % 2 = 1)) ∧
    (bpdu.dbridgeId = 0 ∨ (bpdu.dbridgeId ≤ 31 ∧ bpdu.dbridgeId % 2 = 1))

-- FC_CHANGE naming a forwarding backup fabric card makes it elect a line card of its own, and
-- that path does not write the ports.
def BackupElection (c : Chassis) : Event → Prop
  | .rx bpdu len => Handled bpdu len c ∧ c.type = .fabricCard ∧ c.ctpm.state = .forwarding ∧
      c.ctpm.rootPortId ≠ c.usCardNumber ∧ bpdu.bpduType = bpduTypeFcChange ∧
      bpdu.rootId = c.ctpm.brId.number ∧
      (heir c.usCardNumber ((inUpdateChassisMember bpdu c).ctpm.chassisExist.setAge
        bpdu.dbridgeId 0)).isSome
  | _ => False

section Writes

variable {usNumber : Nat}

theorem mem_backplane_odd (h : usNumber % 2 = 1) (root lc p : Nat) (sw : Switch)
    (hp : p ∈ backplanePorts usNumber)
    (hk : 1 ≤ usNumber ∧ usNumber ≤ 48) :
    (enterForwardingState usNumber root lc sw).port p =
      some (expectedPort usNumber root lc p) := by
  have hin : (isLineNumber usNumber || isLowFabricNumber usNumber ||
      isHighFabricNumber usNumber) = true := by
    simp only [isLineNumber, isLowFabricNumber, isHighFabricNumber, Bool.or_eq_true,
      decide_eq_true_eq]
    omega
  rw [enterForwardingState, if_pos hin, expectedPort]
  by_cases hel : isElected usNumber root lc
  · rw [if_pos hel, if_pos hel, port_configAllPort _ _ _ h, if_pos hp]
  · rw [if_neg hel, if_neg hel]
    cases hf : forwardingPort usNumber root lc with
    | none =>
      rw [configOptional, port_configAllPort _ _ _ h, if_pos hp]
      simp
    | some pid =>
      rw [configOptional, configPort_odd _ _ _ h]
      simp only [port_configAllPort _ _ _ h, if_pos hp, Option.some.injEq, eq_comm (a := pid)]
      split_ifs <;> rfl

theorem port_of_no_writes {c c' : Chassis} (h : PortsMatch c)
    (hnum : c'.usCardNumber = c.usCardNumber) (hroot : c'.ctpm.rootPortId = c.ctpm.rootPortId)
    (hlc : c'.ctpm.rootLCPortId = c.ctpm.rootLCPortId)
    (hport : c'.switch.port = c.switch.port) : PortsMatch c' := by
  unfold PortsMatch
  rw [hnum, hroot, hlc, hport]
  exact h

theorem isElected_fabric (hf : 33 ≤ usNumber) (root lc : Nat) :
    isElected usNumber root lc = (root == usNumber) := by
  have hl : isLineNumber usNumber = false := by
    simp only [isLineNumber, decide_eq_false_iff_not]; omega
  rw [isElected, hl]
  rfl

theorem expectedPort_root (hf : 33 ≤ usNumber) (lc p : Nat) :
    expectedPort usNumber usNumber lc p = .forwarding := by
  rw [expectedPort, isElected_fabric hf, beq_self_eq_true, if_pos rfl]

end Writes

structure Roles (c : Chassis) : Prop where
  odd : c.usCardNumber % 2 = 1
  range : c.usCardNumber ≤ 48
  own : c.ctpm.brId.number = c.usCardNumber
  type : c.type = cardTypeOf c.usCardNumber
  root : c.usCardNumber < 33 → c.ctpm.rootPortId ≠ c.usCardNumber
  lc : LcCoherent c.ctpm ∨
    (c.ctpm.state = .forwarding ∧ c.ctpm.rootPortId = c.usCardNumber)
  ports : c.ctpm.state = .forwarding → PortsMatch c

namespace Roles

variable {c c' : Chassis}

theorem fabric (h : Roles c) (hroot : c.ctpm.rootPortId = c.usCardNumber) :
    33 ≤ c.usCardNumber := by
  by_contra hlt
  exact h.root (by omega) hroot

theorem coherent (h : Roles c) (hs : c.ctpm.state ≠ .forwarding) : LcCoherent c.ctpm :=
  h.lc.resolve_right fun hf => hs hf.1

theorem congr (h : Roles c) (hsame : SameCard c c') (hstate : c'.ctpm.state = c.ctpm.state)
    (hroot : c'.ctpm.rootPortId = c.ctpm.rootPortId)
    (hlc : c'.ctpm.rootLCPortId = c.ctpm.rootLCPortId)
    (hdb : c'.ctpm.rootPrio.designBridge = c.ctpm.rootPrio.designBridge)
    (hport : c'.switch.port = c.switch.port) : Roles c' := by
  refine ⟨?_, ?_, ?_, ?_, ?_, ?_, ?_⟩
  · rw [hsame.number]; exact h.odd
  · rw [hsame.number]; exact h.range
  · rw [hsame.number, hsame.brId]; exact h.own
  · rw [hsame.number, hsame.type]; exact h.type
  · rw [hsame.number, hroot]; exact h.root
  · unfold LcCoherent
    rw [hsame.number, hstate, hroot, hlc, hdb]
    exact h.lc
  · rw [hstate]
    exact fun hs => port_of_no_writes (h.ports hs) hsame.number hroot hlc hport

theorem of_not_forwarding (h : Roles c) (hsame : SameCard c c')
    (hs : c'.ctpm.state ≠ .forwarding)
    (hroot : c.usCardNumber < 33 → c'.ctpm.rootPortId ≠ c.usCardNumber)
    (hlc : LcCoherent c'.ctpm) : Roles c' := by
  refine ⟨?_, ?_, ?_, ?_, ?_, .inl hlc, fun hf => absurd hf hs⟩
  · rw [hsame.number]; exact h.odd
  · rw [hsame.number]; exact h.range
  · rw [hsame.number, hsame.brId]; exact h.own
  · rw [hsame.number, hsame.type]; exact h.type
  · rw [hsame.number]; exact hroot

theorem merge (h : Roles c) (bpdu : RstpBpdu) : Roles (inUpdateChassisMember bpdu c) :=
  h.congr (sameCard_inUpdateChassisMember bpdu c) rfl rfl rfl rfl rfl

theorem tx (h : Roles c) (bpduType : UInt8) : Roles (txInfoBpdu bpduType c) :=
  h.congr (sameCard_txInfoBpdu bpduType c) rfl rfl rfl rfl rfl

theorem restart (h : Roles c) : Roles (restartTimer c) :=
  h.congr (sameCard_restartTimer c) rfl rfl rfl rfl rfl

theorem times (h : Roles c) (bpdu : RstpBpdu) : Roles (takeTimes bpdu c) :=
  h.congr (sameCard_takeTimes bpdu c) rfl rfl rfl rfl rfl

theorem ready (h : Roles c) (rx : List RxHeader) : Roles (ready rx c) :=
  h.congr (sameCard_ready rx c) rfl rfl rfl rfl rfl

theorem timer (h : Roles c) (n : Nat) : Roles { c with ctpm.timeSinceTopoChange := n } :=
  h.congr ⟨rfl, rfl, rfl, rfl⟩ rfl rfl rfl rfl rfl

theorem drop (h : Roles c) (old : Nat) : Roles (dropLc old c) :=
  h.congr (sameCard_dropLc old c) rfl rfl rfl rfl rfl

theorem forget (h : Roles c) : Roles (forgetRootLc c) := by
  refine h.congr (sameCard_forgetRootLc c) ?_ ?_ ?_ ?_ ?_
  all_goals
    unfold forgetRootLc
    dsimp only
    split_ifs <;> rfl

theorem wake (h : Roles c) (hs : c.ctpm.state = .block) : Roles (wake c) :=
  h.of_not_forwarding (sameCard_wake c) (by simp) h.root (h.coherent (by simp [hs]))

theorem block (h : Roles c) : Roles (enterBlock c) := by
  have hodd := h.odd
  have hctpm := (enterBlock_frame c).2.2.1
  refine h.of_not_forwarding (sameCard_enterBlock c) (by simp) (fun hl => ?_) ?_
  · rw [hctpm, blocked_of_line _ (by omega)]
    simp only [clearRootFc]
    omega
  · rw [hctpm]
    exact (coherent_blocked h.own).2

theorem adopt (h : Roles c) (wr wd : Bool) {bpdu : RstpBpdu} (hids : legalIds bpdu)
    (hs : c.ctpm.state = .listening ∨ c.ctpm.state = .learning) :
    Roles (adopt wr wd bpdu c) := by
  have hne : c.ctpm.state ≠ .forwarding := by rcases hs with hs | hs <;> simp [hs]
  refine h.of_not_forwarding (sameCard_adopt wr wd bpdu c) ?_ (fun hl => ?_)
    (lcCoherent_adopt (h.coherent hne))
  · simpa only [adopt_frame] using hne
  · rw [(adopt_root bpdu c wr wd).1]
    split_ifs with htake
    · have := htake.1
      have := hids.1
      omega
    · exact h.root hl

theorem sync (h : Roles c) (bpdu : RstpBpdu) (hs : c.ctpm.state = .forwarding)
    (h0 : c.ctpm.timeSinceTopoChange = 0) : Roles (lcSyncToHello bpdu c) := by
  have hsame := sameCard_lcSyncToHello bpdu c
  have hctpm := lcSyncToHello_ctpm bpdu c hs h0
  have hswitch := (lcSyncToHello_frame bpdu c).2.2.2.1
  by_cases hsync : syncs bpdu c
  · rw [if_pos hsync] at hctpm
    refine ⟨?_, ?_, ?_, ?_, ?_, ?_, fun _ p hp => ?_⟩
    · rw [hsame.number]; exact h.odd
    · rw [hsame.number]; exact h.range
    · rw [hsame.number, hsame.brId]; exact h.own
    · rw [hsame.number, hsame.type]; exact h.type
    · rw [hsame.number, hctpm]; exact h.root
    · rw [hctpm]; exact .inl (number_bridgeId bpdu).symm
    · rw [hsame.number] at hp ⊢
      rw [hctpm, hswitch]
      have hodd := h.odd
      have hrange := h.range
      split_ifs with hre
      · exact mem_backplane_odd hodd _ _ p _ hp ⟨by omega, hrange⟩
      · have hroot : c.ctpm.rootPortId = c.usCardNumber := by
          refine (h.lc.resolve_left fun hlc => hre ⟨hsync, .inl hlc⟩).2
        have hold := h.ports hs p hp
        simp only [setDesigned_frame]
        rw [hroot, expectedPort_root (h.fabric hroot)] at hold ⊢
        exact hold
  · rw [if_neg hsync] at hctpm
    rw [if_neg (fun hb => hsync hb.1)] at hswitch
    exact h.congr hsame (by rw [hctpm]) (by rw [hctpm]) (by rw [hctpm]) (by rw [hctpm])
      (by rw [hswitch])

theorem elect (h : Roles c) (hs : c.ctpm.state = .forwarding)
    (hroot : c.ctpm.rootPortId = c.usCardNumber) (old i : Nat) : Roles (electLc old i c) := by
  refine ⟨h.odd, h.range, h.own, h.type, h.root, .inr ⟨hs, hroot⟩, fun _ p hp => ?_⟩
  have hold := h.ports hs p hp
  rw [hroot, expectedPort_root (h.fabric hroot)] at hold
  simp only [electLc_frame]
  rwa [hroot, expectedPort_root (h.fabric hroot)]

end Roles

theorem LineRx.roles {bpdu : RstpBpdu} {c c' : Chassis} (h : LineRx bpdu c c') (hr : Roles c)
    (hids : legalIds bpdu) : Roles c' := by
  cases h with
  | wake hs =>
    exact (((((hr.wake hs).adopt _ _ hids (.inl rfl)).times bpdu).tx _).merge bpdu)
  | adopt hs => exact (hr.adopt _ _ hids hs).merge bpdu
  | agree => exact hr.merge bpdu
  | lcChange => exact ((((hr.merge bpdu).tx _).restart).forget).block
  | sync hs => exact ((hr.merge bpdu).restart).sync bpdu hs rfl
  | relay => exact ((hr.merge bpdu).restart).tx _
  | reply => exact ((hr.merge bpdu).restart).tx _
  | config => exact (hr.merge bpdu).tx _
  | other => exact hr.merge bpdu
  | disabled => exact hr

theorem FabricRx.roles {bpdu : RstpBpdu} {c c' : Chassis} (h : FabricRx bpdu c c')
    (hr : Roles c) (hids : legalIds bpdu)
    (hbackup : ¬ (c.ctpm.state = .forwarding ∧ c.ctpm.rootPortId ≠ c.usCardNumber ∧
      bpdu.bpduType = bpduTypeFcChange ∧ bpdu.rootId = c.ctpm.brId.number ∧
      (heir c.usCardNumber ((inUpdateChassisMember bpdu c).ctpm.chassisExist.setAge
        bpdu.dbridgeId 0)).isSome)) : Roles c' := by
  cases h with
  | wake hs =>
    exact ((((hr.wake hs).adopt _ _ hids (.inl rfl)).times bpdu).merge bpdu)
  | adopt hs => exact (hr.adopt _ _ hids hs).merge bpdu
  | agree => exact hr.merge bpdu
  | sync hs => exact ((hr.merge bpdu).restart).sync bpdu hs rfl
  | echo => exact ((hr.merge bpdu).restart).tx _
  | hear => exact (hr.merge bpdu).restart
  | config => exact (hr.merge bpdu).tx _
  | elect hs ht hroot i hi =>
    have hown : c.ctpm.rootPortId = c.usCardNumber := by
      by_contra hne
      exact hbackup ⟨hs, hne, ht, hroot, by rw [hi]; rfl⟩
    exact ((hr.merge bpdu).elect hs hown _ i).tx _
  | alone => exact ((hr.merge bpdu).drop _).block
  | lcChange => exact (hr.merge bpdu).block
  | other => exact hr.merge bpdu
  | disabled => exact hr

theorem Ticked.roles {c c' : Chassis} (h : Ticked c c') (hr : Roles c) : Roles c' := by
  cases h with
  | config => exact (hr.timer _).tx _
  | blockTimeout hs =>
    exact hr.of_not_forwarding ⟨rfl, rfl, rfl, rfl⟩ (by simp [hs]) hr.root
      (hr.coherent (by simp [hs]))
  | blockLine => exact hr
  | learn hs =>
    exact hr.of_not_forwarding ⟨rfl, rfl, rfl, rfl⟩ (by simp) hr.root
      (hr.coherent (by simp [hs]))
  | listenFabric => exact (hr.timer _).tx _
  | listenLine => exact hr.timer _
  | learning => exact (hr.tx _).timer _
  | forward hs =>
    refine ⟨hr.odd, hr.range, hr.own, hr.type, hr.root, .inl (hr.coherent (by simp [hs])),
      fun _ p hp => ?_⟩
    have hodd := hr.odd
    have hrange := hr.range
    exact mem_backplane_odd hodd _ _ p _ hp ⟨by omega, hrange⟩
  | elect hs hroot ht i =>
    exact ((hr.elect hs hroot.symm _ i).timer _).tx _
  | alone => exact ((hr.drop _).block).tx _
  | hello => exact (hr.tx _).timer _
  | lost => exact hr.block
  | wait => exact hr.timer _
  | disabled => exact hr

def LegalEvent : Event → Prop
  | .rx bpdu _ => legalIds bpdu
  | _ => True

theorem roles_step {c : Chassis} {e : Event} (hr : Roles c) (he : LegalEvent e)
    (hb : ¬ BackupElection c e) : Roles (step e c) := by
  have h := stepped e c
  generalize step e c = c' at h
  cases h with
  | idle => exact hr.ready _
  | tick _ h => exact h.roles (hr.ready _)
  | dropped _ rx => exact hr.ready rx
  | line _ _ h => exact h.roles (hr.ready _) he
  | fabric hh htype h =>
    refine h.roles (hr.ready _) he (fun hbad => hb ⟨hh, htype, ?_⟩)
    exact hbad
  | exit =>
    unfold signalExit
    dsimp only
    split_ifs
    · exact ((hr.ready _).block).tx _
    · exact (hr.ready _).block

theorem roles_startUp (k : Nat) (hodd : k % 2 = 1) (hk : k ≤ 48) (topology : CtpMode)
    (hwaddr : Vector UInt8 6) : Roles (startUp k (cardTypeOf k) topology hwaddr) := by
  refine ⟨by simpa using hodd, by simpa using hk, ?_, by simp, fun hl => ?_, ?_, by simp⟩
  · rw [brId_startUp k (by omega)]; simp
  · rw [startUp_ctpm, blocked_of_line _ ⟨by omega, by simp at hl; omega⟩]
    simp [clearRootFc]
    omega
  · exact .inl (coherent_startUp k (by omega) _ topology hwaddr).2

theorem forwarding_ports_match (k : Nat) (hodd : k % 2 = 1) (hk : k ≤ 48)
    (hwaddr : Vector UInt8 6) (es : List Event) (hlegal : ∀ e ∈ es, LegalEvent e)
    (hes : Runs.Along step (fun c e => ¬ BackupElection c e)
      (startUp k (cardTypeOf k) .enabled hwaddr) es) :
    Runs.Along step (fun c e => (step e c).ctpm.state = .forwarding → PortsMatch (step e c))
      (startUp k (cardTypeOf k) .enabled hwaddr) es := by
  have h0 := roles_startUp k hodd hk .enabled hwaddr
  generalize startUp k (cardTypeOf k) .enabled hwaddr = c at h0 hes
  induction es generalizing c with
  | nil => trivial
  | cons e es ih =>
    have hr := roles_step h0 (hlegal e (by simp)) hes.1
    exact ⟨hr.ports, ih (fun e' he' => hlegal e' (by simp [he'])) (step e c) hr hes.2⟩

-- A REPLY wakes the card, and eight ticks later it waits in LEARNING.
def wakeUp : List Event := .rx (replyFrame 1 33) RstpBpdu.sizeof :: List.replicate 8 .tick

theorem legal_replyFrame : LegalEvent (.rx (replyFrame 1 33) RstpBpdu.sizeof) := by
  change legalIds _
  unfold legalIds
  decide +kernel

theorem legal_wakeUp : ∀ e ∈ wakeUp, LegalEvent e := by
  intro e he
  rcases List.mem_cons.mp he with rfl | htick
  · exact legal_replyFrame
  · obtain rfl := List.eq_of_mem_replicate htick
    trivial

theorem no_backupElection_ticks (c : Chassis) (n : Nat) :
    Runs.Along step (fun c e => ¬ BackupElection c e) c (List.replicate n .tick) := by
  induction n generalizing c with
  | zero => trivial
  | succ n ih => exact ⟨id, ih (step .tick c)⟩

theorem woken_fabric_ports_match :
    let c := Runs.run step (startUp 33 (cardTypeOf 33) .enabled (Vector.replicate 6 0))
      (wakeUp ++ [Event.tick])
    c.ctpm.state = .forwarding ∧ PortsMatch c := by
  have hlegal : ∀ e ∈ wakeUp ++ [Event.tick], LegalEvent e :=
    List.forall_mem_append.mpr ⟨legal_wakeUp, by simp [LegalEvent]⟩
  have hreply : ¬ BackupElection (startUp 33 (cardTypeOf 33) .enabled (Vector.replicate 6 0))
      (.rx (replyFrame 1 33) RstpBpdu.sizeof) := by
    intro h
    have hs := h.2.2.1
    revert hs
    decide +kernel
  have hports := forwarding_ports_match 33 (by decide) (by decide) (Vector.replicate 6 0)
    (wakeUp ++ [Event.tick]) hlegal ((Runs.along_append _ _ _ _ _).mpr
      ⟨⟨hreply, no_backupElection_ticks _ 8⟩, no_backupElection_ticks _ 1⟩)
  have hforwarding : (step .tick (Runs.run step (startUp 33 (cardTypeOf 33) .enabled
      (Vector.replicate 6 0)) wakeUp)).ctpm.state = .forwarding := by decide +kernel
  rw [Runs.run_concat]
  exact ⟨hforwarding, ((Runs.along_append _ _ _ _ _).mp hports).2.1 hforwarding⟩

def fcChangeFrame : RstpBpdu :=
  { (replyFrame 3 33).withRootByte 35 with hdr.bpduType := bpduTypeFcChange }

def backupElection : List Event :=
  wakeUp ++ [.tick, .rx fcChangeFrame RstpBpdu.sizeof]

set_option maxRecDepth 100000 in
theorem backup_election_keeps_port :
    ¬ ∀ (k : Nat), k % 2 = 1 → k ≤ 48 → ∀ (hwaddr : Vector UInt8 6) (es : List Event),
      (∀ e ∈ es, LegalEvent e) →
      (Runs.run step (startUp k (cardTypeOf k) .enabled hwaddr) es).ctpm.state = .forwarding →
      PortsMatch (Runs.run step (startUp k (cardTypeOf k) .enabled hwaddr) es) := by
  intro h
  have hchange : LegalEvent (.rx fcChangeFrame RstpBpdu.sizeof) := by
    change legalIds _
    unfold legalIds
    decide +kernel
  have hlegal : ∀ e ∈ backupElection, LegalEvent e :=
    List.forall_mem_append.mpr ⟨legal_wakeUp,
      List.forall_mem_cons.mpr ⟨trivial, List.forall_mem_singleton.mpr hchange⟩⟩
  have hport := h 35 (by decide) (by decide) (Vector.replicate 6 0) backupElection hlegal
    (by decide +kernel) port16Lc0 (by decide +kernel)
  revert hport
  decide +kernel

end Chassisd
