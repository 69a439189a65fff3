import Chassisd.Bpdu.Coherence
import Chassisd.Library.LeastNonzero

namespace Chassisd

open LeastNonzero

def RolesCoherent (this : Ctpm) : Prop :=
  this.rootPortId = this.rootPrio.rootBridge.number ∧
    this.rootLCPortId = this.rootPrio.designBridge.number

-- An id that the frame's own table shows alive; 0 is none.
def shown (bpdu : RstpBpdu) (id : Nat) : Nat :=
  if 0 < id ∧ 0 < (bpdu.chassisExist.entry (id - 1)).age then id else 0

def shownRoot (bpdu : RstpBpdu) : Nat := shown bpdu bpdu.rootId

def shownDesigned (bpdu : RstpBpdu) : Nat := shown bpdu bpdu.dbridgeId

-- chassis_bpdu_in_rx_fc_bpdu on a line card, chassis_bpdu_in_rx_lc_bpdu on a fabric card
def inRxOpposite (bpdu : RstpBpdu) (c : Chassis) : Chassis :=
  match c.type with
  | .lineCard => inRxFcBpdu bpdu c
  | .fabricCard => inRxLcBpdu bpdu c

def Ordinary (type : CardType) (bpdu : RstpBpdu) : Prop :=
  match type with
  | .lineCard => bpdu.bpduType ≠ bpduTypeHello
  | .fabricCard => forwardingBit bpdu ≠ 1

structure Electing (c : Chassis) : Prop where
  state : c.ctpm.state = .listening ∨ c.ctpm.state = .learning
  coherent : RolesCoherent c.ctpm

theorem takes_least (bpdu : RstpBpdu) (id old : Nat) :
    (if 0 < id ∧ 0 < (bpdu.chassisExist.entry (id - 1)).age ∧
      (false = true ∨ id < old ∨ old = 0) then id else old) = least old (shown bpdu id) := by
  unfold least shown
  by_cases halive : 0 < (bpdu.chassisExist.entry (id - 1)).age
  · simp only [halive, true_and, and_true, Bool.false_eq_true, false_or]
    split_ifs <;> omega
  · simp only [halive, false_and, and_false, if_false]
    split_ifs <;> omega

section Frames

variable {bpdu : RstpBpdu} {c : Chassis}

theorem adopt_least (bpdu : RstpBpdu) (c : Chassis) :
    (adopt false false bpdu c).ctpm.rootPortId = least c.ctpm.rootPortId (shownRoot bpdu) ∧
      (adopt false false bpdu c).ctpm.rootLCPortId =
        least c.ctpm.rootLCPortId (shownDesigned bpdu) := by
  rw [(adopt_root bpdu c false false).1, (adopt_designated bpdu c false false).1]
  exact ⟨takes_least bpdu bpdu.rootId _, takes_least bpdu bpdu.dbridgeId _⟩

theorem rolesCoherent_adopt (bpdu : RstpBpdu) (hc : RolesCoherent c.ctpm) :
    RolesCoherent (adopt false false bpdu c).ctpm := by
  obtain ⟨hport, -, hid⟩ := adopt_root bpdu c false false
  constructor
  · rw [hport, hid]
    split_ifs
    · exact (number_rootId bpdu).symm
    · exact hc.1
  · exact lcCoherent_adopt hc.2

theorem agree_least (hc : RolesCoherent c.ctpm) (hcheck : checkBpdu bpdu c = 0) :
    c.ctpm.rootPortId = least c.ctpm.rootPortId (shownRoot bpdu) ∧
      c.ctpm.rootLCPortId = least c.ctpm.rootLCPortId (shownDesigned bpdu) := by
  have hsame (id : Nat) : id = least id (shown bpdu id) := by
    unfold shown
    split_ifs
    · exact (least_self id).symm
    · exact (least_zero id).symm
  unfold checkBpdu at hcheck
  split_ifs at hcheck with hroot hlc
  rw [not_ne_iff] at hroot hlc
  unfold shownRoot shownDesigned
  rw [hroot, hlc, ← hc.1, ← hc.2]
  exact ⟨hsame _, hsame _⟩

theorem Electing.awake (he : Electing c) :
    c.ctpm.state ≠ .block ∧ c.ctpm.state ≠ .forwarding ∧ c.ctpm.state ≠ .disable := by
  rcases he.state with hs | hs <;> rw [hs] <;> decide

def Merged (bpdu : RstpBpdu) (c c' : Chassis) : Prop :=
  c' = inUpdateChassisMember bpdu (adopt false false bpdu c) ∨
    (c' = inUpdateChassisMember bpdu c ∧ checkBpdu bpdu c = 0)

theorem merged_line (he : Electing c) (htype : c.type = .lineCard)
    (ho : bpdu.bpduType ≠ bpduTypeHello) : Merged bpdu c (inRxFcBpdu bpdu c) := by
  have h := lineRx bpdu c htype
  generalize inRxFcBpdu bpdu c = c' at h ⊢
  cases h with
  | wake hs => exact absurd hs he.awake.1
  | adopt =>
    have hhello : (bpdu.bpduType == bpduTypeHello) = false := beq_eq_false_iff_ne.mpr ho
    rw [hhello]
    exact .inl rfl
  | agree _ hcheck => exact .inr ⟨rfl, hcheck⟩
  | lcChange hs | sync hs | relay hs | reply hs | config hs | other hs =>
    exact absurd hs he.awake.2.1
  | disabled hs => exact absurd hs he.awake.2.2

theorem merged_fabric (he : Electing c) (htype : c.type = .fabricCard)
    (ho : forwardingBit bpdu ≠ 1) : Merged bpdu c (inRxLcBpdu bpdu c) := by
  have h := fabricRx bpdu c htype
  generalize inRxLcBpdu bpdu c = c' at h ⊢
  cases h with
  | wake hs => exact absurd hs he.awake.1
  | adopt =>
    have hflag : (forwardingBit bpdu == 1) = false := beq_eq_false_iff_ne.mpr ho
    rw [hflag]
    exact .inl rfl
  | agree _ hcheck => exact .inr ⟨rfl, hcheck⟩
  | sync hs | echo hs | hear hs | config hs | elect hs | alone hs | lcChange hs | other hs =>
    exact absurd hs he.awake.2.1
  | disabled hs => exact absurd hs he.awake.2.2

theorem merged_opposite (he : Electing c) (ho : Ordinary c.type bpdu) :
    Merged bpdu c (inRxOpposite bpdu c) := by
  unfold inRxOpposite
  cases htype : c.type with
  | lineCard =>
    rw [htype] at ho
    exact merged_line he htype ho
  | fabricCard =>
    rw [htype] at ho
    exact merged_fabric he htype ho

theorem electing_updateMember (he : Electing c) :
    Electing (inUpdateChassisMember bpdu c) := by
  obtain ⟨hstate, hroot, hlc⟩ := he
  constructor
  · simpa only [inUpdateChassisMember_frame] using hstate
  · simp only [RolesCoherent, inUpdateChassisMember_frame]
    exact ⟨hroot, hlc⟩

theorem electing_merged (he : Electing c) {c' : Chassis} (hm : Merged bpdu c c') :
    Electing c' ∧ c'.type = c.type ∧
      c'.ctpm.rootPortId = least c.ctpm.rootPortId (shownRoot bpdu) ∧
      c'.ctpm.rootLCPortId = least c.ctpm.rootLCPortId (shownDesigned bpdu) := by
  rcases hm with rfl | ⟨rfl, hcheck⟩
  · have hadopt : Electing (adopt false false bpdu c) := by
      refine ⟨?_, rolesCoherent_adopt bpdu he.coherent⟩
      simp only [adopt_frame]
      exact he.state
    refine ⟨electing_updateMember hadopt, ?_⟩
    simp only [inUpdateChassisMember_frame]
    exact ⟨(adopt_frame bpdu c false false).2.1, adopt_least bpdu c⟩
  · refine ⟨electing_updateMember he, ?_⟩
    simp only [inUpdateChassisMember_frame]
    exact ⟨trivial, agree_least he.coherent hcheck⟩

theorem electing_step (he : Electing c) (ho : Ordinary c.type bpdu) :
    Electing (inRxOpposite bpdu c) ∧ (inRxOpposite bpdu c).type = c.type ∧
      (inRxOpposite bpdu c).ctpm.rootPortId = least c.ctpm.rootPortId (shownRoot bpdu) ∧
      (inRxOpposite bpdu c).ctpm.rootLCPortId =
        least c.ctpm.rootLCPortId (shownDesigned bpdu) :=
  electing_merged he (merged_opposite he ho)

end Frames

theorem electing_run {c : Chassis} (he : Electing c) (ms : List RstpBpdu)
    (hms : ∀ m ∈ ms, Ordinary c.type m) :
    LeastOf (c.ctpm.rootPortId :: ms.map shownRoot)
        (Runs.run inRxOpposite c ms).ctpm.rootPortId ∧
      LeastOf (c.ctpm.rootLCPortId :: ms.map shownDesigned)
        (Runs.run inRxOpposite c ms).ctpm.rootLCPortId ∧
      Electing (Runs.run inRxOpposite c ms) ∧ (Runs.run inRxOpposite c ms).type = c.type := by
  induction ms using List.reverseRecOn with
  | nil => exact ⟨leastOf_singleton _, leastOf_singleton _, he, rfl⟩
  | append_singleton ms m ih =>
    obtain ⟨hroot, hlc, helect, htype⟩ := ih fun m' hm' => hms m' (by simp [hm'])
    have hm : Ordinary (Runs.run inRxOpposite c ms).type m := by
      rw [htype]; exact hms m (by simp)
    obtain ⟨helect', htype', hroot', hlc'⟩ := electing_step helect hm
    rw [Runs.run_concat, hroot', hlc', List.map_append, List.map_append, ← List.cons_append,
      ← List.cons_append]
    exact ⟨hroot.concat _, hlc.concat _, helect', htype'.trans htype⟩

theorem election_order_independent (c : Chassis)
    (hstate : c.ctpm.state = .listening ∨ c.ctpm.state = .learning)
    (hcoherent : RolesCoherent c.ctpm) (ms : List RstpBpdu)
    (hms : ∀ m ∈ ms, Ordinary c.type m) :
    LeastOf (c.ctpm.rootPortId :: ms.map shownRoot)
        (Runs.run inRxOpposite c ms).ctpm.rootPortId ∧
      LeastOf (c.ctpm.rootLCPortId :: ms.map shownDesigned)
        (Runs.run inRxOpposite c ms).ctpm.rootLCPortId ∧
      ∀ ms' : List RstpBpdu, ms.Perm ms' →
        (Runs.run inRxOpposite c ms').ctpm.rootPortId =
            (Runs.run inRxOpposite c ms).ctpm.rootPortId ∧
          (Runs.run inRxOpposite c ms').ctpm.rootLCPortId =
            (Runs.run inRxOpposite c ms).ctpm.rootLCPortId := by
  have he : Electing c := ⟨hstate, hcoherent⟩
  obtain ⟨hroot, hlc, -⟩ := electing_run he ms hms
  refine ⟨hroot, hlc, fun ms' hperm => ?_⟩
  obtain ⟨hroot', hlc', -⟩ := electing_run he ms' fun m hm => hms m (hperm.mem_iff.mpr hm)
  exact ⟨hroot'.unique (hroot.perm ((hperm.map shownRoot).cons _)),
    hlc'.unique (hlc.perm ((hperm.map shownDesigned).cons _))⟩

def wokenCard : Chassis :=
  step (.rx (configFrame 35) RstpBpdu.sizeof) (startUp 1 .lineCard .enabled (Vector.replicate 6 0))

set_option maxRecDepth 100000 in
theorem election_of_33_and_35 :
    (Runs.run inRxOpposite wokenCard [configFrame 33, configFrame 35]).ctpm.rootPortId =
      (Runs.run inRxOpposite wokenCard [configFrame 35, configFrame 33]).ctpm.rootPortId := by
  obtain ⟨hstate, hroot, hlc, htype⟩ : wokenCard.ctpm.state = .listening ∧
      wokenCard.ctpm.rootPortId = wokenCard.ctpm.rootPrio.rootBridge.number ∧
      wokenCard.ctpm.rootLCPortId = wokenCard.ctpm.rootPrio.designBridge.number ∧
      wokenCard.type = .lineCard := by decide +kernel
  refine ((election_order_independent wokenCard (.inl hstate) ⟨hroot, hlc⟩
    [configFrame 35, configFrame 33] ?_).2.2 [configFrame 33, configFrame 35]
      (List.Perm.swap _ _ _)).1
  intro m hm
  have hcases : m = configFrame 35 ∨ m = configFrame 33 := by simpa using hm
  rw [htype]
  change m.bpduType ≠ bpduTypeHello
  rcases hcases with rfl | rfl <;> exact (by decide : bpduTypeConfig ≠ bpduTypeHello)

end Chassisd
