import Chassisd.Bpdu.Primitives

namespace Chassisd

section Election

def heir (usNumber : Nat) (t : ChassisExist) : Option Nat :=
  (List.range maximumLineServerCardNumber).find? fun i =>
    decide (i + 1 ≠ usNumber ∧ 3 ≤ (t.entry i).age)

def dropLc (old : Nat) (c : Chassis) : Chassis :=
  { c.touch old with ctpm.chassisExist := c.ctpm.chassisExist.setAge old 0 }

def electLc (old i : Nat) (c : Chassis) : Chassis :=
  { dropLc old c with
    ctpm.rootLCPortId := i
    ctpm.rootPrio.designPort := i
    ctpm.rootPrio.designBridge := ((c.ctpm.chassisExist.setAge old 0).entry i).id }

theorem heir_eq_some {usNumber : Nat} {t : ChassisExist} {i : Nat} :
    heir usNumber t = some i ↔ (i < 32 ∧ i + 1 ≠ usNumber ∧ 3 ≤ (t.entry i).age) ∧
      ∀ j < i, j + 1 ≠ usNumber → (t.entry j).age < 3 := by
  simp only [heir, List.find?_range_eq_some, decide_eq_true_eq, List.mem_range]
  constructor
  · rintro ⟨⟨hne, hage⟩, hi, hmin⟩
    refine ⟨⟨hi, hne, hage⟩, fun j hj hjn => ?_⟩
    have := hmin j hj
    simpa [hjn] using this
  · rintro ⟨⟨hi, hne, hage⟩, hmin⟩
    refine ⟨⟨hne, hage⟩, hi, fun j hj => ?_⟩
    by_cases hjn : j + 1 = usNumber
    · simp [hjn]
    · simpa [hjn] using hmin j hj hjn

theorem heir_eq_none {usNumber : Nat} {t : ChassisExist} :
    heir usNumber t = none ↔ ∀ i < 32, i + 1 ≠ usNumber → (t.entry i).age < 3 := by
  simp [heir, List.find?_eq_none]

theorem selectNewRootLc_of_some {old i : Nat} {c : Chassis}
    (h : heir c.usCardNumber (c.ctpm.chassisExist.setAge old 0) = some i) :
    selectNewRootLc old c = (electLc old i c, 0) := by
  unfold heir at h
  simp only [selectNewRootLc, touch_frame, h]
  rfl

theorem selectNewRootLc_of_none {old : Nat} {c : Chassis}
    (h : heir c.usCardNumber (c.ctpm.chassisExist.setAge old 0) = none) :
    selectNewRootLc old c = (dropLc old c, -1) := by
  unfold heir at h
  simp only [selectNewRootLc, touch_frame, h]
  rfl

theorem fcChange_of_some {bpdu : RstpBpdu} {i : Nat} {c : Chassis}
    (hr : bpdu.rootId = c.ctpm.brId.number)
    (h : heir c.usCardNumber (c.ctpm.chassisExist.setAge bpdu.dbridgeId 0) = some i) :
    fcChange bpdu c = txInfoBpdu bpduTypeHello (electLc bpdu.dbridgeId i c) := by
  rw [fcChange, if_pos hr, selectNewRootLcBpdu, selectNewRootLc_of_some h]
  rfl

theorem fcChange_of_none {bpdu : RstpBpdu} {c : Chassis}
    (hr : bpdu.rootId = c.ctpm.brId.number)
    (h : heir c.usCardNumber (c.ctpm.chassisExist.setAge bpdu.dbridgeId 0) = none) :
    fcChange bpdu c = enterBlock (dropLc bpdu.dbridgeId c) := by
  rw [fcChange, if_pos hr, selectNewRootLcBpdu, selectNewRootLc_of_none h]
  rfl

variable (old i : Nat) (bpdu : RstpBpdu) (c : Chassis)

@[simp] theorem dropLc_frame :
    (dropLc old c).usCardNumber = c.usCardNumber ∧ (dropLc old c).type = c.type ∧
    (dropLc old c).ctpm =
      { c.ctpm with chassisExist := c.ctpm.chassisExist.setAge old 0 } ∧
    (dropLc old c).rxBpdu = c.rxBpdu ∧ (dropLc old c).switch = c.switch ∧
    (dropLc old c).sent = c.sent ∧ (dropLc old c).touched = c.touched ++ [old] :=
  ⟨rfl, rfl, rfl, rfl, rfl, rfl, rfl⟩

@[simp] theorem electLc_frame :
    (electLc old i c).usCardNumber = c.usCardNumber ∧ (electLc old i c).type = c.type ∧
    (electLc old i c).ctpm = { c.ctpm with
      chassisExist := c.ctpm.chassisExist.setAge old 0
      rootLCPortId := i
      rootPrio.designPort := i
      rootPrio.designBridge := ((c.ctpm.chassisExist.setAge old 0).entry i).id } ∧
    (electLc old i c).rxBpdu = c.rxBpdu ∧ (electLc old i c).switch = c.switch ∧
    (electLc old i c).sent = c.sent ∧ (electLc old i c).touched = c.touched ++ [old] :=
  ⟨rfl, rfl, rfl, rfl, rfl, rfl, rfl⟩

def syncs (bpdu : RstpBpdu) (c : Chassis) : Prop :=
  (0 < bpdu.dbridgeId ∧ bpdu.dbridgeId ≠ c.ctpm.rootPrio.designBridge.number) ∧
    0 < (bpdu.chassisExist.entry (bpdu.dbridgeId - 1)).age

def rewrites (bpdu : RstpBpdu) (c : Chassis) : Prop :=
  c.ctpm.rootLCPortId = c.ctpm.rootPrio.designBridge.number ∨
    c.ctpm.brId.number = bpdu.dbridgeId

instance : Decidable (syncs bpdu c) := inferInstanceAs (Decidable (_ ∧ _))

instance : Decidable (rewrites bpdu c) := inferInstanceAs (Decidable (_ ∨ _))

@[simp] theorem lcSyncToHello_frame :
    (lcSyncToHello bpdu c).usCardNumber = c.usCardNumber ∧
    (lcSyncToHello bpdu c).type = c.type ∧ (lcSyncToHello bpdu c).rxBpdu = c.rxBpdu ∧
    (lcSyncToHello bpdu c).switch = (if syncs bpdu c ∧ rewrites bpdu c then
      enterForwardingState c.usCardNumber c.ctpm.rootPortId bpdu.dbridgeId c.switch
      else c.switch) ∧
    (lcSyncToHello bpdu c).sent = c.sent ∧
    (lcSyncToHello bpdu c).touched =
      (if 0 < bpdu.dbridgeId ∧ bpdu.dbridgeId ≠ c.ctpm.rootPrio.designBridge.number then
        c.touched ++ [bpdu.dbridgeId - 1] else c.touched) := by
  unfold lcSyncToHello syncs rewrites
  dsimp only
  split_ifs <;> simp_all

theorem lcSyncToHello_ctpm (hs : c.ctpm.state = .forwarding)
    (ht : c.ctpm.timeSinceTopoChange = 0) :
    (lcSyncToHello bpdu c).ctpm =
      if syncs bpdu c then (setDesigned bpdu c).ctpm else c.ctpm := by
  have hctpm : ({ (setDesigned bpdu c).ctpm with
      state := .forwarding, timeSinceTopoChange := 0 } : Ctpm) = (setDesigned bpdu c).ctpm := by
    rw [← hs, ← ht]; rfl
  unfold lcSyncToHello syncs
  dsimp only
  split_ifs <;> simp_all

@[simp] theorem forgetRootLc_frame :
    (forgetRootLc c).usCardNumber = c.usCardNumber ∧ (forgetRootLc c).type = c.type ∧
    (forgetRootLc c).rxBpdu = c.rxBpdu ∧ (forgetRootLc c).switch = c.switch ∧
    (forgetRootLc c).sent = c.sent ∧
    (∀ n, (forgetRootLc c).ctpm.blocked n = c.ctpm.blocked n) := by
  unfold forgetRootLc
  dsimp only
  split_ifs <;> simp [blocked_chassisExist]

theorem forgetRootLc_touched :
    (forgetRootLc c).touched =
      if c.ctpm.rootLCPortId = c.ctpm.brId.number then c.touched
      else if 1 ≤ (c.ctpm.chassisExist.entry c.ctpm.brId.number).age then
        c.touched ++ [c.ctpm.brId.number, c.ctpm.rootLCPortId]
      else c.touched ++ [c.ctpm.brId.number] := by
  unfold forgetRootLc
  dsimp only
  split_ifs <;> simp_all

end Election

theorem waiting_ne_forwarding {s : ChassisCtpmState} (h : s = .listening ∨ s = .learning) :
    s ≠ .forwarding := by
  rcases h with rfl | rfl <;> decide

inductive LineRx (bpdu : RstpBpdu) (c : Chassis) : Chassis → Prop
  | wake (hs : c.ctpm.state = .block) :
      LineRx bpdu c (inUpdateChassisMember bpdu (txInfoBpdu bpduTypeReply
        (takeTimes bpdu (adopt false (bpdu.bpduType == bpduTypeHello) bpdu (wake c)))))
  | adopt (hs : c.ctpm.state = .listening ∨ c.ctpm.state = .learning)
      (hcheck : checkBpdu bpdu c ≠ 0) :
      LineRx bpdu c (inUpdateChassisMember bpdu
        (adopt false (bpdu.bpduType == bpduTypeHello) bpdu c))
  | agree (hs : c.ctpm.state = .listening ∨ c.ctpm.state = .learning)
      (hcheck : checkBpdu bpdu c = 0) :
      LineRx bpdu c (inUpdateChassisMember bpdu c)
  | lcChange (hs : c.ctpm.state = .forwarding) (ht : bpdu.bpduType = bpduTypeLcChange) :
      LineRx bpdu c (enterBlock (forgetRootLc (restartTimer
        (txInfoBpdu bpduTypeLcChange (inUpdateChassisMember bpdu c)))))
  | sync (hs : c.ctpm.state = .forwarding) (ht : bpdu.bpduType = bpduTypeHello)
      (hr : bpdu.rootId = c.ctpm.rootPrio.rootBridge.number)
      (hd : bpdu.dbridgeId ≠ c.ctpm.rootLCPortId) :
      LineRx bpdu c (lcSyncToHello bpdu (restartTimer (inUpdateChassisMember bpdu c)))
  | relay (hs : c.ctpm.state = .forwarding) (ht : bpdu.bpduType = bpduTypeHello)
      (hr : bpdu.rootId = c.ctpm.rootPrio.rootBridge.number)
      (hd : bpdu.dbridgeId = c.ctpm.rootLCPortId)
      (hown : bpdu.dbridgeId = c.ctpm.brId.number) (hslot : bpdu.slotid = bpdu.rootId) :
      LineRx bpdu c (txInfoBpdu bpduTypeHello (restartTimer (inUpdateChassisMember bpdu c)))
  | reply (hs : c.ctpm.state = .forwarding) (ht : bpdu.bpduType = bpduTypeHello)
      (hd : bpdu.rootId = c.ctpm.rootPrio.rootBridge.number →
        bpdu.dbridgeId = c.ctpm.rootLCPortId ∧
          ¬ (bpdu.dbridgeId = c.ctpm.brId.number ∧ bpdu.slotid = bpdu.rootId)) :
      LineRx bpdu c (txInfoBpdu bpduTypeReply (restartTimer (inUpdateChassisMember bpdu c)))
  | config (hs : c.ctpm.state = .forwarding) (ht : bpdu.bpduType = bpduTypeConfig) :
      LineRx bpdu c (txInfoBpdu bpduTypeReply (inUpdateChassisMember bpdu c))
  | other (hs : c.ctpm.state = .forwarding) (ht : bpdu.bpduType ∉
      [bpduTypeLcChange, bpduTypeHello, bpduTypeConfig]) :
      LineRx bpdu c (inUpdateChassisMember bpdu c)
  | disabled (hs : c.ctpm.state = .disable) : LineRx bpdu c c

theorem lineRx (bpdu : RstpBpdu) (c : Chassis) (htype : c.type = .lineCard) :
    LineRx bpdu c (inRxFcBpdu bpdu c) := by
  have hstart (s : ChassisCtpmState)
      (hs : c.ctpm.state = s) (hmem : s = .listening ∨ s = .learning) :
      LineRx bpdu c (inUpdateChassisMember bpdu
        (if checkBpdu bpdu c ≠ 0 then inUpdateLcRoot bpdu c else c)) := by
    rw [← hs] at hmem
    by_cases hcheck : checkBpdu bpdu c ≠ 0
    · rw [if_pos hcheck]; exact .adopt hmem hcheck
    · rw [if_neg hcheck]; exact .agree hmem (not_not.mp hcheck)
  simp only [inRxFcBpdu, htype]
  cases hs : c.ctpm.state with
  | block => exact .wake hs
  | listening => exact hstart _ hs (by simp)
  | learning => exact hstart _ hs (by simp)
  | disable => exact .disabled hs
  | forwarding =>
    dsimp only
    split_ifs with h1 h2 h3
    · exact .lcChange hs h1
    · unfold helloFromFc
      simp only [restartTimer_frame, inUpdateChassisMember_frame]
      split_ifs with h4 h5
      · exact .sync hs h2 h4.1 h4.2
      · refine .relay hs h2 h5.2.1 (by tauto) h5.1 h5.2.2
      · exact .reply hs h2 fun hr => ⟨by tauto, by tauto⟩
    · exact .config hs h3
    · exact .other hs (by simp [h1, h2, h3])

inductive FabricRx (bpdu : RstpBpdu) (c : Chassis) : Chassis → Prop
  | wake (hs : c.ctpm.state = .block) :
      FabricRx bpdu c (inUpdateChassisMember bpdu
        (takeTimes bpdu (adopt (forwardingBit bpdu == 1) false bpdu (wake c))))
  | adopt (hs : c.ctpm.state = .listening ∨ c.ctpm.state = .learning)
      (hcheck : checkBpdu bpdu c ≠ 0) :
      FabricRx bpdu c (inUpdateChassisMember bpdu
        (adopt (forwardingBit bpdu == 1) false bpdu c))
  | agree (hs : c.ctpm.state = .listening ∨ c.ctpm.state = .learning)
      (hcheck : checkBpdu bpdu c = 0) :
      FabricRx bpdu c (inUpdateChassisMember bpdu c)
  | sync (hs : c.ctpm.state = .forwarding) (ht : bpdu.bpduType = bpduTypeHello)
      (hr : bpdu.rootId = c.ctpm.rootPrio.rootBridge.number)
      (hd : bpdu.dbridgeId ≠ c.ctpm.rootPrio.designBridge.number) :
      FabricRx bpdu c (lcSyncToHello bpdu (restartTimer (inUpdateChassisMember bpdu c)))
  | echo (hs : c.ctpm.state = .forwarding) (ht : bpdu.bpduType = bpduTypeHello)
      (hr : bpdu.rootId ≠ c.ctpm.brId.number)
      (hd : bpdu.dbridgeId = c.ctpm.rootPrio.designBridge.number) :
      FabricRx bpdu c (txInfoBpdu bpduTypeHello (restartTimer (inUpdateChassisMember bpdu c)))
  | hear (hs : c.ctpm.state = .forwarding) (ht : bpdu.bpduType = bpduTypeHello)
      (hd : if bpdu.dbridgeId = c.ctpm.rootPrio.designBridge.number then
        bpdu.rootId = c.ctpm.brId.number else bpdu.rootId ≠ c.ctpm.rootPrio.rootBridge.number) :
      FabricRx bpdu c (restartTimer (inUpdateChassisMember bpdu c))
  | config (hs : c.ctpm.state = .forwarding) (ht : bpdu.bpduType = bpduTypeConfig) :
      FabricRx bpdu c (txInfoBpdu bpduTypeReply (inUpdateChassisMember bpdu c))
  | elect (hs : c.ctpm.state = .forwarding) (ht : bpdu.bpduType = bpduTypeFcChange)
      (hr : bpdu.rootId = c.ctpm.brId.number) (i : Nat)
      (hi : heir c.usCardNumber ((inUpdateChassisMember bpdu c).ctpm.chassisExist.setAge
        bpdu.dbridgeId 0) = some i) :
      FabricRx bpdu c (txInfoBpdu bpduTypeHello
        (electLc bpdu.dbridgeId i (inUpdateChassisMember bpdu c)))
  | alone (hs : c.ctpm.state = .forwarding) (ht : bpdu.bpduType = bpduTypeFcChange)
      (hr : bpdu.rootId = c.ctpm.brId.number)
      (hi : heir c.usCardNumber ((inUpdateChassisMember bpdu c).ctpm.chassisExist.setAge
        bpdu.dbridgeId 0) = none) :
      FabricRx bpdu c (enterBlock (dropLc bpdu.dbridgeId (inUpdateChassisMember bpdu c)))
  | lcChange (hs : c.ctpm.state = .forwarding) (ht : bpdu.bpduType = bpduTypeLcChange)
      (hr : bpdu.rootId ≠ c.ctpm.brId.number) :
      FabricRx bpdu c (enterBlock (inUpdateChassisMember bpdu c))
  | other (hs : c.ctpm.state = .forwarding)
      (ht : bpdu.bpduType ∉ [bpduTypeHello, bpduTypeConfig])
      (hr : bpdu.bpduType = bpduTypeFcChange → bpdu.rootId ≠ c.ctpm.brId.number)
      (hl : bpdu.bpduType = bpduTypeLcChange → bpdu.rootId = c.ctpm.brId.number) :
      FabricRx bpdu c (inUpdateChassisMember bpdu c)
  | disabled (hs : c.ctpm.state = .disable) : FabricRx bpdu c c

theorem fabricRx (bpdu : RstpBpdu) (c : Chassis) (htype : c.type = .fabricCard) :
    FabricRx bpdu c (inRxLcBpdu bpdu c) := by
  have hstart (s : ChassisCtpmState)
      (hs : c.ctpm.state = s) (hmem : s = .listening ∨ s = .learning) :
      FabricRx bpdu c (inUpdateChassisMember bpdu
        (if checkBpdu bpdu c ≠ 0 then inUpdateFcDesignated bpdu c else c)) := by
    rw [← hs] at hmem
    by_cases hcheck : checkBpdu bpdu c ≠ 0
    · rw [if_pos hcheck]; exact .adopt hmem hcheck
    · rw [if_neg hcheck]; exact .agree hmem (not_not.mp hcheck)
  simp only [inRxLcBpdu, htype]
  cases hs : c.ctpm.state with
  | block => exact .wake hs
  | listening => exact hstart _ hs (by simp)
  | learning => exact hstart _ hs (by simp)
  | disable => exact .disabled hs
  | forwarding =>
    dsimp only
    split_ifs with h1 h2 h3 h4 h5
    · unfold helloFromLc
      simp only [restartTimer_frame, inUpdateChassisMember_frame]
      by_cases hd : bpdu.dbridgeId = c.ctpm.rootPrio.designBridge.number
      · by_cases hr : bpdu.rootId = c.ctpm.brId.number
        · simp only [hd, hr, ne_eq, not_true_eq_false, false_and, and_false, if_false]
          exact .hear hs h1 (by simp [hd, hr])
        · simp only [hd, hr, ne_eq, not_true_eq_false, not_false_eq_true, false_and, and_self,
            if_false, if_true]
          exact .echo hs h1 hr hd
      · by_cases hr : bpdu.rootId = c.ctpm.rootPrio.rootBridge.number
        · simp only [hd, hr, ne_eq, not_false_eq_true, false_and, and_self, if_false, if_true]
          exact .sync hs h1 hr hd
        · simp only [hd, hr, ne_eq, and_false, false_and, if_false]
          exact .hear hs h1 (by simp [hd, hr])
    · exact .config hs h2
    · by_cases hr : bpdu.rootId = (inUpdateChassisMember bpdu c).ctpm.brId.number
      · rcases hi : heir (inUpdateChassisMember bpdu c).usCardNumber
          ((inUpdateChassisMember bpdu c).ctpm.chassisExist.setAge bpdu.dbridgeId 0) with - | i
        · rw [fcChange_of_none hr hi]
          exact .alone hs h3 hr hi
        · rw [fcChange_of_some hr hi]
          exact .elect hs h3 hr i hi
      · rw [fcChange, if_neg hr]
        exact .other hs (by simp [h1, h2]) (fun _ => hr)
          fun h => absurd (h3.symm.trans h) (by decide)
    · exact .lcChange hs h4 h5
    · exact .other hs (by simp [h1, h2]) (by simp [h3]) (fun _ => not_not.mp h5)
    · exact .other hs (by simp [h1, h2]) (by simp [h3]) (by simp [h4])

inductive Ticked (c : Chassis) : Chassis → Prop
  | config (hs : c.ctpm.state = .block) (hf : 33 ≤ c.usCardNumber ∧ c.usCardNumber ≤ 48)
      (ht : c.ctpm.timeSinceTopoChange + 1 < 15) :
      Ticked c (txInfoBpdu bpduTypeConfig
        { c with ctpm.timeSinceTopoChange := c.ctpm.timeSinceTopoChange + 1 })
  | blockTimeout (hs : c.ctpm.state = .block) (hf : 33 ≤ c.usCardNumber ∧ c.usCardNumber ≤ 48)
      (ht : 15 ≤ c.ctpm.timeSinceTopoChange + 1) :
      Ticked c { c with
        switch := blockTime c.usCardNumber c.switch
        ctpm.timeSinceTopoChange := 0 }
  | blockLine (hs : c.ctpm.state = .block)
      (hl : ¬ (33 ≤ c.usCardNumber ∧ c.usCardNumber ≤ 48)) : Ticked c c
  | learn (hs : c.ctpm.state = .listening) (ht : 3 < c.ctpm.timeSinceTopoChange) :
      Ticked c (enterLearning c)
  | listenFabric (hs : c.ctpm.state = .listening)
      (hf : 33 ≤ c.usCardNumber ∧ c.usCardNumber ≤ 48)
      (ht : c.ctpm.timeSinceTopoChange ≤ 3) :
      Ticked c (txInfoBpdu bpduTypeConfig
        { c with ctpm.timeSinceTopoChange := c.ctpm.timeSinceTopoChange + 1 })
  | listenLine (hs : c.ctpm.state = .listening)
      (hl : ¬ (33 ≤ c.usCardNumber ∧ c.usCardNumber ≤ 48))
      (ht : c.ctpm.timeSinceTopoChange ≤ 3) :
      Ticked c { c with ctpm.timeSinceTopoChange := c.ctpm.timeSinceTopoChange + 1 }
  | learning (hs : c.ctpm.state = .learning)
      (ht : c.ctpm.timeSinceTopoChange < learningTicks c.usCardNumber) :
      Ticked c { txInfoBpdu bpduTypeConfig c with
        ctpm.timeSinceTopoChange := c.ctpm.timeSinceTopoChange + 1 }
  | forward (hs : c.ctpm.state = .learning)
      (ht : learningTicks c.usCardNumber ≤ c.ctpm.timeSinceTopoChange) :
      Ticked c (enterForwarding c)
  | elect (hs : c.ctpm.state = .forwarding) (hroot : c.usCardNumber = c.ctpm.rootPortId)
      (ht : 15 < c.ctpm.timeSinceTopoChange) (i : Nat)
      (hi : heir c.usCardNumber
        (c.ctpm.chassisExist.setAge c.ctpm.rootLCPortId 0) = some i) :
      Ticked c (txInfoBpdu bpduTypeHello
        { electLc c.ctpm.rootLCPortId i c with ctpm.timeSinceTopoChange := 0 })
  | alone (hs : c.ctpm.state = .forwarding) (hroot : c.usCardNumber = c.ctpm.rootPortId)
      (ht : 15 < c.ctpm.timeSinceTopoChange)
      (hi : heir c.usCardNumber
        (c.ctpm.chassisExist.setAge c.ctpm.rootLCPortId 0) = none) :
      Ticked c (txInfoBpdu bpduTypeLcChange (enterBlock (dropLc c.ctpm.rootLCPortId c)))
  | hello (hs : c.ctpm.state = .forwarding) (hroot : c.usCardNumber = c.ctpm.rootPortId)
      (ht : c.ctpm.timeSinceTopoChange ≤ 15) :
      Ticked c { txInfoBpdu bpduTypeHello c with
        ctpm.timeSinceTopoChange := c.ctpm.timeSinceTopoChange + 1 }
  | lost (hs : c.ctpm.state = .forwarding) (hroot : c.usCardNumber ≠ c.ctpm.rootPortId)
      (ht : 45 < c.ctpm.timeSinceTopoChange) : Ticked c (enterBlock c)
  | wait (hs : c.ctpm.state = .forwarding) (hroot : c.usCardNumber ≠ c.ctpm.rootPortId)
      (ht : c.ctpm.timeSinceTopoChange ≤ 45) :
      Ticked c { c with ctpm.timeSinceTopoChange := c.ctpm.timeSinceTopoChange + 1 }
  | disabled (hs : c.ctpm.state = .disable) : Ticked c c

theorem ticked (c : Chassis) :
    Ticked { c with rxBpdu := clearRxBpduInterval } (ctpCtpmIterateMachines c) := by
  unfold ctpCtpmIterateMachines
  generalize { c with rxBpdu := clearRxBpduInterval } = this
  dsimp only
  have hF : defaultForwardDelay.toNat = 3 := rfl
  have hM : defaultMaxAge.toNat = 15 := rfl
  cases hs : this.ctpm.state with
  | block =>
    dsimp only
    unfold iterateBlock
    dsimp only
    rw [hM]
    split_ifs with hf ht
    · exact .config hs hf ht
    · exact .blockTimeout hs hf (by simpa using ht)
    · exact .blockLine hs hf
  | listening =>
    dsimp only
    unfold iterateListening
    dsimp only
    rw [hF]
    split_ifs with ht hf
    · exact .learn hs ht
    · exact .listenFabric hs hf (by omega)
    · exact .listenLine hs hf (by omega)
  | learning =>
    dsimp only
    unfold iterateLearning
    dsimp only
    split_ifs with ht
    · exact .learning hs ht
    · exact .forward hs (by omega)
  | forwarding =>
    dsimp only
    unfold iterateForwarding
    rw [hF, hM]
    by_cases hroot : this.usCardNumber = this.ctpm.rootPortId
    · rw [if_pos hroot]
      by_cases ht : this.ctpm.timeSinceTopoChange > 15
      · rw [if_pos ht]
        rcases hi : heir this.usCardNumber
          (this.ctpm.chassisExist.setAge this.ctpm.rootLCPortId 0) with - | i
        · rw [selectNewRootLc_of_none hi]
          exact .alone hs hroot ht hi
        · rw [selectNewRootLc_of_some hi]
          exact .elect hs hroot ht i hi
      · rw [if_neg ht]
        exact .hello hs hroot (by omega)
    · rw [if_neg hroot]
      split_ifs with ht
      · exact .lost hs hroot ht
      · exact .wait hs hroot (by omega)
  | disable => exact .disabled hs

section Reception

def opposite : CardType → Nat → Prop
  | .lineCard, slotid => 33 ≤ slotid ∧ slotid ≤ 48
  | .fabricCard, slotid => 1 ≤ slotid ∧ slotid ≤ 32

instance (t : CardType) (slotid : Nat) : Decidable (opposite t slotid) := by
  cases t <;> exact inferInstanceAs (Decidable (_ ∧ _))

def Handled (bpdu : RstpBpdu) (len : Nat) (c : Chassis) : Prop :=
  acceptsBpdu bpdu.bpduType len = true ∧ c.usCardNumber % 2 = 1 ∧
    (checkRxBpduInterval bpdu c.rxBpdu).1 = 0 ∧ opposite c.type bpdu.slotid

inductive Dispatched (bpdu : RstpBpdu) (c : Chassis) : Chassis → Prop
  | line (htype : c.type = .lineCard) (hslot : 33 ≤ bpdu.slotid ∧ bpdu.slotid ≤ 48)
      {c' : Chassis} (h : LineRx bpdu c c') : Dispatched bpdu c c'
  | fabric (htype : c.type = .fabricCard) (hslot : 1 ≤ bpdu.slotid ∧ bpdu.slotid ≤ 32)
      {c' : Chassis} (h : FabricRx bpdu c c') : Dispatched bpdu c c'
  | ignored (h : ¬ opposite c.type bpdu.slotid) : Dispatched bpdu c c

theorem dispatched (bpdu : RstpBpdu) (c : Chassis) :
    Dispatched bpdu c (dispatchBpdu bpdu c) := by
  unfold dispatchBpdu
  split_ifs with hf hl
  · cases htype : c.type with
    | lineCard => exact .line htype hf (lineRx bpdu c htype)
    | fabricCard =>
      rw [show inRxFcBpdu bpdu c = c by simp [inRxFcBpdu, htype]]
      exact .ignored (by rw [htype]; intro h; obtain ⟨-, h⟩ := h; omega)
  · cases htype : c.type with
    | fabricCard => exact .fabric htype hl (fabricRx bpdu c htype)
    | lineCard =>
      rw [show inRxLcBpdu bpdu c = c by simp [inRxLcBpdu, htype]]
      exact .ignored (by rw [htype]; exact hf)
  · refine .ignored ?_
    cases c.type
    · exact hl
    · exact hf

theorem check_fst (bpdu : RstpBpdu) (rx : List RxHeader) :
    (checkRxBpduInterval bpdu rx).1 = 0 ∨ (checkRxBpduInterval bpdu rx).1 = 1 := by
  unfold checkRxBpduInterval
  split <;> simp

theorem rxBpdu_of_handled {bpdu : RstpBpdu} {len : Nat} {c : Chassis}
    (h : Handled bpdu len c) :
    rxBpdu bpdu len c =
      dispatchBpdu bpdu { c with rxBpdu := (checkRxBpduInterval bpdu c.rxBpdu).2 } := by
  obtain ⟨haccept, hodd, hcheck, -⟩ := h
  rw [rxBpdu, if_pos haccept, inRxBpdu, if_neg (by omega)]
  simp [hcheck]

theorem rxBpdu_of_not_handled {bpdu : RstpBpdu} {len : Nat} {c : Chassis}
    (h : ¬ Handled bpdu len c) : ∃ rx, rxBpdu bpdu len c = { c with rxBpdu := rx } := by
  unfold rxBpdu inRxBpdu
  by_cases haccept : acceptsBpdu bpdu.bpduType len = true
  · by_cases hodd : c.usCardNumber % 2 = 0
    · exact ⟨c.rxBpdu, by simp [haccept, hodd]⟩
    · rw [if_pos haccept, if_neg hodd]
      refine ⟨(checkRxBpduInterval bpdu c.rxBpdu).2, ?_⟩
      rcases check_fst bpdu c.rxBpdu with hcheck | hcheck
      · have hslot : ¬ opposite c.type bpdu.slotid := fun hslot =>
          h ⟨haccept, by omega, hcheck, hslot⟩
        simp only [hcheck]
        rw [if_neg (by decide)]
        have hd := dispatched bpdu { c with rxBpdu := (checkRxBpduInterval bpdu c.rxBpdu).2 }
        generalize dispatchBpdu bpdu _ = d at hd ⊢
        cases hd with
        | line htype hs _ => exact absurd (by rw [show c.type = _ from htype]; exact hs) hslot
        | fabric htype hs _ => exact absurd (by rw [show c.type = _ from htype]; exact hs) hslot
        | ignored _ => rfl
      · simp [hcheck]
  · exact ⟨c.rxBpdu, by simp [haccept]⟩

def ready (rx : List RxHeader) (c : Chassis) : Chassis := { quiet c with rxBpdu := rx }

@[simp] theorem ready_frame (rx : List RxHeader) (c : Chassis) :
    (ready rx c).usCardNumber = c.usCardNumber ∧ (ready rx c).type = c.type ∧
    (ready rx c).ctpm = c.ctpm ∧ (ready rx c).rxBpdu = rx ∧
    (ready rx c).switch.port = c.switch.port ∧ (ready rx c).switch.writes = [] ∧
    (ready rx c).sent = [] ∧ (ready rx c).touched = [] :=
  ⟨rfl, rfl, rfl, rfl, rfl, rfl, rfl, rfl⟩

inductive Stepped (c : Chassis) : Event → Chassis → Prop
  | idle (hadmin : c.ctpm.adminState ≠ .enabled) : Stepped c .tick (ready c.rxBpdu c)
  | tick (hadmin : c.ctpm.adminState = .enabled) {c' : Chassis}
      (h : Ticked (ready clearRxBpduInterval c) c') : Stepped c .tick c'
  | dropped {bpdu : RstpBpdu} {len : Nat} (hn : ¬ Handled bpdu len c) (rx : List RxHeader) :
      Stepped c (.rx bpdu len) (ready rx c)
  | line {bpdu : RstpBpdu} {len : Nat} (hh : Handled bpdu len c) (htype : c.type = .lineCard)
      {c' : Chassis} (h : LineRx bpdu (ready (checkRxBpduInterval bpdu c.rxBpdu).2 c) c') :
      Stepped c (.rx bpdu len) c'
  | fabric {bpdu : RstpBpdu} {len : Nat} (hh : Handled bpdu len c)
      (htype : c.type = .fabricCard) {c' : Chassis}
      (h : FabricRx bpdu (ready (checkRxBpduInterval bpdu c.rxBpdu).2 c) c') :
      Stepped c (.rx bpdu len) c'
  | exit : Stepped c .exit (signalExit (ready c.rxBpdu c))

theorem stepped (e : Event) (c : Chassis) : Stepped c e (step e c) := by
  cases e with
  | tick =>
    by_cases hadmin : c.ctpm.adminState = .enabled
    · have hstep : step .tick c = ctpCtpmIterateMachines (quiet c) := by
        change ctpmOneSecond (quiet c) = _
        rw [ctpmOneSecond, if_neg (by simpa [quiet] using hadmin)]
      rw [hstep]
      exact .tick hadmin (ticked (quiet c))
    · have hstep : step .tick c = ready c.rxBpdu c := by
        change ctpmOneSecond (quiet c) = _
        rw [ctpmOneSecond, if_pos (by simpa [quiet] using hadmin)]
        rfl
      rw [hstep]
      exact .idle hadmin
  | rx bpdu len =>
    change Stepped c _ (rxBpdu bpdu len (quiet c))
    by_cases hh : Handled bpdu len c
    · rw [rxBpdu_of_handled (c := quiet c) hh]
      have hd := dispatched bpdu (ready (checkRxBpduInterval bpdu c.rxBpdu).2 c)
      change Stepped c _ (dispatchBpdu bpdu (ready (checkRxBpduInterval bpdu c.rxBpdu).2 c))
      generalize dispatchBpdu bpdu _ = c' at hd ⊢
      cases hd with
      | line htype _ h => exact .line hh htype h
      | fabric htype _ h => exact .fabric hh htype h
      | ignored hn => exact absurd hh.2.2.2 hn
    · obtain ⟨rx, hrx⟩ := rxBpdu_of_not_handled (c := quiet c) hh
      rw [hrx]
      exact .dropped hh rx
  | exit => exact .exit

end Reception

end Chassisd
