import Chassisd.Bpdu.Branches

namespace Chassisd

-- The duplicate table decides whether a frame is looked at, and nothing behind that decision.
abbrev Chassis.withRx (c : Chassis) (rx : List RxHeader) : Chassis := { c with rxBpdu := rx }

section Commute

variable (c : Chassis) (rx : List RxHeader) (bpdu : RstpBpdu) (bpduType : UInt8)

theorem withRx_ite (p : Prop) [Decidable p] (d : Chassis) :
    (if p then c else d).withRx rx = if p then c.withRx rx else d.withRx rx :=
  apply_ite (fun c : Chassis => c.withRx rx) p c d

theorem enterBlock_withRx : enterBlock (c.withRx rx) = (enterBlock c).withRx rx := by
  unfold enterBlock
  dsimp only [Chassis.withRx]
  split_ifs <;> rfl

theorem enterForwarding_withRx :
    enterForwarding (c.withRx rx) = (enterForwarding c).withRx rx := rfl

theorem txInfoBpdu_withRx :
    txInfoBpdu bpduType (c.withRx rx) = (txInfoBpdu bpduType c).withRx rx := rfl

theorem inUpdateChassisMember_withRx :
    inUpdateChassisMember bpdu (c.withRx rx) = (inUpdateChassisMember bpdu c).withRx rx := rfl

theorem wake_withRx : wake (c.withRx rx) = (wake c).withRx rx := rfl

theorem takeTimes_withRx : takeTimes bpdu (c.withRx rx) = (takeTimes bpdu c).withRx rx := rfl

theorem restartTimer_withRx : restartTimer (c.withRx rx) = (restartTimer c).withRx rx := rfl

theorem checkBpdu_withRx : checkBpdu bpdu (c.withRx rx) = checkBpdu bpdu c := rfl

theorem takeRoot_withRx (wins : Bool) :
    takeRoot wins bpdu (c.withRx rx) = (takeRoot wins bpdu c).withRx rx := by
  simp only [takeRoot, withRx_ite]
  rfl

theorem takeDesigned_withRx (wins : Bool) :
    takeDesigned wins bpdu (c.withRx rx) = (takeDesigned wins bpdu c).withRx rx := by
  simp only [takeDesigned, withRx_ite]
  rfl

theorem inUpdateLcRoot_withRx :
    inUpdateLcRoot bpdu (c.withRx rx) = (inUpdateLcRoot bpdu c).withRx rx := by
  simp only [inUpdateLcRoot, takeRoot_withRx, takeDesigned_withRx, inUpdateChassisMember_withRx]

theorem inUpdateFcDesignated_withRx :
    inUpdateFcDesignated bpdu (c.withRx rx) = (inUpdateFcDesignated bpdu c).withRx rx := by
  simp only [inUpdateFcDesignated, takeRoot_withRx, takeDesigned_withRx,
    inUpdateChassisMember_withRx]

theorem lcSyncToHello_withRx :
    lcSyncToHello bpdu (c.withRx rx) = (lcSyncToHello bpdu c).withRx rx := by
  simp only [lcSyncToHello, withRx_ite, ← enterForwarding_withRx]
  rfl

theorem forgetRootLc_withRx : forgetRootLc (c.withRx rx) = (forgetRootLc c).withRx rx := by
  simp only [forgetRootLc, withRx_ite]
  rfl

theorem selectNewRootLc_withRx (old : Nat) : selectNewRootLc old (c.withRx rx) =
    ((selectNewRootLc old c).1.withRx rx, (selectNewRootLc old c).2) := by
  cases h : heir c.usCardNumber (c.ctpm.chassisExist.setAge old 0) with
  | some i =>
    have hrx : heir (c.withRx rx).usCardNumber ((c.withRx rx).ctpm.chassisExist.setAge old 0) =
        some i := h
    rw [selectNewRootLc_of_some h, selectNewRootLc_of_some hrx]
    rfl
  | none =>
    have hrx : heir (c.withRx rx).usCardNumber ((c.withRx rx).ctpm.chassisExist.setAge old 0) =
        none := h
    rw [selectNewRootLc_of_none h, selectNewRootLc_of_none hrx]
    rfl

end Commute

section Receive

variable (c : Chassis) (rx : List RxHeader) (bpdu : RstpBpdu)

theorem helloFromFc_withRx : helloFromFc bpdu (c.withRx rx) = (helloFromFc bpdu c).withRx rx := by
  simp only [helloFromFc, withRx_ite, ← lcSyncToHello_withRx, ← txInfoBpdu_withRx]
  rfl

theorem helloFromLc_withRx : helloFromLc bpdu (c.withRx rx) = (helloFromLc bpdu c).withRx rx := by
  simp only [helloFromLc, restartTimer_withRx, lcSyncToHello_withRx, ← withRx_ite,
    txInfoBpdu_withRx]

theorem fcChange_withRx : fcChange bpdu (c.withRx rx) = (fcChange bpdu c).withRx rx := by
  unfold fcChange
  simp only [selectNewRootLcBpdu, selectNewRootLc_withRx, txInfoBpdu_withRx, enterBlock_withRx,
    ← withRx_ite]
  rfl

theorem inRxFcBpdu_withRx : inRxFcBpdu bpdu (c.withRx rx) = (inRxFcBpdu bpdu c).withRx rx := by
  have htype : (c.withRx rx).type = c.type := rfl
  have hstate : (c.withRx rx).ctpm.state = c.ctpm.state := rfl
  unfold inRxFcBpdu
  rw [htype, hstate]
  cases c.type with
  | fabricCard => rfl
  | lineCard =>
    cases c.ctpm.state with
    | disable => rfl
    | block => simp only [wake_withRx, inUpdateLcRoot_withRx, takeTimes_withRx, txInfoBpdu_withRx,
        inUpdateChassisMember_withRx]
    | listening | learning => simp only [checkBpdu_withRx, inUpdateLcRoot_withRx, ← withRx_ite,
        inUpdateChassisMember_withRx]
    | forwarding => simp only [inUpdateChassisMember_withRx, txInfoBpdu_withRx,
        restartTimer_withRx, forgetRootLc_withRx, enterBlock_withRx, helloFromFc_withRx,
        ← withRx_ite]

theorem inRxLcBpdu_withRx : inRxLcBpdu bpdu (c.withRx rx) = (inRxLcBpdu bpdu c).withRx rx := by
  have htype : (c.withRx rx).type = c.type := rfl
  have hstate : (c.withRx rx).ctpm.state = c.ctpm.state := rfl
  unfold inRxLcBpdu
  rw [htype, hstate]
  cases c.type with
  | lineCard => rfl
  | fabricCard =>
    cases c.ctpm.state with
    | disable => rfl
    | block => simp only [wake_withRx, inUpdateFcDesignated_withRx, takeTimes_withRx,
        inUpdateChassisMember_withRx]
    | listening | learning => simp only [checkBpdu_withRx, inUpdateFcDesignated_withRx,
        ← withRx_ite, inUpdateChassisMember_withRx]
    | forwarding =>
      simp only [inUpdateChassisMember_withRx, txInfoBpdu_withRx, enterBlock_withRx,
        helloFromLc_withRx, fcChange_withRx, withRx_ite]

theorem dispatchBpdu_withRx :
    dispatchBpdu bpdu (c.withRx rx) = (dispatchBpdu bpdu c).withRx rx := by
  simp only [dispatchBpdu, inRxFcBpdu_withRx, inRxLcBpdu_withRx, withRx_ite]

end Receive

section Events

variable (c : Chassis) (rx : List RxHeader)

theorem signalExit_withRx : signalExit (c.withRx rx) = (signalExit c).withRx rx := by
  simp only [signalExit, enterBlock_withRx, withRx_ite]
  rfl

theorem ctpmOneSecond_withRx : ctpmOneSecond (c.withRx rx) =
    if c.ctpm.adminState ≠ .enabled then (ctpmOneSecond c).withRx rx else ctpmOneSecond c := by
  by_cases h : c.ctpm.adminState ≠ .enabled
  · rw [if_pos h, ctpmOneSecond, if_pos h, ctpmOneSecond, if_pos h]
  · rw [if_neg h, ctpmOneSecond, if_neg h, ctpmOneSecond, if_neg h]
    rfl

end Events

end Chassisd
