import Chassisd.Bpdu.Branches
import Chassisd.Library.Runs

namespace Chassisd

structure SameCard (c c' : Chassis) : Prop where
  number : c'.usCardNumber = c.usCardNumber
  type : c'.type = c.type
  brId : c'.ctpm.brId = c.ctpm.brId
  admin : c'.ctpm.adminState = c.ctpm.adminState

namespace SameCard

theorem refl (c : Chassis) : SameCard c c := ⟨rfl, rfl, rfl, rfl⟩

theorem trans {a b c : Chassis} (hab : SameCard a b) (hbc : SameCard b c) : SameCard a c :=
  ⟨hbc.number.trans hab.number, hbc.type.trans hab.type, hbc.brId.trans hab.brId,
    hbc.admin.trans hab.admin⟩

end SameCard

theorem sameCard_inUpdateChassisMember (bpdu : RstpBpdu) (c : Chassis) :
    SameCard c (inUpdateChassisMember bpdu c) := ⟨rfl, rfl, rfl, rfl⟩

theorem sameCard_wake (c : Chassis) : SameCard c (wake c) := ⟨rfl, rfl, rfl, rfl⟩

theorem sameCard_takeTimes (bpdu : RstpBpdu) (c : Chassis) : SameCard c (takeTimes bpdu c) :=
  ⟨rfl, rfl, rfl, rfl⟩

theorem sameCard_restartTimer (c : Chassis) : SameCard c (restartTimer c) := ⟨rfl, rfl, rfl, rfl⟩

theorem sameCard_txInfoBpdu (bpduType : UInt8) (c : Chassis) :
    SameCard c (txInfoBpdu bpduType c) := ⟨rfl, rfl, rfl, rfl⟩

theorem sameCard_dropLc (old : Nat) (c : Chassis) : SameCard c (dropLc old c) :=
  ⟨rfl, rfl, rfl, rfl⟩

theorem sameCard_electLc (old i : Nat) (c : Chassis) : SameCard c (electLc old i c) :=
  ⟨rfl, rfl, rfl, rfl⟩

theorem sameCard_adopt (winsRoot winsDesigned : Bool) (bpdu : RstpBpdu) (c : Chassis) :
    SameCard c (adopt winsRoot winsDesigned bpdu c) := by
  constructor <;> simp

theorem sameCard_lcSyncToHello (bpdu : RstpBpdu) (c : Chassis) :
    SameCard c (lcSyncToHello bpdu c) := by
  refine ⟨by simp, by simp, ?_, ?_⟩
  all_goals
    unfold lcSyncToHello
    dsimp only
    split_ifs <;> rfl

theorem sameCard_forgetRootLc (c : Chassis) : SameCard c (forgetRootLc c) := by
  refine ⟨by simp, by simp, ?_, ?_⟩
  all_goals
    unfold forgetRootLc
    dsimp only
    split_ifs <;> rfl

theorem sameCard_enterBlock (c : Chassis) : SameCard c (enterBlock c) := by
  constructor <;> simp

theorem LineRx.sameCard {bpdu : RstpBpdu} {c c' : Chassis} (h : LineRx bpdu c c') :
    SameCard c c' := by
  have hmerge := sameCard_inUpdateChassisMember bpdu c
  cases h with
  | wake =>
    exact (sameCard_wake c).trans ((sameCard_adopt _ _ bpdu _).trans
      ((sameCard_takeTimes bpdu _).trans ((sameCard_txInfoBpdu _ _).trans
        (sameCard_inUpdateChassisMember bpdu _))))
  | adopt =>
    exact (sameCard_adopt _ _ bpdu c).trans (sameCard_inUpdateChassisMember bpdu _)
  | agree => exact hmerge
  | lcChange =>
    exact hmerge.trans ((sameCard_txInfoBpdu _ _).trans ((sameCard_restartTimer _).trans
      ((sameCard_forgetRootLc _).trans (sameCard_enterBlock _))))
  | sync => exact hmerge.trans ((sameCard_restartTimer _).trans (sameCard_lcSyncToHello bpdu _))
  | relay => exact hmerge.trans ((sameCard_restartTimer _).trans (sameCard_txInfoBpdu _ _))
  | reply => exact hmerge.trans ((sameCard_restartTimer _).trans (sameCard_txInfoBpdu _ _))
  | config => exact hmerge.trans (sameCard_txInfoBpdu _ _)
  | other => exact hmerge
  | disabled => exact .refl c

theorem FabricRx.sameCard {bpdu : RstpBpdu} {c c' : Chassis} (h : FabricRx bpdu c c') :
    SameCard c c' := by
  have hmerge := sameCard_inUpdateChassisMember bpdu c
  cases h with
  | wake =>
    exact (sameCard_wake c).trans ((sameCard_adopt _ _ bpdu _).trans
      ((sameCard_takeTimes bpdu _).trans (sameCard_inUpdateChassisMember bpdu _)))
  | adopt =>
    exact (sameCard_adopt _ _ bpdu c).trans (sameCard_inUpdateChassisMember bpdu _)
  | agree => exact hmerge
  | sync => exact hmerge.trans ((sameCard_restartTimer _).trans (sameCard_lcSyncToHello bpdu _))
  | echo => exact hmerge.trans ((sameCard_restartTimer _).trans (sameCard_txInfoBpdu _ _))
  | hear => exact hmerge.trans (sameCard_restartTimer _)
  | config => exact hmerge.trans (sameCard_txInfoBpdu _ _)
  | elect => exact hmerge.trans ((sameCard_electLc _ _ _).trans (sameCard_txInfoBpdu _ _))
  | alone => exact hmerge.trans ((sameCard_dropLc _ _).trans (sameCard_enterBlock _))
  | lcChange => exact hmerge.trans (sameCard_enterBlock _)
  | other => exact hmerge
  | disabled => exact .refl c

theorem LineRx.rxBpdu {bpdu : RstpBpdu} {c c' : Chassis} (h : LineRx bpdu c c') :
    c'.rxBpdu = c.rxBpdu := by
  cases h <;> simp

theorem FabricRx.rxBpdu {bpdu : RstpBpdu} {c c' : Chassis} (h : FabricRx bpdu c c') :
    c'.rxBpdu = c.rxBpdu := by
  cases h <;> simp

theorem Ticked.sameCard {c c' : Chassis} (h : Ticked c c') : SameCard c c' := by
  cases h with
  | alone =>
    exact (sameCard_dropLc _ c).trans ((sameCard_enterBlock _).trans (sameCard_txInfoBpdu _ _))
  | lost => exact sameCard_enterBlock c
  | _ => exact ⟨rfl, rfl, rfl, rfl⟩

theorem sameCard_signalExit (c : Chassis) : SameCard c (signalExit c) := by
  unfold signalExit
  dsimp only
  split_ifs
  · exact (sameCard_enterBlock c).trans (sameCard_txInfoBpdu _ _)
  · exact sameCard_enterBlock c

theorem sameCard_ready (rx : List RxHeader) (c : Chassis) : SameCard c (ready rx c) :=
  ⟨rfl, rfl, rfl, rfl⟩

theorem sameCard_step (e : Event) (c : Chassis) : SameCard c (step e c) := by
  have h := stepped e c
  generalize step e c = c' at h
  cases h with
  | idle => exact sameCard_ready _ c
  | tick _ h => exact (sameCard_ready _ c).trans h.sameCard
  | dropped _ rx => exact sameCard_ready rx c
  | line _ _ h => exact (sameCard_ready _ c).trans h.sameCard
  | fabric _ _ h => exact (sameCard_ready _ c).trans h.sameCard
  | exit => exact (sameCard_ready _ c).trans (sameCard_signalExit _)

theorem sameCard_run (es : List Event) (c : Chassis) : SameCard c (Runs.run step c es) :=
  Runs.invariant (I := SameCard c) (fun c' e h => h.trans (sameCard_step e c')) (.refl c) es

section StartUp

def cardTypeOf (usNumber : Nat) : CardType := if usNumber < 33 then .lineCard else .fabricCard

variable (usNumber : Nat) (type : CardType) (topology : CtpMode) (hwaddr : Vector UInt8 6)

theorem startUp_ctpm :
    (startUp usNumber type topology hwaddr).ctpm =
      ((bpduInitial usNumber topology hwaddr).blocked usNumber).blocked usNumber := by
  unfold startUp
  dsimp only
  split_ifs <;> simp [writePorts]

@[simp] theorem startUp_frame :
    (startUp usNumber type topology hwaddr).usCardNumber = usNumber ∧
    (startUp usNumber type topology hwaddr).type = type ∧
    (startUp usNumber type topology hwaddr).ctpm.state = .block ∧
    (startUp usNumber type topology hwaddr).ctpm.timeSinceTopoChange = 0 ∧
    (startUp usNumber type topology hwaddr).ctpm.brId =
      ⟨htons (UInt16.ofNat (4096 + usNumber)), hwaddr⟩ ∧
    (startUp usNumber type topology hwaddr).ctpm.adminState =
      (if usNumber % 2 = 1 then topology else .disabled) := by
  refine ⟨?_, ?_, ?_, ?_, ?_, ?_⟩
  · unfold startUp; dsimp only; split_ifs <;> simp [writePorts]
  · unfold startUp; dsimp only; split_ifs <;> simp [writePorts]
  all_goals rw [startUp_ctpm]; simp [bpduInitial]

def configFrame (usNumber : Nat) : RstpBpdu :=
  let c := startUp usNumber (cardTypeOf usNumber) .enabled (Vector.replicate 6 0)
  infoBpdu usNumber c.ctpm c.ctpm.chassisExist bpduTypeConfig

def replyFrame (line fabric : Nat) : RstpBpdu :=
  (step (.rx (configFrame fabric) RstpBpdu.sizeof)
    (startUp line (cardTypeOf line) .enabled (Vector.replicate 6 0))).sent.headD default

end StartUp

end Chassisd
