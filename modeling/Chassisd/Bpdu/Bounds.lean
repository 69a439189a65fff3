import Chassisd.Bpdu.Identity

namespace Chassisd

def InBounds (touched : List Nat) : Prop := ∀ i ∈ touched, i < maximumMicroServerCardNumber

def LooksUp (bpdu : RstpBpdu) (c : Chassis) : Prop :=
  match c.ctpm.state with
  | .disable => False
  | .block => True
  | .listening | .learning => checkBpdu bpdu c ≠ 0
  | .forwarding => bpdu.bpduType = bpduTypeHello ∧
      bpdu.rootId = c.ctpm.rootPrio.rootBridge.number ∧
      bpdu.dbridgeId ≠ c.ctpm.rootPrio.designBridge.number ∧
      (c.type = .lineCard → bpdu.dbridgeId ≠ c.ctpm.rootLCPortId)

def IdsInTable (bpdu : RstpBpdu) (c : Chassis) : Prop :=
  (c.ctpm.state ≠ .forwarding → bpdu.rootId ≤ 48) ∧ bpdu.dbridgeId ≤ 48

-- An FC_CHANGE that names a forwarding fabric card: the bridge byte is itself an index.
def IndexesBridge (bpdu : RstpBpdu) (c : Chassis) : Prop :=
  c.type = .fabricCard ∧ c.ctpm.state = .forwarding ∧ bpdu.bpduType = bpduTypeFcChange ∧
    bpdu.rootId = c.ctpm.brId.number

-- An LC_CHANGE at a forwarding line card, once it is merged and handed on: the recorded card is
-- aged out if the entry behind the own one is alive.
def Forgets (bpdu : RstpBpdu) (c : Chassis) : Prop :=
  c.type = .lineCard ∧ c.ctpm.state = .forwarding ∧ bpdu.bpduType = bpduTypeLcChange ∧
    c.ctpm.rootLCPortId ≠ c.ctpm.brId.number ∧
    1 ≤ ((txInfoBpdu bpduTypeLcChange (inUpdateChassisMember bpdu c)).ctpm.chassisExist.entry
      c.ctpm.brId.number).age

def ElectsOnTick (c : Chassis) : Prop :=
  c.ctpm.adminState = .enabled ∧ c.ctpm.state = .forwarding ∧
    c.usCardNumber = c.ctpm.rootPortId ∧ 15 < c.ctpm.timeSinceTopoChange

def IdsInRange (c : Chassis) : Event → Prop
  | .tick => ElectsOnTick c → c.ctpm.rootLCPortId < 48
  | .rx bpdu len => Handled bpdu len c →
      (LooksUp bpdu c → IdsInTable bpdu c) ∧ (IndexesBridge bpdu c → bpdu.dbridgeId < 48) ∧
        (Forgets bpdu c → c.ctpm.rootLCPortId < 48)
  | .exit => True

structure Indexed (c : Chassis) : Prop where
  number : c.usCardNumber < 48
  own : c.ctpm.brId.number < 48

theorem Indexed.of_same {c c' : Chassis} (h : Indexed c) (hsame : SameCard c c') : Indexed c' :=
  ⟨hsame.number ▸ h.number, hsame.brId ▸ h.own⟩

@[simp] theorem inBounds_nil : InBounds [] := by simp [InBounds]

@[simp] theorem inBounds_append {touched touched' : List Nat} :
    InBounds (touched ++ touched') ↔ InBounds touched ∧ InBounds touched' :=
  List.forall_mem_append

@[simp] theorem inBounds_cons {i : Nat} {touched : List Nat} :
    InBounds (i :: touched) ↔ i < 48 ∧ InBounds touched :=
  List.forall_mem_cons

theorem inBounds_touchId {id : Nat} {touched : List Nat} :
    InBounds (touchId id touched) ↔ InBounds touched ∧ id ≤ 48 := by
  unfold touchId
  split_ifs with hid
  · rw [inBounds_append, inBounds_cons]
    exact and_congr_right fun _ => ⟨fun h => by omega, fun h => ⟨by omega, inBounds_nil⟩⟩
  · exact ⟨fun h => ⟨h, by omega⟩, And.left⟩

section Reception

variable {bpdu : RstpBpdu} {c c' : Chassis} {wr wd : Bool}

theorem inBounds_adopt (ht : c.touched = []) :
    InBounds (adopt wr wd bpdu c).touched ↔ bpdu.rootId ≤ 48 ∧ bpdu.dbridgeId ≤ 48 := by
  rw [(adopt_frame bpdu c wr wd).2.2.2.2.2.1, ht, inBounds_touchId, inBounds_touchId]
  simp

theorem idsInTable_iff (hs : c.ctpm.state ≠ .forwarding) :
    IdsInTable bpdu c ↔ bpdu.rootId ≤ 48 ∧ bpdu.dbridgeId ≤ 48 :=
  ⟨fun h => ⟨h.1 hs, h.2⟩, fun h => ⟨fun _ => h.1, h.2⟩⟩

theorem looksUp_of_waiting (hs : c.ctpm.state = .listening ∨ c.ctpm.state = .learning) :
    LooksUp bpdu c ↔ checkBpdu bpdu c ≠ 0 := by
  rcases hs with hs | hs <;> simp only [LooksUp, hs]

theorem looksUp_of_forwarding (hs : c.ctpm.state = .forwarding) :
    LooksUp bpdu c ↔ bpdu.bpduType = bpduTypeHello ∧
      bpdu.rootId = c.ctpm.rootPrio.rootBridge.number ∧
      bpdu.dbridgeId ≠ c.ctpm.rootPrio.designBridge.number ∧
      (c.type = .lineCard → bpdu.dbridgeId ≠ c.ctpm.rootLCPortId) := by
  simp only [LooksUp, hs]

theorem inBounds_sync (ht : c.touched = []) :
    InBounds (lcSyncToHello bpdu c).touched ↔
      (bpdu.dbridgeId ≠ c.ctpm.rootPrio.designBridge.number → bpdu.dbridgeId ≤ 48) := by
  rw [(lcSyncToHello_frame bpdu c).2.2.2.2.2, ht]
  split_ifs with h
  · simp only [List.nil_append, inBounds_cons, inBounds_nil, and_true]
    exact ⟨fun hlt _ => by omega, fun hle => by have := hle h.2; omega⟩
  · refine ⟨fun _ hne => ?_, fun _ => inBounds_nil⟩
    by_contra hlt
    exact h ⟨by omega, hne⟩

theorem not_forgets (hs : c.ctpm.state ≠ .forwarding) : ¬ Forgets bpdu c := fun h => hs h.2.1

theorem not_forgets_of_type (h : bpdu.bpduType ≠ bpduTypeLcChange) : ¬ Forgets bpdu c :=
  fun hforgets => h hforgets.2.2.1

theorem not_indexesBridge (hs : c.ctpm.state ≠ .forwarding) : ¬ IndexesBridge bpdu c :=
  fun h => hs h.2.1

theorem not_indexesBridge_of_type (h : bpdu.bpduType ≠ bpduTypeFcChange) :
    ¬ IndexesBridge bpdu c := fun hindexes => h hindexes.2.2.1

theorem not_looksUp (hs : c.ctpm.state = .forwarding) (h : bpdu.bpduType ≠ bpduTypeHello) :
    ¬ LooksUp bpdu c := fun hlooks => h ((looksUp_of_forwarding hs).mp hlooks).1

theorem inBounds_nil_iff {P Q : Prop} (hlooks : ¬ LooksUp bpdu c) (h : ¬ P) :
    InBounds [] ↔ (LooksUp bpdu c → IdsInTable bpdu c) ∧ (P → Q) :=
  iff_of_true inBounds_nil ⟨fun hl => absurd hl hlooks, fun hp => absurd hp h⟩

theorem idsInTable_of_forwarding (hs : c.ctpm.state = .forwarding) :
    IdsInTable bpdu c ↔ bpdu.dbridgeId ≤ 48 :=
  ⟨And.right, fun h => ⟨fun hne => absurd hs hne, h⟩⟩

theorem LineRx.inBounds_iff (h : LineRx bpdu c c') (htype : c.type = .lineCard)
    (ht : c.touched = []) (hown : c.ctpm.brId.number < 48) :
    InBounds c'.touched ↔ (LooksUp bpdu c → IdsInTable bpdu c) ∧
      (Forgets bpdu c → c.ctpm.rootLCPortId < 48) := by
  cases h with
  | wake hs =>
    have hne : c.ctpm.state ≠ .forwarding := by simp [hs]
    have hlooks : LooksUp bpdu c := by simp only [LooksUp, hs]
    simp only [inUpdateChassisMember_frame, txInfoBpdu_frame, takeTimes_frame]
    rw [inBounds_adopt (show (Chassisd.wake c).touched = [] from ht), idsInTable_iff hne]
    simp [hlooks, not_forgets hne]
  | adopt hs hcheck =>
    have hne := waiting_ne_forwarding hs
    simp only [inUpdateChassisMember_frame]
    rw [inBounds_adopt ht, idsInTable_iff hne, looksUp_of_waiting hs]
    simp [hcheck, not_forgets hne]
  | agree hs hcheck =>
    simp only [inUpdateChassisMember_frame, ht]
    exact inBounds_nil_iff (fun h => (looksUp_of_waiting hs).mp h hcheck)
      (not_forgets (waiting_ne_forwarding hs))
  | lcChange hs htype' =>
    have hlooks : ¬ LooksUp bpdu c := not_looksUp hs (by rw [htype']; decide)
    simp only [enterBlock_frame, forgetRootLc_touched, restartTimer_frame, txInfoBpdu_frame,
      inUpdateChassisMember_frame, ht, List.nil_append, hlooks, false_implies, true_and]
    simp only [Forgets, htype, hs, htype', txInfoBpdu_frame, inUpdateChassisMember_frame, true_and]
    split_ifs with hroot hage
    · simp [hroot]
    · simp [hroot, hown, hage]
    · simp [hroot, hown, hage]
  | sync hs htype' hroot hd =>
    have hforget : ¬ Forgets bpdu c := not_forgets_of_type (by rw [htype']; decide)
    have hlooks : LooksUp bpdu c ↔ bpdu.dbridgeId ≠ c.ctpm.rootPrio.designBridge.number := by
      simp [looksUp_of_forwarding hs, htype', hroot, hd]
    rw [inBounds_sync (c := restartTimer (inUpdateChassisMember bpdu c)) ht, hlooks,
      idsInTable_of_forwarding hs]
    exact (and_iff_left fun h => absurd h hforget).symm
  | relay hs htype' hroot hd hown' hslot =>
    simp only [txInfoBpdu_frame, restartTimer_frame, inUpdateChassisMember_frame, ht]
    exact inBounds_nil_iff (fun h => ((looksUp_of_forwarding hs).mp h).2.2.2 htype hd)
      (not_forgets_of_type (by rw [htype']; decide))
  | reply hs htype' hd =>
    simp only [txInfoBpdu_frame, restartTimer_frame, inUpdateChassisMember_frame, ht]
    refine inBounds_nil_iff (fun h => ?_) (not_forgets_of_type (by rw [htype']; decide))
    obtain ⟨-, hroot, -, hne⟩ := (looksUp_of_forwarding hs).mp h
    exact hne htype (hd hroot).1
  | config hs htype' =>
    simp only [txInfoBpdu_frame, inUpdateChassisMember_frame, ht]
    exact inBounds_nil_iff (not_looksUp hs (by rw [htype']; decide))
      (not_forgets_of_type (by rw [htype']; decide))
  | other hs htype' =>
    simp only [inUpdateChassisMember_frame, ht]
    exact inBounds_nil_iff (not_looksUp hs fun hty => htype' (by simp [hty]))
      (not_forgets_of_type fun hty => htype' (by simp [hty]))
  | disabled hs =>
    have hne : c.ctpm.state ≠ .forwarding := by simp [hs]
    rw [ht]
    exact inBounds_nil_iff (fun h => by simp only [LooksUp, hs] at h) (not_forgets hne)

theorem FabricRx.inBounds_iff (h : FabricRx bpdu c c') (htype : c.type = .fabricCard)
    (ht : c.touched = []) :
    InBounds c'.touched ↔ (LooksUp bpdu c → IdsInTable bpdu c) ∧
      (IndexesBridge bpdu c → bpdu.dbridgeId < 48) := by
  have hline : c.type ≠ .lineCard := by simp [htype]
  cases h with
  | wake hs =>
    have hne : c.ctpm.state ≠ .forwarding := by simp [hs]
    have hlooks : LooksUp bpdu c := by simp only [LooksUp, hs]
    simp only [inUpdateChassisMember_frame, takeTimes_frame]
    rw [inBounds_adopt (show (Chassisd.wake c).touched = [] from ht), idsInTable_iff hne]
    simp [hlooks, not_indexesBridge hne]
  | adopt hs hcheck =>
    have hne := waiting_ne_forwarding hs
    simp only [inUpdateChassisMember_frame]
    rw [inBounds_adopt ht, idsInTable_iff hne, looksUp_of_waiting hs]
    simp [hcheck, not_indexesBridge hne]
  | agree hs hcheck =>
    simp only [inUpdateChassisMember_frame, ht]
    exact inBounds_nil_iff (fun h => (looksUp_of_waiting hs).mp h hcheck)
      (not_indexesBridge (waiting_ne_forwarding hs))
  | sync hs htype' hroot hd =>
    have hindexes : ¬ IndexesBridge bpdu c := not_indexesBridge_of_type (by rw [htype']; decide)
    have hlooks : LooksUp bpdu c ↔ bpdu.dbridgeId ≠ c.ctpm.rootPrio.designBridge.number := by
      simp [looksUp_of_forwarding hs, htype', hroot, hline]
    rw [inBounds_sync (c := restartTimer (inUpdateChassisMember bpdu c)) ht, hlooks,
      idsInTable_of_forwarding hs]
    exact (and_iff_left fun h => absurd h hindexes).symm
  | echo hs htype' hroot hd =>
    simp only [txInfoBpdu_frame, restartTimer_frame, inUpdateChassisMember_frame, ht]
    exact inBounds_nil_iff (fun h => ((looksUp_of_forwarding hs).mp h).2.2.1 hd)
      (not_indexesBridge_of_type (by rw [htype']; decide))
  | hear hs htype' hd =>
    simp only [restartTimer_frame, inUpdateChassisMember_frame, ht]
    refine inBounds_nil_iff (fun h => ?_) (not_indexesBridge_of_type (by rw [htype']; decide))
    obtain ⟨-, hroot, hne, -⟩ := (looksUp_of_forwarding hs).mp h
    rw [if_neg hne] at hd
    exact hd hroot
  | config hs htype' =>
    simp only [txInfoBpdu_frame, inUpdateChassisMember_frame, ht]
    exact inBounds_nil_iff (not_looksUp hs (by rw [htype']; decide))
      (not_indexesBridge_of_type (by rw [htype']; decide))
  | elect hs htype' hroot i hheir =>
    have hlooks : ¬ LooksUp bpdu c := not_looksUp hs (by rw [htype']; decide)
    have hindexes : IndexesBridge bpdu c := ⟨htype, hs, htype', hroot⟩
    simp only [txInfoBpdu_frame, electLc_frame, inUpdateChassisMember_frame, ht]
    simp [hlooks, hindexes]
  | alone hs htype' hroot =>
    have hlooks : ¬ LooksUp bpdu c := not_looksUp hs (by rw [htype']; decide)
    have hindexes : IndexesBridge bpdu c := ⟨htype, hs, htype', hroot⟩
    simp only [enterBlock_frame, dropLc_frame, inUpdateChassisMember_frame, ht]
    simp [hlooks, hindexes]
  | lcChange hs htype' hroot =>
    simp only [enterBlock_frame, inUpdateChassisMember_frame, ht]
    exact inBounds_nil_iff (not_looksUp hs (by rw [htype']; decide))
      (not_indexesBridge_of_type (by rw [htype']; decide))
  | other hs htype' hroot =>
    simp only [inUpdateChassisMember_frame, ht]
    exact inBounds_nil_iff (not_looksUp hs fun hty => htype' (by simp [hty]))
      fun h => hroot h.2.2.1 h.2.2.2
  | disabled hs =>
    have hne : c.ctpm.state ≠ .forwarding := by simp [hs]
    rw [ht]
    exact inBounds_nil_iff (fun h => by simp only [LooksUp, hs] at h) (not_indexesBridge hne)

theorem Ticked.inBounds_iff (h : Ticked c c') (hadmin : c.ctpm.adminState = .enabled)
    (ht : c.touched = []) :
    InBounds c'.touched ↔ (ElectsOnTick c → c.ctpm.rootLCPortId < 48) := by
  have hidle (hn : ¬ ElectsOnTick c) (htouched : c'.touched = []) :
      InBounds c'.touched ↔ (ElectsOnTick c → c.ctpm.rootLCPortId < 48) := by
    rw [htouched]
    exact iff_of_true inBounds_nil fun h => absurd h hn
  have hstate (s : ChassisCtpmState) (hs : c.ctpm.state = s) (hne : s ≠ .forwarding) :
      ¬ ElectsOnTick c := fun h => hne (hs ▸ h.2.1)
  cases h with
  | elect hs hroot htime i hheir =>
    have helects : ElectsOnTick c := ⟨hadmin, hs, hroot, htime⟩
    simp only [txInfoBpdu_frame, electLc_frame, ht]
    simp [helects]
  | alone hs hroot htime =>
    have helects : ElectsOnTick c := ⟨hadmin, hs, hroot, htime⟩
    simp only [txInfoBpdu_frame, enterBlock_frame, dropLc_frame, ht]
    simp [helects]
  | lost hs hroot =>
    exact hidle (fun h => hroot h.2.2.1) (by simp only [enterBlock_frame, ht])
  | wait hs hroot => exact hidle (fun h => hroot h.2.2.1) ht
  | hello hs _ htime => exact hidle (fun h => absurd h.2.2.2 (Nat.not_lt.mpr htime)) ht
  | config hs | blockTimeout hs | blockLine hs => exact hidle (hstate _ hs (by decide)) ht
  | learn hs | listenFabric hs | listenLine hs => exact hidle (hstate _ hs (by decide)) ht
  | learning hs | forward hs => exact hidle (hstate _ hs (by decide)) ht
  | disabled hs => exact hidle (hstate _ hs (by decide)) ht

theorem signalExit_touched : (signalExit c).touched = c.touched := by
  unfold signalExit
  dsimp only
  split_ifs <;> simp only [txInfoBpdu_frame, enterBlock_frame]

theorem step_inBounds_iff {e : Event} (hi : Indexed c) :
    InBounds (step e c).touched ↔ IdsInRange c e := by
  have h := stepped e c
  generalize step e c = c' at h
  cases h with
  | idle hadmin =>
    exact iff_of_true (by simp) fun h => absurd h.1 hadmin
  | tick hadmin h => exact h.inBounds_iff hadmin rfl
  | dropped hn => exact iff_of_true (by simp) fun h => absurd h hn
  | line hh htype h =>
    have hindexes (bpdu : RstpBpdu) : ¬ IndexesBridge bpdu c := fun h =>
      absurd (htype.symm.trans h.1) (by decide)
    refine (h.inBounds_iff htype rfl hi.own).trans ⟨fun h _ => ⟨h.1, ?_, h.2⟩, fun h => ?_⟩
    · exact fun h => absurd h (hindexes _)
    · exact ⟨(h hh).1, (h hh).2.2⟩
  | fabric hh htype h =>
    have hforget (bpdu : RstpBpdu) : ¬ Forgets bpdu c := fun h =>
      absurd (htype.symm.trans h.1) (by decide)
    refine (h.inBounds_iff htype rfl).trans ⟨fun h _ => ⟨h.1, h.2, ?_⟩, fun h => ?_⟩
    · exact fun h => absurd h (hforget _)
    · exact ⟨(h hh).1, (h hh).2.1⟩
  | exit => exact iff_of_true (by rw [signalExit_touched]; simp) trivial

end Reception

theorem indexed_startUp (k : Nat) (hk : k < 48) (type : CardType) (topology : CtpMode)
    (hwaddr : Vector UInt8 6) : Indexed (startUp k type topology hwaddr) := by
  refine ⟨by simpa using hk, ?_⟩
  rw [(startUp_frame k type topology hwaddr).2.2.2.2.1, number_initial k (by omega)]
  exact hk

theorem index_safety (k : Nat) (hodd : k % 2 = 1) (hk : k ≤ 48) (type : CardType)
    (topology : CtpMode) (hwaddr : Vector UInt8 6) (es : List Event) :
    Runs.Along step (fun c e => InBounds (step e c).touched) (startUp k type topology hwaddr) es ↔
      Runs.Along step IdsInRange (startUp k type topology hwaddr) es :=
  Runs.along_iff (I := Indexed) (fun c e hi _ => hi.of_same (sameCard_step e c))
    (fun _ _ hi => step_inBounds_iff hi) (indexed_startUp k (by omega) type topology hwaddr)

theorem index_safety_config :
    Runs.Along step (fun c e => InBounds (step e c).touched)
      (startUp 1 .lineCard .enabled (Vector.replicate 6 0))
      [.rx (configFrame 33) RstpBpdu.sizeof, .tick] := by
  have hids : (configFrame 33).rootId ≤ 48 ∧ (configFrame 33).dbridgeId ≤ 48 := by
    decide +kernel
  have hblock : (startUp 1 .lineCard .enabled (Vector.replicate 6 0)).ctpm.state = .block := by
    decide +kernel
  have hlistening : (step (.rx (configFrame 33) RstpBpdu.sizeof)
      (startUp 1 .lineCard .enabled (Vector.replicate 6 0))).ctpm.state = .listening := by
    decide +kernel
  refine (index_safety 1 (by decide) (by decide) .lineCard .enabled (Vector.replicate 6 0)
    _).mpr ⟨fun _ => ⟨fun _ => ⟨fun _ => hids.1, hids.2⟩, fun h => ?_, fun h => ?_⟩,
      fun h => ?_, trivial⟩
  · exact absurd (hblock.symm.trans h.2.1) (by decide)
  · exact absurd (hblock.symm.trans h.2.1) (by decide)
  · exact absurd (hlistening.symm.trans h.2.1) (by decide)

theorem not_inBounds_of_block {c : Chassis} {bpdu : RstpBpdu} {len : Nat} (hi : Indexed c)
    (hs : c.ctpm.state = .block) (hh : Handled bpdu len c)
    (hids : 48 < bpdu.rootId ∨ 48 < bpdu.dbridgeId) :
    ¬ InBounds (step (.rx bpdu len) c).touched := by
  intro hb
  have htable := ((step_inBounds_iff hi).mp hb hh).1 (by simp only [LooksUp, hs])
  have hroot := htable.1 (by simp [hs])
  have hbridge := htable.2
  omega

theorem root_id_200_out_of_bounds :
    ¬ ∀ (k : Nat), k % 2 = 1 → k ≤ 48 → ∀ (type : CardType) (topology : CtpMode)
      (hwaddr : Vector UInt8 6) (es : List Event),
      Runs.Along step (fun c e => InBounds (step e c).touched)
        (startUp k type topology hwaddr) es := by
  intro h
  have hrun := h 1 (by decide) (by decide) .lineCard .enabled (Vector.replicate 6 0)
    [.rx ((configFrame 33).withRootByte 200) RstpBpdu.sizeof]
  refine absurd hrun.1 (not_inBounds_of_block
    (indexed_startUp 1 (by decide) .lineCard .enabled (Vector.replicate 6 0)) ?_ ?_ ?_)
  · decide +kernel
  · unfold Handled; decide +kernel
  · decide +kernel

end Chassisd
