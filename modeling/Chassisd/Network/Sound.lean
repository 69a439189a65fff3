import Chassisd.Bpdu.Coherence

namespace Chassisd

def sentTypes : List UInt8 :=
  [bpduTypeConfig, bpduTypeReply, bpduTypeLcChange, bpduTypeFcChange, bpduTypeHello]

structure SoundTable (t : ChassisExist) : Prop where
  even : ∀ i < 48, i % 2 = 1 → (t.entry i).age = 0
  id : ∀ i < 48, (t.entry i).age ≠ 0 → (t.entry i).id.number = i + 1

structure SoundFrame (m : RstpBpdu) : Prop where
  slot : 1 ≤ m.slotid ∧ m.slotid ≤ 48
  type : m.bpduType ∈ sentTypes
  root : m.rootId = 0 ∨ 33 ≤ m.rootId
  table : SoundTable m.chassisExist

structure Sound (k : Nat) (c : Chassis) : Prop where
  number : c.usCardNumber = k
  odd : k % 2 = 1
  range : k ≤ 48
  type : c.type = cardTypeOf k
  own : c.ctpm.brId.number = k
  root : RootCoherent c.ctpm
  fabric : c.ctpm.rootPortId = 0 ∨ 33 ≤ c.ctpm.rootPortId
  line : k < 33 → LcCoherent c.ctpm
  table : SoundTable c.ctpm.chassisExist
  ownId : (c.ctpm.chassisExist.entry (k - 1)).id.number = k
  sent : ∀ m ∈ c.sent, SoundFrame m ∧ m.slotid = k

section Tables

variable {k : Nat} {t f : ChassisExist}

theorem soundTable_clear (hk : 1 ≤ k ∧ k ≤ 48) (hodd : k % 2 = 1) {brId : BridgeId}
    (hid : brId.number = k) : SoundTable (clearChassisMember k brId) := by
  constructor
  · intro i _ hi
    rw [entry_clearChassisMember k brId i hk.1 hk.2, if_neg (by omega)]
    rfl
  · intro i _ hage
    rw [entry_clearChassisMember k brId i hk.1 hk.2] at hage ⊢
    split_ifs at hage ⊢ with hown
    · exact hid.trans hown.symm
    · exact absurd rfl hage

theorem SoundTable.setAge_zero (h : SoundTable t) (old : Nat) :
    SoundTable (t.setAge old 0) := by
  constructor
  · intro i hi hodd
    rw [ChassisExist.entry_setAge]
    split_ifs
    · rfl
    · exact h.even i hi hodd
  · intro i hi hage
    rw [ChassisExist.entry_setAge] at hage ⊢
    split_ifs at hage ⊢ with hold
    · exact absurd rfl hage
    · exact h.id i hi hage

theorem SoundTable.dec (h : SoundTable t) (hodd : k % 2 = 1)
    (hid : (t.entry (k - 1)).id.number = k) : SoundTable (decChassisMember k t) := by
  constructor
  · intro i hi hi'
    rw [entry_decChassisMember k t i hi, decEntry]
    have h0 := h.even i hi hi'
    rw [if_neg (by omega), h0, if_neg (by decide)]
  · intro i hi hage
    rw [entry_decChassisMember k t i hi, decEntry] at hage ⊢
    by_cases hown : i + 1 = k
    · dsimp only
      rw [show i = k - 1 by omega, hid]
      omega
    · rw [if_neg hown] at hage
      refine h.id i hi fun h0 => hage ?_
      rw [h0, if_neg (by decide)]

theorem not_spilled (hf : SoundTable f) {i : Nat} (hi : i < 48) (heven : i % 2 = 0) :
    spilled k f t i = false := by
  cases i with
  | zero => rfl
  | succ i =>
    have h0 := hf.even i (by omega) (by omega)
    rw [spilled, copied_eq, h0]
    simp

theorem entry_update_even (hf : SoundTable f) {i : Nat} (hi : i < 48) (heven : i % 2 = 0) :
    (updateChassisMember k f t).entry i =
      if i + 1 ≠ k ∧ 1 ≤ (f.entry i).age ∧ (t.entry i).age < (f.entry i).age then f.entry i
      else t.entry i := by
  rw [entry_updateChassisMember k f t i hi, mergedEntry, copied_eq, not_spilled hf hi heven]
  by_cases hc : i + 1 ≠ k ∧ 1 ≤ (f.entry i).age ∧ (t.entry i).age < (f.entry i).age
  · simp [hc, hi]
  · simp [hc, hi]

theorem age_update_odd (ht : SoundTable t) (hf : SoundTable f) {i : Nat} (hi : i < 48)
    (hodd : i % 2 = 1) : ((updateChassisMember k f t).entry i).age = 0 := by
  rcases age_updateChassisMember k f t i hi with h | h
  · rw [h, ht.even i hi hodd]
  · rw [h, hf.even i hi hodd]

theorem SoundTable.update (ht : SoundTable t) (hf : SoundTable f) :
    SoundTable (updateChassisMember k f t) := by
  constructor
  · intro i hi hodd
    exact age_update_odd ht hf hi hodd
  · intro i hi hage
    by_cases hodd : i % 2 = 1
    · exact absurd (age_update_odd ht hf hi hodd) hage
    · rw [entry_update_even hf hi (by omega)] at hage ⊢
      split_ifs at hage ⊢
      · exact hf.id i hi hage
      · exact ht.id i hi hage

theorem id_update_own (hf : SoundTable f) (hk : 1 ≤ k ∧ k ≤ 48) (hodd : k % 2 = 1) :
    ((updateChassisMember k f t).entry (k - 1)).id = (t.entry (k - 1)).id := by
  rw [entry_update_even hf (by omega) (by omega), if_neg (by omega)]

end Tables

theorem sound_enterBlock {k : Nat} {c : Chassis} (hnumber : c.usCardNumber = k)
    (hodd : k % 2 = 1) (hrange : k ≤ 48) (htype : c.type = cardTypeOf k)
    (hown : c.ctpm.brId.number = k) : Sound k (quiet (enterBlock c)) := by
  have hctpm := (enterBlock_frame c).2.2.1
  have hco : Coherent (c.ctpm.blocked c.usCardNumber) :=
    coherent_blocked (hown.trans hnumber.symm)
  have hpos : 1 ≤ k ∧ k ≤ 48 := ⟨by omega, hrange⟩
  refine ⟨?_, hodd, hrange, ?_, ?_, ?_, ?_, ?_, ?_, ?_, by simp [quiet]⟩
  · simp [quiet, hnumber]
  · simp [quiet, htype]
  · simp [quiet, hown]
  · simp only [quiet, hctpm]; exact hco.1
  · simp only [quiet, hctpm, hnumber]
    by_cases hl : k ≤ 32
    · rw [blocked_of_line _ ⟨hpos.1, hl⟩]; exact .inl rfl
    · rw [blocked_of_fabric _ (by omega)]
      exact .inr (by simp only [clearDesignedLc]; omega)
  · simp only [quiet, hctpm]; exact fun _ => hco.2
  · simp only [quiet, enterBlock_frame, blocked_frame, hnumber]
    exact soundTable_clear hpos hodd hown
  · simp only [quiet, enterBlock_frame, blocked_frame, hnumber]
    rw [entry_clearChassisMember _ _ _ hpos.1 hpos.2, if_pos (by omega)]
    exact hown

namespace Sound

variable {k : Nat} {c c' : Chassis} {m : RstpBpdu}

theorem pos (h : Sound k c) : 1 ≤ k ∧ k ≤ 48 := by
  have := h.odd
  exact ⟨by omega, h.range⟩

theorem of_table (h : Sound k c) (hsame : SameCard c c')
    (hroot : c'.ctpm.rootPortId = c.ctpm.rootPortId)
    (hlc : c'.ctpm.rootLCPortId = c.ctpm.rootLCPortId) (hprio : c'.ctpm.rootPrio = c.ctpm.rootPrio)
    (ht : SoundTable c'.ctpm.chassisExist)
    (hid : (c'.ctpm.chassisExist.entry (k - 1)).id = (c.ctpm.chassisExist.entry (k - 1)).id)
    (hsent : c'.sent = c.sent) : Sound k c' := by
  refine ⟨hsame.number.trans h.number, h.odd, h.range, hsame.type.trans h.type, ?_, ?_, ?_, ?_,
    ht, ?_, ?_⟩
  · rw [hsame.brId]; exact h.own
  · unfold RootCoherent; rw [hroot, hprio]; exact h.root
  · rw [hroot]; exact h.fabric
  · unfold LcCoherent; rw [hlc, hprio]; exact h.line
  · rw [hid]; exact h.ownId
  · rw [hsent]; exact h.sent

theorem ready (h : Sound k c) (rx : List RxHeader) : Sound k (ready rx c) :=
  ⟨h.number, h.odd, h.range, h.type, h.own, h.root, h.fabric, h.line, h.table, h.ownId, by simp⟩

theorem merge (h : Sound k c) (hm : SoundTable m.chassisExist) :
    Sound k (inUpdateChassisMember m c) := by
  refine h.of_table (sameCard_inUpdateChassisMember m c) rfl rfl rfl ?_ ?_ rfl
  · exact h.table.update hm
  · simp only [inUpdateChassisMember_frame, h.number]
    rw [id_update_own hm h.pos h.odd]

theorem restart (h : Sound k c) : Sound k (restartTimer c) :=
  h.of_table (sameCard_restartTimer c) rfl rfl rfl h.table rfl rfl

theorem times (h : Sound k c) (m : RstpBpdu) : Sound k (takeTimes m c) :=
  h.of_table (sameCard_takeTimes m c) rfl rfl rfl h.table rfl rfl

theorem wake (h : Sound k c) : Sound k (wake c) :=
  h.of_table (sameCard_wake c) rfl rfl rfl h.table rfl rfl

theorem timer (h : Sound k c) (n : Nat) : Sound k { c with ctpm.timeSinceTopoChange := n } :=
  h.of_table ⟨rfl, rfl, rfl, rfl⟩ rfl rfl rfl h.table rfl rfl

theorem id_setAge (t : ChassisExist) (old i : Nat) :
    ((t.setAge old 0).entry i).id = (t.entry i).id := by
  rw [ChassisExist.entry_setAge]
  split_ifs with h
  · rw [h.1]
  · rfl

theorem drop (h : Sound k c) (old : Nat) : Sound k (dropLc old c) :=
  h.of_table (sameCard_dropLc old c) rfl rfl rfl (h.table.setAge_zero old) (id_setAge _ _ _) rfl

theorem forget (h : Sound k c) : Sound k (forgetRootLc c) := by
  unfold forgetRootLc
  dsimp only
  split_ifs
  · exact h.of_table ⟨rfl, rfl, rfl, rfl⟩ rfl rfl rfl (h.table.setAge_zero _) (id_setAge _ _ _) rfl
  · exact h.of_table ⟨rfl, rfl, rfl, rfl⟩ rfl rfl rfl h.table rfl rfl
  · exact h

theorem frame (h : Sound k c) {bpduType : UInt8} (htype : bpduType ∈ sentTypes) :
    SoundFrame (infoBpdu c.usCardNumber c.ctpm
        (decChassisMember c.usCardNumber c.ctpm.chassisExist) bpduType) ∧
      (infoBpdu c.usCardNumber c.ctpm
        (decChassisMember c.usCardNumber c.ctpm.chassisExist) bpduType).slotid = k := by
  have hpos := h.pos
  have hslot := infoBpdu_slotid c.usCardNumber c.ctpm
    (decChassisMember c.usCardNumber c.ctpm.chassisExist) bpduType (by rw [h.number]; omega)
  rw [h.number] at hslot ⊢
  refine ⟨⟨by rw [hslot]; exact hpos, htype, ?_, ?_⟩, hslot⟩
  · rw [infoBpdu_rootId, ← h.root.1]; exact h.fabric
  · exact h.table.dec h.odd h.ownId

theorem tx (h : Sound k c) {bpduType : UInt8} (htype : bpduType ∈ sentTypes) :
    Sound k (txInfoBpdu bpduType c) := by
  have hframe := h.frame htype
  refine ⟨h.number, h.odd, h.range, h.type, h.own, h.root, h.fabric, h.line, ?_, ?_, ?_⟩
  · exact hframe.1.table
  · have hpos := h.pos
    simp only [txInfoBpdu_frame]
    rw [entry_decChassisMember _ _ _ (by omega)]
    exact h.ownId
  · intro m hm
    rcases List.mem_append.mp hm with hm | hm
    · exact h.sent m hm
    · rw [List.mem_singleton.mp hm]; exact hframe

theorem block (h : Sound k c) : Sound k (enterBlock c) := by
  have hb := sound_enterBlock h.number h.odd h.range h.type h.own
  exact ⟨hb.number, hb.odd, hb.range, hb.type, hb.own, hb.root, hb.fabric, hb.line, hb.table,
    hb.ownId, by simpa using h.sent⟩

theorem adopt (h : Sound k c) (hm : SoundFrame m) (wr wd : Bool) :
    Sound k (adopt wr wd m c) := by
  have hsame := sameCard_adopt wr wd m c
  refine ⟨hsame.number.trans h.number, h.odd, h.range, hsame.type.trans h.type, ?_,
    rootCoherent_adopt h.root, ?_, fun hl => lcCoherent_adopt (h.line hl), ?_, ?_, ?_⟩
  · rw [hsame.brId]; exact h.own
  · rw [(adopt_root m c wr wd).1]
    split_ifs
    · exact hm.root
    · exact h.fabric
  · simp only [adopt_frame]; exact h.table.update hm.table
  · simp only [adopt_frame, h.number]
    rw [id_update_own hm.table h.pos h.odd]
    exact h.ownId
  · simp only [adopt_frame]; exact h.sent

theorem sync (h : Sound k c) (m : RstpBpdu) (hs : c.ctpm.state = .forwarding)
    (h0 : c.ctpm.timeSinceTopoChange = 0) : Sound k (lcSyncToHello m c) := by
  have hsame := sameCard_lcSyncToHello m c
  have hctpm := lcSyncToHello_ctpm m c hs h0
  have hsent := (lcSyncToHello_frame m c).2.2.2.2.1
  by_cases hsync : syncs m c
  · rw [if_pos hsync] at hctpm
    refine ⟨hsame.number.trans h.number, h.odd, h.range, hsame.type.trans h.type, ?_, ?_, ?_,
      fun _ => ?_, ?_, ?_, ?_⟩
    · rw [hsame.brId]; exact h.own
    · rw [hctpm]; exact h.root
    · rw [hctpm]; exact h.fabric
    · rw [hctpm]; exact (number_bridgeId m).symm
    · rw [hctpm]; exact h.table
    · rw [hctpm]; exact h.ownId
    · rw [hsent]; exact h.sent
  · rw [if_neg hsync] at hctpm
    exact h.of_table hsame (by rw [hctpm]) (by rw [hctpm]) (by rw [hctpm])
      (by rw [hctpm]; exact h.table) (by rw [hctpm]) hsent

theorem elect (h : Sound k c) (hk : 33 ≤ k) (old i : Nat) : Sound k (electLc old i c) :=
  ⟨h.number, h.odd, h.range, h.type, h.own, h.root, h.fabric, fun hl => absurd hl (by omega),
    h.table.setAge_zero old, (congrArg BridgeId.number (id_setAge _ _ _)).trans h.ownId, h.sent⟩

end Sound

section Events

variable {k : Nat} {c c' : Chassis} {m : RstpBpdu}

theorem mem_sentTypes :
    bpduTypeConfig ∈ sentTypes ∧ bpduTypeReply ∈ sentTypes ∧ bpduTypeLcChange ∈ sentTypes ∧
      bpduTypeFcChange ∈ sentTypes ∧ bpduTypeHello ∈ sentTypes := by decide

theorem LineRx.sound (h : LineRx m c c') (hc : Sound k c) (hm : SoundFrame m) : Sound k c' := by
  obtain ⟨-, hreply, hlc, -, hhello⟩ := mem_sentTypes
  have hmerge := hc.merge hm.table
  cases h with
  | wake => exact ((((hc.wake).adopt hm _ _).times m).tx hreply).merge hm.table
  | adopt => exact (hc.adopt hm _ _).merge hm.table
  | agree => exact hmerge
  | lcChange => exact ((((hmerge.tx hlc).restart).forget).block)
  | sync hs => exact (hmerge.restart).sync m hs rfl
  | relay => exact (hmerge.restart).tx hhello
  | reply => exact (hmerge.restart).tx hreply
  | config => exact hmerge.tx hreply
  | other => exact hmerge
  | disabled => exact hc

theorem FabricRx.sound (h : FabricRx m c c') (hc : Sound k c) (hk : 33 ≤ k)
    (hm : SoundFrame m) : Sound k c' := by
  obtain ⟨-, hreply, -, -, hhello⟩ := mem_sentTypes
  have hmerge := hc.merge hm.table
  cases h with
  | wake => exact (((hc.wake).adopt hm _ _).times m).merge hm.table
  | adopt => exact (hc.adopt hm _ _).merge hm.table
  | agree => exact hmerge
  | sync hs => exact (hmerge.restart).sync m hs rfl
  | echo => exact (hmerge.restart).tx hhello
  | hear => exact hmerge.restart
  | config => exact hmerge.tx hreply
  | elect => exact (hmerge.elect hk _ _).tx hhello
  | alone => exact (hmerge.drop _).block
  | lcChange => exact hmerge.block
  | other => exact hmerge
  | disabled => exact hc

theorem Ticked.sound (h : Ticked c c') (hc : Sound k c) : Sound k c' := by
  obtain ⟨hconfig, -, hlc, -, hhello⟩ := mem_sentTypes
  cases h with
  | config => exact (hc.timer _).tx hconfig
  | blockTimeout => exact hc.of_table ⟨rfl, rfl, rfl, rfl⟩ rfl rfl rfl hc.table rfl rfl
  | blockLine => exact hc
  | learn => exact hc.of_table ⟨rfl, rfl, rfl, rfl⟩ rfl rfl rfl hc.table rfl rfl
  | listenFabric => exact (hc.timer _).tx hconfig
  | listenLine => exact hc.timer _
  | learning => exact (hc.tx hconfig).timer _
  | forward => exact hc.of_table ⟨rfl, rfl, rfl, rfl⟩ rfl rfl rfl hc.table rfl rfl
  | elect hs hroot ht i =>
    have hk : 33 ≤ k := by
      have hfabric := hc.fabric
      have hodd := hc.odd
      rw [← hroot, hc.number] at hfabric
      omega
    exact ((hc.elect hk _ i).timer _).tx hhello
  | alone => exact ((hc.drop _).block).tx hlc
  | hello => exact (hc.tx hhello).timer _
  | lost => exact hc.block
  | wait => exact hc.timer _
  | disabled => exact hc

theorem sound_step {e : Event} (hc : Sound k c)
    (he : ∀ bpdu len, e = .rx bpdu len → SoundFrame bpdu) : Sound k (step e c) := by
  have h := stepped e c
  generalize step e c = c' at h
  cases h with
  | idle => exact hc.ready _
  | tick _ h => exact h.sound (hc.ready _)
  | dropped _ rx => exact hc.ready rx
  | line _ _ h => exact h.sound (hc.ready _) (he _ _ rfl)
  | fabric _ htype h =>
    refine h.sound (hc.ready _) ?_ (he _ _ rfl)
    have htype' := hc.type
    rw [htype, cardTypeOf] at htype'
    by_contra hlt
    rw [if_pos (by omega)] at htype'
    cases htype'
  | exit =>
    unfold signalExit
    dsimp only
    split_ifs
    · exact ((hc.ready _).block).tx mem_sentTypes.2.2.2.1
    · exact (hc.ready _).block

theorem sound_startUp (hodd : k % 2 = 1) (hk : k ≤ 48) (topology : CtpMode)
    (hwaddr : Vector UInt8 6) : Sound k (startUp k (cardTypeOf k) topology hwaddr) := by
  have hown := brId_startUp k (by omega) (cardTypeOf k) topology hwaddr
  have hpos : 1 ≤ k ∧ k ≤ 48 := ⟨by omega, hk⟩
  have hctpm := startUp_ctpm k (cardTypeOf k) topology hwaddr
  have hco := coherent_startUp k (by omega) (cardTypeOf k) topology hwaddr
  rw [hctpm] at hown hco
  refine ⟨by simp, hodd, hk, by simp, ?_, ?_, ?_, ?_, ?_, ?_, ?_⟩
  · rw [hctpm]; exact hown
  · rw [hctpm]; exact hco.1
  · rw [hctpm]
    by_cases hl : k ≤ 32
    · rw [blocked_of_line _ ⟨hpos.1, hl⟩]; exact .inl rfl
    · rw [blocked_of_fabric _ (by omega)]
      exact .inr (by simp only [clearDesignedLc]; omega)
  · rw [hctpm]; exact fun _ => hco.2
  · rw [hctpm]
    simp only [blocked_frame] at hown ⊢
    exact soundTable_clear hpos hodd hown
  · rw [hctpm]
    simp only [blocked_frame] at hown ⊢
    rw [entry_clearChassisMember _ _ _ hpos.1 hpos.2, if_pos (by omega)]
    exact hown
  · unfold startUp
    dsimp only
    split_ifs <;> simp [writePorts]

end Events

end Chassisd
