import Chassisd.Election.Sides
import Chassisd.Network.Storm

namespace Chassisd

def Kind.ofByte (bpduType : UInt8) : Kind :=
  if bpduType = bpduTypeConfig then .config
  else if bpduType = bpduTypeReply then .reply
  else if bpduType = bpduTypeHello then .hello
  else if bpduType = bpduTypeLcChange then .lcChange
  else .fcChange

theorem Kind.ofByte_inj : ∀ x ∈ sentTypes, ∀ y ∈ sentTypes,
    Kind.ofByte x = Kind.ofByte y → x = y := by decide +kernel

theorem Kind.ofByte_eq : ∀ x ∈ sentTypes,
    (x = bpduTypeConfig ↔ Kind.ofByte x = .config) ∧
    (x = bpduTypeReply ↔ Kind.ofByte x = .reply) ∧
    (x = bpduTypeHello ↔ Kind.ofByte x = .hello) ∧
    (x = bpduTypeLcChange ↔ Kind.ofByte x = .lcChange) ∧
    (x = bpduTypeFcChange ↔ Kind.ofByte x = .fcChange) := by decide +kernel

def ageOf (t : ChassisExist) (number : Nat) : Nat :=
  if number = 0 then 0 else (t.entry (number - 1)).age.toNat

def view (c : Chassis) : Peer where
  state := c.ctpm.state
  timer := c.ctpm.timeSinceTopoChange
  root := c.ctpm.rootPortId
  port := c.ctpm.rootLCPortId
  designated := c.ctpm.rootPrio.designBridge.number
  age := ageOf c.ctpm.chassisExist
  heard := (RxInterval.seenOf c.rxBpdu).map fun key => (key.1, Kind.ofByte key.2)

def noticeOf (m : RstpBpdu) : Notice :=
  ⟨m.slotid, Kind.ofByte m.bpduType, decide (forwardingBit m = 1), m.rootId, m.dbridgeId,
    ageOf m.chassisExist⟩

section Ages

variable {k : Nat} {t f : ChassisExist}

theorem ageOf_succ (t : ChassisExist) (i : Nat) : ageOf t (i + 1) = (t.entry i).age.toNat := by
  simp [ageOf]

theorem ageOf_of_gt (t : ChassisExist) {number : Nat} (h : 48 < number) : ageOf t number = 0 := by
  rw [ageOf, if_neg (by omega), ChassisExist.entry_of_ge t (by omega)]
  rfl

theorem ageOf_pos {number : Nat} (h : 0 < number) :
    0 < ageOf t number ↔ 0 < (t.entry (number - 1)).age := by
  rw [ageOf, if_neg (by omega), UInt8.lt_iff_toNat_lt]
  rfl

theorem ageOf_ext {g : Nat → Nat} (h0 : g 0 = 0) (hlt : ∀ i < 48, (t.entry i).age.toNat = g (i + 1))
    (hgt : ∀ n, 48 < n → g n = 0) : ageOf t = g := by
  funext n
  rcases Nat.eq_zero_or_pos n with rfl | hn
  · rw [h0]; rfl
  · rcases Nat.lt_or_ge 48 n with hgt' | hle
    · rw [ageOf_of_gt t hgt', hgt n hgt']
    · obtain ⟨i, rfl⟩ : ∃ i, n = i + 1 := ⟨n - 1, by omega⟩
      rw [ageOf_succ, hlt i (by omega)]

theorem ageOf_dec (hk : 1 ≤ k ∧ k ≤ 48) (t : ChassisExist) :
    ageOf (decChassisMember k t) = Peer.beatAge k (ageOf t) := by
  refine ageOf_ext ?_ (fun i hi => ?_) fun n hn => ?_
  · simp only [Peer.beatAge, ageOf, if_true]
    rw [if_neg (by omega)]
  · rw [entry_decChassisMember k t i hi, decEntry, Peer.beatAge, ageOf_succ]
    by_cases hown : i + 1 = k
    · rw [if_pos hown, if_pos hown]; rfl
    · rw [if_neg hown, if_neg hown]
      by_cases hage : 1 ≤ (t.entry i).age
      · rw [if_pos hage, UInt8.toNat_sub_of_le _ _ hage]
        rfl
      · rw [UInt8.le_iff_toNat_le] at hage
        rw [if_neg (by rwa [UInt8.le_iff_toNat_le])]
        have h1 : (1 : UInt8).toNat = 1 := rfl
        dsimp only
        omega
  · rw [Peer.beatAge, if_neg (by omega), ageOf_of_gt t hn]

theorem ageOf_update (ht : SoundTable t) (hf : SoundTable f) :
    ageOf (updateChassisMember k f t) =
      fun n => if n = k then ageOf t n else max (ageOf t n) (ageOf f n) := by
  refine ageOf_ext (by simp [ageOf]) (fun i hi => ?_) fun n hn => ?_
  · simp only [ageOf_succ]
    by_cases hodd : i % 2 = 1
    · rw [age_update_odd ht hf hi hodd, ht.even i hi hodd, hf.even i hi hodd]
      simp
    · rw [entry_update_even hf hi (by omega)]
      have h1 : (1 : UInt8).toNat = 1 := rfl
      simp only [UInt8.le_iff_toNat_le, UInt8.lt_iff_toNat_lt, h1]
      split_ifs with hc hown hown
      · exact absurd hown hc.1
      · exact (Nat.max_eq_right hc.2.2.le).symm
      · rfl
      · omega
  · simp [ageOf_of_gt _ hn]

theorem ageOf_clear (hk : 1 ≤ k ∧ k ≤ 48) (brId : BridgeId) :
    ageOf (clearChassisMember k brId) = fun n => if n = k then 16 else 0 := by
  refine ageOf_ext (if_neg (by omega)) (fun i hi => ?_) fun n hn => if_neg (by omega)
  rw [entry_clearChassisMember k brId i hk.1 hk.2]
  by_cases hown : i + 1 = k
  · rw [if_pos hown, if_pos hown]; rfl
  · rw [if_neg hown, if_neg hown]; rfl

theorem ageOf_setAge_zero (t : ChassisExist) (old : Nat) :
    ageOf (t.setAge old 0) = fun n => if n = old + 1 then 0 else ageOf t n := by
  refine ageOf_ext (by simp [ageOf]) (fun i hi => ?_) fun n hn => by simp [ageOf_of_gt t hn]
  rw [ChassisExist.entry_setAge, ageOf_succ]
  by_cases hold : i = old
  · subst hold
    rw [if_pos ⟨rfl, hi⟩, if_pos rfl]; rfl
  · rw [if_neg (fun h => hold h.1), if_neg (by omega)]

theorem heir_view (t : ChassisExist) : heir k t = Peer.heir k (ageOf t) := by
  unfold heir Peer.heir
  simp only [ageOf_succ, UInt8.le_iff_toNat_le]
  rfl

end Ages

section Views

variable {k : Nat} {c : Chassis} {m : RstpBpdu}

theorem view_ready (rx : List RxHeader) (c : Chassis) :
    view (ready rx c) = { view c with
      heard := (RxInterval.seenOf rx).map fun key => (key.1, Kind.ofByte key.2) } := rfl

theorem view_merge (h : Sound k c) (hm : SoundFrame m) :
    view (inUpdateChassisMember m c) = Peer.merge k (noticeOf m) (view c) := by
  have hage := ageOf_update (k := k) h.table hm.table
  simp only [view, Peer.merge, noticeOf, inUpdateChassisMember_frame, h.number, hage]

theorem view_tx (h : Sound k c) (bpduType : UInt8) :
    view (txInfoBpdu bpduType c) = Peer.beat k (view c) := by
  simp only [view, Peer.beat, txInfoBpdu_frame, h.number, ageOf_dec h.pos]

theorem noticeOf_infoBpdu (h : Sound k c) (bpduType : UInt8) :
    noticeOf (infoBpdu c.usCardNumber c.ctpm
        (decChassisMember c.usCardNumber c.ctpm.chassisExist) bpduType) =
      Peer.notice k (Kind.ofByte bpduType) (view c) := by
  have hpos := h.pos
  have hslot := infoBpdu_slotid k c.ctpm (decChassisMember k c.ctpm.chassisExist) bpduType
    (by omega)
  simp only [noticeOf, Peer.notice, h.number, hslot, infoBpdu_bpduType, infoBpdu_rootId,
    infoBpdu_dbridgeId, infoBpdu_chassisExist, forwardingBit_infoBpdu, ageOf_dec h.pos, view,
    h.root.1]

theorem refines_say (h : Sound k c) (hsent : c.sent = []) (bpduType : UInt8) :
    view (txInfoBpdu bpduType c) = (Peer.say k (Kind.ofByte bpduType) (view c)).1 ∧
      (txInfoBpdu bpduType c).sent.map noticeOf =
        (Peer.say k (Kind.ofByte bpduType) (view c)).2 := by
  refine ⟨view_tx h bpduType, ?_⟩
  simp only [txInfoBpdu_frame, hsent, List.nil_append, List.map_cons, List.map_nil,
    noticeOf_infoBpdu h, Peer.say]

theorem view_enterBlock (hpos : 1 ≤ k ∧ k ≤ 48) (hnumber : c.usCardNumber = k)
    (hown : c.ctpm.brId.number = k) : view (enterBlock c) = Peer.block k (view c) := by
  have hclear := ageOf_clear hpos c.ctpm.brId
  simp only [view, Peer.block, enterBlock_frame, blocked_frame, hnumber, hclear]
  by_cases hl : k < 33
  · simp only [blocked_of_line c.ctpm (show 1 ≤ k ∧ k ≤ 32 by omega), if_pos hl, clearRootFc,
      hown]
  · simp only [blocked_of_fabric c.ctpm (show 33 ≤ k by omega), if_neg hl, clearDesignedLc,
      PrioVector.zero, number_zero]

theorem view_block (h : Sound k c) : view (enterBlock c) = Peer.block k (view c) :=
  view_enterBlock h.pos h.number h.own

theorem takesRoot_iff (wins : Bool) (m : RstpBpdu) (old : Nat) :
    takesRoot wins m old ↔ Peer.takes wins m.rootId (ageOf m.chassisExist m.rootId) old := by
  unfold takesRoot Peer.takes
  exact and_congr_right fun h => and_congr_left fun _ => (ageOf_pos h).symm

theorem takesDesigned_iff (wins : Bool) (m : RstpBpdu) (old : Nat) :
    takesDesigned wins m old ↔
      Peer.takes wins m.dbridgeId (ageOf m.chassisExist m.dbridgeId) old := by
  unfold takesDesigned Peer.takes
  exact and_congr_right fun h => and_congr_left fun _ => (ageOf_pos h).symm

theorem view_adopt (h : Sound k c) (hm : SoundFrame m) (wr wd : Bool) :
    view (adopt wr wd m c) = Peer.adopt wr wd k (noticeOf m) (view c) := by
  have hage := ageOf_update (k := k) h.table hm.table
  have hdes : (adopt wr wd m c).ctpm.rootPrio.designBridge.number =
      if takesDesigned wd m c.ctpm.rootLCPortId then m.dbridgeId
        else c.ctpm.rootPrio.designBridge.number := by
    rw [(adopt_designated m c wr wd).2]
    split_ifs
    · exact number_bridgeId m
    · rfl
  simp only [view, Peer.adopt, Peer.after, Peer.merge, noticeOf, adopt_frame,
    (adopt_root m c wr wd).1, (adopt_designated m c wr wd).1, hdes, h.number, hage, takesRoot_iff,
    takesDesigned_iff]
  congr

theorem syncs_iff (m : RstpBpdu) (c : Chassis) :
    syncs m c ↔ 0 < m.dbridgeId ∧ m.dbridgeId ≠ c.ctpm.rootPrio.designBridge.number ∧
      0 < ageOf m.chassisExist m.dbridgeId := by
  unfold syncs
  rw [and_assoc]
  refine and_congr_right fun h => and_congr_right fun _ => ?_
  rw [ageOf_pos h]

theorem view_sync (hs : c.ctpm.state = .forwarding) (ht : c.ctpm.timeSinceTopoChange = 0) :
    view (lcSyncToHello m c) = Peer.sync (noticeOf m) (view c) := by
  have hctpm := lcSyncToHello_ctpm m c hs ht
  have hrx := (lcSyncToHello_frame m c).2.2.1
  by_cases hsync : syncs m c
  · rw [if_pos hsync] at hctpm
    rw [Peer.sync, if_pos (by exact (syncs_iff m c).mp hsync)]
    simp only [view, noticeOf, hctpm, hrx, setDesigned_frame, number_bridgeId]
  · rw [if_neg hsync] at hctpm
    rw [Peer.sync, if_neg (by exact fun h => hsync ((syncs_iff m c).mpr h))]
    simp only [view, hctpm, hrx]

theorem view_dropLc (old : Nat) (c : Chassis) : view (dropLc old c) = Peer.forget old (view c) := by
  simp only [view, Peer.forget, dropLc_frame, ageOf_setAge_zero]

theorem view_electLc (h : Sound k c) {old i : Nat}
    (hi : heir c.usCardNumber (c.ctpm.chassisExist.setAge old 0) = some i) :
    view (electLc old i c) = Peer.elect i (Peer.forget old (view c)) := by
  obtain ⟨⟨hlt, -, hage⟩, -⟩ := heir_eq_some.mp hi
  have hid : ((c.ctpm.chassisExist.setAge old 0).entry i).id.number = i + 1 := by
    refine (h.table.setAge_zero old).id i (by omega) fun h0 => ?_
    rw [h0] at hage
    exact absurd hage (by decide)
  simp only [view, Peer.elect, Peer.forget, electLc_frame, hid, ageOf_setAge_zero]

theorem heir_refines (h : Sound k c) (old : Nat) :
    heir c.usCardNumber (c.ctpm.chassisExist.setAge old 0) =
      Peer.heir k (Peer.forget old (view c)).age := by
  rw [heir_view, h.number, ageOf_setAge_zero]
  rfl

end Views

section Steps

variable {k : Nat} {c c' : Chassis} {m : RstpBpdu}

def Refines (c' : Chassis) (p : Peer × List Notice) : Prop :=
  view c' = p.1 ∧ c'.sent.map noticeOf = p.2

theorem refines_silent {p : Peer} (h : view c' = p) (hsent : c'.sent = []) :
    Refines c' (p, []) := ⟨h, by rw [hsent]; rfl⟩

theorem Ticked.refines (h : Ticked c c') (hc : Sound k c) (hsent : c.sent = []) :
    Refines c' (Peer.iterate k (view c)) := by
  have hfabric : (33 ≤ c.usCardNumber ∧ c.usCardNumber ≤ 48) ↔ 33 ≤ k := by
    have := hc.pos
    rw [hc.number]
    omega
  have hticks : learningTicks c.usCardNumber = if 33 ≤ k then 3 else 7 := by
    simp only [learningTicks, hfabric]
    rfl
  have hroot : c.usCardNumber = c.ctpm.rootPortId ↔ k = (view c).root := by rw [hc.number]; rfl
  have htimer : (view c).timer = c.ctpm.timeSinceTopoChange := rfl
  unfold Peer.iterate
  cases h with
  | config hs hf ht =>
    rw [hfabric] at hf
    simp only [show (view c).state = _ from hs, if_pos hf, htimer, if_pos ht]
    exact refines_say (hc.timer (c.ctpm.timeSinceTopoChange + 1)) hsent bpduTypeConfig
  | blockTimeout hs hf ht =>
    rw [hfabric] at hf
    simp only [show (view c).state = _ from hs, if_pos hf, htimer, if_neg (not_lt.mpr ht)]
    exact refines_silent rfl hsent
  | blockLine hs hl =>
    rw [hfabric] at hl
    simp only [show (view c).state = _ from hs, if_neg hl]
    exact refines_silent rfl hsent
  | learn hs ht =>
    simp only [show (view c).state = _ from hs, htimer, if_pos ht]
    exact refines_silent rfl hsent
  | listenFabric hs hf ht =>
    rw [hfabric] at hf
    simp only [show (view c).state = _ from hs, if_pos hf, htimer, if_neg (not_lt.mpr ht)]
    exact refines_say (hc.timer (c.ctpm.timeSinceTopoChange + 1)) hsent bpduTypeConfig
  | listenLine hs hl ht =>
    rw [hfabric] at hl
    simp only [show (view c).state = _ from hs, if_neg hl, htimer, if_neg (not_lt.mpr ht)]
    exact refines_silent rfl hsent
  | learning hs ht =>
    rw [hticks] at ht
    simp only [show (view c).state = _ from hs, htimer, if_pos ht]
    exact refines_say (hc.timer (c.ctpm.timeSinceTopoChange + 1)) hsent bpduTypeConfig
  | forward hs ht =>
    rw [hticks] at ht
    simp only [show (view c).state = _ from hs, htimer, if_neg (not_lt.mpr ht)]
    exact refines_silent rfl hsent
  | elect hs hr ht i hi =>
    have hheir : Peer.heir k (Peer.forget (view c).port (view c)).age = some i :=
      (heir_refines hc _).symm.trans hi
    rw [hroot] at hr
    simp only [show (view c).state = _ from hs, if_pos hr, htimer, if_pos ht, hheir]
    have hk : 33 ≤ k := by
      have hf := hc.fabric
      have := hc.odd
      change k = c.ctpm.rootPortId at hr
      omega
    have hv := view_electLc hc hi
    have hsay := refines_say ((hc.elect hk c.ctpm.rootLCPortId i).timer 0) hsent bpduTypeHello
    rw [show view { electLc c.ctpm.rootLCPortId i c with ctpm.timeSinceTopoChange := 0 } =
      Peer.restart (view (electLc c.ctpm.rootLCPortId i c)) from rfl, hv] at hsay
    exact hsay
  | alone hs hr ht hi =>
    have hheir : Peer.heir k (Peer.forget (view c).port (view c)).age = none :=
      (heir_refines hc _).symm.trans hi
    rw [hroot] at hr
    simp only [show (view c).state = _ from hs, if_pos hr, htimer, if_pos ht, hheir]
    have hdrop := hc.drop c.ctpm.rootLCPortId
    have hsay := refines_say hdrop.block (by simp [hsent]) bpduTypeLcChange
    rw [view_block hdrop, view_dropLc] at hsay
    exact hsay
  | hello hs hr ht =>
    rw [hroot] at hr
    simp only [show (view c).state = _ from hs, if_pos hr, htimer, if_neg (not_lt.mpr ht)]
    exact refines_say (hc.timer (c.ctpm.timeSinceTopoChange + 1)) hsent bpduTypeHello
  | lost hs hr ht =>
    rw [ne_eq, hroot] at hr
    simp only [show (view c).state = _ from hs, if_neg hr, htimer, if_pos ht]
    exact refines_silent (view_block hc) (by simp [hsent])
  | wait hs hr ht =>
    rw [ne_eq, hroot] at hr
    simp only [show (view c).state = _ from hs, if_neg hr, htimer, if_neg (not_lt.mpr ht)]
    exact refines_silent rfl hsent
  | disabled hs =>
    simp only [show (view c).state = _ from hs]
    exact refines_silent rfl hsent

theorem kind_iff (hm : SoundFrame m) :
    (m.bpduType = bpduTypeConfig ↔ (noticeOf m).kind = .config) ∧
    (m.bpduType = bpduTypeReply ↔ (noticeOf m).kind = .reply) ∧
    (m.bpduType = bpduTypeHello ↔ (noticeOf m).kind = .hello) ∧
    (m.bpduType = bpduTypeLcChange ↔ (noticeOf m).kind = .lcChange) ∧
    (m.bpduType = bpduTypeFcChange ↔ (noticeOf m).kind = .fcChange) :=
  Kind.ofByte_eq _ hm.type

theorem isHello_eq (hm : SoundFrame m) :
    (m.bpduType == bpduTypeHello) = ((noticeOf m).kind == .hello) := by
  rw [Bool.eq_iff_iff, beq_iff_eq, beq_iff_eq]
  exact (kind_iff hm).2.2.1

theorem isForwarding_eq (m : RstpBpdu) :
    (forwardingBit m == 1) = (noticeOf m).forwarding := by
  rw [Bool.eq_iff_iff, beq_iff_eq]
  exact (decide_eq_true_iff).symm

theorem checkBpdu_iff (hc : Sound k c) (m : RstpBpdu) :
    checkBpdu m c = 0 ↔ Peer.agrees (noticeOf m) (view c) := by
  have hroot := hc.root.1
  unfold checkBpdu Peer.agrees
  simp only [noticeOf, view, hroot]
  split_ifs with h1 h2
  · simp [h1]
  · simp [h2]
  · simpa using ⟨not_not.mp h1, not_not.mp h2⟩

theorem adopt_refines (hc : Sound k c) (hm : SoundFrame m) (hsent : c.sent = []) (wr wd : Bool)
    (hcheck : checkBpdu m c ≠ 0) :
    Refines (inUpdateChassisMember m (Chassisd.adopt wr wd m c))
      (Peer.study wr wd k (noticeOf m) (view c), []) := by
  rw [ne_eq, checkBpdu_iff hc] at hcheck
  have hv := view_merge (hc.adopt hm wr wd) hm
  rw [view_adopt hc hm wr wd] at hv
  rw [Peer.study, if_neg hcheck]
  exact refines_silent hv (by simp [hsent])

theorem agree_refines (hc : Sound k c) (hm : SoundFrame m) (hsent : c.sent = []) (wr wd : Bool)
    (hcheck : checkBpdu m c = 0) :
    Refines (inUpdateChassisMember m c) (Peer.study wr wd k (noticeOf m) (view c), []) := by
  rw [checkBpdu_iff hc] at hcheck
  rw [Peer.study, if_pos hcheck]
  exact refines_silent (view_merge hc hm) hsent

theorem view_takeTimes (m : RstpBpdu) (c : Chassis) : view (takeTimes m c) = view c := rfl

theorem view_restart_merge (hc : Sound k c) (hm : SoundFrame m) :
    view (restartTimer (inUpdateChassisMember m c)) =
      Peer.restart (Peer.merge k (noticeOf m) (view c)) := by
  rw [← view_merge hc hm]
  rfl

theorem merge_refines (hc : Sound k c) (hm : SoundFrame m) (hsent : c.sent = []) :
    Refines (inUpdateChassisMember m c) (Peer.merge k (noticeOf m) (view c), []) :=
  refines_silent (view_merge hc hm) hsent

theorem answer_refines (hc : Sound k c) (hm : SoundFrame m) (hsent : c.sent = [])
    (bpduType : UInt8) :
    Refines (txInfoBpdu bpduType (inUpdateChassisMember m c))
      (Peer.say k (Kind.ofByte bpduType) (Peer.merge k (noticeOf m) (view c))) := by
  have hsay := refines_say (hc.merge hm.table) hsent bpduType
  rwa [view_merge hc hm] at hsay

theorem relay_refines (hc : Sound k c) (hm : SoundFrame m) (hsent : c.sent = [])
    (bpduType : UInt8) :
    Refines (txInfoBpdu bpduType (restartTimer (inUpdateChassisMember m c)))
      (Peer.say k (Kind.ofByte bpduType)
        (Peer.restart (Peer.merge k (noticeOf m) (view c)))) := by
  have hsay := refines_say (hc.merge hm.table).restart (by simp [hsent]) bpduType
  rwa [view_restart_merge hc hm] at hsay

theorem sync_refines (hc : Sound k c) (hm : SoundFrame m) (hsent : c.sent = [])
    (hs : c.ctpm.state = .forwarding) :
    Refines (lcSyncToHello m (restartTimer (inUpdateChassisMember m c)))
      (Peer.sync (noticeOf m) (Peer.restart (Peer.merge k (noticeOf m) (view c))), []) := by
  have hv := view_sync (m := m) (c := restartTimer (inUpdateChassisMember m c)) hs rfl
  rw [view_restart_merge hc hm] at hv
  exact refines_silent hv (by simp [hsent])

theorem LineRx.refines (h : LineRx m c c') (hc : Sound k c) (hk : k < 33) (hm : SoundFrame m)
    (hsent : c.sent = []) : Refines c' (Peer.lineHear k (noticeOf m) (view c)) := by
  have hmerge := hc.merge hm.table
  have hvm := view_merge hc hm
  have hline : (view c).port = (view c).designated := hc.line hk
  obtain ⟨hconfig, hreply, hhello, hlc, hfc⟩ := kind_iff hm
  unfold Peer.lineHear
  cases h with
  | wake hs =>
    have ha := (hc.wake).adopt hm false (m.bpduType == bpduTypeHello)
    have hva : view (takeTimes m (Chassisd.adopt false (m.bpduType == bpduTypeHello) m
        (Chassisd.wake c))) =
        Peer.adopt false ((noticeOf m).kind == .hello) k (noticeOf m)
          (Peer.enter .listening (view c)) := by
      rw [← isHello_eq hm, view_takeTimes]
      exact view_adopt hc.wake hm false _
    have hsay := refines_say (ha.times m) (by simp [hsent]) bpduTypeReply
    simp only [show (view c).state = _ from hs, ← hva]
    refine ⟨?_, hsay.2⟩
    rw [view_merge ((ha.times m).tx mem_sentTypes.2.1) hm, hsay.1]
    rfl
  | adopt hs hcheck =>
    change Refines _ (Peer.lineHear k (noticeOf m) (view c))
    rw [Peer.lineHear_waiting hs, ← isHello_eq hm]
    exact adopt_refines hc hm hsent _ _ hcheck
  | agree hs hcheck =>
    change Refines _ (Peer.lineHear k (noticeOf m) (view c))
    rw [Peer.lineHear_waiting hs]
    exact agree_refines hc hm hsent _ _ hcheck
  | lcChange hs ht =>
    have hsay := refines_say hmerge hsent bpduTypeLcChange
    have hforget := ((hmerge.tx mem_sentTypes.2.2.1).restart).forget
    simp only [show (view c).state = _ from hs, hlc.mp ht, ← hvm]
    refine ⟨?_, ?_⟩
    · rw [view_block hforget]
      simp only [Peer.block, view, forgetRootLc_frame]
      rfl
    · simp only [enterBlock_frame, forgetRootLc_frame, restartTimer_frame]
      exact hsay.2
  | sync hs ht hr hd =>
    have hif : (noticeOf m).root = (view c).root ∧ (noticeOf m).designated ≠ (view c).port :=
      ⟨hr.trans hc.root.1.symm, hd⟩
    simp only [show (view c).state = _ from hs, hhello.mp ht, Peer.helloFromFabric,
      Peer.restart_frame, Peer.merge_frame]
    rw [if_pos hif]
    exact sync_refines hc hm hsent hs
  | relay hs ht hr hd hown hslot =>
    have hif : ¬ ((noticeOf m).root = (view c).root ∧ (noticeOf m).designated ≠ (view c).port) :=
      fun h => h.2 hd
    have hif' : (noticeOf m).designated = k ∧ (noticeOf m).root = (view c).root ∧
        (noticeOf m).slot = (noticeOf m).root :=
      ⟨hown.trans hc.own, hr.trans hc.root.1.symm, hslot⟩
    simp only [show (view c).state = _ from hs, hhello.mp ht, Peer.helloFromFabric,
      Peer.restart_frame, Peer.merge_frame]
    rw [if_neg hif, if_pos hif']
    exact relay_refines hc hm hsent bpduTypeHello
  | reply hs ht hd =>
    have hif : ¬ ((noticeOf m).root = (view c).root ∧
        (noticeOf m).designated ≠ (view c).port) :=
      fun h => h.2 (hd (h.1.trans hc.root.1)).1
    have hif' : ¬ ((noticeOf m).designated = k ∧ (noticeOf m).root = (view c).root ∧
        (noticeOf m).slot = (noticeOf m).root) :=
      fun h => (hd (h.2.1.trans hc.root.1)).2 ⟨h.1.trans hc.own.symm, h.2.2⟩
    simp only [show (view c).state = _ from hs, hhello.mp ht, Peer.helloFromFabric,
      Peer.restart_frame, Peer.merge_frame]
    rw [if_neg hif, if_neg hif']
    exact relay_refines hc hm hsent bpduTypeReply
  | config hs ht =>
    simp only [show (view c).state = _ from hs, hconfig.mp ht]
    exact answer_refines hc hm hsent bpduTypeReply
  | other hs ht =>
    simp only [List.mem_cons, List.not_mem_nil, or_false, not_or, hconfig, hhello, hlc] at ht
    have hv := merge_refines hc hm hsent
    simp only [show (view c).state = _ from hs]
    cases hkind : (noticeOf m).kind with
    | lcChange => exact absurd hkind ht.1
    | hello => exact absurd hkind ht.2.1
    | config => exact absurd hkind ht.2.2
    | reply => exact hv
    | fcChange => exact hv
  | disabled hs =>
    simp only [show (view c).state = _ from hs]
    exact refines_silent rfl hsent

theorem FabricRx.refines (h : FabricRx m c c') (hc : Sound k c) (hk : 33 ≤ k)
    (hm : SoundFrame m) (hsent : c.sent = []) :
    Refines c' (Peer.fabricHear k (noticeOf m) (view c)) := by
  have hmerge := hc.merge hm.table
  have hvm := view_merge hc hm
  obtain ⟨hconfig, hreply, hhello, hlc, hfc⟩ := kind_iff hm
  unfold Peer.fabricHear
  cases h with
  | wake hs =>
    have hva : view (takeTimes m (Chassisd.adopt (forwardingBit m == 1) false m
        (Chassisd.wake c))) =
        Peer.adopt (noticeOf m).forwarding false k (noticeOf m)
          (Peer.enter .listening (view c)) := by
      rw [← isForwarding_eq m, view_takeTimes]
      exact view_adopt hc.wake hm _ false
    have hv := view_merge (((hc.wake).adopt hm (forwardingBit m == 1) false).times m) hm
    rw [hva] at hv
    simp only [show (view c).state = _ from hs]
    exact refines_silent hv (by simp [hsent])
  | adopt hs hcheck =>
    change Refines _ (Peer.fabricHear k (noticeOf m) (view c))
    rw [Peer.fabricHear_waiting hs, ← isForwarding_eq m]
    exact adopt_refines hc hm hsent _ _ hcheck
  | agree hs hcheck =>
    change Refines _ (Peer.fabricHear k (noticeOf m) (view c))
    rw [Peer.fabricHear_waiting hs]
    exact agree_refines hc hm hsent _ _ hcheck
  | sync hs ht hr hd =>
    have hif : (noticeOf m).designated ≠ (view c).designated ∧ (noticeOf m).root = (view c).root :=
      ⟨hd, hr.trans hc.root.1.symm⟩
    have hif' : ¬ ((noticeOf m).designated = (view c).designated ∧ (noticeOf m).root ≠ k) :=
      fun h => hd h.1
    simp only [show (view c).state = _ from hs, hhello.mp ht, Peer.helloFromLine,
      Peer.restart_frame, Peer.merge_frame]
    rw [if_neg hif', if_pos hif]
    exact sync_refines hc hm hsent hs
  | echo hs ht hr hd =>
    have hif : ¬ ((noticeOf m).designated ≠ (view c).designated ∧
        (noticeOf m).root = (view c).root) := fun h => h.1 hd
    have hif' : (noticeOf m).designated = (view c).designated ∧ (noticeOf m).root ≠ k :=
      ⟨hd, fun h => hr (h.trans hc.own.symm)⟩
    simp only [show (view c).state = _ from hs, hhello.mp ht, Peer.helloFromLine,
      Peer.restart_frame, Peer.merge_frame]
    rw [if_pos hif', if_neg hif]
    exact relay_refines hc hm hsent bpduTypeHello
  | hear hs ht hd =>
    have hv : Refines (restartTimer (inUpdateChassisMember m c))
        (Peer.restart (Peer.merge k (noticeOf m) (view c)), []) :=
      refines_silent (view_restart_merge hc hm) (by simp [hsent])
    simp only [show (view c).state = _ from hs, hhello.mp ht, Peer.helloFromLine,
      Peer.restart_frame, Peer.merge_frame]
    by_cases hdes : m.dbridgeId = c.ctpm.rootPrio.designBridge.number
    · rw [if_pos hdes] at hd
      rw [if_neg (fun h : _ ∧ (noticeOf m).root ≠ k => h.2 (hd.trans hc.own)),
        if_neg (fun h : (noticeOf m).designated ≠ (view c).designated ∧ _ => h.1 hdes)]
      exact hv
    · rw [if_neg hdes] at hd
      rw [if_neg (fun h : (noticeOf m).designated = (view c).designated ∧ _ => hdes h.1),
        if_neg (fun h : _ ∧ (noticeOf m).root = (view c).root => hd (h.2.trans hc.root.1))]
      exact hv
  | config hs ht =>
    simp only [show (view c).state = _ from hs, hconfig.mp ht]
    exact answer_refines hc hm hsent bpduTypeReply
  | elect hs ht hr i hi =>
    have hheir : Peer.heir k (Peer.forget (noticeOf m).designated
        (Peer.merge k (noticeOf m) (view c))).age = some i := by
      rw [← hvm]
      exact (heir_refines hmerge m.dbridgeId).symm.trans hi
    have hsay := refines_say (hmerge.elect hk m.dbridgeId i) hsent bpduTypeHello
    rw [view_electLc hmerge hi, hvm] at hsay
    simp only [show (view c).state = _ from hs, hfc.mp ht, hheir]
    rw [if_pos (show (noticeOf m).root = k from hr.trans hc.own)]
    exact hsay
  | alone hs ht hr hi =>
    have hheir : Peer.heir k (Peer.forget (noticeOf m).designated
        (Peer.merge k (noticeOf m) (view c))).age = none := by
      rw [← hvm]
      exact (heir_refines hmerge m.dbridgeId).symm.trans hi
    have hv := view_block (hmerge.drop m.dbridgeId)
    simp only [show (view c).state = _ from hs, hfc.mp ht, hheir]
    rw [if_pos (show (noticeOf m).root = k from hr.trans hc.own)]
    exact refines_silent hv (by simp [hsent])
  | lcChange hs ht hr =>
    have hv := view_block hmerge
    simp only [show (view c).state = _ from hs, hlc.mp ht]
    rw [if_neg (fun h : (noticeOf m).root = k => hr (h.trans hc.own.symm))]
    exact refines_silent hv (by simp [hsent])
  | other hs ht hr hl =>
    simp only [List.mem_cons, List.not_mem_nil, or_false, not_or, hconfig, hhello] at ht
    have hv := merge_refines hc hm hsent
    simp only [show (view c).state = _ from hs]
    cases hkind : (noticeOf m).kind with
    | hello => exact absurd hkind ht.1
    | config => exact absurd hkind ht.2
    | reply => exact hv
    | fcChange =>
      dsimp only
      rw [if_neg (fun h : (noticeOf m).root = k =>
        hr (hfc.mpr hkind) (h.trans hc.own.symm))]
      exact hv
    | lcChange =>
      dsimp only
      rw [if_pos (show (noticeOf m).root = k from (hl (hlc.mpr hkind)).trans hc.own)]
      exact hv
  | disabled hs =>
    simp only [show (view c).state = _ from hs]
    exact refines_silent rfl hsent

end Steps

section Filter

variable {k : Nat} {c c' : Chassis} {m : RstpBpdu}

theorem Ticked.rxBpdu (h : Ticked c c') : c'.rxBpdu = c.rxBpdu := by
  cases h <;> simp

structure Running (k : Nat) (c : Chassis) : Prop where
  sound : Sound k (quiet c)
  enabled : c.ctpm.adminState = .enabled

def SeenKeys (seen : List RxInterval.Key) : Prop :=
  seen.Nodup ∧ ∀ key ∈ seen, (1 ≤ key.1 ∧ key.1 ≤ 48) ∧ key.2 ∈ sentTypes

structure Filtering (k : Nat) (c : Chassis) : Prop extends Running k c where
  filter : ∃ seen, RxInterval.Holds c.rxBpdu seen ∧ SeenKeys seen

def Received (k : Nat) (m : RstpBpdu) : Prop := SoundFrame m ∧ opposite (cardTypeOf k) m.slotid

theorem opposite_of_hears {j k : Nat} (hk : 1 ≤ k ∧ k ≤ 48) (h : hears j k = true) :
    opposite (cardTypeOf j) k := by
  unfold cardTypeOf
  rcases Nat.lt_or_ge k 33 with hline | hfabric
  · rw [hears_line hline] at h
    rw [if_neg (by omega)]
    exact ⟨hk.1, by omega⟩
  · rw [hears_fabric hfabric] at h
    rw [if_pos h]
    exact ⟨hfabric, hk.2⟩

theorem SeenKeys.length_lt {seen : List RxInterval.Key} (h : SeenKeys seen) :
    seen.length < maximumBpduIntervalSize := by
  have hsub : seen ⊆ List.range 49 ×ˢ sentTypes := by
    intro key hkey
    obtain ⟨hslot, htype⟩ := h.2 key hkey
    exact List.mem_product.mpr ⟨List.mem_range.mpr (by omega), htype⟩
  have hle := (h.1.subperm hsub).length_le
  have hlen : (List.range 49 ×ˢ sentTypes).length = 49 * 5 := by
    rw [List.length_product, List.length_range]; rfl
  have hmax : maximumBpduIntervalSize = 1024 := rfl
  omega

theorem accepts_sentTypes : ∀ x ∈ sentTypes, acceptsBpdu x RstpBpdu.sizeof = true := by
  decide +kernel

theorem mem_heard {seen : List RxInterval.Key} (hrx : RxInterval.Holds c.rxBpdu seen)
    (hseen : SeenKeys seen) (hm : SoundFrame m) :
    ((noticeOf m).slot, (noticeOf m).kind) ∈ (view c).heard ↔ (m.slotid, m.bpduType) ∈ seen := by
  simp only [view, RxInterval.seenOf_of_holds hrx, List.mem_map, noticeOf, Prod.mk.injEq]
  constructor
  · rintro ⟨key, hkey, hslot, hkind⟩
    have htype : key.2 = m.bpduType :=
      Kind.ofByte_inj _ (hseen.2 key hkey).2 _ hm.type hkind
    rwa [← hslot, ← htype]
  · intro hkey
    exact ⟨_, hkey, rfl, rfl⟩

theorem Filtering.handled_iff (h : Filtering k c) (hm : Received k m) :
    Handled m RstpBpdu.sizeof c ↔
      ((noticeOf m).slot, (noticeOf m).kind) ∉ (view c).heard := by
  obtain ⟨seen, hrx, hseen⟩ := h.filter
  have hslot : m.slotid ≠ 0 := by have := hm.1.slot; omega
  have hnumber : c.usCardNumber = k := h.sound.number
  have htype : c.type = cardTypeOf k := h.sound.type
  rw [mem_heard hrx hseen hm.1, Handled, hnumber, htype]
  constructor
  · rintro ⟨-, -, hcheck, -⟩ hkey
    rw [RxInterval.check_of_mem hrx hkey] at hcheck
    exact absurd hcheck one_ne_zero
  · intro hkey
    exact ⟨accepts_sentTypes _ hm.1.type, h.sound.odd,
      (RxInterval.check_of_not_mem hrx hslot hseen.length_lt hkey).1, hm.2⟩

theorem Filtering.noted (h : Filtering k c) (hm : Received k m)
    (hkey : ((noticeOf m).slot, (noticeOf m).kind) ∉ (view c).heard) :
    (∃ seen, RxInterval.Holds (checkRxBpduInterval m c.rxBpdu).2 seen ∧ SeenKeys seen) ∧
      view (ready (checkRxBpduInterval m c.rxBpdu).2 c) =
        Peer.noted (noticeOf m) (view c) := by
  obtain ⟨seen, hrx, hseen⟩ := h.filter
  have hslot : m.slotid ≠ 0 := by have := hm.1.slot; omega
  rw [mem_heard hrx hseen hm.1] at hkey
  have hrx' := (RxInterval.check_of_not_mem hrx hslot hseen.length_lt hkey).2
  refine ⟨⟨_, hrx', ?_, ?_⟩, ?_⟩
  · exact hseen.1.append (List.nodup_singleton _) (List.disjoint_singleton.mpr hkey)
  · intro key hmem
    rcases List.mem_append.mp hmem with hmem | hmem
    · exact hseen.2 key hmem
    · rw [List.mem_singleton.mp hmem]; exact ⟨hm.1.slot, hm.1.type⟩
  · rw [view_ready, RxInterval.seenOf_of_holds hrx']
    simp only [Peer.noted, view, RxInterval.seenOf_of_holds hrx, List.map_append, List.map_cons,
      List.map_nil]
    rfl

end Filter

section Refinement

variable {k : Nat} {c : Chassis} {m : RstpBpdu}

theorem Running.step (h : Running k c) {e : Event}
    (he : ∀ bpdu len, e = .rx bpdu len → SoundFrame bpdu) :
    Running k (step e c) ∧ ∀ m ∈ (step e c).sent, SoundFrame m ∧ m.slotid = k := by
  have hs : Sound k (Chassisd.step e c) := sound_step (c := quiet c) h.sound he
  exact ⟨⟨hs.ready _, (sameCard_step e c).admin.trans h.enabled⟩, hs.sent⟩

theorem ticked_of_running (h : Running k c) :
    Ticked (ready clearRxBpduInterval c) (step .tick c) := by
  have hstep := stepped .tick c
  generalize step .tick c = c' at hstep
  cases hstep with
  | idle hadmin => exact absurd h.enabled hadmin
  | tick _ hticked => exact hticked

theorem tick_refines (h : Running k c) :
    Refines (step .tick c) (Peer.tick k (view c)) := by
  have hr := (ticked_of_running h).refines (h.sound.ready _) rfl
  have hseen : RxInterval.seenOf clearRxBpduInterval = [] :=
    RxInterval.seenOf_of_holds RxInterval.holds_clear
  rw [view_ready, hseen] at hr
  exact hr

theorem tick_filtering (h : Running k c) : Filtering k (step .tick c) := by
  refine ⟨(h.step (fun _ _ he => by cases he)).1, [], ?_, List.nodup_nil, by simp⟩
  rw [(ticked_of_running h).rxBpdu]
  exact RxInterval.holds_clear

theorem Filtering.rx (h : Filtering k c) (hm : Received k m) :
    Refines (step (.rx m RstpBpdu.sizeof) c) (Peer.recv k (noticeOf m) (view c)) ∧
      Filtering k (step (.rx m RstpBpdu.sizeof) c) := by
  have hrunning := (h.toRunning.step (e := .rx m RstpBpdu.sizeof)
    (fun bpdu len he => by cases he; exact hm.1)).1
  have hstep := stepped (.rx m RstpBpdu.sizeof) c
  have hslot := hm.2
  unfold Peer.recv
  by_cases hkey : ((noticeOf m).slot, (noticeOf m).kind) ∈ (view c).heard
  · rw [if_pos hkey]
    have hn : ¬ Handled m RstpBpdu.sizeof c := fun hh => (h.handled_iff hm).mp hh hkey
    obtain ⟨seen, hrx, hseen⟩ := h.filter
    have hcheck := RxInterval.check_of_mem hrx ((mem_heard hrx hseen hm.1).mp hkey)
    have heq : Chassisd.step (.rx m RstpBpdu.sizeof) c = quiet c := by
      change rxBpdu m RstpBpdu.sizeof (quiet c) = quiet c
      rw [rxBpdu, if_pos (accepts_sentTypes _ hm.1.type), inRxBpdu]
      rw [show (quiet c).rxBpdu = c.rxBpdu from rfl, hcheck]
      split_ifs <;> rfl
    rw [heq] at hrunning ⊢
    exact ⟨⟨rfl, rfl⟩, hrunning, seen, hrx, hseen⟩
  · rw [if_neg hkey]
    obtain ⟨hfilter, hview⟩ := h.noted hm hkey
    have hh := (h.handled_iff hm).mpr hkey
    rw [← hview]
    generalize Chassisd.step (.rx m RstpBpdu.sizeof) c = c' at hstep hrunning
    have hctype : c.type = cardTypeOf k := h.sound.type
    cases hstep with
    | dropped hn => exact absurd hh hn
    | line _ htype hline =>
      have hk : k < 33 := by
        by_contra hk
        rw [hctype, cardTypeOf, if_neg hk] at htype
        cases htype
      rw [if_pos hk]
      refine ⟨hline.refines (h.sound.ready _) hk hm.1 rfl, hrunning, ?_⟩
      rw [hline.rxBpdu]
      exact hfilter
    | fabric _ htype hfabric =>
      have hk : ¬ k < 33 := by
        intro hk
        rw [hctype, cardTypeOf, if_pos hk] at htype
        cases htype
      rw [if_neg hk]
      refine ⟨hfabric.refines (h.sound.ready _) (by omega) hm.1 rfl, hrunning, ?_⟩
      rw [hfabric.rxBpdu]
      exact hfilter

def toPeers (n : Net) : MessageNet.Net Nat Peer Notice := n.map (fun _ => view) noticeOf

variable {S : List Nat} {n a b : Net} {t : Nat}

theorem simulates (S : List Nat) : MessageNet.Simulates (chassisProtocol true) peerProtocol S
    (fun _ => view) noticeOf Running Filtering Received where
  tick _ _ _ h := tick_refines h
  recv _ _ _ _ h hm := (h.rx hm).1

theorem phase_filtering (hn : ∀ k ∈ S, Running k (n.node k)) (hflight : n.flight = []) :
    MessageNet.Phase (chassisProtocol true) hears S Filtering Received n where
  flight := hflight
  start k hk := tick_filtering (hn k hk)
  emit k hk m hm j _ hj := by
    obtain ⟨hsound, hslot⟩ := ((hn k hk).step (fun _ _ he => by cases he)).2 m hm
    exact ⟨hsound, by rw [hslot]; exact opposite_of_hears (hslot ▸ hsound.slot) hj⟩
  recv k _ m c h hm := (h.rx hm).2
  answer k _ m c h hm m' hm' j _ hj := by
    obtain ⟨hsound, hslot⟩ := (h.toRunning.step (e := .rx m RstpBpdu.sizeof)
      (fun bpdu len he => by cases he; exact hm.1)).2 m' hm'
    exact ⟨hsound, by rw [hslot]; exact opposite_of_hears (hslot ▸ hsound.slot) hj⟩

theorem rounds_refine (h : MessageNet.Rounds (chassisProtocol true) hears S t a b)
    (ha : ∀ k ∈ S, Running k (a.node k)) (hflight : a.flight = []) :
    MessageNet.Rounds peerProtocol hears S t (toPeers a) (toPeers b) ∧
      ∀ k ∈ S, Running k (b.node k) :=
  (simulates S).rounds (fun _ hn hf => phase_filtering hn hf) (fun _ _ _ h => h.toRunning) h ha
    hflight

theorem exists_rounds (hS : ∀ k ∈ S, 1 ≤ k) (hn : ∀ k ∈ S, Running k (n.node k))
    (hflight : n.flight = []) (t : Nat) :
    ∃ n', MessageNet.Rounds (chassisProtocol true) hears S t n n' := by
  induction t with
  | zero => exact ⟨n, .zero n⟩
  | succ t ih =>
    obtain ⟨b, hb⟩ := ih
    have hrunning := (rounds_refine hb hn hflight).2
    have hlocal := (phase_filtering hrunning (hb.flight hflight)).local_tickAll
    have hrelaying : ∀ k ∈ S, Relaying k
        ((MessageNet.tickAll (chassisProtocol true) hears S b).node k) := by
      intro k hk
      have hs := Relaying.of_sound (hlocal.1 k hk).sound
      exact ⟨hs.number, hs.range, hs.type, hs.own, hs.line⟩
    obtain ⟨n', hn'⟩ := MessageNet.exists_round_of_acc b (deliveries_terminate true hears hS _
      ⟨hrelaying, fun j m hm => ⟨(hlocal.2 j m hm).1, trivial⟩⟩)
    exact ⟨n', hb.succ hn'⟩

def EntersBlock (k : Nat) (c : Chassis) : Prop :=
  ∃ c₀ : Chassis, (c₀.usCardNumber = k ∧ c₀.type = cardTypeOf k ∧ c₀.ctpm.brId.number = k ∧
    c₀.ctpm.adminState = .enabled) ∧ c = enterBlock c₀

theorem EntersBlock.running (h : EntersBlock k c) (hk : k % 2 = 1 ∧ k ≤ 48) :
    Running k c ∧ ∃ p, view c = Peer.block k p := by
  obtain ⟨c₀, ⟨hnumber, htype, hown, hadmin⟩, rfl⟩ := h
  refine ⟨⟨sound_enterBlock hnumber hk.1 hk.2 htype hown, ?_⟩, view c₀, ?_⟩
  · simpa using hadmin
  · exact view_enterBlock (by omega) hnumber hown

end Refinement

end Chassisd
