import Chassisd.Bpdu.Identity
import Chassisd.Library.LossyNet

namespace Chassisd

inductive Own where
  | tick
  | exit

def Own.event : Own → Event
  | .tick => .tick
  | .exit => .exit

def chassisMachine : LossyNet.Machine Nat Own Chassis RstpBpdu where
  act _ e c := (step e.event c, (step e.event c).sent)
  recv _ m c := (step (.rx m RstpBpdu.sizeof) c, (step (.rx m RstpBpdu.sizeof) c).sent)

abbrev Cloud := LossyNet.Cloud Nat Chassis RstpBpdu

def switchedOn (topology : Nat → CtpMode) (hwaddr : Nat → Vector UInt8 6) : Cloud where
  node k := startUp k (cardTypeOf k) (topology k) (hwaddr k)
  flight := []

def recordedAge (k : Nat) (t : ChassisExist) : UInt8 := (t.entry (k - 1)).age

def maxAge (k : Nat) (cards : List Nat) (n : Cloud) : Nat :=
  (((cards.filter (· ≠ k)).map fun j => (recordedAge k (n.node j).ctpm.chassisExist).toNat) ++
    n.flight.map fun m => (recordedAge k m.chassisExist).toNat).foldr max 0

structure AgeBound (k : Nat) (b : UInt8) (c : Chassis) : Prop where
  apart : c.usCardNumber ≠ k ∨ ownAge ≤ b
  valid : 1 ≤ c.usCardNumber ∧ c.usCardNumber ≤ 48
  table : recordedAge k c.ctpm.chassisExist ≤ b
  sent : ∀ m ∈ c.sent, recordedAge k m.chassisExist ≤ b

section Tables

variable {k usNumber : Nat} {b : UInt8} {t : ChassisExist}

theorem recordedAge_setAge_zero (old : Nat) (h : recordedAge k t ≤ b) :
    recordedAge k (t.setAge old 0) ≤ b := by
  unfold recordedAge at h ⊢
  rw [ChassisExist.entry_setAge]
  split_ifs
  · exact UInt8.zero_le
  · exact h

theorem recordedAge_update {f : ChassisExist} (hk : 1 ≤ k ∧ k ≤ 48) (hf : recordedAge k f ≤ b)
    (ht : recordedAge k t ≤ b) : recordedAge k (updateChassisMember usNumber f t) ≤ b := by
  unfold recordedAge at *
  rcases age_updateChassisMember usNumber f t (k - 1) (by omega) with h | h
  · rw [h]; exact ht
  · rw [h]; exact hf

theorem recordedAge_dec (hk : 1 ≤ k ∧ k ≤ 48) (hap : usNumber ≠ k ∨ ownAge ≤ b)
    (ht : recordedAge k t ≤ b) : recordedAge k (decChassisMember usNumber t) ≤ b := by
  unfold recordedAge at *
  rw [entry_decChassisMember usNumber t (k - 1) (by omega)]
  unfold decEntry
  dsimp only
  split_ifs with hown hpos
  · exact hap.resolve_left fun hne => hne (by omega)
  · have hsub : ((t.entry (k - 1)).age - 1).toNat = (t.entry (k - 1)).age.toNat - 1 :=
      UInt8.toNat_sub_of_le _ _ hpos
    rw [UInt8.le_iff_toNat_le] at ht ⊢
    omega
  · exact ht

theorem recordedAge_clear (brId : BridgeId) (hus : 1 ≤ usNumber ∧ usNumber ≤ 48)
    (hk : 1 ≤ k ∧ k ≤ 48) (hap : usNumber ≠ k ∨ ownAge ≤ b) :
    recordedAge k (clearChassisMember usNumber brId) ≤ b := by
  unfold recordedAge
  rw [entry_clearChassisMember usNumber brId (k - 1) hus.1 hus.2]
  split_ifs with hown
  · exact hap.resolve_left fun hne => hne (by omega)
  · exact UInt8.zero_le

end Tables

namespace AgeBound

variable {k : Nat} {b : UInt8} {c c' : Chassis} {m : RstpBpdu}

theorem congr (h : AgeBound k b c) (hsame : SameCard c c')
    (ht : recordedAge k c'.ctpm.chassisExist ≤ b) (hsent : c'.sent = c.sent) :
    AgeBound k b c' :=
  ⟨hsame.number ▸ h.apart, hsame.number ▸ h.valid, ht, hsent ▸ h.sent⟩

theorem ready (h : AgeBound k b c) (rx : List RxHeader) : AgeBound k b (ready rx c) :=
  ⟨h.apart, h.valid, h.table, by simp⟩

theorem merge (h : AgeBound k b c) (hk : 1 ≤ k ∧ k ≤ 48)
    (hm : recordedAge k m.chassisExist ≤ b) : AgeBound k b (inUpdateChassisMember m c) :=
  h.congr (sameCard_inUpdateChassisMember m c) (recordedAge_update hk hm h.table) rfl

theorem tx (h : AgeBound k b c) (hk : 1 ≤ k ∧ k ≤ 48) (bpduType : UInt8) :
    AgeBound k b (txInfoBpdu bpduType c) := by
  have hdec := recordedAge_dec hk h.apart h.table
  refine ⟨h.apart, h.valid, hdec, fun m hm => ?_⟩
  rcases List.mem_append.mp hm with hm | hm
  · exact h.sent m hm
  · rw [List.mem_singleton.mp hm]; exact hdec

theorem adopt (h : AgeBound k b c) (hk : 1 ≤ k ∧ k ≤ 48)
    (hm : recordedAge k m.chassisExist ≤ b) (wr wd : Bool) :
    AgeBound k b (adopt wr wd m c) := by
  refine h.congr (sameCard_adopt wr wd m c) ?_ (by simp only [adopt_frame])
  simp only [adopt_frame]
  exact recordedAge_update hk hm h.table

theorem block (h : AgeBound k b c) (hk : 1 ≤ k ∧ k ≤ 48) : AgeBound k b (enterBlock c) := by
  refine h.congr (sameCard_enterBlock c) ?_ (by simp)
  simp only [enterBlock_frame, blocked_frame]
  exact recordedAge_clear _ h.valid hk h.apart

theorem drop (h : AgeBound k b c) (old : Nat) : AgeBound k b (dropLc old c) :=
  h.congr (sameCard_dropLc old c) (recordedAge_setAge_zero old h.table) rfl

theorem elect (h : AgeBound k b c) (old i : Nat) : AgeBound k b (electLc old i c) :=
  h.congr (sameCard_electLc old i c) (recordedAge_setAge_zero old h.table) rfl

theorem restart (h : AgeBound k b c) : AgeBound k b (restartTimer c) :=
  h.congr (sameCard_restartTimer c) h.table rfl

theorem times (h : AgeBound k b c) (m : RstpBpdu) : AgeBound k b (takeTimes m c) :=
  h.congr (sameCard_takeTimes m c) h.table rfl

theorem wake (h : AgeBound k b c) : AgeBound k b (wake c) :=
  h.congr (sameCard_wake c) h.table rfl

theorem timer (h : AgeBound k b c) (n : Nat) :
    AgeBound k b { c with ctpm.timeSinceTopoChange := n } :=
  ⟨h.apart, h.valid, h.table, h.sent⟩

theorem sync (h : AgeBound k b c) (m : RstpBpdu) : AgeBound k b (lcSyncToHello m c) := by
  refine h.congr (sameCard_lcSyncToHello m c) ?_ (by simp)
  have ht : (lcSyncToHello m c).ctpm.chassisExist = c.ctpm.chassisExist := by
    unfold lcSyncToHello
    dsimp only
    split_ifs <;> rfl
  rw [ht]
  exact h.table

theorem forget (h : AgeBound k b c) : AgeBound k b (forgetRootLc c) := by
  refine h.congr (sameCard_forgetRootLc c) ?_ (by simp)
  unfold forgetRootLc
  dsimp only
  split_ifs
  · exact recordedAge_setAge_zero _ h.table
  · exact h.table
  · exact h.table

end AgeBound

section Events

variable {k : Nat} {b : UInt8} {c c' : Chassis} {m : RstpBpdu}

theorem LineRx.ageBound (h : LineRx m c c') (hc : AgeBound k b c) (hk : 1 ≤ k ∧ k ≤ 48)
    (hm : recordedAge k m.chassisExist ≤ b) : AgeBound k b c' := by
  cases h with
  | wake => exact ((((hc.wake).adopt hk hm _ _).times m).tx hk _).merge hk hm
  | adopt => exact (hc.adopt hk hm _ _).merge hk hm
  | agree => exact hc.merge hk hm
  | lcChange => exact (((((hc.merge hk hm).tx hk _).restart).forget).block hk)
  | sync => exact ((hc.merge hk hm).restart).sync m
  | relay => exact ((hc.merge hk hm).restart).tx hk _
  | reply => exact ((hc.merge hk hm).restart).tx hk _
  | config => exact (hc.merge hk hm).tx hk _
  | other => exact hc.merge hk hm
  | disabled => exact hc

theorem FabricRx.ageBound (h : FabricRx m c c') (hc : AgeBound k b c) (hk : 1 ≤ k ∧ k ≤ 48)
    (hm : recordedAge k m.chassisExist ≤ b) : AgeBound k b c' := by
  cases h with
  | wake => exact (((hc.wake).adopt hk hm _ _).times m).merge hk hm
  | adopt => exact (hc.adopt hk hm _ _).merge hk hm
  | agree => exact hc.merge hk hm
  | sync => exact ((hc.merge hk hm).restart).sync m
  | echo => exact ((hc.merge hk hm).restart).tx hk _
  | hear => exact (hc.merge hk hm).restart
  | config => exact (hc.merge hk hm).tx hk _
  | elect => exact ((hc.merge hk hm).elect _ _).tx hk _
  | alone => exact ((hc.merge hk hm).drop _).block hk
  | lcChange => exact (hc.merge hk hm).block hk
  | other => exact hc.merge hk hm
  | disabled => exact hc

theorem Ticked.ageBound (h : Ticked c c') (hc : AgeBound k b c) (hk : 1 ≤ k ∧ k ≤ 48) :
    AgeBound k b c' := by
  cases h with
  | config => exact (hc.timer _).tx hk _
  | blockTimeout => exact ⟨hc.apart, hc.valid, hc.table, hc.sent⟩
  | blockLine => exact hc
  | learn => exact ⟨hc.apart, hc.valid, hc.table, hc.sent⟩
  | listenFabric => exact (hc.timer _).tx hk _
  | listenLine => exact hc.timer _
  | learning => exact (hc.tx hk _).timer _
  | forward => exact ⟨hc.apart, hc.valid, hc.table, hc.sent⟩
  | elect _ _ _ i => exact ((hc.elect _ i).timer _).tx hk _
  | alone => exact ((hc.drop _).block hk).tx hk _
  | hello => exact (hc.tx hk _).timer _
  | lost => exact hc.block hk
  | wait => exact hc.timer _
  | disabled => exact hc

theorem ageBound_step {e : Event} (hc : AgeBound k b c) (hk : 1 ≤ k ∧ k ≤ 48)
    (he : ∀ bpdu len, e = .rx bpdu len → recordedAge k bpdu.chassisExist ≤ b) :
    AgeBound k b (step e c) := by
  have h := stepped e c
  generalize step e c = c' at h
  cases h with
  | idle => exact hc.ready _
  | tick _ h => exact h.ageBound (hc.ready _) hk
  | dropped _ rx => exact hc.ready rx
  | line _ _ h => exact h.ageBound (hc.ready _) hk (he _ _ rfl)
  | fabric _ _ h => exact h.ageBound (hc.ready _) hk (he _ _ rfl)
  | exit =>
    unfold signalExit
    dsimp only
    split_ifs
    · exact ((hc.ready _).block hk).tx hk _
    · exact (hc.ready _).block hk

end Events

section Cloud

def AgeKept (k : Nat) (b : UInt8) (j : Nat) (c : Chassis) : Prop :=
  c.usCardNumber = j ∧ recordedAge k c.ctpm.chassisExist ≤ b

variable {k : Nat} {b : UInt8} {live : Nat → Prop}

theorem AgeKept.bound {j : Nat} {c : Chassis} (h : AgeKept k b j c) (hj : 1 ≤ j ∧ j ≤ 48)
    (hap : j ≠ k ∨ ownAge ≤ b) : AgeBound k b (ready c.rxBpdu c) :=
  ⟨by simpa [h.1] using hap, by simpa [h.1] using hj, h.2, by simp⟩

theorem ageKept_step {j : Nat} {c : Chassis} {e : Event} (h : AgeKept k b j c)
    (hj : 1 ≤ j ∧ j ≤ 48) (hk : 1 ≤ k ∧ k ≤ 48) (hap : j ≠ k ∨ ownAge ≤ b)
    (he : ∀ bpdu len, e = .rx bpdu len → recordedAge k bpdu.chassisExist ≤ b) :
    AgeKept k b j (step e c) ∧
      ∀ m ∈ (step e c).sent, recordedAge k m.chassisExist ≤ b := by
  have hstep : step e c = step e (ready c.rxBpdu c) := rfl
  have hb := ageBound_step (h.bound hj hap) hk he
  rw [← hstep] at hb
  exact ⟨⟨(sameCard_step e c).number.trans h.1, hb.table⟩, hb.sent⟩

theorem closed_ageKept (hk : 1 ≤ k ∧ k ≤ 48) (hlive : ∀ j, live j → 1 ≤ j ∧ j ≤ 48)
    (hap : ∀ j, live j → j ≠ k ∨ ownAge ≤ b) :
    LossyNet.Closed chassisMachine live (AgeKept k b)
      (fun m => recordedAge k m.chassisExist ≤ b) where
  act j e c hj h := by
    refine ageKept_step h (hlive j hj) hk (hap j hj) fun bpdu len he => ?_
    cases e <;> cases he
  recv j m c hj h hm := by
    refine ageKept_step h (hlive j hj) hk (hap j hj) fun bpdu len he => ?_
    cases he
    exact hm

theorem foldr_max_le {l : List Nat} {b : Nat} : l.foldr max 0 ≤ b ↔ ∀ x ∈ l, x ≤ b := by
  induction l with
  | nil => simp
  | cons x l ih => simp [ih]

theorem maxAge_le {cards : List Nat} {n : Cloud} :
    maxAge k cards n ≤ b.toNat ↔
      (∀ j ∈ cards, j ≠ k → recordedAge k (n.node j).ctpm.chassisExist ≤ b) ∧
        ∀ m ∈ n.flight, recordedAge k m.chassisExist ≤ b := by
  simp only [maxAge, foldr_max_le, List.mem_append, List.mem_map, List.mem_filter,
    decide_eq_true_eq, UInt8.le_iff_toNat_le]
  constructor
  · intro h
    exact ⟨fun j hj hne => h _ (.inl ⟨j, ⟨hj, hne⟩, rfl⟩), fun m hm => h _ (.inr ⟨m, hm, rfl⟩)⟩
  · rintro ⟨hnode, hflight⟩ x (⟨j, ⟨hj, hne⟩, rfl⟩ | ⟨m, hm, rfl⟩)
    · exact hnode j hj hne
    · exact hflight m hm

theorem maxAge_lt (cards : List Nat) (n : Cloud) : maxAge k cards n < 256 := by
  have hall (x : UInt8) : x ≤ 255 := UInt8.le_iff_toNat_le.mpr (Nat.le_of_lt_succ x.toNat_lt)
  have h : maxAge k cards n ≤ (255 : UInt8).toNat :=
    maxAge_le.mpr ⟨fun _ _ _ => hall _, fun _ _ => hall _⟩
  exact Nat.lt_succ_of_le h

theorem dead_card_not_resurrected (cards : List Nat) (hcards : ∀ j ∈ cards, 1 ≤ j ∧ j ≤ 48)
    (topology : Nat → CtpMode) (hwaddr : Nat → Vector UInt8 6) (k : Nat) (hk : 1 ≤ k ∧ k ≤ 48)
    (n n' : Cloud)
    (hreach : LossyNet.Reach chassisMachine (· ∈ cards) (switchedOn topology hwaddr) n)
    (hdead : LossyNet.Reach chassisMachine (fun j => j ∈ cards ∧ j ≠ k) n n') :
    maxAge k cards n' ≤ maxAge k cards n ∧
      maxAge k cards n ≤ 5 * defaultForwardDelay.toNat + 1 := by
  have hnum : ∀ n, LossyNet.Reach chassisMachine (· ∈ cards) (switchedOn topology hwaddr) n →
      LossyNet.Local (· ∈ cards) (AgeKept k ownAge)
        (fun m => recordedAge k m.chassisExist ≤ ownAge) n := by
    intro n hn
    refine (closed_ageKept hk hcards fun _ _ => .inr (UInt8.le_refl _)).reach (fun _ h => h) ?_ hn
    refine ⟨fun j hj => ⟨by simp [switchedOn], ?_⟩, by simp [switchedOn]⟩
    simp only [switchedOn, startUp_ctpm, blocked_frame]
    exact recordedAge_clear _ (hcards j hj) hk (.inr (UInt8.le_refl _))
  constructor
  · obtain ⟨b, hb⟩ : ∃ b : UInt8, b.toNat = maxAge k cards n :=
      ⟨UInt8.ofNat (maxAge k cards n), by
        rw [UInt8.toNat_ofNat', Nat.mod_eq_of_lt (maxAge_lt cards n)]⟩
    rw [← hb, maxAge_le]
    have hbound := maxAge_le.mp hb.ge
    have hlocal : LossyNet.Local (fun j => j ∈ cards ∧ j ≠ k) (AgeKept k b)
        (fun m => recordedAge k m.chassisExist ≤ b) n :=
      ⟨fun j hj => ⟨((hnum n hreach).1 j hj.1).1, hbound.1 j hj.1 hj.2⟩, hbound.2⟩
    have hend := (closed_ageKept hk (fun j hj => hcards j hj.1) fun j hj => .inl hj.2).reach
      (fun _ h => h) hlocal hdead
    exact ⟨fun j hj hne => (hend.1 j ⟨hj, hne⟩).2, hend.2⟩
  · have hall := hnum n hreach
    exact maxAge_le.mpr ⟨fun j hj _ => (hall.1 j hj).2, hall.2⟩

def configInFlight : Cloud :=
  LossyNet.acted chassisMachine 33 Own.tick
    (switchedOn (fun _ => .enabled) fun _ => Vector.replicate 6 0)

theorem reach_configInFlight :
    LossyNet.Reach chassisMachine (· ∈ [1, 33])
      (switchedOn (fun _ => .enabled) fun _ => Vector.replicate 6 0) configInFlight :=
  .single (.act _ 33 Own.tick (by simp))

theorem mem_configInFlight : configFrame 33 ∈ configInFlight.flight := by decide +kernel

theorem dead_fabric_card_not_resurrected :
    ∃ n' : Cloud,
      LossyNet.Reach chassisMachine (fun j => j ∈ [1, 33] ∧ j ≠ 33) configInFlight n' ∧
      maxAge 33 [1, 33] n' ≤ maxAge 33 [1, 33] configInFlight ∧
      maxAge 33 [1, 33] configInFlight ≤ 5 * defaultForwardDelay.toNat + 1 := by
  have hdead : LossyNet.Reach chassisMachine (fun j => j ∈ [1, 33] ∧ j ≠ 33) configInFlight _ :=
    .single (.recv configInFlight 1 (configFrame 33) (by simp) mem_configInFlight)
  exact ⟨_, hdead, dead_card_not_resurrected [1, 33] (by simp) (fun _ => .enabled)
    (fun _ => Vector.replicate 6 0) 33 (by decide) configInFlight _ reach_configInFlight hdead⟩

end Cloud

end Chassisd
