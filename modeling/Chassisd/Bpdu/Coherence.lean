import Chassisd.Bpdu.Identity

namespace Chassisd

def RootCoherent (this : Ctpm) : Prop :=
  this.rootPortId = this.rootPrio.rootBridge.number ∧
    this.rootPrio.bridgePort = this.rootPrio.rootBridge.number

def LcCoherent (this : Ctpm) : Prop := this.rootLCPortId = this.rootPrio.designBridge.number

def Coherent (this : Ctpm) : Prop := RootCoherent this ∧ LcCoherent this

-- The re-election takes slot i of the table and stores i where the other writers store the number
-- in the id of that entry.
def MisElects (old : Nat) (c : Chassis) : Prop :=
  ∃ i, heir c.usCardNumber (c.ctpm.chassisExist.setAge old 0) = some i ∧
    ((c.ctpm.chassisExist.setAge old 0).entry i).id.number ≠ i

def MisElection (c : Chassis) : Event → Prop
  | .tick => c.ctpm.adminState = .enabled ∧ c.ctpm.state = .forwarding ∧
      c.usCardNumber = c.ctpm.rootPortId ∧ 15 < c.ctpm.timeSinceTopoChange ∧
      MisElects c.ctpm.rootLCPortId c
  | .rx bpdu len => Handled bpdu len c ∧ c.type = .fabricCard ∧ c.ctpm.state = .forwarding ∧
      bpdu.bpduType = bpduTypeFcChange ∧ bpdu.rootId = c.ctpm.brId.number ∧
      MisElects bpdu.dbridgeId (inUpdateChassisMember bpdu c)
  | .exit => False

theorem coherent_congr {a b : Ctpm} (hroot : b.rootPortId = a.rootPortId)
    (hlc : b.rootLCPortId = a.rootLCPortId) (hprio : b.rootPrio = a.rootPrio) :
    Coherent b ↔ Coherent a := by
  unfold Coherent RootCoherent LcCoherent
  rw [hroot, hlc, hprio]

theorem Coherent.congr {a b : Ctpm} (h : Coherent a) (hroot : b.rootPortId = a.rootPortId)
    (hlc : b.rootLCPortId = a.rootLCPortId) (hprio : b.rootPrio = a.rootPrio) : Coherent b :=
  (coherent_congr hroot hlc hprio).mpr h

theorem coherent_blocked {k : Nat} {this : Ctpm} (h : this.brId.number = k) :
    Coherent (this.blocked k) := by
  have hz : PrioVector.zero.rootBridge.number = 0 := number_zero
  have hz' : PrioVector.zero.designBridge.number = 0 := number_zero
  unfold Ctpm.blocked
  split_ifs
  · exact ⟨⟨hz.symm, hz.symm⟩, h.symm⟩
  · exact ⟨⟨h.symm, h.symm⟩, hz'.symm⟩

section Reception

variable {bpdu : RstpBpdu} {c c' : Chassis} {wr wd : Bool}

theorem lcCoherent_adopt (h : LcCoherent c.ctpm) : LcCoherent (adopt wr wd bpdu c).ctpm := by
  unfold LcCoherent
  rw [(adopt_designated bpdu c wr wd).1, (adopt_designated bpdu c wr wd).2]
  split_ifs
  · exact (number_bridgeId bpdu).symm
  · exact h

theorem rootCoherent_adopt (h : RootCoherent c.ctpm) :
    RootCoherent (adopt wr wd bpdu c).ctpm := by
  obtain ⟨hport, hprio, hid⟩ := adopt_root bpdu c wr wd
  unfold RootCoherent
  rw [hport, hprio, hid]
  split_ifs
  · exact ⟨(number_rootId bpdu).symm, (number_rootId bpdu).symm⟩
  · exact h

theorem coherent_adopt (wr wd : Bool) (bpdu : RstpBpdu) (h : Coherent c.ctpm) :
    Coherent (adopt wr wd bpdu c).ctpm :=
  ⟨rootCoherent_adopt h.1, lcCoherent_adopt h.2⟩

theorem coherent_lcSyncToHello (hs : c.ctpm.state = .forwarding)
    (h0 : c.ctpm.timeSinceTopoChange = 0) (h : Coherent c.ctpm) :
    Coherent (lcSyncToHello bpdu c).ctpm := by
  rw [lcSyncToHello_ctpm bpdu c hs h0]
  split_ifs
  · exact ⟨h.1, (number_bridgeId bpdu).symm⟩
  · exact h

theorem LineRx.coherent (h : LineRx bpdu c c') (hc : Coherent c.ctpm)
    (hown : c.ctpm.brId.number = c.usCardNumber) : Coherent c'.ctpm := by
  cases h with
  | wake =>
    have hwake : Coherent (Chassisd.wake c).ctpm := hc
    refine (coherent_adopt false (bpdu.bpduType == bpduTypeHello) bpdu hwake).congr ?_ ?_ ?_ <;>
      simp only [inUpdateChassisMember_frame, txInfoBpdu_frame, takeTimes_frame]
  | adopt =>
    refine (coherent_adopt false (bpdu.bpduType == bpduTypeHello) bpdu hc).congr ?_ ?_ ?_ <;>
      simp only [inUpdateChassisMember_frame]
  | lcChange =>
    simp only [enterBlock_frame, forgetRootLc_frame, restartTimer_frame, txInfoBpdu_frame,
      inUpdateChassisMember_frame]
    exact coherent_blocked hown
  | sync hs =>
    exact coherent_lcSyncToHello (c := restartTimer (inUpdateChassisMember bpdu c)) hs rfl hc
  | agree | relay | reply | config | other | disabled => exact hc

end Reception

theorem coherent_electLc {c : Chassis} (old i : Nat) (h : Coherent c.ctpm) :
    Coherent (electLc old i c).ctpm ↔
      ((c.ctpm.chassisExist.setAge old 0).entry i).id.number = i := by
  constructor
  · rintro ⟨-, hlc⟩; exact hlc.symm
  · intro hi; exact ⟨h.1, hi.symm⟩

theorem misElects_iff {old i : Nat} {c : Chassis}
    (h : heir c.usCardNumber (c.ctpm.chassisExist.setAge old 0) = some i) :
    MisElects old c ↔ ((c.ctpm.chassisExist.setAge old 0).entry i).id.number ≠ i := by
  unfold MisElects
  rw [h]
  simp

theorem not_misElects {old : Nat} {c : Chassis}
    (h : heir c.usCardNumber (c.ctpm.chassisExist.setAge old 0) = none) : ¬ MisElects old c := by
  unfold MisElects
  rw [h]
  simp

theorem FabricRx.coherent {bpdu : RstpBpdu} {c c' : Chassis} (h : FabricRx bpdu c c')
    (hc : Coherent c.ctpm) (hown : c.ctpm.brId.number = c.usCardNumber) :
    Coherent c'.ctpm ↔ ¬ (c.ctpm.state = .forwarding ∧ bpdu.bpduType = bpduTypeFcChange ∧
      bpdu.rootId = c.ctpm.brId.number ∧
      MisElects bpdu.dbridgeId (inUpdateChassisMember bpdu c)) := by
  cases h with
  | wake hs =>
    refine iff_of_true ?_ (by simp [hs])
    have hwake : Coherent (Chassisd.wake c).ctpm := hc
    refine (coherent_adopt (forwardingBit bpdu == 1) false bpdu hwake).congr ?_ ?_ ?_ <;>
      simp only [inUpdateChassisMember_frame, takeTimes_frame]
  | adopt hs =>
    refine iff_of_true ?_ (by rcases hs with hs | hs <;> simp [hs])
    refine (coherent_adopt (forwardingBit bpdu == 1) false bpdu hc).congr ?_ ?_ ?_ <;>
      simp only [inUpdateChassisMember_frame]
  | agree hs => exact iff_of_true hc (by rcases hs with hs | hs <;> simp [hs])
  | sync hs ht =>
    refine iff_of_true ?_ (by simp [ht])
    exact coherent_lcSyncToHello (c := restartTimer (inUpdateChassisMember bpdu c)) hs rfl hc
  | echo hs ht => exact iff_of_true hc (by simp [ht])
  | hear hs ht => exact iff_of_true hc (by simp [ht])
  | config hs ht => exact iff_of_true hc (by simp [ht])
  | elect hs ht hr i hi =>
    have hmis := misElects_iff (c := inUpdateChassisMember bpdu c) hi
    simp only [hs, ht, hr, true_and, hmis, not_not]
    have helect := coherent_electLc (c := inUpdateChassisMember bpdu c) bpdu.dbridgeId i hc
    refine (coherent_congr ?_ ?_ ?_).trans helect <;> simp only [txInfoBpdu_frame]
  | alone hs ht hr hi =>
    have hmis := not_misElects (c := inUpdateChassisMember bpdu c) hi
    refine iff_of_true ?_ (fun h => hmis h.2.2.2)
    simp only [enterBlock_frame, dropLc_frame, inUpdateChassisMember_frame]
    exact coherent_blocked hown
  | lcChange hs ht hr =>
    refine iff_of_true ?_ (by simp [ht])
    simp only [enterBlock_frame, inUpdateChassisMember_frame]
    exact coherent_blocked hown
  | other hs ht hr => exact iff_of_true hc (fun h => hr h.2.1 h.2.2.1)
  | disabled hs => exact iff_of_true hc (by simp [hs])

theorem Ticked.coherent {c c' : Chassis} (h : Ticked c c') (hc : Coherent c.ctpm)
    (hown : c.ctpm.brId.number = c.usCardNumber) :
    Coherent c'.ctpm ↔ ¬ (c.ctpm.state = .forwarding ∧ c.usCardNumber = c.ctpm.rootPortId ∧
      15 < c.ctpm.timeSinceTopoChange ∧ MisElects c.ctpm.rootLCPortId c) := by
  cases h with
  | elect hs hroot ht i hi =>
    have hmis := misElects_iff hi
    simp only [hs, hroot.symm, ht, true_and, hmis, not_not]
    have helect := coherent_electLc c.ctpm.rootLCPortId i hc
    refine (coherent_congr ?_ ?_ ?_).trans helect <;> simp only [txInfoBpdu_frame]
  | alone hs hroot ht hi =>
    refine iff_of_true ?_ (fun h => not_misElects hi h.2.2.2)
    simp only [txInfoBpdu_frame, enterBlock_frame, dropLc_frame]
    exact coherent_blocked hown
  | hello hs hroot ht => exact iff_of_true hc (fun h => absurd h.2.2.1 (by omega))
  | lost hs hroot ht =>
    refine iff_of_true ?_ (fun h => hroot h.2.1)
    simp only [enterBlock_frame]
    exact coherent_blocked hown
  | wait hs hroot ht => exact iff_of_true hc (fun h => hroot h.2.1)
  | config hs | blockTimeout hs | blockLine hs | learn hs | listenFabric hs | listenLine hs
  | learning hs | forward hs | disabled hs => exact iff_of_true hc (by simp [hs])

theorem coherent_step {c : Chassis} {e : Event} (hc : Coherent c.ctpm)
    (hown : c.ctpm.brId.number = c.usCardNumber) :
    Coherent (step e c).ctpm ↔ ¬ MisElection c e := by
  have h := stepped e c
  generalize step e c = c' at h
  cases h with
  | idle hn => exact iff_of_true hc (fun h => hn h.1)
  | tick hadmin h =>
    rw [h.coherent hc hown]
    simp only [MisElection, hadmin, true_and]
    exact Iff.rfl
  | dropped hn => exact iff_of_true hc (fun h => hn h.1)
  | line hh htype h =>
    exact iff_of_true (h.coherent hc hown) (fun h => by
      have htype' := h.2.1; rw [htype] at htype'; cases htype')
  | fabric hh htype h =>
    rw [h.coherent hc hown]
    simp only [MisElection, hh, htype, true_and]
    exact Iff.rfl
  | exit =>
    refine iff_of_true ?_ id
    unfold signalExit
    dsimp only
    have hb := coherent_blocked hown
    split_ifs <;> simp only [txInfoBpdu_frame, enterBlock_frame] <;> exact hb

theorem brId_startUp (k : Nat) (hk : k < 256) (type : CardType) (topology : CtpMode)
    (hwaddr : Vector UInt8 6) : (startUp k type topology hwaddr).ctpm.brId.number = k := by
  rw [(startUp_frame k type topology hwaddr).2.2.2.2.1, number_initial k hk]

theorem coherent_startUp (k : Nat) (hk : k < 256) (type : CardType) (topology : CtpMode)
    (hwaddr : Vector UInt8 6) : Coherent (startUp k type topology hwaddr).ctpm := by
  have hb := brId_startUp k hk type topology hwaddr
  rw [startUp_ctpm] at hb ⊢
  exact coherent_blocked (by simpa using hb)

theorem coherent_iff_no_misElection (k : Nat) (hk : k ≤ 48) (type : CardType)
    (topology : CtpMode) (hwaddr : Vector UInt8 6) (es : List Event) :
    Coherent (startUp k type topology hwaddr).ctpm ∧
      (Runs.Along step (fun c e => Coherent (step e c).ctpm) (startUp k type topology hwaddr) es ↔
        Runs.Along step (fun c e => ¬ MisElection c e) (startUp k type topology hwaddr) es) := by
  have h0 := coherent_startUp k (by omega) type topology hwaddr
  have hown : (startUp k type topology hwaddr).ctpm.brId.number =
      (startUp k type topology hwaddr).usCardNumber := by
    rw [brId_startUp k (by omega)]; simp
  refine ⟨h0, Runs.along_iff
    (I := fun c => Coherent c.ctpm ∧ c.ctpm.brId.number = c.usCardNumber) ?_ ?_ ⟨h0, hown⟩⟩
  · rintro c e ⟨hc, hown⟩ hn
    have hsame := sameCard_step e c
    exact ⟨(coherent_step hc hown).mpr hn, by rw [hsame.brId, hsame.number, hown]⟩
  · rintro c e ⟨hc, hown⟩
    exact coherent_step hc hown

theorem coherent_woken_card :
    Runs.Along step (fun c e => Coherent (step e c).ctpm)
      (startUp 1 .lineCard .enabled (Vector.replicate 6 0))
      [.tick, .rx (configFrame 33) RstpBpdu.sizeof] := by
  refine ((coherent_iff_no_misElection 1 (by decide) .lineCard .enabled (Vector.replicate 6 0)
    _).2).mpr ⟨fun h => ?_, fun h => ?_, trivial⟩
  · have hs := h.2.1
    revert hs
    decide +kernel
  · have htype := h.2.1
    revert htype
    decide +kernel

def lostDesignated : List Event :=
  [.rx (replyFrame 1 33) RstpBpdu.sizeof, .rx (replyFrame 3 33) RstpBpdu.sizeof] ++
    List.replicate 25 .tick ++ [.rx (replyFrame 3 33) RstpBpdu.sizeof, .tick]

set_option maxRecDepth 100000 in
theorem elected_slot_and_number_differ :
    ¬ ∀ (k : Nat), k ≤ 48 → ∀ (type : CardType) (topology : CtpMode) (hwaddr : Vector UInt8 6)
      (es : List Event),
      (∀ bpdu len, Event.rx bpdu len ∈ es → bpdu.rootId ≤ 48 ∧ bpdu.dbridgeId ≤ 48) →
      Coherent (Runs.run step (startUp k type topology hwaddr) es).ctpm := by
  intro h
  have hframes : ∀ bpdu len, Event.rx bpdu len ∈ lostDesignated →
      bpdu.rootId ≤ 48 ∧ bpdu.dbridgeId ≤ 48 := by
    intro bpdu len hmem
    have hcases : bpdu = replyFrame 1 33 ∨ bpdu = replyFrame 3 33 := by
      simp [lostDesignated] at hmem
      tauto
    rcases hcases with rfl | rfl <;> decide +kernel
  have hlc := (h 33 (by decide) .fabricCard .enabled (Vector.replicate 6 0) lostDesignated
    hframes).2
  unfold LcCoherent at hlc
  revert hlc
  decide +kernel

end Chassisd
