import Chassisd.Bpdu.Coherence

namespace Chassisd

def ActsOn (k : Nat) (m : RstpBpdu) (f : Chassis) : Prop :=
  ((step (.rx m RstpBpdu.sizeof) f).ctpm.rootLCPortId ≠ k ∧
      ∃ h ∈ (step (.rx m RstpBpdu.sizeof) f).sent, h.bpduType = bpduTypeHello) ∨
    ((step (.rx m RstpBpdu.sizeof) f).ctpm.state = .block ∧
      ∀ i < 32, i + 1 ≠ k → ((inUpdateChassisMember m f).ctpm.chassisExist.entry i).age < 3)

structure ForwardingRoot (r : Nat) (f : Chassis) : Prop where
  reached : ∃ (hwaddr : Vector UInt8 6) (es : List Event),
    f = Runs.run step (startUp r .fabricCard .enabled hwaddr) es
  range : 33 ≤ r ∧ r ≤ 48
  state : f.ctpm.state = .forwarding
  root : f.ctpm.rootPortId = r

def Announces (c : Chassis) : Prop :=
  ∃ m ∈ (step .exit c).sent, m.bpduType = bpduTypeFcChange

def HandsOver (c : Chassis) : Prop :=
  (Announces c ↔ c.ctpm.rootLCPortId = c.usCardNumber) ∧
    ∀ m ∈ (step .exit c).sent, m.bpduType = bpduTypeFcChange →
      ∀ f, ForwardingRoot c.ctpm.rootPortId f → (checkRxBpduInterval m f.rxBpdu).1 = 0 →
        ActsOn c.usCardNumber m f

theorem sent_exit (c : Chassis) (hl : 1 ≤ c.usCardNumber ∧ c.usCardNumber ≤ 32) :
    (step .exit c).sent = [infoBpdu c.usCardNumber (c.ctpm.blocked c.usCardNumber)
      (decChassisMember c.usCardNumber (c.ctpm.blocked c.usCardNumber).chassisExist)
      bpduTypeFcChange] := by
  have hlc : c.usCardNumber = (enterBlock (quiet c)).ctpm.rootLCPortId := by
    rw [(enterBlock_frame (quiet c)).2.2.1]
    change c.usCardNumber = (c.ctpm.blocked c.usCardNumber).rootLCPortId
    rw [blocked_of_line _ hl]
    rfl
  change (signalExit (quiet c)).sent = _
  have hnum : (enterBlock (quiet c)).usCardNumber = c.usCardNumber :=
    (enterBlock_frame (quiet c)).1
  rw [signalExit, if_pos (hnum.trans hlc)]
  simp only [txInfoBpdu_frame, enterBlock_frame]
  rfl

theorem announces_exit (c : Chassis) (hl : 1 ≤ c.usCardNumber ∧ c.usCardNumber ≤ 32) :
    Announces c := by
  unfold Announces
  rw [sent_exit c hl]
  exact ⟨_, List.mem_singleton_self _, rfl⟩

theorem rootId_exit {c : Chassis} (hl : 1 ≤ c.usCardNumber ∧ c.usCardNumber ≤ 32)
    {m : RstpBpdu} (hm : m ∈ (step .exit c).sent) :
    m.rootId = 0 ∧ m.bpduType = bpduTypeFcChange ∧ m.slotid = c.usCardNumber := by
  rw [sent_exit c hl, List.mem_singleton] at hm
  subst hm
  refine ⟨?_, rfl, infoBpdu_slotid _ _ _ _ (by omega)⟩
  rw [infoBpdu_rootId, blocked_of_line _ hl]
  exact number_zero

theorem brId_run (k : Nat) (hk : k < 256) (type : CardType) (topology : CtpMode)
    (hwaddr : Vector UInt8 6) (es : List Event) :
    (Runs.run step (startUp k type topology hwaddr) es).ctpm.brId.number = k := by
  rw [(sameCard_run es _).brId, brId_startUp k hk]

theorem number_run (k : Nat) (type : CardType) (topology : CtpMode)
    (hwaddr : Vector UInt8 6) (es : List Event) :
    (Runs.run step (startUp k type topology hwaddr) es).usCardNumber = k ∧
      (Runs.run step (startUp k type topology hwaddr) es).type = type := by
  have h := sameCard_run es (startUp k type topology hwaddr)
  exact ⟨by rw [h.number]; simp, by rw [h.type]; simp⟩

theorem rx_nameless {f : Chassis} {m : RstpBpdu} (htype : f.type = .fabricCard)
    (hs : f.ctpm.state = .forwarding) (hm : m.bpduType = bpduTypeFcChange)
    (hr : m.rootId ≠ f.ctpm.brId.number) :
    (step (.rx m RstpBpdu.sizeof) f).sent = [] ∧
      (step (.rx m RstpBpdu.sizeof) f).ctpm.state = .forwarding := by
  have h := stepped (.rx m RstpBpdu.sizeof) f
  generalize step (.rx m RstpBpdu.sizeof) f = f' at h
  cases h with
  | dropped => exact ⟨rfl, hs⟩
  | line _ hline => rw [htype] at hline; cases hline
  | fabric _ _ h =>
    have hne : bpduTypeFcChange ≠ bpduTypeHello := by decide
    have hne' : bpduTypeFcChange ≠ bpduTypeConfig := by decide
    have hne'' : bpduTypeFcChange ≠ bpduTypeLcChange := by decide
    cases h with
    | wake hs' => exact absurd (hs.symm.trans hs') (by decide)
    | adopt hs' | agree hs' => exact absurd hs (waiting_ne_forwarding hs')
    | disabled hs' => exact absurd (hs.symm.trans hs') (by decide)
    | sync _ ht | echo _ ht | hear _ ht => exact absurd (hm.symm.trans ht) hne
    | config _ ht => exact absurd (hm.symm.trans ht) hne'
    | lcChange _ ht => exact absurd (hm.symm.trans ht) hne''
    | elect _ _ hr' | alone _ _ hr' => exact absurd hr' hr
    | other => exact ⟨rfl, hs⟩

theorem ForwardingRoot.ignores {r k : Nat} {f : Chassis} {m : RstpBpdu} (hf : ForwardingRoot r f)
    (hm : m.bpduType = bpduTypeFcChange) (hr : m.rootId = 0) : ¬ ActsOn k m f := by
  obtain ⟨⟨hwaddr, es, rfl⟩, hrange, hs, -⟩ := hf
  have hown := brId_run r (by omega) .fabricCard .enabled hwaddr es
  have htype := (number_run r .fabricCard .enabled hwaddr es).2
  obtain ⟨hsent, hstate⟩ := rx_nameless htype hs hm (by omega)
  rintro (⟨-, h, hh, -⟩ | ⟨hb, -⟩)
  · rw [hsent] at hh; cases hh
  · rw [hstate] at hb; cases hb

def rootRun (r : Nat) : List Event :=
  .rx (replyFrame 1 r) RstpBpdu.sizeof :: List.replicate 10 .tick

theorem rxBpdu_after_tick {c : Chassis} (hadmin : c.ctpm.adminState = .enabled) :
    (step .tick c).rxBpdu = clearRxBpduInterval := by
  have h := stepped .tick c
  generalize step .tick c = c' at h
  cases h with
  | idle hn => exact absurd hadmin hn
  | tick _ h => cases h <;> simp

set_option maxRecDepth 100000 in
theorem rootRun_forwards : ∀ r ∈ [33, 35, 37, 39, 41, 43, 45, 47],
    (Runs.run step (startUp r .fabricCard .enabled (Vector.replicate 6 0))
        (rootRun r)).ctpm.state = .forwarding ∧
      (Runs.run step (startUp r .fabricCard .enabled (Vector.replicate 6 0))
        (rootRun r)).ctpm.rootPortId = r := by
  decide +kernel

theorem exists_forwardingRoot {r : Nat} (hr : 33 ≤ r ∧ r ≤ 48 ∧ r % 2 = 1) :
    ∃ f, ForwardingRoot r f ∧ f.rxBpdu = clearRxBpduInterval := by
  have hmem : r ∈ [33, 35, 37, 39, 41, 43, 45, 47] := by
    simp only [List.mem_cons, List.not_mem_nil, or_false]; omega
  obtain ⟨hs, hroot⟩ := rootRun_forwards r hmem
  refine ⟨_, ⟨⟨_, _, rfl⟩, by omega, hs, hroot⟩, ?_⟩
  have hsame := sameCard_run (.rx (replyFrame 1 r) RstpBpdu.sizeof :: List.replicate 9 .tick)
    (startUp r .fabricCard .enabled (Vector.replicate 6 0))
  have hrun : rootRun r =
      (.rx (replyFrame 1 r) RstpBpdu.sizeof :: List.replicate 9 .tick) ++ [.tick] := rfl
  rw [hrun, Runs.run_concat]
  refine rxBpdu_after_tick ?_
  rw [hsame.admin]
  simp [hr.2.2]

structure Silenced (c : Chassis) : Prop where
  even : c.usCardNumber % 2 = 0
  admin : c.ctpm.adminState = .disabled
  state : c.ctpm.state = .block

theorem Silenced.step {c : Chassis} (h : Silenced c) (e : Event) : Silenced (step e c) := by
  have hsame := sameCard_step e c
  refine ⟨hsame.number ▸ h.even, hsame.admin.trans h.admin, ?_⟩
  have hstepped := stepped e c
  generalize Chassisd.step e c = c' at hstepped
  cases hstepped with
  | idle | dropped => exact h.state
  | tick hen => exact absurd (h.admin.symm.trans hen) CtpMode.noConfusion
  | line hh | fabric hh =>
    have heven := h.even
    have hodd := hh.2.1
    omega
  | exit =>
    unfold signalExit
    dsimp only
    split_ifs <;> simp

theorem even_card_blocks {k : Nat} (heven : k % 2 = 0) (type : CardType) (topology : CtpMode)
    (hwaddr : Vector UInt8 6) (es : List Event) :
    (Runs.run step (startUp k type topology hwaddr) es).ctpm.state = .block := by
  have h0 : Silenced (startUp k type topology hwaddr) :=
    ⟨by simpa using heven, by simp [heven], by simp⟩
  exact (Runs.invariant (I := Silenced) (fun _ e h => h.step e) h0 es).state

theorem handsOver_iff {c : Chassis} (hodd : c.usCardNumber % 2 = 1) (hk : c.usCardNumber ≤ 32) :
    HandsOver c ↔ c.ctpm.rootLCPortId = c.usCardNumber ∧
      ¬ (33 ≤ c.ctpm.rootPortId ∧ c.ctpm.rootPortId ≤ 48 ∧ c.ctpm.rootPortId % 2 = 1) := by
  have hl : 1 ≤ c.usCardNumber ∧ c.usCardNumber ≤ 32 := by omega
  constructor
  · rintro ⟨hann, hacts⟩
    refine ⟨hann.mp (announces_exit c hl), fun hr => ?_⟩
    obtain ⟨m, hm, htype⟩ := announces_exit c hl
    obtain ⟨hroot, -, hslot⟩ := rootId_exit hl hm
    obtain ⟨f, hf, hrx⟩ := exists_forwardingRoot hr
    refine hf.ignores htype hroot (hacts m hm htype f hf ?_)
    rw [hrx]
    exact (RxInterval.check_of_not_mem RxInterval.holds_clear (by omega) (by decide)
      (by simp)).1
  · rintro ⟨hlc, hr⟩
    refine ⟨iff_of_true (announces_exit c hl) hlc, fun m _ _ f hf => ?_⟩
    obtain ⟨⟨hwaddr, es, rfl⟩, hrange, hs, -⟩ := hf
    by_cases heven : c.ctpm.rootPortId % 2 = 0
    · rw [even_card_blocks heven] at hs; cases hs
    · exact absurd ⟨hrange.1, hrange.2, by omega⟩ hr

theorem exit_hands_over_iff (k : Nat) (hodd : k % 2 = 1) (hk : k ≤ 32) (topology : CtpMode)
    (hwaddr : Vector UInt8 6) (es : List Event) (c : Chassis)
    (hc : c = Runs.run step (startUp k .lineCard topology hwaddr) es) :
    HandsOver c ↔ c.ctpm.rootLCPortId = k ∧
      ¬ (33 ≤ c.ctpm.rootPortId ∧ c.ctpm.rootPortId ≤ 48 ∧ c.ctpm.rootPortId % 2 = 1) := by
  subst hc
  have hnum := (number_run k .lineCard topology hwaddr es).1
  rw [handsOver_iff (by rw [hnum]; exact hodd) (by rw [hnum]; exact hk), hnum]

def designatedRun : List Event :=
  .rx (configFrame 33) RstpBpdu.sizeof :: List.replicate 14 .tick

set_option maxRecDepth 100000 in
theorem designatedRun_forwards (c : Chassis)
    (hc : c = Runs.run step (startUp 1 .lineCard .enabled (Vector.replicate 6 0)) designatedRun) :
    c.ctpm.state = .forwarding ∧ c.ctpm.rootPortId = 33 ∧ c.ctpm.rootLCPortId = 1 := by
  subst hc
  decide +kernel

theorem exit_hands_over_designated :
    ∃ c, c = Runs.run step (startUp 1 .lineCard .enabled (Vector.replicate 6 0)) designatedRun ∧
      c.ctpm.state = .forwarding ∧ c.ctpm.rootPortId = 33 ∧ ¬ HandsOver c := by
  refine ⟨_, rfl, ?_⟩
  obtain ⟨hs, hr, -⟩ := designatedRun_forwards _ rfl
  refine ⟨hs, hr, fun h => ?_⟩
  refine ((exit_hands_over_iff 1 (by decide) (by decide) .enabled (Vector.replicate 6 0)
    designatedRun _ rfl).mp h).2 ?_
  rw [hr]
  decide

theorem designated_exit_unheard :
    ¬ ∀ (k : Nat), k % 2 = 1 → k ≤ 32 → ∀ (hwaddr : Vector UInt8 6) (es : List Event),
      (Runs.run step (startUp k .lineCard .enabled hwaddr) es).ctpm.state = .forwarding →
      (Runs.run step (startUp k .lineCard .enabled hwaddr) es).ctpm.rootPortId ≠ 0 →
      HandsOver (Runs.run step (startUp k .lineCard .enabled hwaddr) es) := by
  intro h
  obtain ⟨hs, hr, -⟩ := designatedRun_forwards _ rfl
  have hnum := (number_run 1 .lineCard .enabled (Vector.replicate 6 0) designatedRun).1
  have hover := h 1 (by decide) (by decide) (Vector.replicate 6 0) designatedRun hs
    (by rw [hr]; decide)
  refine ((handsOver_iff (by rw [hnum]) (by rw [hnum]; decide)).mp hover).2 ?_
  rw [hr]
  decide

end Chassisd
