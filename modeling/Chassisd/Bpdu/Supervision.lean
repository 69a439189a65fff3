import Chassisd.Bpdu.Transitions

namespace Chassisd

def EntersForwarding (c : Chassis) (e : Event) : Prop :=
  c.ctpm.state ≠ .forwarding ∧ (step e c).ctpm.state = .forwarding

def HearsHello (c : Chassis) : Event → Prop
  | .rx bpdu len => Handled bpdu len c ∧ bpdu.bpduType = bpduTypeHello
  | _ => False

def Reelects (c : Chassis) (e : Event) : Prop :=
  e = .tick ∧ c.ctpm.state = .forwarding ∧ c.usCardNumber = c.ctpm.rootPortId ∧
    defaultMaxAge.toNat < c.ctpm.timeSinceTopoChange ∧
    (selectNewRootLc c.ctpm.rootLCPortId c).2 = 0

def Resets (c : Chassis) (e : Event) : Prop :=
  EntersForwarding c e ∨ HearsHello c e ∨ Reelects c e

-- Default_MaxAge+1 on the root, 3*Default_MaxAge+1 elsewhere
def patience (c : Chassis) : Nat :=
  if c.usCardNumber = c.ctpm.rootPortId then defaultMaxAge.toNat + 1
  else defaultMaxAge.toNat * defaultForwardDelay.toNat + 1

theorem heir_of_selected {old : Nat} {c : Chassis} :
    (selectNewRootLc old c).2 = 0 ↔
      (heir c.usCardNumber (c.ctpm.chassisExist.setAge old 0)).isSome = true := by
  rcases h : heir c.usCardNumber (c.ctpm.chassisExist.setAge old 0) with - | i
  · rw [selectNewRootLc_of_none h]; simp
  · rw [selectNewRootLc_of_some h]; simp

theorem patience_congr {c c' : Chassis} (hsame : SameCard c c')
    (hroot : c'.ctpm.rootPortId = c.ctpm.rootPortId) : patience c' = patience c := by
  unfold patience
  rw [hsame.number, hroot]

section Reception

variable {bpdu : RstpBpdu} {c c' : Chassis}

structure Timed (hello : Prop) (c c' : Chassis) : Prop where
  state : c.ctpm.state = .forwarding
  root : c'.ctpm.rootPortId = c.ctpm.rootPortId
  heard : hello → c'.ctpm.timeSinceTopoChange = 0
  unheard : ¬ hello → c'.ctpm.timeSinceTopoChange = c.ctpm.timeSinceTopoChange

theorem timed_restart (hs : c.ctpm.state = .forwarding) (ht : bpdu.bpduType = bpduTypeHello)
    (hroot : c'.ctpm.rootPortId = c.ctpm.rootPortId) (hzero : c'.ctpm.timeSinceTopoChange = 0) :
    Timed (bpdu.bpduType = bpduTypeHello) c c' :=
  ⟨hs, hroot, fun _ => hzero, fun hn => absurd ht hn⟩

theorem timed_keep (hs : c.ctpm.state = .forwarding) (ht : bpdu.bpduType ≠ bpduTypeHello)
    (hroot : c'.ctpm.rootPortId = c.ctpm.rootPortId)
    (hkeep : c'.ctpm.timeSinceTopoChange = c.ctpm.timeSinceTopoChange) :
    Timed (bpdu.bpduType = bpduTypeHello) c c' :=
  ⟨hs, hroot, fun h => absurd h ht, fun _ => hkeep⟩

theorem timed_sync (hs : c.ctpm.state = .forwarding) (ht : bpdu.bpduType = bpduTypeHello) :
    Timed (bpdu.bpduType = bpduTypeHello) c
      (lcSyncToHello bpdu (restartTimer (inUpdateChassisMember bpdu c))) := by
  have hctpm := lcSyncToHello_ctpm bpdu (restartTimer (inUpdateChassisMember bpdu c)) hs rfl
  refine timed_restart hs ht ?_ ?_ <;> rw [hctpm] <;> split_ifs <;> rfl

theorem LineRx.timed (h : LineRx bpdu c c') (hs' : c'.ctpm.state = .forwarding) :
    Timed (bpdu.bpduType = bpduTypeHello) c c' := by
  cases h with
  | wake => simp at hs'
  | adopt hs =>
    simp only [inUpdateChassisMember_frame, adopt_frame] at hs'
    exact absurd hs' (waiting_ne_forwarding hs)
  | agree hs =>
    simp only [inUpdateChassisMember_frame] at hs'
    exact absurd hs' (waiting_ne_forwarding hs)
  | lcChange => simp at hs'
  | sync hs ht => exact timed_sync hs ht
  | relay hs ht => exact timed_restart hs ht rfl rfl
  | reply hs ht => exact timed_restart hs ht rfl rfl
  | config hs ht => exact timed_keep hs (by rw [ht]; decide) rfl rfl
  | other hs ht => exact timed_keep hs (fun h => ht (by simp [h])) rfl rfl
  | disabled hs => exact absurd (hs.symm.trans hs') (by decide)

theorem FabricRx.timed (h : FabricRx bpdu c c') (hs' : c'.ctpm.state = .forwarding) :
    Timed (bpdu.bpduType = bpduTypeHello) c c' := by
  cases h with
  | wake => simp at hs'
  | adopt hs =>
    simp only [inUpdateChassisMember_frame, adopt_frame] at hs'
    exact absurd hs' (waiting_ne_forwarding hs)
  | agree hs =>
    simp only [inUpdateChassisMember_frame] at hs'
    exact absurd hs' (waiting_ne_forwarding hs)
  | sync hs ht => exact timed_sync hs ht
  | echo hs ht => exact timed_restart hs ht rfl rfl
  | hear hs ht => exact timed_restart hs ht rfl rfl
  | config hs ht => exact timed_keep hs (by rw [ht]; decide) rfl rfl
  | elect hs ht => exact timed_keep hs (by rw [ht]; decide) (by simp) (by simp)
  | alone => simp at hs'
  | lcChange => simp at hs'
  | other hs ht => exact timed_keep hs (fun h => ht (by simp [h])) rfl rfl
  | disabled hs => exact absurd (hs.symm.trans hs') (by decide)

end Reception

theorem rx_timed {bpdu : RstpBpdu} {len : Nat} {c : Chassis}
    (hs' : (step (.rx bpdu len) c).ctpm.state = .forwarding) :
    Timed (HearsHello c (.rx bpdu len)) c (step (.rx bpdu len) c) := by
  have h := stepped (.rx bpdu len) c
  generalize step (.rx bpdu len) c = c' at h hs'
  cases h with
  | dropped hn => exact ⟨hs', rfl, fun h => absurd h.1 hn, fun _ => rfl⟩
  | line hh _ h =>
    have ht := h.timed hs'
    exact ⟨ht.state, ht.root, fun hello => ht.heard hello.2,
      fun hn => ht.unheard fun h => hn ⟨hh, h⟩⟩
  | fabric hh _ h =>
    have ht := h.timed hs'
    exact ⟨ht.state, ht.root, fun hello => ht.heard hello.2,
      fun hn => ht.unheard fun h => hn ⟨hh, h⟩⟩

theorem tick_forwarding {c : Chassis} (hadmin : c.ctpm.adminState = .enabled)
    (hs : c.ctpm.state = .forwarding) :
    (c.ctpm.timeSinceTopoChange < patience c → ¬ Reelects c .tick ∧
      (step .tick c).ctpm.state = .forwarding ∧
      (step .tick c).ctpm.rootPortId = c.ctpm.rootPortId ∧
      (step .tick c).ctpm.rootLCPortId = c.ctpm.rootLCPortId ∧
      (step .tick c).ctpm.timeSinceTopoChange = c.ctpm.timeSinceTopoChange + 1) ∧
    (patience c ≤ c.ctpm.timeSinceTopoChange →
      (Reelects c .tick ∧ (step .tick c).ctpm.state = .forwarding ∧
        (step .tick c).ctpm.rootPortId = c.ctpm.rootPortId ∧
        (step .tick c).ctpm.timeSinceTopoChange = 0) ∨
      (¬ Reelects c .tick ∧ (step .tick c).ctpm.state = .block)) := by
  have hM : defaultMaxAge.toNat = 15 := rfl
  have hF : defaultForwardDelay.toNat = 3 := rfl
  have h := step_tick hadmin
  generalize step .tick c = c' at h
  unfold patience Reelects
  rw [hM, hF, heir_of_selected]
  cases h with
  | elect _ hroot ht i hi =>
    have hroot : c.usCardNumber = c.ctpm.rootPortId := hroot
    have ht : 15 < c.ctpm.timeSinceTopoChange := ht
    have hi : heir c.usCardNumber (c.ctpm.chassisExist.setAge c.ctpm.rootLCPortId 0) = some i := hi
    rw [if_pos hroot]
    refine ⟨fun hlt => absurd hlt (by omega),
      fun _ => .inl ⟨⟨rfl, hs, hroot, ht, ?_⟩, hs, rfl, rfl⟩⟩
    rw [hi]
    rfl
  | alone _ hroot ht hi =>
    have hroot : c.usCardNumber = c.ctpm.rootPortId := hroot
    have ht : 15 < c.ctpm.timeSinceTopoChange := ht
    have hi : heir c.usCardNumber (c.ctpm.chassisExist.setAge c.ctpm.rootLCPortId 0) = none := hi
    rw [if_pos hroot]
    refine ⟨fun hlt => absurd hlt (by omega), fun _ => .inr ⟨fun h => ?_, by simp⟩⟩
    rw [hi] at h
    exact absurd h.2.2.2.2 (by decide)
  | hello _ hroot ht =>
    have hroot : c.usCardNumber = c.ctpm.rootPortId := hroot
    have ht : c.ctpm.timeSinceTopoChange ≤ 15 := ht
    rw [if_pos hroot]
    exact ⟨fun _ => ⟨fun h => absurd h.2.2.2.1 (by omega), hs, rfl, rfl, rfl⟩,
      fun hle => absurd hle (by omega)⟩
  | lost _ hroot ht =>
    have hroot : c.usCardNumber ≠ c.ctpm.rootPortId := hroot
    have ht : 45 < c.ctpm.timeSinceTopoChange := ht
    rw [if_neg hroot]
    exact ⟨fun hlt => absurd hlt (by omega),
      fun _ => .inr ⟨fun h => absurd h.2.2.1 hroot, by simp⟩⟩
  | wait _ hroot ht =>
    have hroot : c.usCardNumber ≠ c.ctpm.rootPortId := hroot
    have ht : c.ctpm.timeSinceTopoChange ≤ 45 := ht
    rw [if_neg hroot]
    exact ⟨fun _ => ⟨fun h => absurd h.2.2.1 hroot, hs, rfl, rfl, rfl⟩,
      fun hle => absurd hle (by omega)⟩
  | config hs' | blockTimeout hs' | blockLine hs' | learn hs' | listenFabric hs' | listenLine hs'
  | learning hs' | forward hs' | disabled hs' => exact absurd (hs.symm.trans hs') (by decide)

theorem tick_enters {c : Chassis} (hadmin : c.ctpm.adminState = .enabled)
    (he : EntersForwarding c .tick) : (step .tick c).ctpm.timeSinceTopoChange = 0 := by
  obtain ⟨hs, hs'⟩ := he
  have h := step_tick hadmin
  generalize step .tick c = c' at h hs'
  cases h with
  | forward => simp
  | elect hf | hello hf | wait hf | alone hf | lost hf => exact absurd hf hs
  | learn => simp at hs'
  | config hb | blockTimeout hb | blockLine hb | listenFabric hb | listenLine hb | learning hb
  | disabled hb => exact absurd hs' hs

theorem exit_blocks (c : Chassis) : (step .exit c).ctpm.state = .block := by
  change (signalExit (quiet c)).ctpm.state = .block
  unfold signalExit
  dsimp only
  split_ifs <;> simp

theorem step_resets {c : Chassis} {e : Event} (hadmin : c.ctpm.adminState = .enabled)
    (hs' : (step e c).ctpm.state = .forwarding) (hr : Resets c e) :
    (step e c).ctpm.timeSinceTopoChange = 0 := by
  cases e with
  | tick =>
    rcases hr with he | hh | hre
    · exact tick_enters hadmin he
    · exact absurd hh id
    · by_cases hlt : c.ctpm.timeSinceTopoChange < patience c
      · exact absurd hre ((tick_forwarding hadmin hre.2.1).1 hlt).1
      · rcases (tick_forwarding hadmin hre.2.1).2 (by omega) with h | h
        · exact h.2.2.2
        · exact absurd hre h.1
  | rx bpdu len =>
    have ht := rx_timed hs'
    rcases hr with he | hh | hre
    · exact absurd ht.state he.1
    · exact ht.heard hh
    · exact absurd hre.1 (by simp)
  | exit => rw [exit_blocks] at hs'; cases hs'

theorem step_not_resets {c : Chassis} {e : Event} (hadmin : c.ctpm.adminState = .enabled)
    (hs' : (step e c).ctpm.state = .forwarding) (hr : ¬ Resets c e) :
    c.ctpm.state = .forwarding ∧ (step e c).ctpm.rootPortId = c.ctpm.rootPortId ∧
      (step e c).ctpm.timeSinceTopoChange = c.ctpm.timeSinceTopoChange + ticks [e] ∧
      (c.ctpm.timeSinceTopoChange ≤ patience c →
        c.ctpm.timeSinceTopoChange + ticks [e] ≤ patience c) := by
  have hs : c.ctpm.state = .forwarding := by
    by_contra hs
    exact hr (.inl ⟨hs, hs'⟩)
  refine ⟨hs, ?_⟩
  cases e with
  | tick =>
    have hn : ¬ Reelects c .tick := fun h => hr (.inr (.inr h))
    by_cases hlt : c.ctpm.timeSinceTopoChange < patience c
    · obtain ⟨-, -, hroot, -, htime⟩ := (tick_forwarding hadmin hs).1 hlt
      exact ⟨hroot, htime, fun _ => hlt⟩
    · rcases (tick_forwarding hadmin hs).2 (by omega) with h | h
      · exact absurd h.1 hn
      · rw [h.2] at hs'; cases hs'
  | rx bpdu len =>
    have ht := rx_timed hs'
    exact ⟨ht.root, ht.unheard fun h => hr (.inr (.inl h)), id⟩
  | exit => rw [exit_blocks] at hs'; cases hs'

structure Supervised (c : Chassis) : Prop where
  admin : c.ctpm.adminState = .enabled
  patient : c.ctpm.state = .forwarding → c.ctpm.timeSinceTopoChange ≤ patience c

theorem Supervised.step {c : Chassis} (h : Supervised c) (e : Event) : Supervised (step e c) := by
  refine ⟨(sameCard_step e c).admin.trans h.admin, fun hs' => ?_⟩
  by_cases hr : Resets c e
  · rw [step_resets h.admin hs' hr]
    exact Nat.zero_le _
  · obtain ⟨hs, hroot, htime, hle⟩ := step_not_resets h.admin hs' hr
    rw [htime, patience_congr (sameCard_step e c) hroot]
    exact hle (h.patient hs)

theorem Supervised.run {c : Chassis} (h : Supervised c) (es : List Event) :
    Supervised (Runs.run Chassisd.step c es) :=
  Runs.invariant (fun _ e hc => hc.step e) h es

theorem timer_along {c : Chassis} (h : Supervised c) (hs : c.ctpm.state = .forwarding)
    {es : List Event} (hes : Runs.Along step (fun c e => ¬ Resets c e ∧
      (step e c).ctpm.state = .forwarding) c es) :
    (Runs.run step c es).ctpm.timeSinceTopoChange = c.ctpm.timeSinceTopoChange + ticks es ∧
      c.ctpm.timeSinceTopoChange + ticks es ≤ patience c := by
  induction es generalizing c with
  | nil => exact ⟨rfl, h.patient hs⟩
  | cons e es ih =>
    obtain ⟨⟨hr, hs'⟩, hrest⟩ := hes
    obtain ⟨-, hroot, htime, -⟩ := step_not_resets h.admin hs' hr
    obtain ⟨hrun, hle⟩ := ih (h.step e) hs' hrest
    have hsplit : ticks (e :: es) = ticks [e] + ticks es := by
      rw [← List.singleton_append]; exact List.countP_append
    rw [htime, patience_congr (sameCard_step e c) hroot] at hle
    rw [Runs.run_cons, hrun, htime, hsplit]
    omega

theorem along_not_resets {c : Chassis} (hs : c.ctpm.state = .forwarding) {es : List Event}
    (hsilent : Runs.Along step (fun c e => ¬ HearsHello c e) c es)
    (hkeeps : Runs.Along step (fun c e => ¬ Reelects c e ∧
      (step e c).ctpm.state = .forwarding) c es) :
    Runs.Along step (fun c e => ¬ Resets c e ∧ (step e c).ctpm.state = .forwarding) c es := by
  induction es generalizing c with
  | nil => trivial
  | cons e es ih =>
    obtain ⟨hsilent, hsilents⟩ := hsilent
    obtain ⟨⟨hkeep, hs'⟩, hkeeps⟩ := hkeeps
    refine ⟨⟨?_, hs'⟩, ih hs' hsilents hkeeps⟩
    rintro (he | hh | hre)
    · exact he.1 hs
    · exact hsilent hh
    · exact hkeep hre

def LastReset (c : Chassis) (es : List Event) (pre : List Event) (e : Event)
    (post : List Event) : Prop :=
  es = pre ++ e :: post ∧ Resets (Runs.run step c pre) e ∧
    Runs.Along step (fun c e => ¬ Resets c e) (Runs.run step c (pre ++ [e])) post

theorem exists_lastReset {c : Chassis} (h : Supervised c) (h0 : c.ctpm.state ≠ .forwarding)
    (es : List Event) (hs : (Runs.run step c es).ctpm.state = .forwarding) :
    ∃ pre e post, LastReset c es pre e post ∧
      (Runs.run step c es).ctpm.timeSinceTopoChange = ticks post := by
  induction es using List.reverseRecOn with
  | nil => exact absurd hs h0
  | append_singleton es e ih =>
    rw [Runs.run_concat] at hs ⊢
    have hadmin := (h.run es).admin
    by_cases hr : Resets (Runs.run step c es) e
    · exact ⟨es, e, [], ⟨rfl, hr, trivial⟩, step_resets hadmin hs hr⟩
    · obtain ⟨hs', -, htime, -⟩ := step_not_resets hadmin hs hr
      obtain ⟨pre, e', post, ⟨rfl, hreset, halong⟩, hcount⟩ := ih hs'
      have hrun : Runs.run step (Runs.run step c (pre ++ [e'])) post =
          Runs.run step c (pre ++ e' :: post) := by
        rw [← Runs.run_append, List.append_assoc, List.singleton_append]
      refine ⟨pre, e', post ++ [e], ⟨by simp, hreset, ?_⟩, ?_⟩
      · rw [Runs.along_append, hrun]
        exact ⟨halong, hr, trivial⟩
      · rw [htime, hcount]
        exact List.countP_append.symm

theorem hello_supervision_exact (k : Nat) (hodd : k % 2 = 1) (type : CardType)
    (hwaddr : Vector UInt8 6) (es : List Event) (c : Chassis)
    (hc : c = Runs.run step (startUp k type .enabled hwaddr) es)
    (hs : c.ctpm.state = .forwarding) :
    (∃ pre e post, LastReset (startUp k type .enabled hwaddr) es pre e post ∧
      c.ctpm.timeSinceTopoChange = ticks post) ∧
    c.ctpm.timeSinceTopoChange ≤ patience c ∧
    (c.ctpm.timeSinceTopoChange < patience c → (step .tick c).ctpm.state = .forwarding ∧
      ¬ Reelects c .tick) ∧
    (c.ctpm.timeSinceTopoChange = patience c → Reelects c .tick ∨
      (step .tick c).ctpm.state = .block) ∧
    ∀ post, patience c < c.ctpm.timeSinceTopoChange + ticks post →
      Runs.Along step (fun c e => ¬ HearsHello c e) c post →
      ¬ Runs.Along step (fun c e => ¬ Reelects c e ∧
        (step e c).ctpm.state = .forwarding) c post := by
  have hsup : Supervised (startUp k type .enabled hwaddr) := by
    refine ⟨?_, fun h => ?_⟩
    · rw [(startUp_frame k type .enabled hwaddr).2.2.2.2.2, if_pos hodd]
    · rw [(startUp_frame k type .enabled hwaddr).2.2.1] at h; cases h
  have hblock : (startUp k type .enabled hwaddr).ctpm.state ≠ .forwarding := by
    rw [(startUp_frame k type .enabled hwaddr).2.2.1]; decide
  have hrun : Supervised c := hc ▸ hsup.run es
  obtain ⟨hearly, hlate⟩ := tick_forwarding hrun.admin hs
  refine ⟨?_, hrun.patient hs, fun hlt => ?_, fun heq => ?_, fun post hlong hsilent hkeeps => ?_⟩
  · subst hc
    exact exists_lastReset hsup hblock es hs
  · exact ⟨(hearly hlt).2.1, (hearly hlt).1⟩
  · rcases hlate (by omega) with h | h
    · exact .inl h.1
    · exact .inr h.2
  · have hle := (timer_along hrun hs (along_not_resets hs hsilent hkeeps)).2
    omega

def silentRun : List Event :=
  .rx (configFrame 33) RstpBpdu.sizeof :: List.replicate 20 .tick

set_option maxRecDepth 100000 in
theorem silent_line_card :
    ∃ c, c = Runs.run step (startUp 1 .lineCard .enabled (Vector.replicate 6 0)) silentRun ∧
      c.ctpm.state = .forwarding ∧ c.ctpm.timeSinceTopoChange ≤ patience c := by
  have hs : (Runs.run step (startUp 1 .lineCard .enabled
      (Vector.replicate 6 0)) silentRun).ctpm.state = .forwarding := by decide +kernel
  exact ⟨_, rfl, hs, (hello_supervision_exact 1 (by decide) .lineCard (Vector.replicate 6 0)
    silentRun _ rfl hs).2.1⟩

end Chassisd
