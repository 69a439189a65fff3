import Chassisd.Election.Sides

namespace Chassisd

namespace Peer

structure Roles (S : List Nat) (r d : Nat) : Prop where
  root : r ∈ S ∧ 33 ≤ r
  designated : d ∈ S ∧ 0 < d ∧ d < 33
  few : (S.filter (· < 33)).length ≤ 8

def configs (p : Peer) : Nat := (p.heard.filter (·.2 = .config)).length

def Logged (S : List Nat) (p : Peer) : Prop :=
  p.heard.Nodup ∧ ∀ key ∈ p.heard, key.1 ∈ S ∧ key.1 < 33

section Records

variable {S : List Nat} {r d k : Nat} {m : Notice} {p : Peer}

theorem Logged.noted (h : Logged S p) (hslot : m.slot ∈ S ∧ m.slot < 33)
    (hkey : (m.slot, m.kind) ∉ p.heard) : Logged S (noted m p) := by
  constructor
  · exact h.1.append (List.nodup_singleton _) (List.disjoint_singleton.mpr hkey)
  · intro key hmem
    rcases List.mem_append.mp hmem with hmem | hmem
    · exact h.2 key hmem
    · rw [List.mem_singleton.mp hmem]; exact hslot

theorem configs_noted (m : Notice) (p : Peer) :
    configs (noted m p) = configs p + if m.kind = .config then 1 else 0 := by
  simp only [configs, noted_frame, List.filter_append, List.length_append]
  by_cases h : m.kind = .config <;> simp [h]

theorem configs_congr {q : Peer} (h : q.heard = p.heard) : configs q = configs p := by
  rw [configs, configs, h]

theorem Logged.configs_le (h : Logged S p) (hfew : (S.filter (· < 33)).length ≤ 8) :
    configs p ≤ 8 := by
  have hinj : ((p.heard.filter (·.2 = .config)).map Prod.fst).Nodup := by
    refine (h.1.filter _).map_on ?_
    intro x hx y hy hxy
    have hx' : x.2 = .config := by simpa using (List.mem_filter.mp hx).2
    have hy' : y.2 = .config := by simpa using (List.mem_filter.mp hy).2
    exact Prod.ext hxy (hx'.trans hy'.symm)
  have hsub : (p.heard.filter (·.2 = .config)).map Prod.fst ⊆ S.filter (· < 33) := by
    intro x hx
    obtain ⟨key, hkey, rfl⟩ := List.mem_map.mp hx
    obtain ⟨hmem, hlt⟩ := h.2 key (List.mem_filter.mp hkey).1
    exact List.mem_filter.mpr ⟨hmem, by simpa using hlt⟩
  have hle := (hinj.subperm hsub).length_le
  rw [List.length_map] at hle
  exact hle.trans hfew

end Records

section Invariants

variable (S : List Nat) (r d a : Nat) (low : Prop) (A : Nat → Prop)

-- Line card k while the notices of a round are under way. A are the cards that forward since the
-- tick, and `low` says that a fabric card below the root has started in this round.
structure RelayLine (k : Nat) (p : Peer) : Prop where
  port : p.port = p.designated
  root : p.state = .forwarding → p.root = r
  above : low ∨ p.root = 0 ∨ r ≤ p.root
  stays : A k → p.state = .forwarding
  own : k = d → p.designated = d
  enabled : p.state ≠ .disable
  asleep : p.state = .block → p.heard = []
  hello : (r, .hello) ∈ p.heard →
    p.root = r ∧ (p.state = .forwarding → p.designated = d ∧ p.timer = 0)

structure RelayFabric (k : Nat) (p : Peer) : Prop where
  logged : Logged S p
  root : p.state = .forwarding → p.root = r
  port : k ≠ r → p.port = p.designated
  stays : A k → p.state = .forwarding
  isRoot : k = r → p.port = a ∧ p.designated = d ∧
    ((d, .hello) ∈ p.heard → 16 ≤ p.age d + configs p)
  enabled : p.state ≠ .disable
  asleep : p.state = .block → p.heard = []
  hello : (d, .hello) ∈ p.heard →
    p.root = r ∧ (p.state = .forwarding → p.designated = d ∧ p.timer = 0)

structure ToLine (m : Notice) : Prop where
  kind : m.kind ≠ .lcChange ∧ m.kind ≠ .fcChange
  root : low ∨ r ≤ m.root
  hello : m.kind = .hello → m.root = r ∧ m.designated = d
  fresh : m.kind = .hello → m.slot = r → 16 ≤ m.age r ∧ 0 < m.age d

structure ToFabric (m : Notice) : Prop where
  slot : m.slot ∈ S ∧ m.slot < 33
  kind : m.kind ≠ .lcChange ∧ m.kind ≠ .fcChange
  forwarding : m.forwarding = true → m.root = r
  quiet : m.forwarding = false → m.root = 0 ∨ r ≤ m.root
  hello : m.kind = .hello →
    m.forwarding = true ∧ m.designated = d ∧ 0 < m.age r ∧ 16 ≤ m.age d

variable {S r d a low A} {k : Nat} {m : Notice} {p : Peer}

theorem RelayLine.hear_waiting (hroles : Roles S r d) (hk : k ∈ S ∧ k < 33) (hlow : low → A k)
    (hd : A d) (hs : p.state ≠ .forwarding) (h : RelayLine r d low A k p) (hm : ToLine r d low m) :
    RelayLine r d low A k (lineHear k m (noted m p)).1 ∧
      ∀ b ∈ (lineHear k m (noted m p)).2, ToFabric S r d b := by
  have hr := hroles.root.2
  have hA : ¬ A k := fun hA => hs (h.stays hA)
  have hl : ¬ low := fun hl => hA (hlow hl)
  have habove := h.above.resolve_left hl
  have hmroot := hm.root.resolve_left hl
  have hlearned := lineHear_learned (k := k) (m := m) (p := noted m p) hs h.enabled h.port
  have hanswer := lineHear_answer (k := k) (m := m) (p := noted m p) hs h.enabled
  generalize lineHear k m (noted m p) = out at hlearned hanswer ⊢
  have hroot : out.1.root = after false m.root (m.age m.root) p.root := hlearned.root
  have hheard : out.1.heard = p.heard ++ [(m.slot, m.kind)] := hlearned.heard
  have hstate : out.1.state ≠ .forwarding ∧ out.1.state ≠ .disable ∧ out.1.state ≠ .block := by
    rw [hlearned.state, noted_frame m p |>.1]
    split_ifs with hb
    · simp
    · exact ⟨hs, h.enabled, hb⟩
  have hout : out.1.root = 0 ∨ r ≤ out.1.root := by
    rw [hroot]; exact after_le habove (.inr hmroot)
  constructor
  · refine ⟨hlearned.port, fun hf => absurd hf hstate.1, .inr hout, fun h => absurd h hA,
      fun hkd => absurd (hkd ▸ hd) hA, hstate.2.1, fun hb => absurd hb hstate.2.2, fun hmem => ?_⟩
    refine ⟨?_, fun hf => absurd hf hstate.1⟩
    rw [hroot]
    rw [hheard] at hmem
    rcases List.mem_append.mp hmem with hmem | hmem
    · rw [(h.hello hmem).1]
      exact after_keep (by omega) (.inr hmroot)
    · obtain ⟨hslot, hkind⟩ := Prod.mk.inj (List.mem_singleton.mp hmem)
      have hage := (hm.fresh hkind.symm hslot.symm).1
      rw [(hm.hello hkind.symm).1]
      exact after_least (by omega) (by omega) habove
  · intro b hb
    by_cases hblock : p.state = .block
    · obtain ⟨b', heq, hslot, hkind, hfwd, hbroot, -⟩ := hanswer.1 hblock
      rw [heq, List.mem_singleton] at hb
      subst hb
      refine ⟨by rw [hslot]; exact hk, by simp [hkind], by simp [hfwd], fun _ => ?_,
        by simp [hkind]⟩
      rw [hbroot]
      exact hout
    · rw [hanswer.2 hblock] at hb
      cases hb

theorem toFabric_reply (hk : k ∈ S ∧ k < 33) {q : Peer} (hs : q.state = .forwarding)
    (hroot : q.root = r) : ToFabric S r d (notice k .reply q) :=
  ⟨hk, by simp, fun _ => hroot, by simp [notice, hs], by simp⟩

theorem RelayLine.keeps (h : RelayLine r d low A k p) (hs : p.state = .forwarding) {q : Peer}
    (hstate : q.state = .forwarding) (hroot : q.root = p.root) (hport : q.port = p.port)
    (hdes : q.designated = p.designated)
    (hhello : (r, .hello) ∈ q.heard → p.designated = d ∧ q.timer = 0) :
    RelayLine r d low A k q := by
  have hqroot := hroot.trans (h.root hs)
  refine ⟨by rw [hport, hdes, h.port], fun _ => hqroot, ?_, fun _ => hstate,
    fun hkd => hdes.trans (h.own hkd), by simp [hstate], fun hb => ?_, fun hmem => ?_⟩
  · rw [hroot]; exact h.above
  · rw [hstate] at hb; cases hb
  · exact ⟨hqroot, fun _ => ⟨hdes.trans (hhello hmem).1, (hhello hmem).2⟩⟩

-- The notice names another line card than ours, so no HELLO of the root came before.
theorem RelayLine.sync (h : RelayLine r d low A k p) (hroles : Roles S r d)
    (hs : p.state = .forwarding) (hm : ToLine r d low m) (hmdes : m.designated = d)
    (hport : d ≠ p.port) :
    RelayLine r d low A k (Peer.sync m (restart (merge k m (noted m p)))) := by
  have hroot := h.root hs
  have hne : (r, .hello) ∉ p.heard := fun hmem =>
    hport (((h.hello hmem).2 hs).1.symm.trans h.port.symm)
  have hdes : (Peer.sync m (restart (merge k m (noted m p)))).designated = p.designated ∧
        (Peer.sync m (restart (merge k m (noted m p)))).port = p.port ∧ m.age d = 0 ∨
      (Peer.sync m (restart (merge k m (noted m p)))).designated = d ∧
        (Peer.sync m (restart (merge k m (noted m p)))).port = d := by
    unfold Peer.sync
    simp only [restart_frame, merge_frame, noted_frame, hmdes]
    split_ifs with hif
    · exact .inr ⟨rfl, rfl⟩
    · refine .inl ⟨rfl, rfl, ?_⟩
      have hpos := hroles.designated.2.1
      rw [h.port] at hport
      by_contra hage
      exact hif ⟨hpos, hport, by omega⟩
  have hkd : k ≠ d := fun hkd => hport ((h.own hkd).symm.trans h.port.symm)
  refine ⟨?_, fun _ => by simpa using hroot, ?_, fun _ => by simpa using hs,
    fun h => absurd h hkd, by simp [hs], by simp [hs], fun hmem => ?_⟩
  · rcases hdes with ⟨h1, h2, -⟩ | ⟨h1, h2⟩
    · rw [h1, h2, h.port]
    · rw [h1, h2]
  · simpa using h.above
  · refine ⟨by simpa using hroot, fun _ => ⟨?_, by simp⟩⟩
    simp only [sync_frame, restart_frame, merge_frame, noted_frame] at hmem
    rcases List.mem_append.mp hmem with hmem | hmem
    · exact absurd hmem hne
    · obtain ⟨hslot, hkind⟩ := Prod.mk.inj (List.mem_singleton.mp hmem)
      have hage := (hm.fresh hkind.symm hslot.symm).2
      rcases hdes with ⟨-, -, h0⟩ | ⟨h1, -⟩
      · omega
      · exact h1

theorem RelayLine.hear_forwarding (hroles : Roles S r d) (hk : k ∈ S ∧ k < 33)
    (hs : p.state = .forwarding) (h : RelayLine r d low A k p) (hm : ToLine r d low m) :
    RelayLine r d low A k (lineHear k m (noted m p)).1 ∧
      ∀ b ∈ (lineHear k m (noted m p)).2, ToFabric S r d b := by
  have hr := hroles.root.2
  have hroot := h.root hs
  rw [lineHear_forwarding (p := noted m p) hs hm.kind.1 hm.kind.2]
  have hold (hkind : m.kind ≠ .hello) (hmem : (r, .hello) ∈ p.heard ++ [(m.slot, m.kind)]) :
      p.designated = d ∧ p.timer = 0 := by
    rcases List.mem_append.mp hmem with hmem | hmem
    · exact (h.hello hmem).2 hs
    · exact absurd (Prod.mk.inj (List.mem_singleton.mp hmem)).2.symm hkind
  split_ifs with hhello hconfig
  · obtain ⟨hmroot, hmdes⟩ := hm.hello hhello
    unfold helloFromFabric
    simp only [restart_frame, merge_frame, noted_frame, hroot, hmroot, hmdes, true_and]
    split_ifs with hport hown
    · exact ⟨h.sync hroles hs hm hmdes hport, by simp⟩
    · have hpd : p.designated = d := h.port.symm.trans (not_not.mp hport).symm
      obtain ⟨hdk, hslot⟩ := hown
      have hage := (hm.fresh hhello hslot).1
      refine ⟨h.keeps hs hs rfl rfl rfl fun _ => ⟨hpd, rfl⟩, ?_⟩
      intro b hb
      rw [List.mem_singleton.mp hb]
      refine ⟨hk, by simp, fun _ => hroot, by simp [notice, hs], fun _ => ⟨?_, hpd, ?_, ?_⟩⟩
      · simp [hs]
      · have hkr : r ≠ k := by omega
        have hle : m.age r ≤ (merge k m (noted m p)).age r := age_le_merge hkr
        simp only [notice_frame, restart_frame, beatAge_of_ne _ hkr]
        omega
      · rw [hdk]
        simp only [notice_frame, beatAge_self]
        exact le_rfl
    · have hpd : p.designated = d := h.port.symm.trans (not_not.mp hport).symm
      refine ⟨h.keeps hs hs rfl rfl rfl fun _ => ⟨hpd, rfl⟩, ?_⟩
      intro b hb
      rw [List.mem_singleton.mp hb]
      exact toFabric_reply hk hs hroot
  · refine ⟨h.keeps hs hs rfl rfl rfl (hold hhello), ?_⟩
    intro b hb
    rw [List.mem_singleton.mp hb]
    exact toFabric_reply hk hs hroot
  · exact ⟨h.keeps hs hs rfl rfl rfl (hold hhello), by simp⟩

theorem RelayFabric.hear_waiting (hroles : Roles S r d) (hs : p.state ≠ .forwarding)
    (hA : A r) (h : RelayFabric S r d a A k p) (hm : ToFabric S r d m)
    (hkey : (m.slot, m.kind) ∉ p.heard) :
    RelayFabric S r d a A k (fabricHear k m (noted m p)).1 ∧
      (fabricHear k m (noted m p)).2 = [] := by
  have hr := hroles.root.2
  have hkA : ¬ A k := fun hA => hs (h.stays hA)
  have hkr : k ≠ r := fun hkr => hkA (hkr ▸ hA)
  obtain ⟨hlearned, hout⟩ :=
    fabricHear_learned (k := k) (m := m) (p := noted m p) hs h.enabled (h.port hkr)
  refine ⟨?_, hout⟩
  clear hout
  generalize (fabricHear k m (noted m p)).1 = q at hlearned ⊢
  have hroot : q.root = after m.forwarding m.root (m.age m.root) p.root := hlearned.root
  have hheard : q.heard = (noted m p).heard := hlearned.heard
  have hstate : q.state ≠ .forwarding ∧ q.state ≠ .disable ∧ q.state ≠ .block := by
    rw [hlearned.state, noted_frame m p |>.1]
    split_ifs with hb
    · simp
    · exact ⟨hs, h.enabled, hb⟩
  refine ⟨?_, fun hf => absurd hf hstate.1, fun _ => hlearned.port, fun h => absurd h hkA,
    fun h => absurd h hkr, hstate.2.1, fun hb => absurd hb hstate.2.2, fun hmem => ?_⟩
  · rw [Logged, hheard]
    exact h.logged.noted hm.slot hkey
  · refine ⟨?_, fun hf => absurd hf hstate.1⟩
    rw [hroot]
    rw [hheard] at hmem
    rcases List.mem_append.mp hmem with hmem | hmem
    · rw [(h.hello hmem).1]
      cases hfwd : m.forwarding with
      | false => exact after_keep (by omega) (hm.quiet hfwd)
      | true => rw [hm.forwarding hfwd]; exact after_self _ _ _
    · obtain ⟨-, hkind⟩ := Prod.mk.inj (List.mem_singleton.mp hmem)
      obtain ⟨hfwd, -, hage, -⟩ := hm.hello hkind.symm
      rw [hfwd, hm.forwarding hfwd]
      exact after_wins (by omega) hage

theorem toLine_reply (hroot : p.root = r) : ToLine r d low (notice k .reply p) :=
  ⟨by simp, .inr hroot.ge, by simp, by simp⟩

theorem RelayFabric.keeps (h : RelayFabric S r d a A k p) (hs : p.state = .forwarding)
    (hlogged : Logged S (noted m p)) {q : Peer} (hstate : q.state = .forwarding)
    (hroot : q.root = p.root) (hport : q.port = p.port) (hdes : q.designated = p.designated)
    (hheard : q.heard = (noted m p).heard)
    (hage : k = r → (d, .hello) ∈ q.heard → 16 ≤ q.age d + configs q)
    (hhello : (d, .hello) ∈ q.heard → p.designated = d ∧ q.timer = 0) :
    RelayFabric S r d a A k q := by
  have hqroot := hroot.trans (h.root hs)
  refine ⟨by rw [Logged, hheard]; exact hlogged, fun _ => hqroot, fun hkr => ?_, fun _ => hstate,
    fun hkr => ?_, by simp [hstate], fun hb => ?_, fun hmem => ?_⟩
  · rw [hport, hdes, h.port hkr]
  · exact ⟨hport.trans (h.isRoot hkr).1, hdes.trans (h.isRoot hkr).2.1, hage hkr⟩
  · rw [hstate] at hb; cases hb
  · exact ⟨hqroot, fun _ => ⟨hdes.trans (hhello hmem).1, (hhello hmem).2⟩⟩

theorem RelayFabric.hear_forwarding (hroles : Roles S r d) (hk : 33 ≤ k)
    (hs : p.state = .forwarding) (h : RelayFabric S r d a A k p) (hm : ToFabric S r d m)
    (hkey : (m.slot, m.kind) ∉ p.heard) :
    RelayFabric S r d a A k (fabricHear k m (noted m p)).1 ∧
      ∀ b ∈ (fabricHear k m (noted m p)).2, ToLine r d low b := by
  have hd := hroles.designated
  have hdk : d ≠ k := by omega
  have hroot := h.root hs
  have hlogged := h.logged.noted hm.slot hkey
  rw [fabricHear_forwarding (p := noted m p) hs hm.kind.1 hm.kind.2]
  have hold (hkind : m.kind ≠ .hello) (hmem : (d, .hello) ∈ (noted m p).heard) :
      (d, .hello) ∈ p.heard := by
    rcases List.mem_append.mp hmem with hmem | hmem
    · exact hmem
    · exact absurd (Prod.mk.inj (List.mem_singleton.mp hmem)).2.symm hkind
  have hmerged : p.age d ≤ (merge k m (noted m p)).age d := le_merge_age (p := noted m p) d
  split_ifs with hhello hconfig
  · obtain ⟨-, hmdes, -, hmage⟩ := hm.hello hhello
    have hmroot := hm.forwarding (hm.hello hhello).1
    have hage : 16 ≤ (merge k m (noted m p)).age d := hmage.trans (age_le_merge hdk)
    unfold helloFromLine
    simp only [restart_frame, merge_frame, noted_frame, hroot, hmroot, hmdes, and_true]
    by_cases hpd : d = p.designated
    · rw [if_neg (not_not.mpr hpd)]
      split_ifs with hecho
      · have hkr : k ≠ r := fun hkr => hecho.2 hkr.symm
        refine ⟨h.keeps hs hlogged hs rfl rfl rfl rfl (fun h => absurd h hkr)
          fun _ => ⟨hpd.symm, rfl⟩, ?_⟩
        intro b hb
        rw [List.mem_singleton.mp hb]
        exact ⟨by simp, .inr hroot.ge, fun _ => ⟨hroot, hpd.symm⟩, fun _ h => absurd h hkr⟩
      · exact ⟨h.keeps hs hlogged hs rfl rfl rfl rfl (fun _ _ => Nat.le_add_right_of_le hage)
          fun _ => ⟨hpd.symm, rfl⟩, by simp⟩
    · rw [if_pos hpd, if_neg (fun h => hpd h.1)]
      have hsync : sync m (restart (merge k m (noted m p))) =
          { restart (merge k m (noted m p)) with port := d, designated := d } := by
        rw [sync, if_pos, hmdes]
        rw [hmdes]
        exact ⟨hd.2.1, hpd, by omega⟩
      have hkr : k ≠ r := fun hkr => hpd (h.isRoot hkr).2.1.symm
      rw [hsync]
      exact ⟨⟨hlogged, fun _ => hroot, fun _ => rfl, fun _ => hs, fun h => absurd h hkr,
        by simp [hs], by simp [hs], fun _ => ⟨hroot, fun _ => ⟨rfl, rfl⟩⟩⟩, by simp⟩
  · refine ⟨h.keeps hs hlogged hs rfl rfl rfl rfl (fun hkr hmem => ?_) (fun hmem => ?_), ?_⟩
    · have hage := (h.isRoot hkr).2.2 (hold hhello hmem)
      have hconfigs := configs_noted m p
      have hsame : configs (say k .reply (merge k m (noted m p))).1 = configs (noted m p) :=
        configs_congr rfl
      rw [if_pos hconfig] at hconfigs
      rw [hsame, hconfigs]
      simp only [say, beat_frame, beatAge_of_ne _ hdk]
      omega
    · exact (h.hello (hold hhello hmem)).2 hs
    · intro b hb
      rw [List.mem_singleton.mp hb]
      exact toLine_reply hroot
  · refine ⟨h.keeps hs hlogged hs rfl rfl rfl rfl (fun hkr hmem => ?_) (fun hmem => ?_), by simp⟩
    · have hage := (h.isRoot hkr).2.2 (hold hhello hmem)
      have hconfigs := configs_noted m p
      have hsame : configs (merge k m (noted m p)) = configs (noted m p) := configs_congr rfl
      rw [if_neg hconfig] at hconfigs
      rw [hsame, hconfigs]
      dsimp only
      omega
    · exact (h.hello (hold hhello hmem)).2 hs

end Invariants

section Ticks

variable {k : Nat} {p : Peer}

def Fresh (k : Nat) (p : Peer) : Prop := ∃ q, p = block k q

structure Calm (k : Nat) (p : Peer) (out : Peer × List Notice) : Prop where
  root : out.1.root = p.root
  port : out.1.port = p.port
  designated : out.1.designated = p.designated
  heard : out.1.heard = []
  awake : out.1.state ≠ .block ∧ out.1.state ≠ .disable
  stays : p.state = .forwarding → out.1.state = .forwarding
  config : ∀ b ∈ out.2, b.slot = k ∧ b.kind = .config ∧ b.forwarding = false ∧ b.root = p.root
  age : out.2 = [] → out.1.age = p.age

theorem tick_calm (hs : p.state ≠ .block ∧ p.state ≠ .disable)
    (hf : p.state = .forwarding → k ≠ p.root ∧ p.timer ≤ 45) : Calm k p (tick k p) := by
  have hsay (q : Peer) (hq : q.state ≠ .forwarding) (hroot : q.root = p.root) :
      ∀ b ∈ (say k .config q).2,
        b.slot = k ∧ b.kind = .config ∧ b.forwarding = false ∧ b.root = p.root := by
    intro b hb
    rw [List.mem_singleton.mp hb]
    exact ⟨rfl, rfl, decide_eq_false hq, hroot⟩
  unfold tick iterate
  cases hstate : p.state with
  | block => exact absurd hstate hs.1
  | disable => exact absurd hstate hs.2
  | listening =>
    dsimp only
    split_ifs
    · exact ⟨rfl, rfl, rfl, rfl, by simp, by simp [hstate], by simp, by simp⟩
    · exact ⟨rfl, rfl, rfl, rfl, by simp [say], by simp [hstate], hsay _ (by simp) rfl, nofun⟩
    · exact ⟨rfl, rfl, rfl, rfl, by simp, by simp [hstate], by simp, by simp⟩
  | learning =>
    dsimp only
    split_ifs
    · exact ⟨rfl, rfl, rfl, rfl, by simp [say], by simp [hstate], hsay _ (by simp) rfl, nofun⟩
    · exact ⟨rfl, rfl, rfl, rfl, by simp, by simp, by simp, by simp⟩
    · exact ⟨rfl, rfl, rfl, rfl, by simp [say], by simp [hstate], hsay _ (by simp) rfl, nofun⟩
    · exact ⟨rfl, rfl, rfl, rfl, by simp, by simp, by simp, by simp⟩
  | forwarding =>
    obtain ⟨hroot, ht⟩ := hf hstate
    dsimp only
    rw [if_neg hroot, if_neg (not_lt.mpr ht)]
    exact ⟨rfl, rfl, rfl, rfl, by simp, by simp, by simp, by simp⟩

theorem tick_root (hs : p.state = .forwarding) (hroot : k = p.root) (ht : p.timer ≤ 15) :
    tick k p = say k .hello (later { p with heard := [] }) := by
  unfold tick iterate
  rw [hs]
  dsimp only
  rw [if_pos hroot, if_neg (not_lt.mpr ht)]

theorem tick_fresh_line (hk : k < 33) (q : Peer) :
    tick k (block k q) = ({ block k q with heard := [] }, []) := by
  simp [tick, iterate, block, show ¬ 33 ≤ k by omega]

theorem tick_fresh_fabric (hk : 33 ≤ k) (q : Peer) :
    tick k (block k q) = say k .config (later { block k q with heard := [] }) := by
  simp [tick, iterate, block, hk]

end Ticks

section Rounds

structure SteadyLine (r d k : Nat) (p : Peer) : Prop where
  port : p.port = p.designated
  root : p.root = r
  awake : p.state ≠ .block ∧ p.state ≠ .disable
  synced : p.state = .forwarding → p.designated = d ∧ p.timer = 0
  relays : k = d → p.designated = d ∧
    (p.state = .forwarding ∨ p.state = .learning ∧ 7 ≤ p.timer)

structure SteadyFabric (r d a k : Nat) (p : Peer) : Prop where
  port : k ≠ r → p.port = p.designated
  root : p.root = r
  awake : p.state ≠ .block ∧ p.state ≠ .disable
  timer : p.state = .forwarding → p.timer ≤ 45
  isRoot : k = r → p.state = .forwarding ∧ p.timer ≤ 15 ∧ p.port = a ∧ p.designated = d ∧
    2 ≤ p.age d

def Steady (r d a : Nat) : Nat → Peer → Prop :=
  Sides.Holds (SteadyLine r d) (SteadyFabric r d a)

def Synced (r d a k : Nat) (p : Peer) : Prop :=
  p.state = .forwarding →
    p.timer = 0 ∧ p.root = r ∧ p.designated = d ∧ p.port = if k = r then a else d

variable {S : List Nat} {r d a : Nat} {low : Prop} {A : Nat → Prop} {k : Nat} {p : Peer}
  {n n' : MessageNet.Net Nat Peer Notice}

theorem tick_ripe (hk : k < 33) (hs : p.state = .learning) (ht : 7 ≤ p.timer) :
    (tick k p).1.state = .forwarding := by
  simp [tick, iterate, hs, show ¬ 33 ≤ k by omega, not_lt.mpr ht]

theorem SteadyLine.tick (h : SteadyLine r d k p) (hroles : Roles S r d) (hk : k ∈ S ∧ k < 33)
    (hA : A k → (tick k p).1.state = .forwarding) :
    RelayLine r d low A k (Peer.tick k p).1 ∧ ∀ b ∈ (Peer.tick k p).2, ToFabric S r d b := by
  have hr := hroles.root.2
  have hroot := h.root
  have hcalm := tick_calm (k := k) h.awake fun hf => ⟨by omega, by have := (h.synced hf).2; omega⟩
  constructor
  · refine ⟨by rw [hcalm.port, hcalm.designated, h.port], fun _ => hcalm.root.trans h.root,
      .inr (.inr (hcalm.root.trans h.root).ge), hA, fun hkd => ?_, hcalm.awake.2,
      fun hb => absurd hb hcalm.awake.1, by simp [hcalm.heard]⟩
    exact hcalm.designated.trans (h.relays hkd).1
  · intro b hb
    obtain ⟨hslot, hkind, hfwd, hbroot⟩ := hcalm.config b hb
    exact ⟨by rw [hslot]; exact hk, by simp [hkind], by simp [hfwd],
      fun _ => .inr (hbroot.trans h.root).ge, by simp [hkind]⟩

theorem Fresh.tick_line (h : Fresh k p) (hk : k < 33) (hd : k ≠ d)
    (hA : A k → (tick k p).1.state = .forwarding) :
    RelayLine r d low A k (tick k p).1 ∧ (tick k p).2 = [] := by
  obtain ⟨q, rfl⟩ := h
  rw [tick_fresh_line hk] at hA ⊢
  exact ⟨⟨rfl, by simp, .inr (.inl (by simp [block, hk])), hA, fun h => absurd h hd, by simp,
    fun _ => rfl, by simp⟩, rfl⟩

theorem SteadyFabric.tick (h : SteadyFabric r d a k p) (hroles : Roles S r d) (hk : 33 ≤ k)
    (hA : A k → (tick k p).1.state = .forwarding) :
    RelayFabric S r d a A k (Peer.tick k p).1 ∧
      ∀ b ∈ (Peer.tick k p).2, ToLine r d low b := by
  have hd := hroles.designated
  by_cases hkr : k = r
  · obtain ⟨hs, ht, hport, hdes, hage⟩ := h.isRoot hkr
    rw [tick_root hs (hkr.trans h.root.symm) ht] at hA ⊢
    constructor
    · exact ⟨⟨List.nodup_nil, by simp [say]⟩, fun _ => h.root, fun hne => absurd hkr hne, hA,
        fun _ => ⟨hport, hdes, by simp [say]⟩, by simp [say, hs], by simp [say],
        by simp [say]⟩
    · intro b hb
      rw [List.mem_singleton.mp hb]
      refine ⟨by simp, .inr h.root.ge, fun _ => ⟨h.root, hdes⟩, fun _ _ => ⟨?_, ?_⟩⟩
      · rw [← hkr]
        simp only [notice_frame, beatAge_self]
        exact le_rfl
      · have hdk : d ≠ k := by omega
        simp only [notice_frame, beatAge_of_ne _ hdk, later_frame]
        omega
  · have hroot := h.root
    have hcalm := tick_calm (k := k) h.awake fun hf => ⟨by omega, h.timer hf⟩
    constructor
    · exact ⟨⟨by simp [hcalm.heard], by simp [hcalm.heard]⟩, fun _ => hcalm.root.trans h.root,
        fun _ => by rw [hcalm.port, hcalm.designated, h.port hkr], hA, fun h => absurd h hkr,
        hcalm.awake.2, fun hb => absurd hb hcalm.awake.1, by simp [hcalm.heard]⟩
    · intro b hb
      obtain ⟨-, hkind, -, hbroot⟩ := hcalm.config b hb
      exact ⟨by simp [hkind], .inr (hbroot.trans h.root).ge, by simp [hkind], by simp [hkind]⟩

theorem Fresh.tick_fabric (h : Fresh k p) (hk : 33 ≤ k) (hkr : k ≠ r) (hlow : low ∨ r ≤ k)
    (hA : A k → (tick k p).1.state = .forwarding) :
    RelayFabric S r d a A k (tick k p).1 ∧ ∀ b ∈ (tick k p).2, ToLine r d low b := by
  obtain ⟨q, rfl⟩ := h
  rw [tick_fresh_fabric hk] at hA ⊢
  constructor
  · exact ⟨⟨List.nodup_nil, by simp [say]⟩, by simp [say], fun _ => rfl, hA,
      fun h => absurd h hkr, by simp [say], by simp [say], by simp [say]⟩
  · intro b hb
    rw [List.mem_singleton.mp hb]
    exact ⟨by simp, by simpa [block, show ¬ k < 33 by omega] using hlow, by simp, by simp⟩

theorem SteadyLine.forwards (h : SteadyLine r d d p) (hroles : Roles S r d) :
    (Peer.tick d p).1.state = .forwarding := by
  obtain ⟨-, hr⟩ := hroles.root
  obtain ⟨-, -, hd⟩ := hroles.designated
  rcases (h.relays rfl).2 with hf | ⟨hs, ht⟩
  · have hroot := h.root
    have htimer := (h.synced hf).2
    exact (tick_calm h.awake fun _ => ⟨by omega, by omega⟩).stays hf
  · exact tick_ripe hd hs ht

theorem SteadyFabric.speaks (h : SteadyFabric r d a r p) :
    Peer.tick r p = say r .hello (later { p with heard := [] }) :=
  tick_root (h.isRoot rfl).1 h.root.symm (h.isRoot rfl).2.1

theorem SteadyFabric.forwards (h : SteadyFabric r d a r p) :
    (Peer.tick r p).1.state = .forwarding := by
  simp [h.speaks, say, (h.isRoot rfl).1]

theorem RelayLine.steady (h : RelayLine r d low A k p) (hroles : Roles S r d) (hline : k < 33)
    (hd : A d) (hheard : (r, .hello) ∈ p.heard) : Steady r d a k p ∧ Synced r d a k p := by
  obtain ⟨-, hr⟩ := hroles.root
  obtain ⟨hroot, hsync⟩ := h.hello hheard
  have hawake : p.state ≠ .block := fun hb => by
    rw [h.asleep hb] at hheard; cases hheard
  refine ⟨?_, fun hf => ⟨(hsync hf).2, hroot, (hsync hf).1, ?_⟩⟩
  · rw [Steady, Sides.Holds, if_pos hline]
    refine ⟨h.port, hroot, ⟨hawake, h.enabled⟩, hsync, fun hkd => ?_⟩
    have hf := h.stays (hkd ▸ hd)
    exact ⟨(hsync hf).1, .inl hf⟩
  · rw [if_neg (by omega), h.port]; exact (hsync hf).1

theorem RelayFabric.steady (h : RelayFabric S r d a A k p) (hroles : Roles S r d)
    (hfabric : 33 ≤ k) (hr : A r) (hheard : (d, .hello) ∈ p.heard) :
    Steady r d a k p ∧ Synced r d a k p := by
  obtain ⟨hroot, hsync⟩ := h.hello hheard
  have hawake : p.state ≠ .block := fun hb => by
    rw [h.asleep hb] at hheard; cases hheard
  refine ⟨?_, fun hf => ⟨(hsync hf).2, hroot, (hsync hf).1, ?_⟩⟩
  · rw [Steady, Sides.Holds, if_neg (by omega)]
    refine ⟨h.port, hroot, ⟨hawake, h.enabled⟩, fun hf => by have := (hsync hf).2; omega,
      fun hkr => ?_⟩
    have hf := h.stays (hkr ▸ hr)
    obtain ⟨hport, hdes, hage⟩ := h.isRoot hkr
    have hconfigs := h.logged.configs_le hroles.few
    exact ⟨hf, by have := (hsync hf).2; omega, hport, hdes, by have := hage hheard; omega⟩
  · split_ifs with hkr
    · exact (h.isRoot hkr).1
    · rw [h.port hkr]; exact (hsync hf).1

theorem relay_sides (hroles : Roles S r d) (hflight : n.flight = [])
    (hstart : ∀ k ∈ S, Steady r d a k (n.node k) ∨ Fresh k (n.node k) ∧ k ≠ r ∧ k ≠ d)
    (hA : ∀ k, A k ↔ (tick k (n.node k)).1.state = .forwarding) (hAd : A d) (hAr : A r)
    (hjoin : low → ∀ l ∈ S, l < 33 → A l)
    (hlow : ∀ k ∈ S, 33 ≤ k ∧ k < r → Fresh k (n.node k) → low) :
    Sides S (RelayLine r d low A) (RelayFabric S r d a A) (ToLine r d low) (ToFabric S r d) n := by
  refine ⟨hflight, fun k hk hline => ?_, fun k hk hfabric => ?_,
    fun k hk hline m p hp hm hkey => ?_, fun k hk hfabric m p hp hm hkey => ?_⟩
  · rcases hstart k hk with h | ⟨h, -, hne⟩
    · have h : SteadyLine r d k (n.node k) := by simpa [Steady, Sides.Holds, hline] using h
      exact h.tick hroles ⟨hk, hline⟩ (hA k).mp
    · have hrelay : RelayLine r d low A k (tick k (n.node k)).1 ∧ (tick k (n.node k)).2 = [] :=
        h.tick_line hline hne (hA k).mp
      exact ⟨hrelay.1, by simp [hrelay.2]⟩
  · rcases hstart k hk with h | ⟨h, hne, -⟩
    · have h : SteadyFabric r d a k (n.node k) := by
        simpa [Steady, Sides.Holds, show ¬ k < 33 by omega] using h
      exact h.tick hroles hfabric (hA k).mp
    · refine h.tick_fabric hfabric hne ?_ (hA k).mp
      by_cases hkr : k < r
      · exact .inl (hlow k hk ⟨hfabric, hkr⟩ h)
      · exact .inr (by omega)
  · by_cases hs : p.state = .forwarding
    · exact hp.hear_forwarding hroles ⟨hk, hline⟩ hs hm
    · exact hp.hear_waiting hroles ⟨hk, hline⟩ (fun hl => hjoin hl k hk hline) hAd hs hm
  · by_cases hs : p.state = .forwarding
    · exact hp.hear_forwarding hroles hfabric hs hm hkey
    · obtain ⟨hrelay, hout⟩ := hp.hear_waiting hroles hs hAr hm hkey
      exact ⟨hrelay, by simp [hout]⟩

theorem relay_round (hroles : Roles S r d) (hflight : n.flight = [])
    (hstart : ∀ k ∈ S, Steady r d a k (n.node k) ∨ Fresh k (n.node k) ∧ k ≠ r ∧ k ≠ d)
    (hjoin : ∀ k ∈ S, 33 ≤ k ∧ k < r → Fresh k (n.node k) → ∀ l ∈ S, l < 33 →
      (tick l (n.node l)).1.state = .forwarding)
    (hround : MessageNet.Round peerProtocol hears S n n') (hk : k ∈ S) :
    Steady r d a k (n'.node k) ∧ Synced r d a k (n'.node k) ∧
      ((tick k (n.node k)).1.state = .forwarding → (n'.node k).state = .forwarding) := by
  obtain ⟨hrS, hr⟩ := hroles.root
  obtain ⟨hdS, hdpos, hd⟩ := hroles.designated
  have hsd : SteadyLine r d d (n.node d) := by
    rcases hstart d hdS with h | ⟨-, -, hne⟩
    · simpa [Steady, Sides.Holds, hd] using h
    · exact absurd rfl hne
  have hsr : SteadyFabric r d a r (n.node r) := by
    rcases hstart r hrS with h | ⟨-, hne, -⟩
    · simpa [Steady, Sides.Holds, show ¬ r < 33 by omega] using h
    · exact absurd rfl hne
  have hAd := hsd.forwards hroles
  have hAr := hsr.forwards
  have hsides : Sides S
      (RelayLine r d (∃ k ∈ S, (33 ≤ k ∧ k < r) ∧ Fresh k (n.node k))
        fun k => (tick k (n.node k)).1.state = .forwarding)
      (RelayFabric S r d a fun k => (tick k (n.node k)).1.state = .forwarding)
      (ToLine r d (∃ k ∈ S, (33 ≤ k ∧ k < r) ∧ Fresh k (n.node k))) (ToFabric S r d) n := by
    refine relay_sides hroles hflight hstart (fun _ => Iff.rfl) hAd hAr ?_
      fun k hk hkr hfresh => ⟨k, hk, hkr, hfresh⟩
    rintro ⟨f, hf, hfr, hfresh⟩ l hl hline
    exact hjoin f hf hfr hfresh l hl hline
  -- every line card hears the root's HELLO, and every fabric card that of d
  have hfromRoot (l : Nat) (hl : l ∈ S) (hline : l < 33) : (r, .hello) ∈ (n'.node l).heard := by
    refine hsides.heard_tick hround hrS hl ((hears_fabric hr).mpr hline) ?_
    rw [hsr.speaks]
    exact ⟨_, List.mem_singleton.mpr rfl, rfl, rfl⟩
  have hfromD (f : Nat) (hf : f ∈ S) (hfabric : 33 ≤ f) : (d, .hello) ∈ (n'.node f).heard := by
    refine hsides.heard_relay hround hdS hf ((hears_line hd).mpr hfabric) ?_
      (hfromRoot d hdS hd)
    intro m p hp hm hslotkind hkey
    obtain ⟨hslot, hkind⟩ := Prod.mk.inj hslotkind
    simp only [Sides.Holds, Sides.Hears, if_pos hd] at hp hm
    have hs := hp.stays hAd
    obtain ⟨hmroot, hmdes⟩ := hm.hello hkind
    have hpd := hp.own rfl
    rw [Peer.recv, if_neg (by rw [hslotkind]; exact hkey), if_pos hd,
      lineHear_forwarding (p := noted m p) hs hm.kind.1 hm.kind.2, if_pos hkind, helloFromFabric]
    simp only [restart_frame, merge_frame, noted_frame, hp.port, hpd, hp.root hs, hmroot, hmdes,
      hslot, ne_eq, not_true_eq_false, and_false, and_self, if_false, if_true]
    exact ⟨_, List.mem_singleton.mpr rfl, rfl, rfl⟩
  rcases Nat.lt_or_ge k 33 with hline | hfabric
  · have hend := hsides.line hround hk hline
    obtain ⟨hsteady, hsynced⟩ := hend.steady hroles hline hAd (hfromRoot k hk hline)
    exact ⟨hsteady, hsynced, hend.stays⟩
  · have hend := hsides.fabric hround hk hfabric
    obtain ⟨hsteady, hsynced⟩ := hend.steady hroles hfabric hAr (hfromD k hk hfabric)
    exact ⟨hsteady, hsynced, hend.stays⟩

end Rounds

end Peer

end Chassisd
