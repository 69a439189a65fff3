import Chassisd.Election.Refinement
import Chassisd.Election.Relay

namespace Chassisd

namespace Peer

structure Least (S : List Nat) (r d : Nat) : Prop extends Roles S r d where
  root_le : ∀ f ∈ S, 33 ≤ f → r ≤ f
  designated_le : ∀ l ∈ S, l < 33 → d ≤ l

variable {S : List Nat} {r d k t : Nat} {m : Notice} {p : Peer}
  {n n' : MessageNet.Net Nat Peer Notice}

section Waking

variable (S r d)

structure WakeLine (k : Nat) (p : Peer) : Prop where
  port : p.port = p.designated
  own : p.designated = k
  woken : p.state = .block ∧ p.heard = [] ∧ p.root = 0 ∨
    p.state = .listening ∧ p.timer = 0 ∧ r ≤ p.root
  config : (r, .config) ∈ p.heard → p.root = r ∧ 16 ≤ p.age r

structure WakeFabric (k : Nat) (p : Peer) : Prop where
  port : p.port = p.designated
  root : r ≤ p.root
  isRoot : k = r → p.root = r
  woken : p.state = .block ∧ p.heard = [] ∨ p.state = .listening ∧ p.timer = 0
  designated : p.designated = 0 ∨ d ≤ p.designated
  reply : (d, .reply) ∈ p.heard → p.designated = d ∧ 16 ≤ p.age d

structure WakesLine (m : Notice) : Prop where
  kind : m.kind = .config
  root : r ≤ m.root ∧ 16 ≤ m.age m.root
  designated : m.designated = 0
  isRoot : m.slot = r → m.root = r

structure WakesFabric (m : Notice) : Prop where
  quiet : m.forwarding = false
  root : r ≤ m.root
  designated : d ≤ m.designated
  own : m.slot = d → m.designated = d ∧ 16 ≤ m.age d

variable {S r d}

theorem WakeLine.hear (hleast : Least S r d) (hk : k ∈ S ∧ k < 33) (h : WakeLine r k p)
    (hm : WakesLine r m) :
    WakeLine r k (lineHear k m (noted m p)).1 ∧
      ∀ b ∈ (lineHear k m (noted m p)).2, WakesFabric r d b := by
  have hr := hleast.root.2
  have hs : p.state ≠ .forwarding ∧ p.state ≠ .disable := by
    rcases h.woken with ⟨hs, -⟩ | ⟨hs, -⟩ <;> simp [hs]
  have hlearned := lineHear_learned (k := k) (m := m) (p := noted m p) hs.1 hs.2 h.port
  have hanswer := lineHear_answer (k := k) (m := m) (p := noted m p) hs.1 hs.2
  generalize lineHear k m (noted m p) = out at hlearned hanswer ⊢
  have hroot : out.1.root = after false m.root (m.age m.root) p.root := hlearned.root
  have hheard : out.1.heard = p.heard ++ [(m.slot, m.kind)] := hlearned.heard
  have hdes : out.1.designated = k := by
    rw [hlearned.designated, hm.designated, noted_frame m p |>.2.2.2.2.1, h.own, after,
      if_neg (fun h => absurd h.1 (lt_irrefl 0))]
  have hstate : out.1.state = .listening ∧ out.1.timer = 0 := by
    rw [hlearned.state, hlearned.timer, noted_frame m p |>.1, noted_frame m p |>.2.1]
    rcases h.woken with ⟨hb, -⟩ | ⟨hb, ht, -⟩ <;> simp [*]
  have hout : r ≤ out.1.root := by
    rw [hroot]
    rcases h.woken with ⟨-, -, h0⟩ | ⟨-, -, hle⟩
    · obtain ⟨hle, hage⟩ := hm.root
      rw [after_least (show 0 < m.root by omega) (by omega) (.inl h0)]
      exact hle
    · rcases after_eq_or false m.root (m.age m.root) p.root with heq | heq
      · rw [heq]; exact hm.root.1
      · rw [heq]; exact hle
  have hroot0 : p.root = 0 ∨ r ≤ p.root := h.woken.imp (·.2.2) (·.2.2)
  have hrk : r ≠ k := by omega
  constructor
  · refine ⟨hlearned.port, hdes, .inr ⟨hstate.1, hstate.2, hout⟩, fun hmem => ?_⟩
    rw [hheard] at hmem
    rcases List.mem_append.mp hmem with hmem | hmem
    · obtain ⟨hpr, hage⟩ := h.config hmem
      have hb : p.state ≠ .block := fun hb => by
        rcases h.woken with ⟨-, hnil, -⟩ | ⟨hs, -⟩
        · rw [hnil] at hmem; cases hmem
        · rw [hb] at hs; cases hs
      refine ⟨?_, hage.trans (hlearned.keeps hb r)⟩
      rw [hroot, hpr]
      exact after_keep (by omega) (.inr hm.root.1)
    · obtain ⟨hslot, -⟩ := Prod.mk.inj (List.mem_singleton.mp hmem)
      have hmr := hm.isRoot hslot.symm
      have hage : 16 ≤ m.age r := hmr ▸ hm.root.2
      refine ⟨?_, hage.trans (hlearned.age r hrk)⟩
      rw [hroot, hmr]
      exact after_least (by omega) (by omega) hroot0
  · intro b hb
    by_cases hblock : p.state = .block
    · obtain ⟨b', heq, hslot, -, hfwd, hbroot, hbdes, hbage, -⟩ := hanswer.1 hblock
      rw [heq, List.mem_singleton] at hb
      subst hb
      have hdk := hleast.designated_le k hk.1 hk.2
      refine ⟨hfwd, hbroot ▸ hout, by omega, fun hbd => ?_⟩
      have hkd : k = d := hslot.symm.trans hbd
      exact ⟨by omega, hkd ▸ hbage.ge⟩
    · rw [hanswer.2 hblock] at hb
      cases hb

theorem WakeFabric.hear (hleast : Least S r d) (hk : 33 ≤ k) (h : WakeFabric r d k p)
    (hm : WakesFabric r d m) :
    WakeFabric r d k (fabricHear k m (noted m p)).1 ∧
      (fabricHear k m (noted m p)).2 = [] := by
  have hr := hleast.root.2
  have hd := hleast.designated.2
  have hs : p.state ≠ .forwarding ∧ p.state ≠ .disable := by
    rcases h.woken with ⟨hs, -⟩ | ⟨hs, -⟩ <;> simp [hs]
  obtain ⟨hlearned, hout⟩ :=
    fabricHear_learned (k := k) (m := m) (p := noted m p) hs.1 hs.2 h.port
  refine ⟨?_, hout⟩
  clear hout
  generalize (fabricHear k m (noted m p)).1 = q at hlearned ⊢
  rw [hm.quiet] at hlearned
  have hroot : q.root = after false m.root (m.age m.root) p.root := hlearned.root
  have hdes : q.designated =
      after false m.designated (m.age m.designated) p.designated := hlearned.designated
  have hheard : q.heard = p.heard ++ [(m.slot, m.kind)] := hlearned.heard
  refine ⟨hlearned.port, ?_, fun hkr => ?_, .inr ?_, ?_, fun hmem => ?_⟩
  · rw [hroot]
    rcases after_eq_or false m.root (m.age m.root) p.root with heq | heq
    · rw [heq]; exact hm.root
    · rw [heq]; exact h.root
  · rw [hroot, h.isRoot hkr]
    exact after_keep (by omega) (.inr hm.root)
  · rw [hlearned.state, hlearned.timer, noted_frame m p |>.1, noted_frame m p |>.2.1]
    rcases h.woken with ⟨hb, -⟩ | ⟨hb, ht⟩ <;> simp [*]
  · rw [hdes]
    exact after_le h.designated (.inr hm.designated)
  · rw [hdes]
    rw [hheard] at hmem
    rcases List.mem_append.mp hmem with hmem | hmem
    · obtain ⟨hpd, hage⟩ := h.reply hmem
      have hb : p.state ≠ .block := fun hb => by
        rcases h.woken with ⟨-, hnil⟩ | ⟨hs, -⟩
        · rw [hnil] at hmem; cases hmem
        · rw [hb] at hs; cases hs
      refine ⟨?_, hage.trans (hlearned.keeps hb d)⟩
      rw [hpd]
      exact after_keep hd.1 (.inr hm.designated)
    · obtain ⟨hslot, -⟩ := Prod.mk.inj (List.mem_singleton.mp hmem)
      obtain ⟨hmd, hage⟩ := hm.own hslot.symm
      refine ⟨?_, hage.trans (hlearned.age d (by omega))⟩
      rw [hmd]
      exact after_least hd.1 (by omega) h.designated

end Waking

section Dwelling

def lineClock (t : Nat) : ChassisCtpmState × Nat :=
  if t ≤ 5 then (.listening, t - 1) else (.learning, t - 6)

def fabricClock (t : Nat) : ChassisCtpmState × Nat :=
  if t ≤ 5 then (.listening, t - 1) else if t ≤ 9 then (.learning, t - 6) else (.forwarding, t - 10)

variable (S r d t)

structure DwellLine (p : Peer) : Prop where
  clock : (p.state, p.timer) = lineClock t
  port : p.port = p.designated
  root : p.root = r
  above : d ≤ p.designated
  settled : 2 ≤ t → p.designated = d
  age : t ≤ 6 → 16 ≤ p.age r

structure DwellFabric (k : Nat) (p : Peer) : Prop where
  clock : (p.state, p.timer) = fabricClock t
  port : p.port = p.designated
  designated : p.designated = d
  root : r ≤ p.root
  isRoot : k = r → p.root = r
  agreed : 7 ≤ t → p.root = r
  early : t = 1 → 16 ≤ p.age d
  late : 10 ≤ t → 8 ≤ p.age d

variable {S r d t}

theorem WakeLine.awake (h : WakeLine r k p) (hheard : (r, .config) ∈ p.heard) :
    p.state = .listening ∧ p.timer = 0 := by
  rcases h.woken with ⟨-, hnil, -⟩ | ⟨hs, ht, -⟩
  · rw [hnil] at hheard; cases hheard
  · exact ⟨hs, ht⟩

theorem WakeLine.dwell (h : WakeLine r k p) (hheard : (r, .config) ∈ p.heard) (hdk : d ≤ k) :
    DwellLine r d 1 p := by
  obtain ⟨hroot, hage⟩ := h.config hheard
  obtain ⟨hs, ht⟩ := h.awake hheard
  refine ⟨by rw [hs, ht]; rfl, h.port, hroot, ?_, by omega, fun _ => hage⟩
  rw [h.own]
  exact hdk

theorem WakeFabric.dwell (h : WakeFabric r d k p) (hheard : (d, .reply) ∈ p.heard) :
    DwellFabric r d 1 k p := by
  obtain ⟨hdes, hage⟩ := h.reply hheard
  have hclock : p.state = .listening ∧ p.timer = 0 := by
    rcases h.woken with ⟨-, hnil⟩ | hclock
    · rw [hnil] at hheard; cases hheard
    · exact hclock
  exact ⟨by rw [hclock.1, hclock.2]; rfl, h.port, hdes, h.root, h.isRoot, by omega,
    fun _ => hage, by omega⟩

theorem wake_sides (hleast : Least S r d) (hflight : n.flight = [])
    (hfresh : ∀ k ∈ S, Fresh k (n.node k)) :
    Sides S (WakeLine r) (WakeFabric r d) (WakesLine r) (WakesFabric r d) n := by
  refine ⟨hflight, fun k hk hline => ?_, fun k hk hfabric => ?_,
    fun k hk hline m p hp hm _ => hp.hear hleast ⟨hk, hline⟩ hm,
    fun k hk hfabric m p hp hm _ => ?_⟩
  · obtain ⟨q, hq⟩ := hfresh k hk
    rw [hq, tick_fresh_line hline]
    exact ⟨⟨rfl, by simp [block, hline], .inl ⟨rfl, rfl, by simp [block, hline]⟩, by simp⟩,
      by simp⟩
  · obtain ⟨q, hq⟩ := hfresh k hk
    have hnot : ¬ k < 33 := by omega
    have hrk := hleast.root_le k hk hfabric
    rw [hq, tick_fresh_fabric hfabric]
    constructor
    · exact ⟨rfl, by simpa [say, block, hnot] using hrk, by simp [say, block, hnot],
        .inl ⟨rfl, rfl⟩, .inl (by simp [say, block, hnot]), by simp [say]⟩
    · intro b hb
      rw [List.mem_singleton.mp hb]
      refine ⟨rfl, ⟨by simpa [block, hnot] using hrk, ?_⟩, by simp [block, hnot], ?_⟩
      · simp [block, hnot, beatAge_self]
      · simp [block, hnot]
  · obtain ⟨hwake, hout⟩ := hp.hear hleast hfabric hm
    exact ⟨hwake, by simp [hout]⟩

theorem wake_round (hleast : Least S r d) (hflight : n.flight = [])
    (hfresh : ∀ k ∈ S, Fresh k (n.node k))
    (hround : MessageNet.Round peerProtocol hears S n n') :
    ∀ k ∈ S, Sides.Holds (fun _ => DwellLine r d 1) (DwellFabric r d 1) k (n'.node k) := by
  obtain ⟨hrS, hr⟩ := hleast.root
  obtain ⟨hdS, hd⟩ := hleast.designated
  have hsides := wake_sides hleast hflight hfresh
  have hconfig (l : Nat) (hl : l ∈ S) (hline : l < 33) : (r, .config) ∈ (n'.node l).heard := by
    refine hsides.heard_tick hround hrS hl ((hears_fabric hr).mpr hline) ?_
    obtain ⟨q, hq⟩ := hfresh r hrS
    rw [hq, tick_fresh_fabric hr]
    exact ⟨_, List.mem_singleton.mpr rfl, rfl, rfl⟩
  have hwoken : (n'.node d).state ≠ .block := fun hb => by
    have hs := ((hsides.line hround hdS hd.2).awake (hconfig d hdS hd.2)).1
    rw [hb] at hs; cases hs
  have hreply (f : Nat) (hf : f ∈ S) (hfabric : 33 ≤ f) : (d, .reply) ∈ (n'.node f).heard := by
    refine hsides.heard_answer hround hdS hf ((hears_line hd.2).mpr hfabric)
      (D := fun p => p.state ≠ .block) ?_ ?_ hwoken
    · obtain ⟨q, hq⟩ := hfresh d hdS
      rw [hq, tick_fresh_line hd.2]
      simp [block]
    · intro m p hp _ hb _
      have hb : p.state = .block := not_not.mp hb
      simp only [Sides.Holds, if_pos hd.2] at hp
      have hnil : p.heard = [] := by
        rcases hp.woken with ⟨-, hnil, -⟩ | ⟨hs, -⟩
        · exact hnil
        · rw [hb] at hs; cases hs
      have hanswer := lineHear_answer (k := d) (m := m) (p := noted m p) (by simp [hb])
        (by simp [hb])
      obtain ⟨b, heq, hslot, hkind, -⟩ := hanswer.1 hb
      rw [Peer.recv, if_neg (by simp [hnil]), if_pos hd.2, heq]
      exact ⟨b, List.mem_singleton.mpr rfl, hslot, hkind⟩
  intro k hk
  unfold Sides.Holds
  split_ifs with hline
  · exact (hsides.line hround hk hline).dwell (hconfig k hk hline)
      (hleast.designated_le k hk hline)
  · exact (hsides.fabric hround hk (by omega)).dwell (hreply k hk (by omega))

theorem lineClock_waiting (h : (p.state, p.timer) = lineClock t) :
    p.state ≠ .block ∧ p.state ≠ .forwarding ∧ p.state ≠ .disable := by
  unfold lineClock at h
  split_ifs at h <;> simp [(Prod.mk.inj h).1]

theorem fabricClock_waiting (h : (p.state, p.timer) = fabricClock t) (ht : t ≤ 9) :
    p.state ≠ .block ∧ p.state ≠ .forwarding ∧ p.state ≠ .disable := by
  unfold fabricClock at h
  split_ifs at h <;> simp [(Prod.mk.inj h).1]

theorem fabricClock_forwarding (h : (p.state, p.timer) = fabricClock t) (ht : 10 ≤ t) :
    p.state = .forwarding ∧ p.timer = t - 10 := by
  rw [fabricClock, if_neg (by omega), if_neg (by omega)] at h
  exact Prod.mk.inj h

variable (S r d t)

structure DwellingLine (p : Peer) : Prop where
  clock : (p.state, p.timer) = lineClock t
  port : p.port = p.designated
  root : p.root = r
  above : d ≤ p.designated
  settled : 2 < t → p.designated = d
  config : (r, .config) ∈ p.heard → p.designated = d
  age : t ≤ 6 → 16 ≤ p.age r

structure DwellingFabric (k : Nat) (p : Peer) : Prop where
  clock : (p.state, p.timer) = fabricClock t
  port : p.port = p.designated
  designated : p.designated = d
  root : r ≤ p.root
  isRoot : k = r → p.root = r
  agreed : 7 < t → p.root = r
  logged : Logged S p
  config : (d, .config) ∈ p.heard → p.root = r ∧ (10 ≤ t → 16 ≤ p.age d + configs p)

structure DwellToLine (m : Notice) : Prop where
  root : r ≤ m.root
  designated : m.designated = d
  early : t = 2 → m.slot = r → 0 < m.age d

structure DwellToFabric (m : Notice) : Prop where
  late : 7 ≤ t
  slot : m.slot ∈ S ∧ m.slot < 33
  kind : m.kind = .config
  quiet : m.forwarding = false
  root : m.root = r ∧ (t = 7 → 0 < m.age r)
  designated : m.designated = d
  own : m.slot = d → 16 ≤ m.age d

variable {S r d t}

theorem DwellingLine.hear (hleast : Least S r d) (ht : 2 ≤ t)
    (h : DwellingLine r d t p) (hm : DwellToLine r d t m) :
    DwellingLine r d t (lineHear k m (noted m p)).1 ∧ (lineHear k m (noted m p)).2 = [] := by
  have hr := hleast.root.2
  have hd := hleast.designated.2
  obtain ⟨hb, hf, hdis⟩ := lineClock_waiting h.clock
  have hlearned := lineHear_learned (k := k) (m := m) (p := noted m p) hf hdis h.port
  have hout := (lineHear_answer (k := k) (m := m) (p := noted m p) hf hdis).2 hb
  refine ⟨?_, hout⟩
  clear hout
  generalize (lineHear k m (noted m p)).1 = q at hlearned ⊢
  have hclock : (q.state, q.timer) = (p.state, p.timer) := hlearned.clock hb
  have hroot : q.root = after false m.root (m.age m.root) p.root := hlearned.root
  have hdes : q.designated =
      after (m.kind == .hello) m.designated (m.age m.designated) p.designated :=
    hlearned.designated
  have hheard : q.heard = p.heard ++ [(m.slot, m.kind)] := hlearned.heard
  have hage : p.age r ≤ q.age r := hlearned.keeps hb r
  rw [hm.designated] at hdes
  have hsettled (hpd : p.designated = d) : q.designated = d := by rw [hdes, hpd, after_self]
  refine ⟨hclock.trans h.clock, hlearned.port, ?_, ?_, fun h2 => hsettled (h.settled h2),
    fun hmem => ?_, fun h6 => (h.age h6).trans hage⟩
  · rw [hroot, h.root]
    exact after_keep (by omega) (.inr hm.root)
  · rcases after_eq_or (m.kind == .hello) d (m.age d) p.designated with heq | heq
    · rw [hdes, heq]
    · rw [hdes, heq]; exact h.above
  · rw [hheard] at hmem
    rcases List.mem_append.mp hmem with hmem | hmem
    · exact hsettled (h.config hmem)
    · obtain ⟨hslot, -⟩ := Prod.mk.inj (List.mem_singleton.mp hmem)
      rcases Nat.lt_or_ge 2 t with h2 | h2
      · exact hsettled (h.settled h2)
      · rw [hdes]
        exact after_least hd.1 (hm.early (by omega) hslot.symm) (.inr h.above)

theorem DwellingFabric.hear_waiting (hleast : Least S r d) (h10 : t < 10)
    (h : DwellingFabric S r d t k p) (hm : DwellToFabric S r d t m)
    (hkey : (m.slot, m.kind) ∉ p.heard) :
    DwellingFabric S r d t k (fabricHear k m (noted m p)).1 ∧
      (fabricHear k m (noted m p)).2 = [] := by
  have hr := hleast.root.2
  have ht := hm.late
  have hlogged := h.logged.noted hm.slot hkey
  obtain ⟨hmroot, hmage⟩ := hm.root
  obtain ⟨hb, hf, hdis⟩ := fabricClock_waiting h.clock (by omega)
  obtain ⟨hlearned, hout⟩ :=
    fabricHear_learned (k := k) (m := m) (p := noted m p) hf hdis h.port
  refine ⟨?_, hout⟩
  clear hout
  generalize (fabricHear k m (noted m p)).1 = q at hlearned ⊢
  rw [hm.quiet] at hlearned
  have hclock : (q.state, q.timer) = (p.state, p.timer) := hlearned.clock hb
  have hroot : q.root = after false m.root (m.age m.root) p.root := hlearned.root
  have hdes : q.designated = after false m.designated (m.age m.designated) p.designated :=
    hlearned.designated
  have hheard : q.heard = (noted m p).heard := hlearned.heard
  rw [hmroot] at hroot
  have hagreed (hpr : p.root = r) : q.root = r := by rw [hroot, hpr, after_self]
  refine ⟨hclock.trans h.clock, hlearned.port, ?_, ?_, fun hkr => hagreed (h.isRoot hkr),
    fun h7 => hagreed (h.agreed h7), by rw [Logged, hheard]; exact hlogged, fun hmem => ?_⟩
  · rw [hdes, hm.designated, h.designated, after_self]
  · rcases after_eq_or false r (m.age r) p.root with heq | heq
    · rw [hroot, heq]
    · rw [hroot, heq]; exact h.root
  · refine ⟨?_, by omega⟩
    rw [hheard] at hmem
    rcases List.mem_append.mp hmem with hmem | -
    · exact hagreed (h.config hmem).1
    · rcases Nat.lt_or_ge 7 t with h7 | h7
      · exact hagreed (h.agreed h7)
      · rw [hroot]
        exact after_least (by omega) (hmage (by omega)) (.inr h.root)

theorem DwellingFabric.hear_forwarding (hleast : Least S r d) (hk : 33 ≤ k) (h10 : 10 ≤ t)
    (h : DwellingFabric S r d t k p) (hm : DwellToFabric S r d t m)
    (hkey : (m.slot, m.kind) ∉ p.heard) :
    DwellingFabric S r d t k (fabricHear k m (noted m p)).1 ∧
      ∀ b ∈ (fabricHear k m (noted m p)).2, DwellToLine r d t b := by
  have hd := hleast.designated.2
  have hdk : d ≠ k := by omega
  have ht := hm.late
  have hlogged := h.logged.noted hm.slot hkey
  have hs := (fabricClock_forwarding h.clock h10).1
  have hroot := h.agreed (by omega)
  rw [fabricHear_forwarding (p := noted m p) hs (by simp [hm.kind]) (by simp [hm.kind]),
    if_neg (by simp [hm.kind]), if_pos hm.kind]
  constructor
  · refine ⟨h.clock, h.port, h.designated, h.root, h.isRoot, h.agreed, hlogged, fun hmem => ?_⟩
    refine ⟨hroot, fun _ => ?_⟩
    have hconfigs := configs_noted m p
    have hsame : configs (say k .reply (merge k m (noted m p))).1 = configs (noted m p) :=
      configs_congr rfl
    rw [if_pos hm.kind] at hconfigs
    rw [hsame, hconfigs]
    simp only [say, beat_frame, beatAge_of_ne _ hdk]
    rcases List.mem_append.mp hmem with hmem | hmem
    · have hage := (h.config hmem).2 h10
      have hle : p.age d ≤ (merge k m (noted m p)).age d := le_merge_age (p := noted m p) d
      omega
    · obtain ⟨hslot, -⟩ := Prod.mk.inj (List.mem_singleton.mp hmem)
      have hage := hm.own hslot.symm
      have hle : m.age d ≤ (merge k m (noted m p)).age d := age_le_merge hdk
      omega
  · intro b hb
    rw [List.mem_singleton.mp hb]
    exact ⟨hroot.ge, h.designated, by omega⟩

theorem DwellingFabric.hear (hleast : Least S r d) (hk : 33 ≤ k)
    (h : DwellingFabric S r d t k p) (hm : DwellToFabric S r d t m)
    (hkey : (m.slot, m.kind) ∉ p.heard) :
    DwellingFabric S r d t k (fabricHear k m (noted m p)).1 ∧
      ∀ b ∈ (fabricHear k m (noted m p)).2, DwellToLine r d t b := by
  rcases Nat.lt_or_ge t 10 with h10 | h10
  · obtain ⟨hdwell, hout⟩ := h.hear_waiting hleast h10 hm hkey
    exact ⟨hdwell, by simp [hout]⟩
  · exact h.hear_forwarding hleast hk h10 hm hkey

theorem lineClock_tick (h : (p.state, p.timer) = lineClock t) (hk : k < 33)
    (ht : 1 ≤ t ∧ t ≤ 12) :
    ((tick k p).1.state, (tick k p).1.timer) = lineClock (t + 1) ∧
      (tick k p).2 = if t < 6 then [] else [notice k .config p] := by
  have hnot : ¬ 33 ≤ k := by omega
  unfold lineClock at h
  rcases Nat.lt_or_ge 5 t with h5 | h5
  · rw [if_neg (by omega)] at h
    obtain ⟨hs, htimer⟩ := Prod.mk.inj h
    have hlt : p.timer < 7 := by omega
    have hnext : p.timer + 1 = t + 1 - 6 := by omega
    simp only [tick, iterate, hs, hnot, if_false, if_pos hlt, lineClock,
      if_neg (show ¬ t + 1 ≤ 5 by omega), if_neg (show ¬ t < 6 by omega)]
    exact ⟨by simp [say, hnext], by simp [say, notice, hs]⟩
  · rw [if_pos h5] at h
    obtain ⟨hs, htimer⟩ := Prod.mk.inj h
    rw [if_pos (show t < 6 by omega)]
    rcases h5.lt_or_eq with h5 | rfl
    · have hle : ¬ 3 < p.timer := by omega
      have hnext : p.timer + 1 = t := by omega
      simp only [tick, iterate, hs, hnot, if_false, if_neg hle, lineClock,
        if_pos (show t + 1 ≤ 5 by omega)]
      exact ⟨by simp [hnext], by simp⟩
    · have hlt : 3 < p.timer := by omega
      simp [tick, iterate, hs, if_pos hlt, lineClock]

theorem fabricClock_tick (h : (p.state, p.timer) = fabricClock t) (hk : 33 ≤ k)
    (ht : 1 ≤ t ∧ t ≤ 12) :
    ((tick k p).1.state, (tick k p).1.timer) = fabricClock (t + 1) ∧
      (tick k p).2 = if t < 5 ∨ 6 ≤ t ∧ t < 9 then [notice k .config p]
        else if 10 ≤ t ∧ k = p.root then [notice k .hello p] else [] := by
  unfold fabricClock at h
  rcases Nat.lt_or_ge 9 t with h9 | h9
  · rw [if_neg (by omega), if_neg (by omega)] at h
    obtain ⟨hs, htimer⟩ := Prod.mk.inj h
    have hnext : p.timer + 1 = t + 1 - 10 := by omega
    have hle : ¬ 15 < p.timer := by omega
    have hle' : ¬ 45 < p.timer := by omega
    simp only [fabricClock, if_neg (show ¬ t + 1 ≤ 5 by omega),
      if_neg (show ¬ t + 1 ≤ 9 by omega),
      if_neg (show ¬ (t < 5 ∨ 6 ≤ t ∧ t < 9) by omega)]
    by_cases hroot : k = p.root
    · simp only [tick, iterate, hs, if_pos hroot, if_neg hle]
      rw [if_pos ⟨by omega, hroot⟩]
      exact ⟨by simp [say, hnext], by simp [say, notice, hs]⟩
    · simp only [tick, iterate, hs, if_neg hroot, if_neg hle']
      rw [if_neg (fun h => hroot h.2)]
      exact ⟨by simp [hnext], by simp⟩
  · rw [if_pos h9] at h
    rcases Nat.lt_or_ge 5 t with h5 | h5
    · rw [if_neg (by omega)] at h
      obtain ⟨hs, htimer⟩ := Prod.mk.inj h
      rcases h9.lt_or_eq with h9 | rfl
      · have hlt : p.timer < 3 := by omega
        have hnext : p.timer + 1 = t + 1 - 6 := by omega
        simp only [tick, iterate, hs, hk, if_true, if_pos hlt, fabricClock,
          if_neg (show ¬ t + 1 ≤ 5 by omega), if_pos (show t + 1 ≤ 9 by omega)]
        rw [if_pos (.inr ⟨by omega, h9⟩)]
        exact ⟨by simp [say, hnext], by simp [say, notice, hs]⟩
      · have hlt : ¬ p.timer < 3 := by omega
        simp [tick, iterate, hs, hk, if_neg hlt, fabricClock]
    · rw [if_pos h5] at h
      obtain ⟨hs, htimer⟩ := Prod.mk.inj h
      rcases h5.lt_or_eq with h5 | rfl
      · have hle : ¬ 3 < p.timer := by omega
        have hnext : p.timer + 1 = t := by omega
        simp only [tick, iterate, hs, hk, if_true, if_neg hle, fabricClock,
          if_pos (show t + 1 ≤ 5 by omega)]
        rw [if_pos (.inl h5)]
        exact ⟨by simp [say, hnext], by simp [say, notice, hs]⟩
      · have hlt : 3 < p.timer := by omega
        simp [tick, iterate, hs, if_pos hlt, fabricClock]

theorem DwellLine.tick (h : DwellLine r d t p) (hleast : Least S r d) (hk : k ∈ S ∧ k < 33)
    (ht : 1 ≤ t ∧ t ≤ 12) :
    DwellingLine r d (t + 1) (Peer.tick k p).1 ∧
      ∀ b ∈ (Peer.tick k p).2, DwellToFabric S r d (t + 1) b := by
  have hr := hleast.root.2
  have hrk : r ≠ k := by omega
  obtain ⟨hb, hf, hdis⟩ := lineClock_waiting h.clock
  have hcalm := tick_calm (k := k) ⟨hb, hdis⟩ fun h => absurd h hf
  obtain ⟨hclock, hout⟩ := lineClock_tick h.clock hk.2 ht
  constructor
  · refine ⟨hclock, by rw [hcalm.port, hcalm.designated, h.port], hcalm.root.trans h.root,
      by rw [hcalm.designated]; exact h.above,
      fun h2 => hcalm.designated.trans (h.settled (by omega)), by simp [hcalm.heard],
      fun h6 => ?_⟩
    rw [if_pos (by omega)] at hout
    rw [hcalm.age hout]
    exact h.age (by omega)
  · intro b hb
    rw [hout] at hb
    split_ifs at hb with h6
    · cases hb
    · rw [List.mem_singleton.mp hb]
      refine ⟨by omega, hk, rfl, decide_eq_false hf, ⟨h.root, fun h7 => ?_⟩, h.settled (by omega),
        fun hkd => ?_⟩
      · have hage := h.age (by omega)
        simp only [notice_frame, beatAge_of_ne _ hrk]
        omega
      · rw [← hkd]
        simp only [notice_frame, beatAge_self]
        exact le_rfl

theorem DwellFabric.tick (h : DwellFabric r d t k p) (hleast : Least S r d) (hk : 33 ≤ k)
    (ht : 1 ≤ t ∧ t ≤ 12) :
    DwellingFabric S r d (t + 1) k (Peer.tick k p).1 ∧
      ∀ b ∈ (Peer.tick k p).2, DwellToLine r d (t + 1) b := by
  have hd := hleast.designated.2
  have hdk : d ≠ k := by omega
  obtain ⟨hclock, hout⟩ := fabricClock_tick h.clock hk ht
  have hsame : (Peer.tick k p).1.root = p.root ∧ (Peer.tick k p).1.port = p.port ∧
      (Peer.tick k p).1.designated = p.designated ∧ (Peer.tick k p).1.heard = [] := by
    rcases Nat.lt_or_ge t 10 with h10 | h10
    · obtain ⟨hb, hf, hdis⟩ := fabricClock_waiting h.clock (by omega)
      have hcalm := tick_calm (k := k) ⟨hb, hdis⟩ fun h => absurd h hf
      exact ⟨hcalm.root, hcalm.port, hcalm.designated, hcalm.heard⟩
    · obtain ⟨hs, htimer⟩ := fabricClock_forwarding h.clock h10
      by_cases hroot : k = p.root
      · rw [tick_root hs hroot (by omega)]
        exact ⟨rfl, rfl, rfl, rfl⟩
      · have hcalm := tick_calm (k := k) ⟨by simp [hs], by simp [hs]⟩
          fun _ => ⟨hroot, by omega⟩
        exact ⟨hcalm.root, hcalm.port, hcalm.designated, hcalm.heard⟩
  obtain ⟨hroot, hport, hdes, hheard⟩ := hsame
  constructor
  · exact ⟨hclock, by rw [hport, hdes, h.port], hdes.trans h.designated, hroot ▸ h.root,
      fun hkr => hroot.trans (h.isRoot hkr), fun h7 => hroot.trans (h.agreed (by omega)),
      ⟨by simp [hheard], by simp [hheard]⟩, by simp [hheard]⟩
  · intro b hb
    have hnotice (kind : Kind) : DwellToLine r d (t + 1) (notice k kind p) := by
      refine ⟨h.root, h.designated, fun h2 _ => ?_⟩
      have hage := h.early (by omega)
      simp only [notice_frame, beatAge_of_ne _ hdk]
      omega
    rw [hout] at hb
    split_ifs at hb
    · rw [List.mem_singleton.mp hb]; exact hnotice _
    · rw [List.mem_singleton.mp hb]; exact hnotice _
    · cases hb

def Dwell (r d t : Nat) : Nat → Peer → Prop :=
  Sides.Holds (fun _ => DwellLine r d t) (DwellFabric r d t)

theorem dwell_round (hleast : Least S r d) (hflight : n.flight = []) (ht : 1 ≤ t ∧ t ≤ 12)
    (h : ∀ k ∈ S, Dwell r d t k (n.node k))
    (hround : MessageNet.Round peerProtocol hears S n n') :
    ∀ k ∈ S, Dwell r d (t + 1) k (n'.node k) := by
  obtain ⟨hrS, hr⟩ := hleast.root
  obtain ⟨hdS, hd⟩ := hleast.designated
  have hline (k : Nat) (hk : k ∈ S) (hl : k < 33) : DwellLine r d t (n.node k) := by
    have := h k hk
    rwa [Dwell, Sides.Holds, if_pos hl] at this
  have hfabric (k : Nat) (hk : k ∈ S) (hf : 33 ≤ k) : DwellFabric r d t k (n.node k) := by
    have := h k hk
    rwa [Dwell, Sides.Holds, if_neg (by omega)] at this
  have hsides : Sides S (fun _ => DwellingLine r d (t + 1)) (DwellingFabric S r d (t + 1))
      (DwellToLine r d (t + 1)) (DwellToFabric S r d (t + 1)) n := by
    refine ⟨hflight, fun k hk hl => (hline k hk hl).tick hleast ⟨hk, hl⟩ ht,
      fun k hk hf => (hfabric k hk hf).tick hleast hf ht, fun k hk _ m p hp hm _ => ?_,
      fun k hk hf m p hp hm hkey => hp.hear hleast hf hm hkey⟩
    obtain ⟨hdwell, hout⟩ := hp.hear (k := k) hleast (by omega) hm
    exact ⟨hdwell, by simp [hout]⟩
  -- the line cards settle on d in round 2, and tell the fabric cards of r from round 7 on
  have hconfig (l : Nat) (hl : l ∈ S) (hlt : l < 33) (h1 : t = 1) :
      (r, .config) ∈ (n'.node l).heard := by
    refine hsides.heard_tick hround hrS hl ((hears_fabric hr).mpr hlt) ?_
    rw [(fabricClock_tick (hfabric r hrS hr).clock hr ht).2, if_pos (by omega)]
    exact ⟨_, List.mem_singleton.mpr rfl, rfl, rfl⟩
  have hlearn (f : Nat) (hf : f ∈ S) (hfabric : 33 ≤ f) (h6 : 6 ≤ t) :
      (d, .config) ∈ (n'.node f).heard := by
    refine hsides.heard_tick hround hdS hf ((hears_line hd.2).mpr hfabric) ?_
    rw [(lineClock_tick (hline d hdS hd.2).clock hd.2 ht).2, if_neg (by omega)]
    exact ⟨_, List.mem_singleton.mpr rfl, rfl, rfl⟩
  intro k hk
  unfold Dwell Sides.Holds
  split_ifs with hl
  · have hend := hsides.line hround hk hl
    refine ⟨hend.clock, hend.port, hend.root, hend.above, fun _ => ?_, hend.age⟩
    rcases Nat.lt_or_ge 1 t with h1 | h1
    · exact hend.settled (by omega)
    · exact hend.config (hconfig k hk hl (by omega))
  · have hend := hsides.fabric hround hk (by omega)
    refine ⟨hend.clock, hend.port, hend.designated, hend.root, hend.isRoot, fun h7 => ?_,
      by omega, fun h10 => ?_⟩
    · exact (hend.config (hlearn k hk (by omega) (by omega))).1
    · have hage := (hend.config (hlearn k hk (by omega) (by omega))).2 h10
      have hconfigs := hend.logged.configs_le hleast.few
      omega

theorem dwell_rounds (hleast : Least S r d) (hflight : n.flight = [])
    (hfresh : ∀ k ∈ S, Fresh k (n.node k))
    (hrounds : MessageNet.Rounds peerProtocol hears S t n n') (ht : 1 ≤ t ∧ t ≤ 13) :
    ∀ k ∈ S, Dwell r d t k (n'.node k) := by
  induction hrounds with
  | zero => omega
  | @succ t a b c hab hbc ih =>
    rcases Nat.eq_zero_or_pos t with rfl | hpos
    · cases hab with
      | zero => exact wake_round hleast hflight hfresh hbc
    · exact dwell_round hleast (hab.flight hflight) (by omega) (ih hflight hfresh (by omega)) hbc

end Dwelling

section Converging

def Settled (r d a k : Nat) (p : Peer) : Prop :=
  Steady r d a k p ∧ p.state = .forwarding

variable {a : Nat}

theorem SteadyLine.tick_forwarding (h : SteadyLine r d k p) (hr : r ≠ k)
    (hs : p.state = .forwarding) : (Peer.tick k p).1.state = .forwarding := by
  have hroot := h.root
  have htimer := (h.synced hs).2
  exact (tick_calm h.awake fun _ => ⟨by omega, by omega⟩).stays hs

theorem SteadyFabric.tick_forwarding (h : SteadyFabric r d a k p)
    (hs : p.state = .forwarding) : (Peer.tick k p).1.state = .forwarding := by
  have hroot := h.root
  by_cases hkr : k = r
  · rw [tick_root hs (hkr.trans hroot.symm) (h.isRoot hkr).2.1]
    exact hs
  · exact (tick_calm h.awake fun _ => ⟨by omega, h.timer hs⟩).stays hs

theorem Settled.tick (h : Settled r d a k p) (hr : 33 ≤ r) :
    (Peer.tick k p).1.state = .forwarding := by
  obtain ⟨hsteady, hs⟩ := h
  unfold Steady Sides.Holds at hsteady
  split_ifs at hsteady with hl
  · exact hsteady.tick_forwarding (by omega) hs
  · exact hsteady.tick_forwarding hs

theorem settled_round (hroles : Roles S r d) (hflight : n.flight = [])
    (h : ∀ k ∈ S, Settled r d a k (n.node k))
    (hround : MessageNet.Round peerProtocol hears S n n') :
    ∀ k ∈ S, Settled r d a k (n'.node k) ∧ Synced r d a k (n'.node k) := by
  intro k hk
  obtain ⟨hsteady, hsynced, hstays⟩ := relay_round hroles hflight (fun k hk => .inl (h k hk).1)
    (fun _ _ _ _ l hl _ => (h l hl).tick hroles.root.2) hround hk
  exact ⟨⟨hsteady, hstays ((h k hk).tick hroles.root.2)⟩, hsynced⟩

theorem settled_rounds (hroles : Roles S r d) (hflight : n.flight = [])
    (h : ∀ k ∈ S, Settled r d a k (n.node k) ∧ Synced r d a k (n.node k))
    (hrounds : MessageNet.Rounds peerProtocol hears S t n n') :
    ∀ k ∈ S, Settled r d a k (n'.node k) ∧ Synced r d a k (n'.node k) := by
  induction hrounds with
  | zero => exact h
  | succ hab hbc ih =>
    exact settled_round hroles (hab.flight hflight) (fun k hk => (ih hflight h k hk).1) hbc

theorem Dwell.steady (hleast : Least S r d) (h : Dwell r d 13 k p) :
    Steady r d d k p ∧ (Peer.tick k p).1.state = .forwarding := by
  have hr := hleast.root.2
  unfold Dwell Steady Sides.Holds at *
  split_ifs at * with hl
  · obtain ⟨hs, htimer⟩ := Prod.mk.inj h.clock
    have hs : p.state = .learning := hs
    have htimer : p.timer = 7 := htimer
    exact ⟨⟨h.port, h.root, by simp [hs], by simp [hs],
      fun _ => ⟨h.settled (by omega), .inr ⟨hs, htimer.ge⟩⟩⟩, tick_ripe hl hs htimer.ge⟩
  · obtain ⟨hs, htimer⟩ := fabricClock_forwarding h.clock (by omega)
    have hage := h.late (by omega)
    have hsteady : SteadyFabric r d d k p :=
      ⟨fun _ => h.port, h.agreed (by omega), by simp [hs], fun _ => by omega,
        fun _ => ⟨hs, by omega, h.port.trans h.designated, h.designated, by omega⟩⟩
    exact ⟨hsteady, hsteady.tick_forwarding hs⟩

theorem converged (hleast : Least S r d) (hflight : n.flight = [])
    (hfresh : ∀ k ∈ S, Fresh k (n.node k))
    (hrounds : MessageNet.Rounds peerProtocol hears S t n n') (ht : 14 ≤ t) :
    ∀ k ∈ S, Settled r d d k (n'.node k) ∧ Synced r d d k (n'.node k) := by
  obtain ⟨u, rfl⟩ : ∃ u, t = 13 + 1 + u := ⟨t - 14, by omega⟩
  obtain ⟨c, hc, hlater⟩ := hrounds.split
  obtain ⟨b, hb, hround⟩ := hc.split
  have hdwell := dwell_rounds hleast hflight hfresh hb (by omega)
  have hbflight := hb.flight hflight
  refine settled_rounds hleast.toRoles (hc.flight hflight) (fun k hk => ?_) hlater
  cases hround with
  | succ hzero hround =>
    cases hzero with
    | zero =>
      have hstart (k : Nat) (hk : k ∈ S) := (hdwell k hk).steady hleast
      obtain ⟨hsteady, hsynced, hstays⟩ := relay_round hleast.toRoles hbflight
        (fun k hk => .inl (hstart k hk).1) (fun _ _ _ _ l hl _ => (hstart l hl).2) hround hk
      exact ⟨⟨hsteady, hstays (hstart k hk).2⟩, hsynced⟩

theorem waiting_early (hleast : Least S r d) (hflight : n.flight = [])
    (hfresh : ∀ k ∈ S, Fresh k (n.node k))
    (hrounds : MessageNet.Rounds peerProtocol hears S t n n') (ht : t ≤ 13) :
    (n'.node d).state ≠ .forwarding := by
  obtain ⟨hdS, -, hd⟩ := hleast.designated
  rcases Nat.eq_zero_or_pos t with rfl | hpos
  · cases hrounds with
    | zero =>
      obtain ⟨q, hq⟩ := hfresh d hdS
      rw [hq]
      simp [block]
  · have hdwell := dwell_rounds hleast hflight hfresh hrounds ⟨hpos, ht⟩ d hdS
    rw [Dwell, Sides.Holds, if_pos hd] at hdwell
    exact (lineClock_waiting hdwell.clock).2.1

end Converging

end Peer

section Half

def lowHalf : List Nat := [1, 3, 5, 7, 9, 11, 13, 15, 33, 35, 37, 39]

def highHalf : List Nat := [17, 19, 21, 23, 25, 27, 29, 31, 41, 43, 45, 47]

structure Half (S : List Nat) : Prop where
  nodup : S.Nodup
  cards : S ⊆ lowHalf ∨ S ⊆ highHalf

def Started (S : List Nat) (n : Net) : Prop :=
  n.flight = [] ∧ ∀ k ∈ S, EntersBlock k (n.node k)

abbrev Lockstep (S : List Nat) : Nat → Net → Net → Prop :=
  MessageNet.Rounds (chassisProtocol true) hears S

variable {S : List Nat} {r d t : Nat} {a b : Net}

theorem Half.card (h : Half S) {k : Nat} (hk : k ∈ S) : k % 2 = 1 ∧ k ≤ 48 := by
  have hall : ∀ k ∈ lowHalf ++ highHalf, k % 2 = 1 ∧ k ≤ 48 := by decide
  refine hall k (List.mem_append.mpr ?_)
  rcases h.cards with hlow | hhigh
  · exact .inl (hlow hk)
  · exact .inr (hhigh hk)

theorem Half.few (h : Half S) : (S.filter (· < 33)).length ≤ 8 := by
  have hle {H : List Nat} (hcards : S ⊆ H) :
      (S.filter (· < 33)).length ≤ (H.filter (· < 33)).length := by
    refine ((h.nodup.filter _).subperm fun k hk => ?_).length_le
    rw [List.mem_filter] at hk ⊢
    exact ⟨hcards hk.1, hk.2⟩
  rcases h.cards with hcards | hcards
  · exact hle hcards
  · exact hle hcards

theorem Half.least (h : Half S) (hr : IsLeast {k | k ∈ S ∧ 33 ≤ k} r)
    (hd : IsLeast {k | k ∈ S ∧ k < 33} d) : Peer.Least S r d where
  root := hr.1
  designated := by
    have := h.card hd.1.1
    exact ⟨hd.1.1, by omega, hd.1.2⟩
  few := h.few
  root_le f hf hfabric := hr.2 ⟨hf, hfabric⟩
  designated_le l hl hline := hd.2 ⟨hl, hline⟩

theorem Started.running (h : Started S a) (hhalf : Half S) :
    ∀ k ∈ S, Running k (a.node k) := fun k hk => ((h.2 k hk).running (hhalf.card hk)).1

theorem Started.fresh (h : Started S a) (hhalf : Half S) :
    ∀ k ∈ S, Peer.Fresh k ((toPeers a).node k) := fun k hk =>
  ((h.2 k hk).running (hhalf.card hk)).2

theorem toPeers_flight (h : a.flight = []) : (toPeers a).flight = [] := by
  simp [toPeers, MessageNet.Net.map, h]

theorem exists_least {P : Nat → Prop} (h : ∃ k ∈ S, P k) : ∃ r, IsLeast {k | k ∈ S ∧ P k} r :=
  ⟨sInf {k | k ∈ S ∧ P k}, Nat.sInf_mem h, fun _ hk => Nat.sInf_le hk⟩

structure Agreed (r d a k : Nat) (c : Chassis) : Prop where
  running : Running k c
  settled : Peer.Settled r d a k (view c)
  synced : Peer.Synced r d a k (view c)

theorem Started.agreed (h : Started S a) (hhalf : Half S) (hr : IsLeast {k | k ∈ S ∧ 33 ≤ k} r)
    (hd : IsLeast {k | k ∈ S ∧ k < 33} d) (hrounds : Lockstep S t a b) (ht : 14 ≤ t) :
    ∀ k ∈ S, Agreed r d d k (b.node k) := by
  intro k hk
  obtain ⟨hpeers, hrunning⟩ := rounds_refine hrounds (h.running hhalf) h.1
  obtain ⟨hsettled, hsynced⟩ := Peer.converged (hhalf.least hr hd) (toPeers_flight h.1)
    (h.fresh hhalf) hpeers ht k hk
  exact ⟨hrunning k hk, hsettled, hsynced⟩

theorem Started.late (h : Started S a) (hhalf : Half S) (hr : IsLeast {k | k ∈ S ∧ 33 ≤ k} r)
    (hd : IsLeast {k | k ∈ S ∧ k < 33} d) (hrounds : Lockstep S t a b)
    (hforwarding : (b.node d).ctpm.state = .forwarding) : 14 ≤ t := by
  obtain ⟨hpeers, -⟩ := rounds_refine hrounds (h.running hhalf) h.1
  by_contra ht
  exact Peer.waiting_early (hhalf.least hr hd) (toPeers_flight h.1) (h.fresh hhalf) hpeers
    (by omega) hforwarding

theorem Agreed.ports {k p : Nat} {c : Chassis} (h : Agreed r d p k c) :
    c.ctpm.state = .forwarding ∧ c.ctpm.rootPortId = r ∧
      c.ctpm.rootLCPortId = if k = r then p else d := by
  obtain ⟨-, hroot, -, hport⟩ := h.synced h.settled.2
  exact ⟨h.settled.2, hroot, hport⟩

theorem Agreed.bridges {k p : Nat} {c : Chassis} (h : Agreed r d p k c) :
    c.ctpm.rootPrio.rootBridge.number = r ∧ c.ctpm.rootPrio.designBridge.number = d := by
  obtain ⟨-, hroot, hdes, -⟩ := h.synced h.settled.2
  exact ⟨h.running.sound.root.1.symm.trans hroot, hdes⟩

theorem half_converges (S : List Nat) (hhalf : Half S) (r d : Nat)
    (hr : IsLeast {k | k ∈ S ∧ 33 ≤ k} r) (hd : IsLeast {k | k ∈ S ∧ k < 33} d) (a b : Net)
    (hstart : Started S a) (t : Nat) (ht : 14 ≤ t) (hrounds : Lockstep S t a b) :
    ∀ k ∈ S, (b.node k).ctpm.state = .forwarding ∧ (b.node k).ctpm.rootPortId = r ∧
      (b.node k).ctpm.rootLCPortId = d := by
  intro k hk
  obtain ⟨hstate, hroot, hport⟩ := (hstart.agreed hhalf hr hd hrounds ht k hk).ports
  rw [ite_self] at hport
  exact ⟨hstate, hroot, hport⟩

def coldNet : Net where
  node k := enterBlock (startUp k (cardTypeOf k) .enabled (Vector.replicate 6 0))
  flight := []

theorem started_coldNet (hhalf : Half S) : Started S coldNet := by
  refine ⟨rfl, fun k hk => ⟨_, ⟨?_, ?_, ?_, ?_⟩, rfl⟩⟩
  · simp
  · simp
  · exact brId_startUp k (by have := (hhalf.card hk).2; omega) _ _ _
  · simp [(hhalf.card hk).1]

theorem half_converges_two_cards :
    ∃ b, Lockstep [1, 33] 14 coldNet b ∧ ∀ k ∈ [1, 33], (b.node k).ctpm.state = .forwarding ∧
      (b.node k).ctpm.rootPortId = 33 ∧ (b.node k).ctpm.rootLCPortId = 1 := by
  have hhalf : Half [1, 33] := ⟨by decide, .inl (by decide)⟩
  have hstart := started_coldNet hhalf
  obtain ⟨b, hb⟩ := exists_rounds (by decide) (hstart.running hhalf) hstart.1 14
  refine ⟨b, hb, half_converges [1, 33] hhalf 33 1 ?_ ?_ coldNet b hstart 14 le_rfl hb⟩
  · exact ⟨by decide, fun k hk => hk.2⟩
  · refine ⟨by decide, fun k hk => ?_⟩
    have := hhalf.card hk.1
    omega

end Half

end Chassisd
