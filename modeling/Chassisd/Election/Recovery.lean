import Chassisd.Election.Convergence

namespace Chassisd

namespace Peer

variable {S S' : List Nat} {r d e k t : Nat} {m : Notice} {p : Peer}
  {n n' : MessageNet.Net Nat Peer Notice}

section Ages

def Named (S : List Nat) (age : Nat → Nat) : Prop := ∀ n, age n ≤ 16 ∧ (0 < age n → n ∈ S)

def Names (S : List Nat) (out : Peer × List Notice) : Prop :=
  Named S out.1.age ∧ ∀ b ∈ out.2, Named S b.age

variable {age : Nat → Nat}

theorem Named.beat (h : Named S age) (hk : k ∈ S) : Named S (beatAge k age) := by
  intro n
  obtain ⟨hle, hmem⟩ := h n
  unfold beatAge
  split_ifs with hn
  · exact ⟨le_rfl, fun _ => hn ▸ hk⟩
  · exact ⟨by omega, fun hpos => hmem (by omega)⟩

theorem Named.merge (hp : Named S p.age) (hm : Named S m.age) : Named S (merge k m p).age := by
  intro n
  by_cases hn : n = k
  · rw [hn, merge_age_self]
    exact hp k
  · rw [merge_age_of_ne m p hn]
    exact ⟨max_le (hp n).1 (hm n).1, fun hpos => (lt_max_iff.mp hpos).elim (hp n).2 (hm n).2⟩

theorem Named.forget (h : Named S p.age) (old : Nat) : Named S (forget old p).age := by
  intro n
  change (if n = old + 1 then 0 else p.age n) ≤ 16 ∧ (0 < (if n = old + 1 then 0 else p.age n) → _)
  split_ifs
  · exact ⟨by omega, by simp⟩
  · exact h n

theorem named_block (hk : k ∈ S) (p : Peer) : Named S (block k p).age := by
  intro n
  change (if n = k then 16 else 0) ≤ 16 ∧ (0 < (if n = k then 16 else 0) → _)
  split_ifs with hn
  · exact ⟨le_rfl, fun _ => hn ▸ hk⟩
  · exact ⟨by omega, by simp⟩

theorem names_silent (h : Named S p.age) : Names S (p, []) := ⟨h, by simp⟩

theorem names_say (h : Named S p.age) (hk : k ∈ S) (kind : Kind) : Names S (say k kind p) :=
  ⟨h.beat hk, fun b hb => by rw [List.mem_singleton.mp hb]; exact h.beat hk⟩

theorem names_tick (hk : k ∈ S) (h : Named S p.age) : Names S (tick k p) := by
  unfold tick iterate
  split
  · split_ifs
    · exact names_say h hk _
    · exact names_silent h
    · exact names_silent h
  · split_ifs
    · exact names_silent h
    · exact names_say h hk _
    · exact names_silent h
  · split_ifs
    · exact names_say h hk _
    · exact names_silent h
    · exact names_say h hk _
    · exact names_silent h
  · split_ifs
    · split
      · refine names_say ?_ hk _
        exact h.forget p.port
      · exact names_say (named_block hk _) hk _
    · exact names_say h hk _
    · exact names_silent (named_block hk _)
    · exact names_silent h
  · exact names_silent h

theorem names_lineHear (hk : k ∈ S) (h : Named S p.age) (hm : Named S m.age) :
    Names S (lineHear k m p) := by
  have hmerge : Named S (merge k m p).age := h.merge hm
  have hstudy (wr wd : Bool) : Names S (study wr wd k m p, []) :=
    names_silent (by rw [study_age]; exact hmerge)
  unfold lineHear
  split
  · refine ⟨Named.merge (Named.beat hmerge hk) hm, fun b hb => ?_⟩
    rw [List.mem_singleton.mp hb]
    exact Named.beat hmerge hk
  · exact hstudy _ _
  · exact hstudy _ _
  · dsimp only
    split
    · refine ⟨named_block hk _, fun b hb => ?_⟩
      rw [List.mem_singleton.mp hb]
      exact hmerge.beat hk
    · unfold helloFromFabric
      split_ifs
      · exact names_silent (by rw [(sync_frame m _).2.2.2.1]; exact hmerge)
      · exact names_say hmerge hk _
      · exact names_say hmerge hk _
    · exact names_say hmerge hk _
    · exact names_silent hmerge
  · exact names_silent h

theorem names_fabricHear (hk : k ∈ S) (h : Named S p.age) (hm : Named S m.age) :
    Names S (fabricHear k m p) := by
  have hmerge : Named S (merge k m p).age := h.merge hm
  have hstudy (wr wd : Bool) : Names S (study wr wd k m p, []) :=
    names_silent (by rw [study_age]; exact hmerge)
  have hsync : Named S (sync m (restart (merge k m p))).age := by
    rw [(sync_frame m _).2.2.2.1]
    exact hmerge
  unfold fabricHear
  split
  · exact names_silent (Named.merge hmerge hm)
  · exact hstudy _ _
  · exact hstudy _ _
  · dsimp only
    split
    · unfold helloFromLine
      split_ifs
      · exact names_say hsync hk _
      · exact names_silent hsync
      · exact names_say hmerge hk _
      · exact names_silent hmerge
    · exact names_say hmerge hk _
    · split_ifs
      · split
        · refine names_say ?_ hk _
          exact hmerge.forget m.designated
        · exact names_silent (named_block hk _)
      · exact names_silent hmerge
    · split_ifs
      · exact names_silent hmerge
      · exact names_silent (named_block hk _)
    · exact names_silent hmerge
  · exact names_silent h

theorem names_recv (hk : k ∈ S) (h : Named S p.age) (hm : Named S m.age) :
    Names S (recv k m p) := by
  unfold recv
  split_ifs
  · exact names_silent h
  · exact names_lineHear hk h hm
  · exact names_fabricHear hk h hm

theorem named_round (hsub : S ⊆ S') (hflight : n.flight = [])
    (h : ∀ k ∈ S, Named S' (n.node k).age)
    (hround : MessageNet.Round peerProtocol hears S n n') :
    ∀ k ∈ S, Named S' (n'.node k).age := by
  have hphase : MessageNet.Phase peerProtocol hears S (fun _ p => Named S' p.age)
      (fun _ m => Named S' m.age) n := by
    refine ⟨⟨fun k hk m p hp hm => (names_recv (hsub hk) hp hm).1, ?_⟩, hflight,
      fun k hk => (names_tick (hsub hk) (h k hk)).1, ?_⟩
    · exact fun k hk m p hp hm b hb _ _ _ => (names_recv (hsub hk) hp hm).2 b hb
    · exact fun k hk b hb _ _ _ => (names_tick (hsub hk) (h k hk)).2 b hb
  exact hphase.holds hround

theorem named_rounds (hsub : S ⊆ S') (hflight : n.flight = [])
    (h : ∀ k ∈ S, Named S' (n.node k).age)
    (hrounds : MessageNet.Rounds peerProtocol hears S t n n') :
    ∀ k ∈ S, Named S' (n'.node k).age := by
  induction hrounds with
  | zero => exact h
  | succ hab hbc ih => exact named_round hsub (hab.flight hflight) (ih hflight h) hbc

theorem Fresh.named (h : Fresh k p) (hk : k ∈ S) : Named S p.age := by
  obtain ⟨q, rfl⟩ := h
  exact named_block hk q

end Ages

section Rootless

structure Orphan (r t : Nat) (p : Peer) : Prop where
  state : p.state = .forwarding
  timer : p.timer = t
  root : p.root = r

theorem Orphan.tick (h : Orphan r t p) (hk : k ≠ r) (ht : t ≤ 45) :
    Orphan r (t + 1) (Peer.tick k p).1 ∧ (Peer.tick k p).2 = [] := by
  have hroot : k ≠ p.root := h.root ▸ hk
  have hlate : ¬ 45 < p.timer := by rw [h.timer]; omega
  unfold Peer.tick iterate
  rw [h.state]
  dsimp only
  rw [if_neg hroot, if_neg hlate]
  exact ⟨⟨rfl, congrArg (· + 1) h.timer, h.root⟩, rfl⟩

theorem Orphan.expires (h : Orphan r 46 p) (hk : k ≠ r) :
    Fresh k (Peer.tick k p).1 ∧ (Peer.tick k p).2 = [] := by
  have hroot : k ≠ p.root := h.root ▸ hk
  have hlate : 45 < p.timer := by rw [h.timer]; omega
  unfold Peer.tick iterate
  rw [h.state]
  dsimp only
  rw [if_neg hroot, if_pos hlate]
  exact ⟨⟨_, rfl⟩, rfl⟩

theorem silent_round (hflight : n.flight = []) (hquiet : ∀ k ∈ S, (tick k (n.node k)).2 = [])
    (hround : MessageNet.Round peerProtocol hears S n n') :
    ∀ k ∈ S, n'.node k = (tick k (n.node k)).1 := by
  intro k hk
  rw [hround.eq_tickAll, MessageNet.tickAll_node hk]
  · rfl
  · refine List.eq_nil_iff_forall_not_mem.mpr fun ⟨j, m⟩ hm => ?_
    obtain ⟨l, hl, -, hsent⟩ := (MessageNet.mem_tickAll_flight hflight).mp hm
    rw [show peerProtocol.tick = tick from rfl, hquiet l hl] at hsent
    cases hsent

theorem orphan_rounds (hr : r ∉ S) (hflight : n.flight = [])
    (h : ∀ k ∈ S, Orphan r 0 (n.node k))
    (hrounds : MessageNet.Rounds peerProtocol hears S t n n') (ht : t ≤ 46) :
    ∀ k ∈ S, Orphan r t (n'.node k) := by
  induction hrounds with
  | zero => exact h
  | succ hab hbc ih =>
    intro k hk
    have hne {l : Nat} (hl : l ∈ S) : l ≠ r := fun hlr => hr (hlr ▸ hl)
    have hstep (l : Nat) (hl : l ∈ S) := (ih hflight h (by omega) l hl).tick (hne hl) (by omega)
    rw [silent_round (hab.flight hflight) (fun l hl => (hstep l hl).2) hbc k hk]
    exact (hstep k hk).1

theorem orphans_restart (hr : r ∉ S) (hflight : n.flight = [])
    (h : ∀ k ∈ S, Orphan r 0 (n.node k))
    (hrounds : MessageNet.Rounds peerProtocol hears S 47 n n') :
    ∀ k ∈ S, Fresh k (n'.node k) := by
  cases hrounds with
  | succ hab hbc =>
    intro k hk
    have hne {l : Nat} (hl : l ∈ S) : l ≠ r := fun hlr => hr (hlr ▸ hl)
    have hstep (l : Nat) (hl : l ∈ S) :=
      (orphan_rounds hr hflight h hab le_rfl l hl).expires (hne hl)
    rw [silent_round (hab.flight hflight) (fun l hl => (hstep l hl).2) hbc k hk]
    exact (hstep k hk).1

end Rootless

section Undesignated

structure Bereft (S : List Nat) (r d : Nat) : Prop where
  root : r ∈ S ∧ 33 ≤ r
  lost : d ∉ S ∧ d < 33

variable (S r d t)

structure WidowedLine (p : Peer) : Prop where
  state : p.state = .forwarding
  root : p.root = r
  port : p.port = d
  designated : p.designated = d
  timer : p.timer = 0
  age : p.age d ≤ 16 - t

structure WidowedFabric (k : Nat) (p : Peer) : Prop where
  state : p.state = .forwarding
  root : p.root = r
  port : p.port = d
  designated : p.designated = d
  timer : p.timer = t
  age : k = r → p.age d ≤ 16 - t
  alive : k = r → 0 < t → ∀ l ∈ S, l < 33 → 16 ≤ p.age l

structure FadingLine (p : Peer) : Prop where
  state : p.state = .forwarding
  root : p.root = r
  port : p.port = d
  designated : p.designated = d
  age : p.age d ≤ 16 - t
  hello : (r, .hello) ∈ p.heard → p.timer = 0 ∧ p.age d ≤ 16 - (t + 1)

structure FadingFabric (k : Nat) (p : Peer) : Prop where
  state : p.state = .forwarding
  root : p.root = r
  port : p.port = d
  designated : p.designated = d
  timer : p.timer = t + 1
  age : k = r → p.age d ≤ 16 - (t + 1)
  reply : k = r → ∀ l, (l, .reply) ∈ p.heard → 16 ≤ p.age l

structure FadingToLine (m : Notice) : Prop where
  kind : m.kind = .hello
  root : m.root = r
  designated : m.designated = d
  age : m.age d ≤ 16 - (t + 1)

structure FadingToFabric (m : Notice) : Prop where
  kind : m.kind = .reply
  slot : m.slot < 33 ∧ 16 ≤ m.age m.slot
  age : m.age d ≤ 16 - (t + 1)

variable {S r d t}

theorem lineHear_hello_reply (hs : p.state = .forwarding) (hkind : m.kind = .hello)
    (hdes : m.designated = p.port ∧ m.designated ≠ k) :
    lineHear k m p = say k .reply (restart (merge k m p)) := by
  rw [lineHear_forwarding hs (by simp [hkind]) (by simp [hkind]), if_pos hkind, helloFromFabric,
    if_neg (fun h => h.2 hdes.1), if_neg (fun h => hdes.2 h.1)]

theorem FadingLine.hear (hd : d ≠ k) (hk : k < 33) (h : FadingLine r d t p)
    (hm : FadingToLine r d t m) :
    FadingLine r d t (lineHear k m (noted m p)).1 ∧
      ∀ b ∈ (lineHear k m (noted m p)).2, FadingToFabric d t b := by
  have hmage := hm.age
  have hpage := h.age
  have hage : beatAge k (merge k m p).age d ≤ 16 - (t + 1) := by
    rw [beatAge_of_ne _ hd, merge_age_of_ne m p hd]
    omega
  rw [lineHear_hello_reply (p := noted m p) h.state hm.kind
    ⟨hm.designated.trans h.port.symm, hm.designated ▸ hd⟩]
  constructor
  · exact ⟨h.state, h.root, h.port, h.designated, hage.trans (by omega), fun _ => ⟨rfl, hage⟩⟩
  · intro b hb
    rw [List.mem_singleton.mp hb]
    refine ⟨rfl, ⟨hk, ?_⟩, hage⟩
    simp only [notice_frame, beatAge_self]
    exact le_rfl

theorem fabricHear_reply (hs : p.state = .forwarding) (hkind : m.kind = .reply) :
    fabricHear k m p = (merge k m p, []) := by
  rw [fabricHear_forwarding hs (by simp [hkind]) (by simp [hkind]), if_neg (by simp [hkind]),
    if_neg (by simp [hkind])]

theorem FadingFabric.hear (hd : d < 33) (hk : 33 ≤ k) (h : FadingFabric r d t k p)
    (hm : FadingToFabric d t m) :
    FadingFabric r d t k (fabricHear k m (noted m p)).1 ∧
      (fabricHear k m (noted m p)).2 = [] := by
  rw [fabricHear_reply (p := noted m p) h.state hm.kind]
  refine ⟨⟨h.state, h.root, h.port, h.designated, h.timer, fun hkr => ?_, fun hkr l hl => ?_⟩, rfl⟩
  · rw [merge_age_of_ne m _ (by omega)]
    exact max_le (h.age hkr) hm.age
  · rcases List.mem_append.mp hl with hl | hl
    · exact (h.reply hkr l hl).trans (le_merge_age (p := noted m p) l)
    · obtain ⟨hslot, -⟩ := Prod.mk.inj (List.mem_singleton.mp hl)
      have hlt := hm.slot.1
      rw [hslot]
      exact hm.slot.2.trans (age_le_merge (by omega))

theorem WidowedLine.tick (h : WidowedLine r d t p) (hk : k ≠ r) :
    FadingLine r d t (Peer.tick k p).1 ∧ (Peer.tick k p).2 = [] := by
  have horphan : Orphan r 0 p := ⟨h.state, h.timer, h.root⟩
  have hroot : k ≠ p.root := h.root ▸ hk
  have hcalm := tick_calm (k := k) (p := p) (by simp [h.state]) fun _ =>
    ⟨hroot, by rw [h.timer]; omega⟩
  obtain ⟨⟨hs, -, -⟩, hout⟩ := horphan.tick hk (by omega)
  refine ⟨⟨hs, hcalm.root.trans h.root, hcalm.port.trans h.port,
    hcalm.designated.trans h.designated, ?_, by simp [hcalm.heard]⟩, hout⟩
  rw [hcalm.age hout]
  exact h.age

theorem WidowedFabric.tick (h : WidowedFabric S r d t k p) (hd : d ≠ k) (ht : t ≤ 15) :
    FadingFabric r d t k (Peer.tick k p).1 ∧
      ∀ b ∈ (Peer.tick k p).2, FadingToLine r d t b := by
  by_cases hkr : k = r
  · have hage := h.age hkr
    have hbeat : beatAge k p.age d ≤ 16 - (t + 1) := by
      rw [beatAge_of_ne _ hd]
      omega
    rw [tick_root h.state (hkr.trans h.root.symm) (by rw [h.timer]; exact ht)]
    refine ⟨⟨h.state, h.root, h.port, h.designated, congrArg (· + 1) h.timer, fun _ => hbeat,
      fun _ l hl => by simp [say] at hl⟩, fun b hb => ?_⟩
    rw [List.mem_singleton.mp hb]
    exact ⟨rfl, h.root, h.designated, hbeat⟩
  · have horphan : Orphan r t p := ⟨h.state, h.timer, h.root⟩
    have hroot : k ≠ p.root := h.root ▸ hkr
    have hcalm := tick_calm (k := k) (p := p) (by simp [h.state]) fun _ =>
      ⟨hroot, by rw [h.timer]; omega⟩
    obtain ⟨⟨hs, htimer, -⟩, hout⟩ := horphan.tick hkr (by omega)
    exact ⟨⟨hs, hcalm.root.trans h.root, hcalm.port.trans h.port,
      hcalm.designated.trans h.designated, htimer, fun h => absurd h hkr, fun h => absurd h hkr⟩,
      by simp [hout]⟩

def Widowed (S : List Nat) (r d t : Nat) : Nat → Peer → Prop :=
  Sides.Holds (fun _ => WidowedLine r d t) (WidowedFabric S r d t)

theorem widowed_round (hbereft : Bereft S r d) (hflight : n.flight = []) (ht : t ≤ 15)
    (h : ∀ k ∈ S, Widowed S r d t k (n.node k))
    (hround : MessageNet.Round peerProtocol hears S n n') :
    ∀ k ∈ S, Widowed S r d (t + 1) k (n'.node k) := by
  obtain ⟨hrS, hr⟩ := hbereft.root
  obtain ⟨hdS, hd⟩ := hbereft.lost
  have hline (k : Nat) (hk : k ∈ S) (hl : k < 33) : WidowedLine r d t (n.node k) := by
    have := h k hk
    rwa [Widowed, Sides.Holds, if_pos hl] at this
  have hfabric (k : Nat) (hk : k ∈ S) (hf : 33 ≤ k) : WidowedFabric S r d t k (n.node k) := by
    have := h k hk
    rwa [Widowed, Sides.Holds, if_neg (by omega)] at this
  have hsides : Sides S (fun _ => FadingLine r d t) (FadingFabric r d t)
      (FadingToLine r d t) (FadingToFabric d t) n := by
    refine ⟨hflight, fun k hk hl => ?_, fun k hk hf => (hfabric k hk hf).tick (by omega) ht,
      fun k hk hl m p hp hm _ => hp.hear (fun hdk => hdS (hdk ▸ hk)) hl hm,
      fun k hk hf m p hp hm _ => ?_⟩
    · obtain ⟨hfading, hout⟩ := (hline k hk hl).tick (k := k) (by omega)
      exact ⟨hfading, by simp [hout]⟩
    · obtain ⟨hfading, hout⟩ := hp.hear hd hf hm
      exact ⟨hfading, by simp [hout]⟩
  have hhello (l : Nat) (hl : l ∈ S) (hlt : l < 33) : (r, .hello) ∈ (n'.node l).heard := by
    refine hsides.heard_tick hround hrS hl ((hears_fabric hr).mpr hlt) ?_
    have hroot := hfabric r hrS hr
    rw [tick_root hroot.state hroot.root.symm (by rw [hroot.timer]; exact ht)]
    exact ⟨_, List.mem_singleton.mpr rfl, rfl, rfl⟩
  have hreply (l : Nat) (hl : l ∈ S) (hlt : l < 33) : (l, .reply) ∈ (n'.node r).heard := by
    refine hsides.heard_relay hround hl hrS ((hears_line hlt).mpr hr) ?_ (hhello l hl hlt)
    intro m p hp hm hkeys hkey
    simp only [Sides.Holds, Sides.Hears, if_pos hlt] at hp hm
    rw [Peer.recv, if_neg (by rw [hkeys]; exact hkey), if_pos hlt,
      lineHear_hello_reply (p := noted m p) hp.state hm.kind
        ⟨hm.designated.trans hp.port.symm, fun h => hdS (hm.designated.symm.trans h ▸ hl)⟩]
    exact ⟨_, List.mem_singleton.mpr rfl, rfl, rfl⟩
  intro k hk
  unfold Widowed Sides.Holds
  split_ifs with hl
  · have hend := hsides.line hround hk hl
    obtain ⟨htimer, hage⟩ := hend.hello (hhello k hk hl)
    exact ⟨hend.state, hend.root, hend.port, hend.designated, htimer, hage⟩
  · have hend := hsides.fabric hround hk (by omega)
    exact ⟨hend.state, hend.root, hend.port, hend.designated, hend.timer, hend.age,
      fun hkr _ l hlS hlt => hend.reply hkr l (hkr ▸ hreply l hlS hlt)⟩

theorem widowed_rounds (hbereft : Bereft S r d) (hflight : n.flight = [])
    (h : ∀ k ∈ S, Widowed S r d 0 k (n.node k))
    (hrounds : MessageNet.Rounds peerProtocol hears S t n n') (ht : t ≤ 16) :
    ∀ k ∈ S, Widowed S r d t k (n'.node k) := by
  induction hrounds with
  | zero => exact h
  | succ hab hbc ih =>
    exact widowed_round hbereft (hab.flight hflight) (by omega) (ih hflight h (by omega)) hbc

end Undesignated

section Electing

variable (S r d e)

structure Heir : Prop extends Bereft S r d where
  least : IsLeast {l | l ∈ S ∧ l < 33} e
  apart : 0 < e ∧ e ≠ d + 1
  few : (S.filter (· < 33)).length ≤ 8

structure FollowingLine (p : Peer) : Prop where
  state : p.state = .forwarding
  root : p.root = r
  before : (r, .hello) ∉ p.heard → p.port = d ∧ p.designated = d
  after : (r, .hello) ∈ p.heard → p.port = e ∧ p.designated = e ∧ p.timer = 0

structure Succession (m : Notice) : Prop where
  key : (m.slot, m.kind) = (r, .hello)
  root : m.root = r
  designated : m.designated = e
  age : 0 < m.age e

variable {S r d e}

theorem Heir.roles (h : Heir S r d e) : Roles S r e :=
  ⟨h.root, ⟨h.least.1.1, h.apart.1, h.least.1.2⟩, h.few⟩

theorem Heir.ne (h : Heir S r d e) : e ≠ d := fun hed => h.lost.1 (hed ▸ h.least.1.1)

theorem Heir.elected (h : Heir S r d e) (hp : WidowedFabric S r d 16 r p)
    (hnamed : Named S' p.age) (hS : ∀ n ∈ S', n = d ∨ n ∈ S) :
    heir r (forget p.port p).age = some (e - 1) := by
  obtain ⟨-, hr⟩ := h.root
  obtain ⟨heS, he⟩ := h.least.1
  have hpos := h.apart.1
  have hold : p.port + 1 = d + 1 := by rw [hp.port]
  have hage : p.age d = 0 := by have := hp.age rfl; omega
  unfold heir
  rw [List.find?_range_eq_some]
  refine ⟨?_, List.mem_range.mpr (by omega), fun j hj => ?_⟩
  · have halive := hp.alive rfl (by omega) e heS he
    have hforget : (forget p.port p).age (e - 1 + 1) = p.age e := by
      change (if e - 1 + 1 = p.port + 1 then 0 else p.age (e - 1 + 1)) = _
      rw [Nat.sub_add_cancel hpos, hold, if_neg h.apart.2]
    rw [hforget, Nat.sub_add_cancel hpos]
    simp only [decide_eq_true_eq]
    omega
  · -- nobody below the heir is alive: d has faded, and the others were never there
    have hzero : (forget p.port p).age (j + 1) = 0 := by
      change (if j + 1 = p.port + 1 then 0 else p.age (j + 1)) = 0
      split_ifs
      · rfl
      · by_contra hne
        rcases hS _ ((hnamed (j + 1)).2 (Nat.pos_of_ne_zero hne)) with hd | hmem
        · exact hne (hd ▸ hage)
        · have := h.least.2 ⟨hmem, by omega⟩
          omega
    simp [hzero]

theorem FollowingLine.hear (hed : e ≠ d) (h : FollowingLine r d e p) (hm : Succession r e m)
    (hpos : 0 < e) (hkey : (m.slot, m.kind) ∉ p.heard) :
    FollowingLine r d e (lineHear k m (noted m p)).1 ∧ (lineHear k m (noted m p)).2 = [] := by
  have hkind : m.kind = .hello := (Prod.mk.inj hm.key).2
  obtain ⟨hport, hdes⟩ := h.before (hm.key ▸ hkey)
  have hsync : sync m (restart (merge k m (noted m p))) =
      { restart (merge k m (noted m p)) with port := e, designated := e } := by
    rw [sync, if_pos, hm.designated]
    rw [hm.designated]
    simp only [restart_frame, merge_frame, noted_frame, hdes]
    exact ⟨hpos, hed, hm.age⟩
  rw [lineHear_forwarding (p := noted m p) h.state (by simp [hkind]) (by simp [hkind]),
    if_pos hkind, helloFromFabric,
    if_pos ⟨hm.root.trans h.root.symm, by
      rw [hm.designated]; exact fun he => hed (he.trans hport)⟩, hsync]
  refine ⟨⟨h.state, h.root, fun hno => ?_, fun _ => ⟨rfl, rfl, rfl⟩⟩, rfl⟩
  exact absurd (List.mem_append.mpr (.inr (List.mem_singleton.mpr hm.key.symm))) hno

theorem tick_elect {i : Nat} (hs : p.state = .forwarding) (hroot : k = p.root)
    (ht : 15 < p.timer) (hheir : heir k (forget p.port p).age = some i) :
    tick k p = say k .hello (restart (elect i (forget p.port { p with heard := [] }))) := by
  cases p
  subst hs hroot
  dsimp only [tick, iterate]
  rw [if_pos rfl, if_pos ht]
  change heir _ (forget _ _).age = some i at hheir
  split
  · rename_i j hj
    rw [show j = i from Option.some.inj (hj.symm.trans hheir)]
  · rename_i hj
    cases hj.symm.trans hheir

theorem WidowedFabric.elect (h : WidowedFabric S r d 16 k p) (hheir : Heir S r d e)
    (hk : 33 ≤ k) (hnamed : Named S' p.age) (hS : ∀ n ∈ S', n = d ∨ n ∈ S) :
    (SteadyFabric r e (e - 1) k (Peer.tick k p).1 ∧ (Peer.tick k p).1.state = .forwarding) ∧
      ∀ b ∈ (Peer.tick k p).2, Succession r e b := by
  by_cases hkr : k = r
  · subst hkr
    obtain ⟨heS, he⟩ := hheir.least.1
    have hpos := hheir.apart.1
    have halive := h.alive rfl (by omega) e heS he
    rw [tick_elect h.state h.root.symm (by rw [h.timer]; omega) (hheir.elected h hnamed hS)]
    set q := restart (elect (e - 1) (forget p.port { p with heard := [] })) with hq
    have hstate : q.state = .forwarding := h.state
    have hroot : q.root = k := h.root
    have hdes : q.designated = e := Nat.sub_add_cancel hpos
    have hage : q.age e = p.age e := by
      change (if e = p.port + 1 then 0 else p.age e) = _
      rw [if_neg (by rw [h.port]; exact hheir.apart.2)]
    have hbeat : 2 ≤ beatAge k q.age e := by
      rw [beatAge_of_ne _ (by omega), hage]
      omega
    refine ⟨⟨⟨fun h => absurd rfl h, hroot, ?_, fun _ => Nat.zero_le _,
      fun _ => ⟨hstate, Nat.zero_le _, rfl, hdes, hbeat⟩⟩, hstate⟩, fun b hb => ?_⟩
    · simp [say, hstate]
    · rw [List.mem_singleton.mp hb]
      exact ⟨rfl, hroot, hdes, lt_of_lt_of_le (by omega) hbeat⟩
  · have horphan : Orphan r 16 p := ⟨h.state, h.timer, h.root⟩
    have hroot : k ≠ p.root := h.root ▸ hkr
    have hcalm := tick_calm (k := k) (p := p) (by simp [h.state]) fun _ =>
      ⟨hroot, by rw [h.timer]; omega⟩
    obtain ⟨⟨hs, htimer, -⟩, hout⟩ := horphan.tick hkr (by omega)
    refine ⟨⟨⟨fun _ => ?_, hcalm.root.trans h.root, hcalm.awake, fun _ => by omega,
      fun h => absurd h hkr⟩, hs⟩, by simp [hout]⟩
    rw [hcalm.port, hcalm.designated, h.port, h.designated]

theorem succession_round (hheir : Heir S r d e) (hflight : n.flight = [])
    (h : ∀ k ∈ S, Widowed S r d 16 k (n.node k)) (hnamed : ∀ k ∈ S, Named S' (n.node k).age)
    (hS : ∀ n ∈ S', n = d ∨ n ∈ S) (hround : MessageNet.Round peerProtocol hears S n n') :
    ∀ k ∈ S, Settled r e (e - 1) k (n'.node k) := by
  obtain ⟨hrS, hr⟩ := hheir.root
  have hline (k : Nat) (hk : k ∈ S) (hl : k < 33) : WidowedLine r d 16 (n.node k) := by
    have := h k hk
    rwa [Widowed, Sides.Holds, if_pos hl] at this
  have hfabric (k : Nat) (hk : k ∈ S) (hf : 33 ≤ k) : WidowedFabric S r d 16 k (n.node k) := by
    have := h k hk
    rwa [Widowed, Sides.Holds, if_neg (by omega)] at this
  have hsides : Sides S (fun _ => FollowingLine r d e)
      (fun k p => SteadyFabric r e (e - 1) k p ∧ p.state = .forwarding) (Succession r e)
      (fun _ => False) n := by
    refine ⟨hflight, fun k hk hl => ?_,
      fun k hk hf => (hfabric k hk hf).elect hheir hf (hnamed k hk) hS,
      fun k hk hl m p hp hm hkey => ?_, fun k hk hf m p hp hm => hm.elim⟩
    · obtain ⟨hfading, hout⟩ := (hline k hk hl).tick (k := k) (by omega)
      have hheard := tick_heard k (n.node k)
      exact ⟨⟨hfading.state, hfading.root, fun _ => ⟨hfading.port, hfading.designated⟩,
        by simp [hheard]⟩, by simp [hout]⟩
    · obtain ⟨hfollowing, hout⟩ := hp.hear hheir.ne hm hheir.apart.1 hkey
      exact ⟨hfollowing, by simp [hout]⟩
  have hhello (l : Nat) (hl : l ∈ S) (hlt : l < 33) : (r, .hello) ∈ (n'.node l).heard := by
    refine hsides.heard_tick hround hrS hl ((hears_fabric hr).mpr hlt) ?_
    have hroot := hfabric r hrS hr
    rw [tick_elect hroot.state hroot.root.symm (by rw [hroot.timer]; omega)
      (hheir.elected hroot (hnamed r hrS) hS)]
    exact ⟨_, List.mem_singleton.mpr rfl, rfl, rfl⟩
  intro k hk
  unfold Settled Steady Sides.Holds
  split_ifs with hl
  · have hend := hsides.line hround hk hl
    obtain ⟨hport, hdes, htimer⟩ := hend.after (hhello k hk hl)
    exact ⟨⟨hport.trans hdes.symm, hend.root, by simp [hend.state], fun _ => ⟨hdes, htimer⟩,
      fun _ => ⟨hdes, .inl hend.state⟩⟩, hend.state⟩
  · exact hsides.fabric hround hk (by omega)

end Electing

section Recovering

variable {x a : Nat}

structure Left (r d k : Nat) (p : Peer) : Prop where
  settled : Settled r d d k p
  synced : p.timer = 0 ∧ p.root = r ∧ p.designated = d ∧ p.port = d

theorem Settled.left (h : Settled r d d k p) (hsynced : Synced r d d k p) : Left r d k p := by
  refine ⟨h, ?_⟩
  have hs := hsynced h.2
  rwa [ite_self] at hs

theorem Left.orphan (h : Left r d k p) : Orphan r 0 p :=
  ⟨h.settled.2, h.synced.1, h.synced.2.1⟩

theorem Left.widowed (h : Left r d k p) (hnamed : Named S' p.age) : Widowed S r d 0 k p := by
  obtain ⟨htimer, hroot, hdes, hport⟩ := h.synced
  have hage := (hnamed d).1
  unfold Widowed Sides.Holds
  split_ifs
  · exact ⟨h.settled.2, hroot, hport, hdes, htimer, hage⟩
  · exact ⟨h.settled.2, hroot, hport, hdes, htimer, fun _ => hage, fun _ h => by omega⟩

theorem backup_lost (hroles : Roles S r d) (hflight : n.flight = [])
    (h : ∀ k ∈ S, Settled r d a k (n.node k))
    (hrounds : MessageNet.Rounds peerProtocol hears S t n n') (ht : 1 ≤ t) :
    ∀ k ∈ S, Settled r d a k (n'.node k) ∧ Synced r d a k (n'.node k) := by
  obtain ⟨u, rfl⟩ : ∃ u, t = 1 + u := ⟨t - 1, by omega⟩
  obtain ⟨b, hb, hlater⟩ := hrounds.split
  refine settled_rounds hroles (hb.flight hflight) ?_ hlater
  cases hb with
  | succ hzero hround =>
    cases hzero with
    | zero => exact settled_round hroles hflight h hround

theorem designated_lost (hheir : Heir S r d e) (hflight : n.flight = [])
    (h : ∀ k ∈ S, Left r d k (n.node k)) (hsub : S ⊆ S') (hS : ∀ n ∈ S', n = d ∨ n ∈ S)
    (hnamed : ∀ k ∈ S, Named S' (n.node k).age)
    (hrounds : MessageNet.Rounds peerProtocol hears S t n n') (ht : 18 ≤ t) :
    ∀ k ∈ S, Settled r e (e - 1) k (n'.node k) ∧ Synced r e (e - 1) k (n'.node k) := by
  obtain ⟨u, rfl⟩ : ∃ u, t = 16 + 1 + u := ⟨t - 17, by omega⟩
  obtain ⟨c, hc, hlater⟩ := hrounds.split
  obtain ⟨b, hb, hround⟩ := hc.split
  have hwidowed := widowed_rounds hheir.toBereft hflight
    (fun k hk => (h k hk).widowed (hnamed k hk)) hb le_rfl
  refine backup_lost hheir.roles (hc.flight hflight) ?_ hlater (by omega)
  cases hround with
  | succ hzero hround =>
    cases hzero with
    | zero =>
      exact succession_round hheir (hb.flight hflight) hwidowed
        (named_rounds hsub hflight hnamed hb) hS hround

theorem root_lost (hleast : Least S r d) {old : Nat} (hold : old ∉ S) (hflight : n.flight = [])
    (h : ∀ k ∈ S, Orphan old 0 (n.node k))
    (hrounds : MessageNet.Rounds peerProtocol hears S t n n') (ht : 61 ≤ t) :
    ∀ k ∈ S, Settled r d d k (n'.node k) ∧ Synced r d d k (n'.node k) := by
  obtain ⟨u, rfl⟩ : ∃ u, t = 47 + u := ⟨t - 47, by omega⟩
  obtain ⟨b, hb, hlater⟩ := hrounds.split
  exact converged hleast (hb.flight hflight) (orphans_restart hold hflight h hb) hlater (by omega)

end Recovering

end Peer

section Crash

variable {S S' : List Nat} {r d e x t u : Nat} {a b c : Net}

theorem Half.erase (h : Half S) (x : Nat) : Half (S.erase x) where
  nodup := h.nodup.erase x
  cards := h.cards.imp (fun hcards _ hk => hcards (List.mem_of_mem_erase hk))
    fun hcards _ hk => hcards (List.mem_of_mem_erase hk)

theorem Half.mem_erase (h : Half S) {k : Nat} : k ∈ S.erase x ↔ k ≠ x ∧ k ∈ S :=
  h.nodup.mem_erase_iff

theorem Started.named (h : Started S a) (hhalf : Half S) (hrounds : Lockstep S t a b) :
    ∀ k ∈ S, Peer.Named S (view (b.node k)).age := by
  obtain ⟨hpeers, -⟩ := rounds_refine hrounds (h.running hhalf) h.1
  exact Peer.named_rounds (fun _ hk => hk) (toPeers_flight h.1)
    (fun k hk => (h.fresh hhalf k hk).named hk) hpeers

theorem Half.recovers (hhalf : Half S) (hleast : Peer.Least S r d) (hflight : a.flight = [])
    (hstart : ∀ k ∈ S, Agreed r d d k (a.node k) ∧ Peer.Named S (view (a.node k)).age)
    (hline : ∃ l ∈ S.erase x, l < 33) (hfabric : ∃ f ∈ S.erase x, 33 ≤ f)
    (hlater : Lockstep (S.erase x) u a b) (hu : 61 ≤ u) :
    ∃ r' d' p, (r' ∈ S.erase x ∧ 33 ≤ r') ∧ (d' ∈ S.erase x ∧ d' < 33) ∧
      (∀ k ∈ S.erase x, Agreed r' d' p k (b.node k)) ∧
      (x ≠ r → r' = r ∧ (x ≠ d → d' = d)) := by
  have hmem {k : Nat} : k ∈ S.erase x ↔ k ≠ x ∧ k ∈ S := hhalf.mem_erase
  obtain ⟨hpeers, hrunning⟩ := rounds_refine hlater
    (fun k hk => (hstart k (hmem.mp hk).2).1.running) hflight
  have hflight' := toPeers_flight hflight
  have hleft (k : Nat) (hk : k ∈ S.erase x) : Peer.Left r d k (view (a.node k)) := by
    have h := (hstart k (hmem.mp hk).2).1
    exact h.settled.left h.synced
  have hsettled (k : Nat) (hk : k ∈ S.erase x) := (hleft k hk).settled
  have hagreed {r' d' p : Nat} (h : ∀ k ∈ S.erase x,
      Peer.Settled r' d' p k (view (b.node k)) ∧ Peer.Synced r' d' p k (view (b.node k))) :
      ∀ k ∈ S.erase x, Agreed r' d' p k (b.node k) :=
    fun k hk => ⟨hrunning k hk, (h k hk).1, (h k hk).2⟩
  obtain ⟨r', hr'⟩ := exists_least hfabric
  obtain ⟨d', hd'⟩ := exists_least hline
  have hleast' := (hhalf.erase x).least hr' hd'
  obtain ⟨hrS, hr⟩ := hleast.root
  obtain ⟨hdS, hdpos, hd⟩ := hleast.designated
  by_cases hxr : x = r
  · refine ⟨r', d', d', hr'.1, hd'.1, hagreed ?_, fun h => absurd hxr h⟩
    exact Peer.root_lost hleast' (fun h => (hmem.mp h).1 hxr.symm) hflight'
      (fun k hk => (hleft k hk).orphan) hpeers hu
  · have hroot : r ∈ S.erase x ∧ 33 ≤ r := ⟨hmem.mpr ⟨fun h => hxr h.symm, hrS⟩, hr⟩
    by_cases hxd : x = d
    · have hheir : Peer.Heir (S.erase x) r d d' := by
        have hodd := hhalf.card hdS
        have hodd' := (hhalf.erase x).card hd'.1.1
        exact ⟨⟨hroot, fun h => (hmem.mp h).1 hxd.symm, hd⟩, hd', by omega, hleast'.few⟩
      refine ⟨r, d', d' - 1, hroot, hd'.1, hagreed ?_, fun _ => ⟨rfl, fun h => absurd hxd h⟩⟩
      refine Peer.designated_lost hheir hflight' hleft (fun k hk => (hmem.mp hk).2) (fun k hk => ?_)
        (fun k hk => (hstart k (hmem.mp hk).2).2) hpeers (by omega)
      by_cases hkd : k = d
      · exact .inl hkd
      · exact .inr (hmem.mpr ⟨fun h => hkd (h.trans hxd), hk⟩)
    · have hdes : d ∈ S.erase x := hmem.mpr ⟨fun h => hxd h.symm, hdS⟩
      refine ⟨r, d, d, hroot, ⟨hdes, hd⟩, hagreed ?_, fun _ => ⟨rfl, fun _ => rfl⟩⟩
      exact Peer.backup_lost ⟨hroot, ⟨hdes, hdpos, hd⟩, hleast'.few⟩ hflight' hsettled hpeers
        (by omega)

theorem crash_recovers (S : List Nat) (hhalf : Half S) (a b c : Net) (hstart : Started S a)
    (t : Nat) (hrounds : Lockstep S t a b) (r d : Nat)
    (hconverged : ∀ k ∈ S, (b.node k).ctpm.state = .forwarding ∧
      (b.node k).ctpm.rootPrio.rootBridge.number = r ∧
      (b.node k).ctpm.rootPrio.designBridge.number = d)
    (x : Nat) (hx : x ∈ S) (hline : ∃ l ∈ S.erase x, l < 33) (hfabric : ∃ f ∈ S.erase x, 33 ≤ f)
    (u : Nat) (hu : 61 ≤ u) (hlater : Lockstep (S.erase x) u b c) :
    ∃ r' ∈ S.erase x, ∃ d' ∈ S.erase x, (33 ≤ r' ∧ d' < 33) ∧
      (∀ k ∈ S.erase x, (c.node k).ctpm.state = .forwarding ∧
        (c.node k).ctpm.rootPrio.rootBridge.number = r' ∧
        (c.node k).ctpm.rootPrio.designBridge.number = d') ∧
      (x ≠ r ∧ x ≠ d → r' = r ∧ d' = d) ∧ (x = d → r' = r) := by
  have hmem {k : Nat} : k ∈ S.erase x ↔ k ≠ x ∧ k ∈ S := hhalf.mem_erase
  obtain ⟨r₀, hr₀⟩ := exists_least (S := S) (P := (33 ≤ ·))
    (hfabric.imp fun f hf => ⟨(hmem.mp hf.1).2, hf.2⟩)
  obtain ⟨d₀, hd₀⟩ := exists_least (S := S) (P := (· < 33))
    (hline.imp fun l hl => ⟨(hmem.mp hl.1).2, hl.2⟩)
  have hleast := hhalf.least hr₀ hd₀
  have ht := hstart.late hhalf hr₀ hd₀ hrounds (hconverged d₀ hd₀.1.1).1
  have hagreed := hstart.agreed hhalf hr₀ hd₀ hrounds ht
  obtain ⟨rfl, rfl⟩ : r₀ = r ∧ d₀ = d := by
    obtain ⟨hroot, hdes⟩ := (hagreed x hx).bridges
    obtain ⟨-, hroot', hdes'⟩ := hconverged x hx
    exact ⟨hroot.symm.trans hroot', hdes.symm.trans hdes'⟩
  obtain ⟨r', d', p, hr', hd', hafter, hkept⟩ := hhalf.recovers hleast (hrounds.flight hstart.1)
    (fun k hk => ⟨hagreed k hk, hstart.named hhalf hrounds k hk⟩) hline hfabric hlater hu
  refine ⟨r', hr'.1, d', hd'.1, ⟨hr'.2, hd'.2⟩, fun k hk => ⟨(hafter k hk).ports.1,
    (hafter k hk).bridges⟩, fun h => ⟨(hkept h.1).1, (hkept h.1).2 h.2⟩, fun hxd => ?_⟩
  exact (hkept (by have := hr₀.1.2; have := hd₀.1.2; omega)).1

theorem crash_recovers_designated :
    ∃ b c, Lockstep [1, 3, 33] 14 coldNet b ∧ Lockstep [3, 33] 61 b c ∧
      ∀ k ∈ [3, 33], (c.node k).ctpm.state = .forwarding ∧
        (c.node k).ctpm.rootPrio.rootBridge.number = 33 ∧
        (c.node k).ctpm.rootPrio.designBridge.number = 3 := by
  have hhalf : Half [1, 3, 33] := ⟨by decide, .inl (by decide)⟩
  have hstart := started_coldNet hhalf
  have hr : IsLeast {k | k ∈ [1, 3, 33] ∧ 33 ≤ k} 33 := ⟨by decide, fun k hk => hk.2⟩
  have hd : IsLeast {k | k ∈ [1, 3, 33] ∧ k < 33} 1 := by
    refine ⟨by decide, fun k hk => ?_⟩
    have := hhalf.card hk.1
    omega
  obtain ⟨b, hb⟩ := exists_rounds (by decide) (hstart.running hhalf) hstart.1 14
  have hagreed := hstart.agreed hhalf hr hd hb le_rfl
  obtain ⟨c, hc⟩ := exists_rounds (S := [3, 33]) (by decide)
    (fun k hk => (hagreed k (List.mem_cons_of_mem _ hk)).running) (hb.flight hstart.1) 61
  obtain ⟨r, hrS, d, hdS, hsides, hafter, -⟩ := crash_recovers [1, 3, 33] hhalf coldNet b c hstart
    14 hb 33 1 (fun k hk => ⟨(hagreed k hk).ports.1, (hagreed k hk).bridges⟩) 1 (by decide)
    ⟨3, by decide⟩ ⟨33, by decide⟩ 61 le_rfl hc
  obtain rfl : r = 33 := by simp at hrS; omega
  obtain rfl : d = 3 := by simp at hdS; omega
  exact ⟨b, c, hb, hc, hafter⟩

end Crash

end Chassisd
