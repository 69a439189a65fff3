import Chassisd.Election.Convergence

namespace Chassisd

namespace Peer

variable {S : List Nat} {f l k t : Nat} {m : Notice} {p : Peer}
  {n n' : MessageNet.Net Nat Peer Notice}

section Frames

theorem tick_slot : ∀ b ∈ (tick k p).2, b.slot = k := by
  have hsay (kind : Kind) (q : Peer) : ∀ b ∈ (say k kind q).2, b.slot = k := fun b hb => by
    rw [List.mem_singleton.mp hb]
    rfl
  unfold tick iterate
  split
  · split_ifs <;> first | exact hsay _ _ | simp
  · split_ifs <;> first | exact hsay _ _ | simp
  · split_ifs <;> first | exact hsay _ _ | simp
  · split_ifs
    · split <;> exact hsay _ _
    · exact hsay _ _
    · simp
    · simp
  · simp

theorem tick_timer (k : Nat) (p : Peer) : (tick k p).1.timer ≤ p.timer + 1 := by
  unfold tick iterate
  split
  · split_ifs <;> simp [say]
  · split_ifs <;> simp [say]
  · split_ifs <;> simp [say]
  · split_ifs
    · split <;> simp [say]
    · simp [say]
    · simp
    · simp
  · simp

theorem tick_kind (ht : p.timer ≤ 15) : ∀ b ∈ (tick k p).2, b.kind ≠ .lcChange := by
  have hsay {kind : Kind} (hkind : kind ≠ .lcChange) (q : Peer) :
      ∀ b ∈ (say k kind q).2, b.kind ≠ .lcChange := fun b hb => by
    rw [List.mem_singleton.mp hb]
    exact hkind
  unfold tick iterate
  split
  · split_ifs <;> first | exact hsay (by simp) _ | simp
  · split_ifs <;> first | exact hsay (by simp) _ | simp
  · split_ifs <;> first | exact hsay (by simp) _ | simp
  · rw [if_neg (show ¬ 15 < _ from not_lt.mpr ht)]
    split_ifs <;> first | exact hsay (by simp) _ | simp
  · simp

theorem fabricHear_kind :
    ∀ b ∈ (fabricHear k m p).2, b.kind ≠ .lcChange ∧ b.kind ≠ .config := by
  have hsay {kind : Kind} (hkind : kind ≠ .lcChange ∧ kind ≠ .config) (q : Peer) :
      ∀ b ∈ (say k kind q).2, b.kind ≠ .lcChange ∧ b.kind ≠ .config := fun b hb => by
    rw [List.mem_singleton.mp hb]
    exact hkind
  unfold fabricHear
  split
  · simp
  · simp
  · simp
  · dsimp only
    split
    · unfold helloFromLine
      split_ifs <;> first | exact hsay (by simp) _ | simp
    · exact hsay (by simp) _
    · split_ifs
      · split <;> first | exact hsay (by simp) _ | simp
      · simp
    · split_ifs <;> simp
    · simp
  · simp

theorem fabricHear_timer (k : Nat) (m : Notice) (p : Peer) :
    (fabricHear k m p).1.timer ≤ p.timer := by
  unfold fabricHear
  split
  · simp
  · simp
  · simp
  · dsimp only
    split
    · unfold helloFromLine
      split_ifs <;> simp [say]
    · simp [say]
    · split_ifs
      · split <;> simp [say]
      · simp
    · split_ifs <;> simp
    · simp
  · simp

theorem lineHear_stays (hs : p.state = .forwarding) (hkind : m.kind ≠ .lcChange) :
    (lineHear k m p).1.state = .forwarding ∧ (lineHear k m p).1.root = p.root := by
  unfold lineHear
  rw [hs]
  dsimp only
  split
  · exact absurd ‹_› hkind
  · unfold helloFromFabric
    split_ifs <;> simp [say, hs]
  · simp [say, hs]
  · simp [hs]

end Frames

section Rivals

structure Rivals (S : List Nat) (f l : Nat) : Prop where
  fabric : f ∈ S ∧ 33 ≤ f
  line : l ∈ S ∧ l < 33

variable (f t)

structure Enticed (p : Peer) : Prop where
  port : p.port = p.designated
  woken : p.state = .block ∧ p.heard = [] ∨ p.state = .listening ∧ p.timer = 0
  root : (f, .config) ∈ p.heard → 0 < p.root ∧ p.root ≤ f

structure Astray (p : Peer) : Prop where
  clock : (p.state, p.timer) = lineClock t
  port : p.port = p.designated
  root : 0 < p.root ∧ p.root ≤ f

variable {f t}

theorem after_pos_le {id age old : Nat} (h : 0 < old ∧ old ≤ f) :
    0 < after false id age old ∧ after false id age old ≤ f := by
  unfold after
  split_ifs with ht
  · obtain ⟨hpos, -, hlt⟩ := ht
    simp only [Bool.false_eq_true, false_or] at hlt
    omega
  · exact h

theorem Enticed.hear (hf : 0 < f) (h : Enticed f p)
    (hm : m.slot = f → m.kind = .config → m.root = f ∧ 0 < m.age f) :
    Enticed f (lineHear k m (noted m p)).1 := by
  have hs : p.state ≠ .forwarding ∧ p.state ≠ .disable := by
    rcases h.woken with ⟨hs, -⟩ | ⟨hs, -⟩ <;> simp [hs]
  have hlearned := lineHear_learned (k := k) (m := m) (p := noted m p) hs.1 hs.2 h.port
  generalize (lineHear k m (noted m p)).1 = q at hlearned ⊢
  have hroot : q.root = after false m.root (m.age m.root) p.root := hlearned.root
  have hheard : q.heard = p.heard ++ [(m.slot, m.kind)] := hlearned.heard
  refine ⟨hlearned.port, .inr ?_, fun hmem => ?_⟩
  · rw [hlearned.state, hlearned.timer, noted_frame m p |>.1, noted_frame m p |>.2.1]
    rcases h.woken with ⟨hb, -⟩ | ⟨hb, ht⟩ <;> simp [*]
  · rw [hroot]
    rw [hheard] at hmem
    rcases List.mem_append.mp hmem with hmem | hmem
    · exact after_pos_le (h.root hmem)
    · obtain ⟨hslot, hkind⟩ := Prod.mk.inj (List.mem_singleton.mp hmem)
      obtain ⟨hmroot, hage⟩ := hm hslot.symm hkind.symm
      rw [hmroot]
      rcases Nat.eq_zero_or_pos p.root with hzero | hpos
      · rw [after_least hf hage (.inl hzero)]
        exact ⟨hf, le_rfl⟩
      · rcases Nat.lt_or_ge p.root f with hlt | hge
        · exact after_pos_le ⟨hpos, hlt.le⟩
        · rw [after_least hf hage (.inr hge)]
          exact ⟨hf, le_rfl⟩

theorem Astray.hear (h : Astray f t p) : Astray f t (lineHear k m (noted m p)).1 := by
  obtain ⟨hb, hf, hdis⟩ := lineClock_waiting h.clock
  have hlearned := lineHear_learned (k := k) (m := m) (p := noted m p) hf hdis h.port
  generalize (lineHear k m (noted m p)).1 = q at hlearned ⊢
  have hroot : q.root = after false m.root (m.age m.root) p.root := hlearned.root
  exact ⟨(hlearned.clock hb).trans h.clock, hlearned.port, hroot ▸ after_pos_le h.root⟩

theorem Astray.tick (h : Astray f t p) (hl : l < 33) (ht : 1 ≤ t ∧ t ≤ 12) :
    Astray f (t + 1) (Peer.tick l p).1 := by
  obtain ⟨hb, hf, hdis⟩ := lineClock_waiting h.clock
  have hcalm := tick_calm (k := l) ⟨hb, hdis⟩ fun h => absurd h hf
  refine ⟨(lineClock_tick h.clock hl ht).1, ?_, hcalm.root ▸ h.root⟩
  rw [hcalm.port, hcalm.designated, h.port]

structure Led (S : List Nat) (f l t : Nat) (n : MessageNet.Net Nat Peer Notice) : Prop where
  line : Astray f t (n.node l)
  fabric : ∀ k ∈ S, 33 ≤ k → (n.node k).timer ≤ t

theorem rivals_meet (hrivals : Rivals S f l) (hflight : n.flight = [])
    (hf : Fresh f (n.node f)) (hl : Fresh l (n.node l))
    (htimer : ∀ k ∈ S, 33 ≤ k → (n.node k).timer = 0)
    (hround : MessageNet.Round peerProtocol hears S n n') : Led S f l 1 n' := by
  obtain ⟨hfS, hfabric⟩ := hrivals.fabric
  obtain ⟨hlS, hline⟩ := hrivals.line
  obtain ⟨q, hq⟩ := hf
  obtain ⟨q', hq'⟩ := hl
  have hsides : Sides S (fun k p => k = l → Enticed f p) (fun _ p => p.timer ≤ 1)
      (fun m => m.slot = f → m.kind = .config → m.root = f ∧ 0 < m.age f) (fun _ => True) n := by
    refine ⟨hflight, fun k hk hlt => ⟨?_, by simp⟩, fun k hk hge => ⟨?_, ?_⟩,
      fun k hk hlt m p hp hm _ => ⟨fun hkl => (hp hkl).hear (by omega) hm, by simp⟩,
      fun k hk hge m p hp hm _ => ⟨(fabricHear_timer k m _).trans hp, ?_⟩⟩
    · rintro rfl
      rw [hq', tick_fresh_line hlt]
      exact ⟨by simp [block, hlt], .inl ⟨rfl, rfl⟩, by simp⟩
    · have := tick_timer k (n.node k)
      have := htimer k hk hge
      omega
    · intro b hb hslot _
      obtain rfl : k = f := (tick_slot b hb).symm.trans hslot
      rw [hq, tick_fresh_fabric hge] at hb
      rw [List.mem_singleton.mp hb]
      simp [block, show ¬ k < 33 by omega, beatAge_self]
    · exact fun b hb _ hkind => absurd hkind (fabricHear_kind b hb).2
  have hconfig : (f, .config) ∈ (n'.node l).heard := by
    refine hsides.heard_tick hround hfS hlS ((hears_fabric hfabric).mpr hline) ?_
    rw [hq, tick_fresh_fabric hfabric]
    exact ⟨_, List.mem_singleton.mpr rfl, rfl, rfl⟩
  have hend := hsides.line hround hlS hline rfl
  refine ⟨⟨?_, hend.port, hend.root hconfig⟩, fun k hk hge => hsides.fabric hround hk hge⟩
  rcases hend.woken with ⟨-, hnil⟩ | ⟨hs, ht⟩
  · rw [hnil] at hconfig
    cases hconfig
  · rw [hs, ht]
    rfl

theorem Led.round (h : Led S f l t n) (hrivals : Rivals S f l) (hflight : n.flight = [])
    (ht : 1 ≤ t ∧ t ≤ 12) (hround : MessageNet.Round peerProtocol hears S n n') :
    Led S f l (t + 1) n' := by
  obtain ⟨hlS, hline⟩ := hrivals.line
  have hsides : Sides S (fun k p => k = l → Astray f (t + 1) p) (fun _ p => p.timer ≤ t + 1)
      (fun _ => True) (fun _ => True) n := by
    refine ⟨hflight, fun k hk hlt => ⟨?_, by simp⟩, fun k hk hge => ⟨?_, by simp⟩,
      fun k hk hlt m p hp _ _ => ⟨fun hkl => (hp hkl).hear, by simp⟩,
      fun k hk hge m p hp _ _ => ⟨(fabricHear_timer k m _).trans hp, by simp⟩⟩
    · rintro rfl
      exact h.line.tick hlt ht
    · have := tick_timer k (n.node k)
      have := h.fabric k hk hge
      omega
  exact ⟨hsides.line hround hlS hline rfl, fun k hk hge => hsides.fabric hround hk hge⟩

theorem rivals_rounds (hrivals : Rivals S f l) (hflight : n.flight = [])
    (hf : Fresh f (n.node f)) (hl : Fresh l (n.node l))
    (htimer : ∀ k ∈ S, 33 ≤ k → (n.node k).timer = 0)
    (hrounds : MessageNet.Rounds peerProtocol hears S t n n') (ht : 1 ≤ t ∧ t ≤ 13) :
    Led S f l t n' := by
  induction hrounds with
  | zero => omega
  | @succ t a b c hab hbc ih =>
    rcases Nat.eq_zero_or_pos t with rfl | hpos
    · cases hab with
      | zero => exact rivals_meet hrivals hflight hf hl htimer hbc
    · exact (ih hflight hf hl htimer (by omega)).round hrivals (hab.flight hflight) (by omega) hbc

theorem rivals_forward (hrivals : Rivals S f l) (hflight : n.flight = [])
    (hf : Fresh f (n.node f)) (hl : Fresh l (n.node l))
    (htimer : ∀ k ∈ S, 33 ≤ k → (n.node k).timer = 0)
    (hrounds : MessageNet.Rounds peerProtocol hears S 14 n n') :
    (n'.node l).state = .forwarding ∧ (n'.node l).root ≤ f := by
  cases hrounds with
  | @succ _ _ b _ hab hround =>
    obtain ⟨hlS, hline⟩ := hrivals.line
    have hled := rivals_rounds hrivals hflight hf hl htimer hab (by omega)
    obtain ⟨hs, ht⟩ := Prod.mk.inj hled.line.clock
    have hs : (b.node l).state = .learning := hs
    have ht : (b.node l).timer = 7 := ht
    have hcalm := tick_calm (k := l) (p := b.node l) (by simp [hs]) (by simp [hs])
    have hsides : Sides S (fun k p => k = l → p.state = .forwarding ∧ p.root ≤ f)
        (fun _ _ => True) (fun m => m.kind ≠ .lcChange) (fun _ => True) b := by
      refine ⟨hab.flight hflight, fun k hk hlt => ⟨?_, by simp⟩, fun k hk hge => ⟨trivial, ?_⟩,
        fun k hk hlt m p hp hm _ => ⟨fun hkl => ?_, by simp⟩,
        fun k hk hge m p _ _ _ => ⟨trivial, fun b hb => (fabricHear_kind b hb).1⟩⟩
      · rintro rfl
        exact ⟨tick_ripe hlt hs ht.ge, hcalm.root ▸ hled.line.root.2⟩
      · exact tick_kind (by have := hled.fabric k hk hge; omega)
      · obtain ⟨hs, hroot⟩ := lineHear_stays (k := k) (m := m) (p := noted m p) (hp hkl).1 hm
        exact ⟨hs, hroot ▸ (hp hkl).2⟩
    exact hsides.line hround hlS hline rfl

end Rivals

end Peer

section Joining

variable {S T J : List Nat} {r d k t : Nat} {a b c : Net}

abbrev JoiningRun (C : List Nat → List Nat → Net → Prop) :
    List Nat → Net → List Nat → Net → Prop :=
  MessageNet.Growing (chassisProtocol true) hears EntersBlock C

def AnyJoin (T J : List Nat) (_ : Net) : Prop := Half (T ++ J)

def AboutToForward (c : Chassis) : Prop :=
  c.ctpm.state = .forwarding ∨
    c.ctpm.state = .learning ∧ learningTicks c.usCardNumber ≤ c.ctpm.timeSinceTopoChange

-- a fabric card numbered below the root starts only while every line card is about to forward
def SafeJoin (r : Nat) (T J : List Nat) (n : Net) : Prop :=
  Half (T ++ J) ∧ ((∃ f ∈ J, 33 ≤ f ∧ f < r) → ∀ l ∈ T ++ J, l < 33 → AboutToForward (n.node l))

structure Followers (S : List Nat) (r d : Nat) (T : List Nat) (b : Net) : Prop where
  half : Half T
  members : S ⊆ T
  flight : b.flight = []
  running : ∀ k ∈ T, Running k (b.node k)
  steady : ∀ k ∈ T, Peer.Steady r d d k (view (b.node k)) ∧ Peer.Synced r d d k (view (b.node k))
  forwarding : ∀ k ∈ S, (b.node k).ctpm.state = .forwarding

theorem AboutToForward.tick {c : Chassis} (h : AboutToForward c) (hrunning : Running k c)
    (hr : 33 ≤ r) (hk : k < 33)
    (hstart : Peer.Steady r d d k (view c) ∨ Peer.Fresh k (view c)) :
    (Peer.tick k (view c)).1.state = .forwarding := by
  have hnumber : c.usCardNumber = k := hrunning.sound.number
  rcases h with hs | ⟨hs, ht⟩
  · rcases hstart with hsteady | ⟨q, hq⟩
    · rw [Peer.Steady, Peer.Sides.Holds, if_pos hk] at hsteady
      exact hsteady.tick_forwarding (by omega) hs
    · have hblock : (view c).state = .block := by rw [hq]; rfl
      rw [show c.ctpm.state = .block from hblock] at hs
      cases hs
  · rw [learningTicks, if_neg (by omega)] at ht
    exact Peer.tick_ripe hk hs ht

theorem Followers.joined (h : Followers S r d T a) (hrS : r ∈ S ∧ 33 ≤ r)
    (hdS : d ∈ S ∧ d < 33) (hjoined : MessageNet.Joined EntersBlock J a b)
    (hsafe : SafeJoin r T J b)
    (hround : MessageNet.Round (chassisProtocol true) hears (T ++ J) b c) :
    Followers S r d (T ++ J) c := by
  obtain ⟨hhalf, hlow⟩ := hsafe
  have hflight : b.flight = [] := hjoined.flight.trans h.flight
  have hold (k : Nat) (hk : k ∈ T) : b.node k = a.node k :=
    hjoined.others k fun hJ => (List.disjoint_of_nodup_append hhalf.nodup) hk hJ
  have hnew (k : Nat) (hk : k ∈ J) :=
    (hjoined.enters k hk).running (hhalf.card (List.mem_append_right T hk))
  have hrunning : ∀ k ∈ T ++ J, Running k (b.node k) := fun k hk =>
    (List.mem_append.mp hk).elim (fun hT => hold k hT ▸ h.running k hT) fun hJ => (hnew k hJ).1
  have hstart (k : Nat) (hk : k ∈ T ++ J) : Peer.Steady r d d k (view (b.node k)) ∨
      Peer.Fresh k (view (b.node k)) ∧ k ≠ r ∧ k ≠ d := by
    rcases List.mem_append.mp hk with hT | hJ
    · exact .inl (hold k hT ▸ (h.steady k hT).1)
    · have hT : k ∉ T := fun hT => (List.disjoint_of_nodup_append hhalf.nodup) hT hJ
      exact .inr ⟨(hnew k hJ).2, fun hkr => hT (hkr ▸ h.members hrS.1),
        fun hkd => hT (hkd ▸ h.members hdS.1)⟩
  have hroles : Peer.Roles (T ++ J) r d := by
    have hd := List.mem_append_left J (h.members hdS.1)
    have := hhalf.card hd
    exact ⟨⟨List.mem_append_left J (h.members hrS.1), hrS.2⟩, ⟨hd, by omega, hdS.2⟩, hhalf.few⟩
  obtain ⟨hpeers, hrunning'⟩ := rounds_refine (MessageNet.rounds_one.mpr hround) hrunning hflight
  have hjoin : ∀ f ∈ T ++ J, 33 ≤ f ∧ f < r → Peer.Fresh f (view (b.node f)) → ∀ l ∈ T ++ J,
      l < 33 → (Peer.tick l (view (b.node l))).1.state = .forwarding := by
    intro f hf hfr hfresh l hl hline
    have hJ : f ∈ J := by
      refine (List.mem_append.mp hf).resolve_left fun hT => ?_
      obtain ⟨q, hq⟩ := hfresh
      have hsteady := (h.steady f hT).1
      rw [Peer.Steady, Peer.Sides.Holds, if_neg (by omega), ← hold f hT, hq] at hsteady
      exact hsteady.awake.1 rfl
    exact (hlow ⟨f, hJ, hfr⟩ l hl hline).tick (hrunning l hl) hrS.2 hline
      ((hstart l hl).imp_right And.left)
  have hafter (k : Nat) (hk : k ∈ T ++ J) :=
    Peer.relay_round hroles (toPeers_flight hflight) hstart hjoin (MessageNet.rounds_one.mp hpeers)
      hk
  refine ⟨hhalf, fun k hk => List.mem_append_left J (h.members hk), hround.flight, hrunning',
    fun k hk => ⟨(hafter k hk).1, (hafter k hk).2.1⟩, fun k hk => ?_⟩
  have hT := h.members hk
  refine (hafter k (List.mem_append_left J hT)).2.2 ?_
  change (Peer.tick k (view (b.node k))).1.state = _
  rw [hold k hT]
  exact Peer.Settled.tick ⟨(h.steady k hT).1, h.forwarding k hk⟩ hrS.2

theorem Followers.run (h : Followers S r d S a) (hrS : r ∈ S ∧ 33 ≤ r) (hdS : d ∈ S ∧ d < 33)
    (hrun : JoiningRun (SafeJoin r) S a T b) : Followers S r d T b := by
  induction hrun with
  | start => exact h
  | round _ hjoined hsafe hround ih => exact ih.joined hrS hdS hjoined hsafe hround

theorem Followers.follows (h : Followers S r d T b) (hk : k ∈ T)
    (hs : (b.node k).ctpm.state = .forwarding) :
    (b.node k).ctpm.rootPortId = r ∧ (b.node k).ctpm.rootLCPortId = d := by
  obtain ⟨-, hroot, -, hport⟩ := (h.steady k hk).2 hs
  rw [ite_self] at hport
  exact ⟨hroot, hport⟩

theorem Started.followers (h : Started S a) (hhalf : Half S)
    (hr : IsLeast {k | k ∈ S ∧ 33 ≤ k} r) (hd : IsLeast {k | k ∈ S ∧ k < 33} d)
    (hrounds : Lockstep S t a b) (ht : 14 ≤ t) : Followers S r d S b := by
  have hagreed := h.agreed hhalf hr hd hrounds ht
  exact ⟨hhalf, fun _ hk => hk, hrounds.flight h.1, fun k hk => (hagreed k hk).running,
    fun k hk => ⟨(hagreed k hk).settled.1, (hagreed k hk).synced⟩,
    fun k hk => (hagreed k hk).settled.2⟩

def joinNet (J : List Nat) (n : Net) : Net where
  node k := if k ∈ J then coldNet.node k else n.node k
  flight := n.flight

theorem joined_joinNet (hhalf : Half J) (n : Net) :
    MessageNet.Joined EntersBlock J n (joinNet J n) where
  enters k hk := by
    change EntersBlock k (if k ∈ J then _ else _)
    rw [if_pos hk]
    exact (started_coldNet hhalf).2 k hk
  others _ hk := if_neg hk
  flight := rfl

theorem Followers.running_joinNet (h : Followers S r d T a) (hhalf : Half J) :
    ∀ k ∈ T ++ J, Running k ((joinNet J a).node k) := by
  intro k hk
  change Running k (if k ∈ J then _ else _)
  split_ifs with hJ
  · exact (started_coldNet hhalf).running hhalf k hJ
  · exact h.running k ((List.mem_append.mp hk).resolve_right hJ)

theorem Followers.exists_join (h : Followers S r d T a) (hhalf : Half J)
    (hpos : ∀ k ∈ T ++ J, 1 ≤ k) (t : Nat) : ∃ b, Lockstep (T ++ J) t (joinNet J a) b :=
  exists_rounds hpos (h.running_joinNet hhalf) h.flight t

theorem exists_two_cards :
    ∃ a, Lockstep [1, 35] 14 coldNet a ∧ Followers [1, 35] 35 1 [1, 35] a := by
  have hhalf : Half [1, 35] := ⟨by decide, .inl (by decide)⟩
  have hstart := started_coldNet hhalf
  have hr : IsLeast {k | k ∈ [1, 35] ∧ 33 ≤ k} 35 := by
    refine ⟨by decide, fun k hk => ?_⟩
    have hmem : k = 1 ∨ k = 35 := by simpa using hk.1
    have := hk.2
    omega
  have hd : IsLeast {k | k ∈ [1, 35] ∧ k < 33} 1 := by
    refine ⟨by decide, fun k hk => ?_⟩
    have := hhalf.card hk.1
    omega
  obtain ⟨a, ha⟩ := exists_rounds (by decide) (hstart.running hhalf) hstart.1 14
  exact ⟨a, ha, hstart.followers hhalf hr hd ha le_rfl⟩

theorem joiners_follow (S : List Nat) (hhalf : Half S) (a b c : Net) (hstart : Started S a)
    (t : Nat) (hrounds : Lockstep S t a b) (r d : Nat) (hr : r ∈ S ∧ 33 ≤ r) (hd : d ∈ S ∧ d < 33)
    (hconverged : ∀ k ∈ S, (b.node k).ctpm.state = .forwarding ∧
      (b.node k).ctpm.rootPortId = r ∧ (b.node k).ctpm.rootLCPortId = d)
    (T : List Nat) (hrun : JoiningRun (SafeJoin r) S b T c) :
    (∀ k ∈ S, (c.node k).ctpm.rootPortId = r ∧ (c.node k).ctpm.rootLCPortId = d) ∧
      (∀ k ∈ T, (c.node k).ctpm.state = .forwarding →
        (c.node k).ctpm.rootPortId = r ∧ (c.node k).ctpm.rootLCPortId = d) ∧
      (∀ f ∈ T, (c.node f).ctpm.state = .forwarding → (c.node f).ctpm.rootPortId = f → f = r) := by
  obtain ⟨r₀, hr₀⟩ := exists_least (S := S) (P := (33 ≤ ·)) ⟨r, hr⟩
  obtain ⟨d₀, hd₀⟩ := exists_least (S := S) (P := (· < 33)) ⟨d, hd⟩
  have ht := hstart.late hhalf hr₀ hd₀ hrounds (hconverged d₀ hd₀.1.1).1
  have hfollowers := hstart.followers hhalf hr₀ hd₀ hrounds ht
  obtain ⟨rfl, rfl⟩ : r₀ = r ∧ d₀ = d := by
    obtain ⟨hs, hroot, hdes⟩ := hconverged r hr.1
    obtain ⟨hroot', hdes'⟩ := hfollowers.follows hr.1 hs
    exact ⟨hroot'.symm.trans hroot, hdes'.symm.trans hdes⟩
  have hend := hfollowers.run hr hd hrun
  exact ⟨fun k hk => hend.follows (hend.members hk) (hend.forwarding k hk),
    fun k hk hs => hend.follows hk hs,
    fun f hf hs hroot => hroot.symm.trans (hend.follows hf hs).1⟩

theorem joiners_follow_low_fabric :
    ∃ a b, Lockstep [1, 35] 14 coldNet a ∧ JoiningRun (SafeJoin 35) [1, 35] a [1, 35, 33] b ∧
      ∀ k ∈ [1, 35], (b.node k).ctpm.rootPortId = 35 ∧ (b.node k).ctpm.rootLCPortId = 1 := by
  obtain ⟨a, ha, hfollowers⟩ := exists_two_cards
  have hhalf : Half [1, 35] := ⟨by decide, .inl (by decide)⟩
  have hjoiner : Half [33] := ⟨by decide, .inl (by decide)⟩
  obtain ⟨b, hb⟩ := hfollowers.exists_join hjoiner (by decide) 1
  have hsafe : SafeJoin 35 [1, 35] [33] (joinNet [33] a) := by
    refine ⟨⟨by decide, .inl (by decide)⟩, fun _ l hl hline => .inl ?_⟩
    have hmem : l = 1 ∨ l = 35 ∨ l = 33 := by simpa using hl
    obtain rfl : l = 1 := by omega
    exact hfollowers.forwarding 1 (by decide)
  have hrun : JoiningRun (SafeJoin 35) [1, 35] a [1, 35, 33] b :=
    MessageNet.Growing.start.round (joined_joinNet hjoiner a) hsafe (MessageNet.rounds_one.mp hb)
  exact ⟨a, b, ha, hrun, (joiners_follow [1, 35] hhalf coldNet a b (started_coldNet hhalf) 14 ha
    35 1 (by decide) (by decide) (fun k hk => ⟨hfollowers.forwarding k hk,
      hfollowers.follows hk (hfollowers.forwarding k hk)⟩) [1, 35, 33] hrun).1⟩

theorem Followers.rivals_split {f l : Nat} (h : Followers S r d S a) (hhalf : Half (S ++ J))
    (hf : f ∈ J ∧ 33 ≤ f) (hl : l ∈ J ∧ l < 33) (hjoined : MessageNet.Joined EntersBlock J a b)
    (hrounds : Lockstep (S ++ J) 14 b c) :
    (c.node l).ctpm.state = .forwarding ∧ (c.node l).ctpm.rootPortId ≤ f := by
  have hflight : b.flight = [] := hjoined.flight.trans h.flight
  have hold (k : Nat) (hk : k ∈ S) : b.node k = a.node k :=
    hjoined.others k fun hJ => (List.disjoint_of_nodup_append hhalf.nodup) hk hJ
  have hnew (k : Nat) (hk : k ∈ J) :=
    (hjoined.enters k hk).running (hhalf.card (List.mem_append_right S hk))
  have hrunning : ∀ k ∈ S ++ J, Running k (b.node k) := fun k hk =>
    (List.mem_append.mp hk).elim (fun hS => hold k hS ▸ h.running k hS) fun hJ => (hnew k hJ).1
  have htimer : ∀ k ∈ S ++ J, 33 ≤ k → (view (b.node k)).timer = 0 := by
    intro k hk _
    rcases List.mem_append.mp hk with hS | hJ
    · rw [hold k hS]
      exact ((h.steady k hS).2 (h.forwarding k hS)).1
    · obtain ⟨q, hq⟩ := (hnew k hJ).2
      rw [hq]
      rfl
  exact Peer.rivals_forward ⟨⟨List.mem_append_right S hf.1, hf.2⟩,
    ⟨List.mem_append_right S hl.1, hl.2⟩⟩ (toPeers_flight hflight) (hnew f hf.1).2 (hnew l hl.1).2
    htimer (rounds_refine hrounds hrunning hflight).1

theorem rivals_split_half :
    ∃ a b, Lockstep [1, 35] 14 coldNet a ∧
      (∀ k ∈ [1, 35], (a.node k).ctpm.state = .forwarding ∧ (a.node k).ctpm.rootPortId = 35 ∧
        (a.node k).ctpm.rootLCPortId = 1) ∧
      JoiningRun AnyJoin [1, 35] a [1, 35, 3, 33] b ∧
      (b.node 3).ctpm.state = .forwarding ∧ (b.node 3).ctpm.rootPortId ≠ 35 := by
  obtain ⟨a, ha, hfollowers⟩ := exists_two_cards
  have hjoiners : Half [3, 33] := ⟨by decide, .inl (by decide)⟩
  have hall : Half [1, 35, 3, 33] := ⟨by decide, .inl (by decide)⟩
  have hjoined := joined_joinNet hjoiners a
  obtain ⟨b, hb⟩ := hfollowers.exists_join hjoiners (by decide) 14
  obtain ⟨hs, hroot⟩ :=
    hfollowers.rivals_split (f := 33) (l := 3) hall (by decide) (by decide) hjoined hb
  obtain ⟨c, hc, hlater⟩ := MessageNet.Rounds.split (s := 1) (t := 13) hb
  have hrun : JoiningRun AnyJoin [1, 35] a [1, 35, 3, 33] c :=
    MessageNet.Growing.start.round hjoined hall (MessageNet.rounds_one.mp hc)
  exact ⟨a, b, ha, fun k hk => ⟨hfollowers.forwarding k hk,
    hfollowers.follows hk (hfollowers.forwarding k hk)⟩, hrun.rounds hlater fun _ => hall, hs,
    by omega⟩

end Joining

end Chassisd
