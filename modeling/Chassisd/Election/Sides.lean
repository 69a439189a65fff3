import Chassisd.Election.Peer

namespace Chassisd

def hears (j k : Nat) : Bool := decide (j < 33) != decide (k < 33)

theorem hears_line {j k : Nat} (hk : k < 33) : hears j k = true ↔ 33 ≤ j := by
  simp [hears, hk]

theorem hears_fabric {j k : Nat} (hk : 33 ≤ k) : hears j k = true ↔ j < 33 := by
  simp [hears, show ¬ k < 33 by omega]

namespace Peer

section Heard

variable (k : Nat) (m : Notice) (p : Peer)

theorem tick_heard : (tick k p).1.heard = [] := by
  unfold tick iterate
  split
  · split_ifs <;> rfl
  · split_ifs <;> rfl
  · split_ifs <;> rfl
  · split_ifs
    · split <;> rfl
    · rfl
    · rfl
    · rfl
  · rfl

theorem lineHear_heard : (lineHear k m p).1.heard = p.heard := by
  unfold lineHear
  split <;> dsimp only
  · rfl
  · exact (study_frame k m p _ _).2.2
  · exact (study_frame k m p _ _).2.2
  · split
    · rfl
    · unfold helloFromFabric
      split_ifs
      · exact (sync_frame m _).2.2.2.2
      · rfl
      · rfl
    · rfl
    · rfl

theorem fabricHear_heard : (fabricHear k m p).1.heard = p.heard := by
  unfold fabricHear
  split <;> dsimp only
  · rfl
  · exact (study_frame k m p _ _).2.2
  · exact (study_frame k m p _ _).2.2
  · split
    · unfold helloFromLine
      split_ifs
      · exact (sync_frame m _).2.2.2.2
      · exact (sync_frame m _).2.2.2.2
      · rfl
      · rfl
    · rfl
    · split_ifs
      · split <;> rfl
      · rfl
    · split_ifs <;> rfl
    · rfl

theorem mem_heard_recv (x : Nat × Kind) :
    x ∈ (recv k m p).1.heard ↔ x ∈ p.heard ∨ x = (m.slot, m.kind) := by
  unfold recv
  split_ifs with hkey hk
  · constructor
    · exact .inl
    · rintro (hx | rfl)
      · exact hx
      · exact hkey
  · rw [lineHear_heard]; simp
  · rw [fabricHear_heard]; simp

end Heard

variable {S : List Nat} {L F : Nat → Peer → Prop} {QL QF : Notice → Prop}
  {n n' : MessageNet.Net Nat Peer Notice}

-- What a round keeps of the line cards (L) and of the fabric cards (F), when the line cards hear
-- only notices in QL and the fabric cards only notices in QF.
structure Sides (S : List Nat) (L F : Nat → Peer → Prop) (QL QF : Notice → Prop)
    (n : MessageNet.Net Nat Peer Notice) : Prop where
  flight : n.flight = []
  lineTick : ∀ k ∈ S, k < 33 → L k (tick k (n.node k)).1 ∧ ∀ m ∈ (tick k (n.node k)).2, QF m
  fabricTick : ∀ k ∈ S, 33 ≤ k → F k (tick k (n.node k)).1 ∧ ∀ m ∈ (tick k (n.node k)).2, QL m
  lineHear : ∀ k ∈ S, k < 33 → ∀ m p, L k p → QL m → (m.slot, m.kind) ∉ p.heard →
    L k (lineHear k m (noted m p)).1 ∧ ∀ a ∈ (lineHear k m (noted m p)).2, QF a
  fabricHear : ∀ k ∈ S, 33 ≤ k → ∀ m p, F k p → QF m → (m.slot, m.kind) ∉ p.heard →
    F k (fabricHear k m (noted m p)).1 ∧ ∀ a ∈ (fabricHear k m (noted m p)).2, QL a

namespace Sides

def Holds (L F : Nat → Peer → Prop) (k : Nat) (p : Peer) : Prop := if k < 33 then L k p else F k p

def Hears (QL QF : Notice → Prop) (k : Nat) (m : Notice) : Prop := if k < 33 then QL m else QF m

theorem recv (h : Sides S L F QL QF n) {k : Nat} (hk : k ∈ S) {m : Notice} {p : Peer}
    (hp : Holds L F k p) (hm : Hears QL QF k m) :
    Holds L F k (recv k m p).1 ∧
      ∀ a ∈ (Peer.recv k m p).2, ∀ j, hears j k = true → Hears QL QF j a := by
  unfold Peer.recv
  split_ifs with hkey hline
  · exact ⟨hp, by simp⟩
  · simp only [Holds, Hears, if_pos hline] at hp hm ⊢
    obtain ⟨hl, ha⟩ := h.lineHear k hk hline m p hp hm hkey
    refine ⟨hl, fun a hmem j hj => ?_⟩
    rw [hears_line hline] at hj
    rw [if_neg (by omega)]
    exact ha a hmem
  · simp only [Holds, Hears, if_neg hline] at hp hm ⊢
    obtain ⟨hf, ha⟩ := h.fabricHear k hk (by omega) m p hp hm hkey
    refine ⟨hf, fun a hmem j hj => ?_⟩
    rw [hears_fabric (by omega)] at hj
    rw [if_pos hj]
    exact ha a hmem

theorem phase (h : Sides S L F QL QF n) :
    MessageNet.Phase peerProtocol hears S (Holds L F) (Hears QL QF) n where
  recv k hk m p hp hm := (h.recv hk hp hm).1
  answer k hk m p hp hm a ha j _ hj := (h.recv hk hp hm).2 a ha j hj
  flight := h.flight
  start k hk := by
    unfold Holds
    split_ifs with hline
    · exact (h.lineTick k hk hline).1
    · exact (h.fabricTick k hk (by omega)).1
  emit k hk m hm j _ hj := by
    unfold Hears
    by_cases hline : k < 33
    · rw [hears_line hline] at hj
      rw [if_neg (by omega)]
      exact (h.lineTick k hk hline).2 m hm
    · rw [hears_fabric (by omega)] at hj
      rw [if_pos hj]
      exact (h.fabricTick k hk (by omega)).2 m hm

theorem line (h : Sides S L F QL QF n) (hr : MessageNet.Round peerProtocol hears S n n') {k : Nat}
    (hk : k ∈ S) (hline : k < 33) : L k (n'.node k) := by
  have hp := h.phase.holds hr k hk
  rwa [Holds, if_pos hline] at hp

theorem fabric (h : Sides S L F QL QF n) (hr : MessageNet.Round peerProtocol hears S n n')
    {k : Nat} (hk : k ∈ S) (hfabric : 33 ≤ k) : F k (n'.node k) := by
  have hp := h.phase.holds hr k hk
  rwa [Holds, if_neg (by omega)] at hp

theorem heard_tick (h : Sides S L F QL QF n) (hr : MessageNet.Round peerProtocol hears S n n')
    {k f : Nat} (hk : k ∈ S) (hf : f ∈ S) (hh : hears f k = true) {kind : Kind}
    (hsent : ∃ m ∈ (tick k (n.node k)).2, m.slot = k ∧ m.kind = kind) :
    (k, kind) ∈ (n'.node f).heard := by
  refine h.phase.owed hr (G := fun p => (k, kind) ∈ p.heard)
    (W := fun m => m.slot = k ∧ m.kind = kind) hk hf hh hsent ?_ ?_
  · intro m p _ _ hp
    exact (mem_heard_recv f m p _).mpr (.inl hp)
  · rintro m p _ _ ⟨rfl, rfl⟩
    exact (mem_heard_recv f m p _).mpr (.inr rfl)

theorem heard_answer (h : Sides S L F QL QF n) (hr : MessageNet.Round peerProtocol hears S n n')
    {d f : Nat} (hd : d ∈ S) (hf : f ∈ S) (hh : hears f d = true) {D : Peer → Prop} {kind : Kind}
    (hstart : ¬ D (tick d (n.node d)).1)
    (hanswer : ∀ m p, Holds L F d p → Hears QL QF d m → ¬ D p → D (Peer.recv d m p).1 →
      ∃ a ∈ (Peer.recv d m p).2, a.slot = d ∧ a.kind = kind)
    (hend : D (n'.node d)) : (d, kind) ∈ (n'.node f).heard := by
  refine h.phase.chain hr (G := fun p => (d, kind) ∈ p.heard) (D := D)
    (W := fun m => m.slot = d ∧ m.kind = kind) hd hf hh hstart ?_ ?_ hanswer hend
  · intro m p _ _ hp
    exact (mem_heard_recv f m p _).mpr (.inl hp)
  · rintro m p _ _ ⟨rfl, rfl⟩
    exact (mem_heard_recv f m p _).mpr (.inr rfl)

theorem heard_relay (h : Sides S L F QL QF n) (hr : MessageNet.Round peerProtocol hears S n n')
    {d f : Nat} (hd : d ∈ S) (hf : f ∈ S) (hh : hears f d = true) {key : Nat × Kind} {kind : Kind}
    (hanswer : ∀ m p, Holds L F d p → Hears QL QF d m → (m.slot, m.kind) = key → key ∉ p.heard →
      ∃ a ∈ (Peer.recv d m p).2, a.slot = d ∧ a.kind = kind)
    (hend : key ∈ (n'.node d).heard) : (d, kind) ∈ (n'.node f).heard := by
  refine h.heard_answer hr hd hf hh (D := fun p => key ∈ p.heard) ?_ ?_ hend
  · simp [tick_heard d (n.node d)]
  · intro m p hp hm hkey hkey'
    rcases (mem_heard_recv d m p key).mp hkey' with hmem | rfl
    · exact absurd hmem hkey
    · exact hanswer m p hp hm rfl hkey

end Sides

end Peer

end Chassisd
