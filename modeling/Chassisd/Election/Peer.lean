import Chassisd.Bpdu.Types
import Chassisd.Library.MessageNet

namespace Chassisd

inductive Kind where
  | config
  | reply
  | hello
  | lcChange
  | fcChange
  deriving DecidableEq, Repr

structure Notice where
  slot : Nat
  kind : Kind
  forwarding : Bool
  root : Nat
  designated : Nat
  age : Nat → Nat

-- `port` is where the card forwards to; the root's own may lag behind `designated`.
structure Peer where
  state : ChassisCtpmState
  timer : Nat
  root : Nat
  port : Nat
  designated : Nat
  age : Nat → Nat
  heard : List (Nat × Kind)

namespace Peer

def beatAge (k : Nat) (age : Nat → Nat) : Nat → Nat := fun n => if n = k then 16 else age n - 1

def beat (k : Nat) (p : Peer) : Peer := { p with age := beatAge k p.age }

def notice (k : Nat) (kind : Kind) (p : Peer) : Notice :=
  ⟨k, kind, decide (p.state = .forwarding), p.root, p.designated, beatAge k p.age⟩

def say (k : Nat) (kind : Kind) (p : Peer) : Peer × List Notice := (beat k p, [notice k kind p])

def merge (k : Nat) (m : Notice) (p : Peer) : Peer :=
  { p with age := fun n => if n = k then p.age n else max (p.age n) (m.age n) }

def restart (p : Peer) : Peer := { p with timer := 0 }

def later (p : Peer) : Peer := { p with timer := p.timer + 1 }

def enter (state : ChassisCtpmState) (p : Peer) : Peer := { p with state := state, timer := 0 }

def block (k : Nat) (p : Peer) : Peer where
  state := .block
  timer := 0
  root := if k < 33 then 0 else k
  port := if k < 33 then k else 0
  designated := if k < 33 then k else 0
  age := fun n => if n = k then 16 else 0
  heard := p.heard

def takes (wins : Bool) (id age old : Nat) : Prop :=
  0 < id ∧ 0 < age ∧ (wins = true ∨ id < old ∨ old = 0)

instance (wins : Bool) (id age old : Nat) : Decidable (takes wins id age old) :=
  inferInstanceAs (Decidable (_ ∧ _ ∧ _))

def after (wins : Bool) (id age old : Nat) : Nat := if takes wins id age old then id else old

def adopt (winsRoot winsDesigned : Bool) (k : Nat) (m : Notice) (p : Peer) : Peer :=
  merge k m
    { p with
      root := after winsRoot m.root (m.age m.root) p.root
      port := after winsDesigned m.designated (m.age m.designated) p.port
      designated := if takes winsDesigned m.designated (m.age m.designated) p.port
        then m.designated else p.designated }

def sync (m : Notice) (p : Peer) : Peer :=
  if 0 < m.designated ∧ m.designated ≠ p.designated ∧ 0 < m.age m.designated then
    { p with port := m.designated, designated := m.designated }
  else p

def forget (old : Nat) (p : Peer) : Peer :=
  { p with age := fun n => if n = old + 1 then 0 else p.age n }

def heir (k : Nat) (age : Nat → Nat) : Option Nat :=
  (List.range 32).find? fun i => decide (i + 1 ≠ k ∧ 3 ≤ age (i + 1))

def elect (i : Nat) (p : Peer) : Peer := { p with port := i, designated := i + 1 }

def iterate (k : Nat) (p : Peer) : Peer × List Notice :=
  match p.state with
  | .block =>
    if 33 ≤ k then
      if p.timer + 1 < 15 then say k .config (later p) else (restart p, [])
    else (p, [])
  | .listening =>
    if 3 < p.timer then (enter .learning p, [])
    else if 33 ≤ k then say k .config (later p)
    else (later p, [])
  | .learning =>
    if p.timer < (if 33 ≤ k then 3 else 7) then say k .config (later p)
    else (enter .forwarding p, [])
  | .forwarding =>
    if k = p.root then
      if 15 < p.timer then
        match heir k (forget p.port p).age with
        | some i => say k .hello (restart (elect i (forget p.port p)))
        | none => say k .lcChange (block k p)
      else say k .hello (later p)
    else if 45 < p.timer then (block k p, [])
    else (later p, [])
  | .disable => (p, [])

def tick (k : Nat) (p : Peer) : Peer × List Notice := iterate k { p with heard := [] }

def agrees (m : Notice) (p : Peer) : Prop := m.root = p.root ∧ m.designated = p.designated

instance (m : Notice) (p : Peer) : Decidable (agrees m p) := inferInstanceAs (Decidable (_ ∧ _))

def study (winsRoot winsDesigned : Bool) (k : Nat) (m : Notice) (p : Peer) : Peer :=
  merge k m (if agrees m p then p else adopt winsRoot winsDesigned k m p)

def helloFromFabric (k : Nat) (m : Notice) (p : Peer) : Peer × List Notice :=
  if m.root = p.root ∧ m.designated ≠ p.port then (sync m p, [])
  else if m.designated = k ∧ m.root = p.root ∧ m.slot = m.root then say k .hello p
  else say k .reply p

def lineHear (k : Nat) (m : Notice) (p : Peer) : Peer × List Notice :=
  match p.state with
  | .block =>
    let p := adopt false (m.kind == .hello) k m (enter .listening p)
    (merge k m (beat k p), [notice k .reply p])
  | .listening | .learning => (study false (m.kind == .hello) k m p, [])
  | .forwarding =>
    let p := merge k m p
    match m.kind with
    | .lcChange => (block k p, [notice k .lcChange p])
    | .hello => helloFromFabric k m (restart p)
    | .config => say k .reply p
    | _ => (p, [])
  | .disable => (p, [])

def helloFromLine (k : Nat) (m : Notice) (p : Peer) : Peer × List Notice :=
  let q := if m.designated ≠ p.designated ∧ m.root = p.root then sync m p else p
  if m.designated = p.designated ∧ m.root ≠ k then say k .hello q else (q, [])

def fabricHear (k : Nat) (m : Notice) (p : Peer) : Peer × List Notice :=
  match p.state with
  | .block => (merge k m (adopt m.forwarding false k m (enter .listening p)), [])
  | .listening | .learning => (study m.forwarding false k m p, [])
  | .forwarding =>
    let p := merge k m p
    match m.kind with
    | .hello => helloFromLine k m (restart p)
    | .config => say k .reply p
    | .fcChange =>
      if m.root = k then
        match heir k (forget m.designated p).age with
        | some i => say k .hello (elect i (forget m.designated p))
        | none => (block k p, [])
      else (p, [])
    | .lcChange => if m.root = k then (p, []) else (block k p, [])
    | .reply => (p, [])
  | .disable => (p, [])

def noted (m : Notice) (p : Peer) : Peer := { p with heard := p.heard ++ [(m.slot, m.kind)] }

def recv (k : Nat) (m : Notice) (p : Peer) : Peer × List Notice :=
  if (m.slot, m.kind) ∈ p.heard then (p, [])
  else if k < 33 then lineHear k m (noted m p)
  else fabricHear k m (noted m p)

section Frame

variable (k i : Nat) (kind : Kind) (state : ChassisCtpmState) (m : Notice) (p : Peer)

@[simp] theorem notice_frame :
    (notice k kind p).slot = k ∧ (notice k kind p).kind = kind ∧
    ((notice k kind p).forwarding = true ↔ p.state = .forwarding) ∧
    (notice k kind p).root = p.root ∧ (notice k kind p).designated = p.designated ∧
    (notice k kind p).age = beatAge k p.age :=
  ⟨rfl, rfl, decide_eq_true_iff, rfl, rfl, rfl⟩

@[simp] theorem beat_frame :
    (beat k p).state = p.state ∧ (beat k p).timer = p.timer ∧ (beat k p).root = p.root ∧
    (beat k p).port = p.port ∧ (beat k p).designated = p.designated ∧
    (beat k p).age = beatAge k p.age ∧ (beat k p).heard = p.heard :=
  ⟨rfl, rfl, rfl, rfl, rfl, rfl, rfl⟩

@[simp] theorem merge_frame :
    (merge k m p).state = p.state ∧ (merge k m p).timer = p.timer ∧
    (merge k m p).root = p.root ∧ (merge k m p).port = p.port ∧
    (merge k m p).designated = p.designated ∧ (merge k m p).heard = p.heard :=
  ⟨rfl, rfl, rfl, rfl, rfl, rfl⟩

@[simp] theorem restart_frame :
    (restart p).state = p.state ∧ (restart p).timer = 0 ∧ (restart p).root = p.root ∧
    (restart p).port = p.port ∧ (restart p).designated = p.designated ∧
    (restart p).age = p.age ∧ (restart p).heard = p.heard :=
  ⟨rfl, rfl, rfl, rfl, rfl, rfl, rfl⟩

@[simp] theorem later_frame :
    (later p).state = p.state ∧ (later p).timer = p.timer + 1 ∧ (later p).root = p.root ∧
    (later p).port = p.port ∧ (later p).designated = p.designated ∧ (later p).age = p.age ∧
    (later p).heard = p.heard :=
  ⟨rfl, rfl, rfl, rfl, rfl, rfl, rfl⟩

@[simp] theorem enter_frame :
    (enter state p).state = state ∧ (enter state p).timer = 0 ∧ (enter state p).root = p.root ∧
    (enter state p).port = p.port ∧ (enter state p).designated = p.designated ∧
    (enter state p).age = p.age ∧ (enter state p).heard = p.heard :=
  ⟨rfl, rfl, rfl, rfl, rfl, rfl, rfl⟩

@[simp] theorem forget_frame :
    (forget i p).state = p.state ∧ (forget i p).timer = p.timer ∧ (forget i p).root = p.root ∧
    (forget i p).port = p.port ∧ (forget i p).designated = p.designated ∧
    (forget i p).heard = p.heard := ⟨rfl, rfl, rfl, rfl, rfl, rfl⟩

@[simp] theorem elect_frame :
    (elect i p).state = p.state ∧ (elect i p).timer = p.timer ∧ (elect i p).root = p.root ∧
    (elect i p).port = i ∧ (elect i p).designated = i + 1 ∧ (elect i p).age = p.age ∧
    (elect i p).heard = p.heard := ⟨rfl, rfl, rfl, rfl, rfl, rfl, rfl⟩

@[simp] theorem noted_frame :
    (noted m p).state = p.state ∧ (noted m p).timer = p.timer ∧ (noted m p).root = p.root ∧
    (noted m p).port = p.port ∧ (noted m p).designated = p.designated ∧
    (noted m p).age = p.age ∧ (noted m p).heard = p.heard ++ [(m.slot, m.kind)] :=
  ⟨rfl, rfl, rfl, rfl, rfl, rfl, rfl⟩

@[simp] theorem adopt_frame (wr wd : Bool) :
    (adopt wr wd k m p).state = p.state ∧ (adopt wr wd k m p).timer = p.timer ∧
    (adopt wr wd k m p).heard = p.heard ∧ (adopt wr wd k m p).age = (merge k m p).age :=
  ⟨rfl, rfl, rfl, rfl⟩

@[simp] theorem sync_frame :
    (sync m p).state = p.state ∧ (sync m p).timer = p.timer ∧ (sync m p).root = p.root ∧
    (sync m p).age = p.age ∧ (sync m p).heard = p.heard := by
  unfold sync
  split_ifs <;> exact ⟨rfl, rfl, rfl, rfl, rfl⟩

@[simp] theorem block_frame :
    (block k p).state = .block ∧ (block k p).timer = 0 ∧ (block k p).heard = p.heard :=
  ⟨rfl, rfl, rfl⟩

@[simp] theorem study_frame (wr wd : Bool) :
    (study wr wd k m p).state = p.state ∧ (study wr wd k m p).timer = p.timer ∧
    (study wr wd k m p).heard = p.heard := by
  unfold study
  split_ifs <;> exact ⟨rfl, rfl, rfl⟩

end Frame

section Ages

variable {k n : Nat} (age : Nat → Nat) (m : Notice) (p : Peer)

theorem beatAge_self : beatAge k age k = 16 := if_pos rfl

theorem beatAge_of_ne (h : n ≠ k) : beatAge k age n = age n - 1 := if_neg h

theorem merge_age_self : (merge k m p).age k = p.age k := if_pos rfl

theorem merge_age_of_ne (h : n ≠ k) : (merge k m p).age n = max (p.age n) (m.age n) := if_neg h

theorem merge_merge : merge k m (merge k m p) = merge k m p := by
  simp only [merge, Peer.mk.injEq, true_and, and_true]
  funext n
  split_ifs
  · rfl
  · exact max_eq_left (le_max_right _ _)

theorem study_age (wr wd : Bool) : (study wr wd k m p).age = (merge k m p).age := by
  unfold study
  split_ifs
  · rfl
  · change (merge k m (merge k m p)).age = _
    rw [merge_merge]

end Ages

section Adopting

variable {wins : Bool} {id age old r : Nat}

theorem after_eq_or (wins : Bool) (id age old : Nat) :
    after wins id age old = id ∨ after wins id age old = old := by
  unfold after
  split_ifs
  · exact .inl rfl
  · exact .inr rfl

theorem after_self (wins : Bool) (id age : Nat) : after wins id age id = id :=
  (after_eq_or wins id age id).elim (fun h => h) fun h => h

theorem after_wins (hid : 0 < id) (hage : 0 < age) : after true id age old = id :=
  if_pos ⟨hid, hage, .inl rfl⟩

theorem after_least (hid : 0 < id) (hage : 0 < age) (h : old = 0 ∨ id ≤ old) :
    after wins id age old = id := by
  unfold after
  split_ifs with ht
  · rfl
  · have hno : ¬ (wins = true ∨ id < old ∨ old = 0) := fun h => ht ⟨hid, hage, h⟩
    omega

theorem after_keep (hr : 0 < r) (h : id = 0 ∨ r ≤ id) : after false id age r = r := by
  unfold after
  split_ifs with ht
  · obtain ⟨hpos, -, hlt⟩ := ht
    simp only [Bool.false_eq_true, false_or] at hlt
    omega
  · rfl

theorem after_le (h : old = 0 ∨ r ≤ old) (hid : id = 0 ∨ r ≤ id) :
    after wins id age old = 0 ∨ r ≤ after wins id age old := by
  rcases after_eq_or wins id age old with heq | heq
  · rw [heq]; exact hid
  · rw [heq]; exact h

variable (wr wd : Bool) (k : Nat) (m : Notice) (p : Peer)

theorem adopt_designated (hport : p.port = p.designated) :
    (adopt wr wd k m p).designated =
        after wd m.designated (m.age m.designated) p.designated ∧
      (adopt wr wd k m p).port = (adopt wr wd k m p).designated := by
  simp only [adopt, merge_frame, after, hport, and_true]

theorem study_root :
    (study wr wd k m p).root = after wr m.root (m.age m.root) p.root := by
  unfold study
  split_ifs with h
  · rw [← h.1, after_self]; exact h.1.symm
  · rfl

theorem study_designated (hport : p.port = p.designated) :
    (study wr wd k m p).designated =
        after wd m.designated (m.age m.designated) p.designated ∧
      (study wr wd k m p).port = (study wr wd k m p).designated := by
  unfold study
  split_ifs with h
  · refine ⟨?_, hport⟩
    rw [← h.2, after_self]; exact h.2.symm
  · exact adopt_designated wr wd k m p hport

end Adopting

section Starting

structure Learned (wr wd : Bool) (k : Nat) (m : Notice) (p q : Peer) : Prop where
  state : q.state = if p.state = .block then .listening else p.state
  timer : q.timer = if p.state = .block then 0 else p.timer
  root : q.root = after wr m.root (m.age m.root) p.root
  designated : q.designated = after wd m.designated (m.age m.designated) p.designated
  port : q.port = q.designated
  heard : q.heard = p.heard
  age : ∀ n, n ≠ k → m.age n ≤ q.age n
  keeps : p.state ≠ .block → ∀ n, p.age n ≤ q.age n

variable {wr wd : Bool} {k : Nat} {m : Notice} {p : Peer}

theorem Learned.clock {q : Peer} (h : Learned wr wd k m p q) (hs : p.state ≠ .block) :
    (q.state, q.timer) = (p.state, p.timer) := by
  rw [h.state, h.timer, if_neg hs, if_neg hs]

theorem le_merge_age (n : Nat) : p.age n ≤ (merge k m p).age n := by
  change _ ≤ if n = k then _ else _
  split_ifs
  · exact le_rfl
  · exact le_max_left _ _

theorem age_le_merge {n : Nat} (h : n ≠ k) : m.age n ≤ (merge k m p).age n := by
  rw [merge_age_of_ne m p h]
  exact le_max_right _ _

theorem learned_study (hs : p.state ≠ .block) (hport : p.port = p.designated) :
    Learned wr wd k m p (study wr wd k m p) where
  state := by rw [if_neg hs]; exact (study_frame k m p wr wd).1
  timer := by rw [if_neg hs]; exact (study_frame k m p wr wd).2.1
  root := study_root wr wd k m p
  designated := (study_designated wr wd k m p hport).1
  port := (study_designated wr wd k m p hport).2
  heard := (study_frame k m p wr wd).2.2
  age n hn := by rw [study_age]; exact age_le_merge hn
  keeps _ n := by rw [study_age]; exact le_merge_age n

theorem lineHear_waiting (h : p.state = .listening ∨ p.state = .learning) :
    lineHear k m p = (study false (m.kind == .hello) k m p, []) := by
  unfold lineHear
  rcases h with h | h
  · rw [h]
  · rw [h]

theorem fabricHear_waiting (h : p.state = .listening ∨ p.state = .learning) :
    fabricHear k m p = (study m.forwarding false k m p, []) := by
  unfold fabricHear
  rcases h with h | h
  · rw [h]
  · rw [h]

theorem lineHear_learned (hs : p.state ≠ .forwarding) (hd : p.state ≠ .disable)
    (hport : p.port = p.designated) :
    Learned false (m.kind == .hello) k m p (lineHear k m p).1 := by
  unfold lineHear
  cases hstate : p.state with
  | block =>
    have hdes := adopt_designated false (m.kind == .hello) k m (enter .listening p) hport
    exact ⟨by simp [hstate], by simp [hstate], rfl, hdes.1, hdes.2, rfl,
      fun n hn => age_le_merge hn, fun h => absurd hstate h⟩
  | listening => exact learned_study (by simp [hstate]) hport
  | learning => exact learned_study (by simp [hstate]) hport
  | forwarding => exact absurd hstate hs
  | disable => exact absurd hstate hd

theorem fabricHear_learned (hs : p.state ≠ .forwarding) (hd : p.state ≠ .disable)
    (hport : p.port = p.designated) :
    Learned m.forwarding false k m p (fabricHear k m p).1 ∧ (fabricHear k m p).2 = [] := by
  unfold fabricHear
  cases hstate : p.state with
  | block =>
    have hdes := adopt_designated m.forwarding false k m (enter .listening p) hport
    exact ⟨⟨by simp [hstate], by simp [hstate], rfl, hdes.1, hdes.2, rfl,
      fun n hn => age_le_merge hn, fun h => absurd hstate h⟩, rfl⟩
  | listening => exact ⟨learned_study (by simp [hstate]) hport, rfl⟩
  | learning => exact ⟨learned_study (by simp [hstate]) hport, rfl⟩
  | forwarding => exact absurd hstate hs
  | disable => exact absurd hstate hd

theorem lineHear_answer (hs : p.state ≠ .forwarding) (hd : p.state ≠ .disable) :
    (p.state = .block → ∃ a, (lineHear k m p).2 = [a] ∧ a.slot = k ∧ a.kind = .reply ∧
      a.forwarding = false ∧ a.root = (lineHear k m p).1.root ∧
      a.designated = (lineHear k m p).1.designated ∧ a.age k = 16 ∧
      ∀ n, n ≠ k → m.age n - 1 ≤ a.age n) ∧
    (p.state ≠ .block → (lineHear k m p).2 = []) := by
  unfold lineHear
  cases hstate : p.state with
  | block =>
    refine ⟨fun _ => ⟨_, rfl, rfl, rfl, rfl, rfl, rfl, beatAge_self _, fun n hn => ?_⟩,
      fun h => absurd rfl h⟩
    have hage : m.age n ≤ (adopt false (m.kind == .hello) k m (enter .listening p)).age n :=
      age_le_merge hn
    simp only [notice_frame, beatAge_of_ne _ hn]
    omega
  | listening => exact ⟨nofun, fun _ => rfl⟩
  | learning => exact ⟨nofun, fun _ => rfl⟩
  | forwarding => exact absurd hstate hs
  | disable => exact absurd hstate hd

end Starting

section Forwarding

variable {k : Nat} {m : Notice} {p : Peer}

theorem lineHear_forwarding (hs : p.state = .forwarding) (hl : m.kind ≠ .lcChange)
    (hf : m.kind ≠ .fcChange) :
    lineHear k m p =
      if m.kind = .hello then helloFromFabric k m (restart (merge k m p))
      else if m.kind = .config then say k .reply (merge k m p) else (merge k m p, []) := by
  unfold lineHear
  rw [hs]
  cases hkind : m.kind with
  | lcChange => exact absurd hkind hl
  | fcChange => exact absurd hkind hf
  | _ => simp

theorem fabricHear_forwarding (hs : p.state = .forwarding) (hl : m.kind ≠ .lcChange)
    (hf : m.kind ≠ .fcChange) :
    fabricHear k m p =
      if m.kind = .hello then helloFromLine k m (restart (merge k m p))
      else if m.kind = .config then say k .reply (merge k m p) else (merge k m p, []) := by
  unfold fabricHear
  rw [hs]
  cases hkind : m.kind with
  | lcChange => exact absurd hkind hl
  | fcChange => exact absurd hkind hf
  | _ => simp

end Forwarding

end Peer

def peerProtocol : MessageNet.Protocol Nat Peer Notice := ⟨Peer.tick, Peer.recv⟩

end Chassisd
