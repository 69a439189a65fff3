import Mathlib

namespace MessageNet

structure Protocol (ι σ μ : Type*) where
  tick : ι → σ → σ × List μ
  recv : ι → μ → σ → σ × List μ

@[ext] structure Net (ι σ μ : Type*) where
  node : ι → σ
  flight : List (ι × μ)

variable {ι σ μ : Type*}

def post (dests : List ι) (ms : List μ) : List (ι × μ) :=
  ms.flatMap fun m => dests.map fun j => (j, m)

theorem mem_post {dests : List ι} {ms : List μ} {j : ι} {m : μ} :
    (j, m) ∈ post dests ms ↔ j ∈ dests ∧ m ∈ ms := by
  simp only [post, List.mem_flatMap, List.mem_map, Prod.mk.injEq]
  constructor
  · rintro ⟨a, ha, b, hb, rfl, rfl⟩; exact ⟨hb, ha⟩
  · rintro ⟨hj, hm⟩; exact ⟨m, hm, j, hj, rfl, rfl⟩

variable (P : Protocol ι σ μ) (hears : ι → ι → Bool) (S : List ι)

def audience (k : ι) : List ι := S.filter fun j => hears j k

theorem mem_audience {j k : ι} : j ∈ audience hears S k ↔ j ∈ S ∧ hears j k := by
  simp [audience]

variable [DecidableEq ι]

inductive Deliver : Net ι σ μ → Net ι σ μ → Prop
  | intro (n : Net ι σ μ) (pre suf : List (ι × μ)) (k : ι) (m : μ)
      (h : n.flight = pre ++ (k, m) :: suf) :
      Deliver n
        ⟨Function.update n.node k (P.recv k m (n.node k)).1,
          pre ++ suf ++ post (audience hears S k) (P.recv k m (n.node k)).2⟩

def tickAll (n : Net ι σ μ) : Net ι σ μ where
  node k := if k ∈ S then (P.tick k (n.node k)).1 else n.node k
  flight := n.flight ++
    S.flatMap fun k => post (audience hears S k) (P.tick k (n.node k)).2

-- every node ticks once, then everything in flight is delivered, answers included, in some order
def Round (n n' : Net ι σ μ) : Prop :=
  Relation.ReflTransGen (Deliver P hears S) (tickAll P hears S n) n' ∧ n'.flight = []

inductive Rounds : Nat → Net ι σ μ → Net ι σ μ → Prop
  | zero (n : Net ι σ μ) : Rounds 0 n n
  | succ {t : Nat} {a b c : Net ι σ μ} : Rounds t a b → Round P hears S b c → Rounds (t + 1) a c

def Local (I : ι → σ → Prop) (Q : ι → μ → Prop) (n : Net ι σ μ) : Prop :=
  (∀ k ∈ S, I k (n.node k)) ∧ ∀ j m, (j, m) ∈ n.flight → j ∈ S ∧ Q j m

variable {P hears S}

theorem tickAll_node {n : Net ι σ μ} {k : ι} (hk : k ∈ S) :
    (tickAll P hears S n).node k = (P.tick k (n.node k)).1 := if_pos hk

theorem mem_tickAll_flight {n : Net ι σ μ} (hn : n.flight = []) {j : ι} {m : μ} :
    (j, m) ∈ (tickAll P hears S n).flight ↔
      ∃ k ∈ S, (j ∈ S ∧ hears j k) ∧ m ∈ (P.tick k (n.node k)).2 := by
  simp only [tickAll, hn, List.nil_append, List.mem_flatMap, mem_post, mem_audience]

theorem Round.flight {n n' : Net ι σ μ} (h : Round P hears S n n') : n'.flight = [] := h.2

theorem Round.induct {J : Net ι σ μ → Prop} {n n' : Net ι σ μ} (h : Round P hears S n n')
    (h0 : J (tickAll P hears S n)) (hs : ∀ a b, J a → Deliver P hears S a b → J b) : J n' := by
  obtain ⟨hrun, -⟩ := h
  induction hrun with
  | refl => exact h0
  | tail _ hab ih => exact hs _ _ ih hab

theorem rounds_one {a b : Net ι σ μ} : Rounds P hears S 1 a b ↔ Round P hears S a b := by
  constructor
  · rintro (_ | ⟨hzero, hr⟩)
    cases hzero with
    | zero => exact hr
  · exact fun hr => .succ (.zero a) hr

theorem Rounds.trans {s t : Nat} {a b c : Net ι σ μ} (hab : Rounds P hears S s a b)
    (hbc : Rounds P hears S t b c) : Rounds P hears S (s + t) a c := by
  induction hbc with
  | zero => exact hab
  | succ _ hr ih => exact (ih hab).succ hr

theorem Rounds.split {s t : Nat} {a c : Net ι σ μ} (h : Rounds P hears S (s + t) a c) :
    ∃ b, Rounds P hears S s a b ∧ Rounds P hears S t b c := by
  induction t generalizing c with
  | zero => exact ⟨c, h, .zero c⟩
  | succ t ih =>
    cases h with
    | succ hab hr =>
      obtain ⟨b, hb, hb'⟩ := ih hab
      exact ⟨b, hb, hb'.succ hr⟩

theorem Rounds.flight {t : Nat} {a b : Net ι σ μ} (h : Rounds P hears S t a b)
    (ha : a.flight = []) : b.flight = [] := by
  cases h with
  | zero => exact ha
  | succ _ hr => exact hr.2

theorem Rounds.induct {J : Net ι σ μ → Prop} {t : Nat} {a b : Net ι σ μ}
    (h : Rounds P hears S t a b) (h0 : J a)
    (hs : ∀ x y, J x → Round P hears S x y → J y) : J b := by
  induction h with
  | zero => exact h0
  | succ _ hr ih => exact hs _ _ (ih h0) hr

theorem Round.eq_tickAll {n n' : Net ι σ μ} (h : Round P hears S n n')
    (hq : (tickAll P hears S n).flight = []) : n' = tickAll P hears S n := by
  obtain ⟨hrun, -⟩ := h
  rcases Relation.ReflTransGen.cases_head hrun with heq | ⟨b, hd, -⟩
  · exact heq.symm
  · cases hd with
    | intro pre suf k m hf => simp [hq] at hf

section Deliveries

variable {I : ι → σ → Prop} {Q : ι → μ → Prop}

structure Closed (P : Protocol ι σ μ) (hears : ι → ι → Bool) (S : List ι) (I : ι → σ → Prop)
    (Q : ι → μ → Prop) : Prop where
  recv : ∀ k ∈ S, ∀ m p, I k p → Q k m → I k (P.recv k m p).1
  answer : ∀ k ∈ S, ∀ m p, I k p → Q k m → ∀ m' ∈ (P.recv k m p).2, ∀ j ∈ S, hears j k → Q j m'

theorem Closed.deliver (hc : Closed P hears S I Q) {a b : Net ι σ μ} (ha : Local S I Q a)
    (hd : Deliver P hears S a b) : Local S I Q b := by
  cases hd with
  | intro pre suf k m hf =>
    obtain ⟨hnode, hflight⟩ := ha
    have hkm : k ∈ S ∧ Q k m := hflight k m (by simp [hf])
    have hk : I k (a.node k) := hnode k hkm.1
    constructor
    · intro j hj
      by_cases hjk : j = k
      · subst hjk; simpa using hc.recv j hj m _ hk hkm.2
      · simpa [Function.update_of_ne hjk] using hnode j hj
    · intro j m' hm'
      simp only [List.mem_append, mem_post, mem_audience] at hm'
      rcases hm' with (hp | hs) | ⟨⟨hj, hh⟩, hm'⟩
      · exact hflight j m' (by simp [hf, hp])
      · exact hflight j m' (by simp [hf, hs])
      · exact ⟨hj, hc.answer k hkm.1 m _ hk hkm.2 m' hm' j hj hh⟩

def Owed (G : σ → Prop) (W : μ → Prop) (f : ι) (n : Net ι σ μ) : Prop :=
  G (n.node f) ∨ ∃ m, (f, m) ∈ n.flight ∧ W m

theorem owed_deliver {G : σ → Prop} {W : μ → Prop} {f : ι}
    (hG : ∀ m p, I f p → Q f m → G p → G (P.recv f m p).1)
    (hW : ∀ m p, I f p → Q f m → W m → G (P.recv f m p).1)
    {a b : Net ι σ μ} (ha : Local S I Q a) (ho : Owed G W f a)
    (hd : Deliver P hears S a b) : Owed G W f b := by
  cases hd with
  | intro pre suf k m hf =>
    have hkm : k ∈ S ∧ Q k m := ha.2 k m (by simp [hf])
    have hk : I k (a.node k) := ha.1 k hkm.1
    rcases ho with hg | ⟨m', hm', hw⟩
    · refine Or.inl ?_
      by_cases hfk : f = k
      · subst hfk; simpa using hG m _ hk hkm.2 hg
      · simpa [Function.update_of_ne hfk] using hg
    · by_cases heq : (f, m') = (k, m)
      · obtain ⟨rfl, rfl⟩ := Prod.mk.inj heq
        exact Or.inl (by simpa using hW m' _ hk hkm.2 hw)
      · refine Or.inr ⟨m', ?_, hw⟩
        rw [hf, List.mem_append, List.mem_cons] at hm'
        simp only [List.mem_append]
        tauto

theorem chain_deliver {G D : σ → Prop} {W : μ → Prop} {d f : ι}
    (haud : f ∈ audience hears S d)
    (hG : ∀ m p, I f p → Q f m → G p → G (P.recv f m p).1)
    (hW : ∀ m p, I f p → Q f m → W m → G (P.recv f m p).1)
    (hD : ∀ m p, I d p → Q d m → ¬ D p → D (P.recv d m p).1 → ∃ m' ∈ (P.recv d m p).2, W m')
    {a b : Net ι σ μ} (ha : Local S I Q a) (ho : D (a.node d) → Owed G W f a)
    (hd : Deliver P hears S a b) : D (b.node d) → Owed G W f b := by
  intro hb
  by_cases hDa : D (a.node d)
  · exact owed_deliver hG hW ha (ho hDa) hd
  · cases hd with
    | intro pre suf k m hf =>
      have hkm : k ∈ S ∧ Q k m := ha.2 k m (by simp [hf])
      by_cases hdk : d = k
      · subst hdk
        obtain ⟨m', hm', hw⟩ := hD m _ (ha.1 d hkm.1) hkm.2 hDa (by simpa using hb)
        refine Or.inr ⟨m', ?_, hw⟩
        simp only [List.mem_append, mem_post]
        exact Or.inr ⟨haud, hm'⟩
      · exact absurd (by simpa [Function.update_of_ne hdk] using hb) hDa

structure Phase (P : Protocol ι σ μ) (hears : ι → ι → Bool) (S : List ι) (I : ι → σ → Prop)
    (Q : ι → μ → Prop) (n : Net ι σ μ) : Prop extends Closed P hears S I Q where
  flight : n.flight = []
  start : ∀ k ∈ S, I k (P.tick k (n.node k)).1
  emit : ∀ k ∈ S, ∀ m ∈ (P.tick k (n.node k)).2, ∀ j ∈ S, hears j k → Q j m

variable {n n' : Net ι σ μ}

theorem Phase.local_tickAll (hp : Phase P hears S I Q n) : Local S I Q (tickAll P hears S n) := by
  constructor
  · intro k hk
    rw [tickAll_node hk]; exact hp.start k hk
  · intro j m hm
    obtain ⟨k, hk, ⟨hj, hh⟩, hm⟩ := (mem_tickAll_flight hp.flight).mp hm
    exact ⟨hj, hp.emit k hk m hm j hj hh⟩

theorem Phase.holds (hp : Phase P hears S I Q n) (hr : Round P hears S n n') :
    ∀ k ∈ S, I k (n'.node k) :=
  (hr.induct hp.local_tickAll fun _ _ ha hd => hp.toClosed.deliver ha hd).1

theorem Phase.owed (hp : Phase P hears S I Q n) (hr : Round P hears S n n') {G : σ → Prop}
    {W : μ → Prop} {k f : ι} (hk : k ∈ S) (hf : f ∈ S) (hh : hears f k)
    (hsent : ∃ m ∈ (P.tick k (n.node k)).2, W m)
    (hG : ∀ m p, I f p → Q f m → G p → G (P.recv f m p).1)
    (hW : ∀ m p, I f p → Q f m → W m → G (P.recv f m p).1) : G (n'.node f) := by
  obtain ⟨m, hm, hw⟩ := hsent
  have h0 : Owed G W f (tickAll P hears S n) :=
    Or.inr ⟨m, (mem_tickAll_flight hp.flight).mpr ⟨k, hk, ⟨hf, hh⟩, hm⟩, hw⟩
  have hend : Local S I Q n' ∧ Owed G W f n' :=
    hr.induct (J := fun x => Local S I Q x ∧ Owed G W f x) ⟨hp.local_tickAll, h0⟩
      fun a b ha hd => ⟨hp.toClosed.deliver ha.1 hd, owed_deliver hG hW ha.1 ha.2 hd⟩
  rcases hend.2 with hg | ⟨m, hm, -⟩
  · exact hg
  · simp [hr.flight] at hm

theorem Phase.chain (hp : Phase P hears S I Q n) (hr : Round P hears S n n') {G D : σ → Prop}
    {W : μ → Prop} {d f : ι} (hdS : d ∈ S) (hf : f ∈ S) (hh : hears f d)
    (h0 : ¬ D (P.tick d (n.node d)).1)
    (hG : ∀ m p, I f p → Q f m → G p → G (P.recv f m p).1)
    (hW : ∀ m p, I f p → Q f m → W m → G (P.recv f m p).1)
    (hD : ∀ m p, I d p → Q d m → ¬ D p → D (P.recv d m p).1 → ∃ m' ∈ (P.recv d m p).2, W m')
    (hend : D (n'.node d)) : G (n'.node f) := by
  have hstart : D ((tickAll P hears S n).node d) → Owed G W f (tickAll P hears S n) := by
    intro hd
    rw [tickAll_node hdS] at hd
    exact absurd hd h0
  have hall : Local S I Q n' ∧ (D (n'.node d) → Owed G W f n') :=
    hr.induct (J := fun x => Local S I Q x ∧ (D (x.node d) → Owed G W f x))
      ⟨hp.local_tickAll, hstart⟩
      fun a b ha hd => ⟨hp.toClosed.deliver ha.1 hd,
        chain_deliver (mem_audience hears S |>.mpr ⟨hf, hh⟩) hG hW hD ha.1 ha.2 hd⟩
  rcases hall.2 hend with hg | ⟨m, hm, -⟩
  · exact hg
  · simp [hr.flight] at hm

end Deliveries

section Termination

def weight (w : ι × μ → Nat) (l : List (ι × μ)) : Nat := (l.map w).sum

omit [DecidableEq ι] in
theorem weight_lt {w w' : ι × μ → Nat} {pre suf new : List (ι × μ)} {p : ι × μ}
    (hle : ∀ x, w' x ≤ w x) (hnew : weight w' new < w p) :
    weight w' (pre ++ suf ++ new) < weight w (pre ++ p :: suf) := by
  have hpre : weight w' pre ≤ weight w pre := List.sum_le_sum fun x _ => hle x
  have hsuf : weight w' suf ≤ weight w suf := List.sum_le_sum fun x _ => hle x
  simp only [weight, List.map_append, List.map_cons, List.sum_append, List.sum_cons] at *
  omega

omit [DecidableEq ι] in
theorem weight_post_le {w : ι × μ → Nat} {dests : List ι} {ms : List μ} {c : Nat}
    (h : ∀ j ∈ dests, ∀ m ∈ ms, w (j, m) ≤ c) :
    weight w (post dests ms) ≤ ms.length * (dests.length * c) := by
  induction ms with
  | nil => simp [weight, post]
  | cons m ms ih =>
    have hhead : ((dests.map fun j => (j, m)).map w).sum ≤ dests.length * c := by
      have := List.sum_le_card_nsmul ((dests.map fun j => (j, m)).map w) c (by
        intro x hx
        obtain ⟨y, hy, rfl⟩ := List.mem_map.mp hx
        obtain ⟨j, hj, rfl⟩ := List.mem_map.mp hy
        exact h j hj m (by simp))
      simpa using this
    have htail := ih fun j hj m' hm' => h j hj m' (by simp [hm'])
    simp only [weight, post, List.flatMap_cons, List.map_append, List.sum_append,
      List.length_cons] at *
    calc _ ≤ dests.length * c + ms.length * (dests.length * c) := Nat.add_le_add hhead htail
      _ = (ms.length + 1) * (dests.length * c) := by ring

theorem acc_of_rank {β : Type*} [Preorder β] [WellFoundedLT β] {Inv : Net ι σ μ → Prop}
    (rank : Net ι σ μ → β)
    (h : ∀ a b, Inv a → Deliver P hears S a b → Inv b ∧ rank b < rank a)
    (n : Net ι σ μ) (hn : Inv n) : Acc (fun b a => Deliver P hears S a b) n := by
  induction hr : rank n using WellFoundedLT.induction generalizing n with
  | ind r ih =>
    subst hr
    exact Acc.intro n fun b hb => ih _ (h n b hn hb).2 b (h n b hn hb).1 rfl

theorem no_infinite_run {n : Net ι σ μ} (hacc : Acc (fun b a => Deliver P hears S a b) n) :
    ¬ ∃ run : Nat → Net ι σ μ, run 0 = n ∧ ∀ t, Deliver P hears S (run t) (run (t + 1)) := by
  induction hacc with
  | intro n _ ih =>
    rintro ⟨run, rfl, hrun⟩
    exact ih (run 1) (hrun 0) ⟨fun t => run (t + 1), rfl, fun t => hrun (t + 1)⟩

theorem exists_round_of_acc (n : Net ι σ μ)
    (hacc : Acc (fun b a => Deliver P hears S a b) (tickAll P hears S n)) :
    ∃ n', Round P hears S n n' := by
  suffices hs : ∀ a, Acc (fun b a => Deliver P hears S a b) a →
      ∃ n', Relation.ReflTransGen (Deliver P hears S) a n' ∧ n'.flight = [] from hs _ hacc
  intro a ha
  induction ha with
  | intro a _ ih =>
    cases hf : a.flight with
    | nil => exact ⟨a, .refl, hf⟩
    | cons p rest =>
      have hd : Deliver P hears S a _ := .intro a [] rest p.1 p.2 (by simp [hf])
      obtain ⟨n', hrun, hn'⟩ := ih _ hd
      exact ⟨n', .head hd hrun, hn'⟩

end Termination

section Growing

variable (P hears)

structure Joined (enters : ι → σ → Prop) (J : List ι) (n n' : Net ι σ μ) : Prop where
  enters : ∀ k ∈ J, enters k (n'.node k)
  others : ∀ k, k ∉ J → n'.node k = n.node k
  flight : n'.flight = n.flight

inductive Growing (enters : ι → σ → Prop) (C : List ι → List ι → Net ι σ μ → Prop) (S : List ι)
    (a : Net ι σ μ) : List ι → Net ι σ μ → Prop
  | start : Growing enters C S a S a
  | round {T J : List ι} {b c d : Net ι σ μ} : Growing enters C S a T b → Joined enters J b c →
      C T J c → Round P hears (T ++ J) c d → Growing enters C S a (T ++ J) d

variable {P hears} {enters : ι → σ → Prop} {C : List ι → List ι → Net ι σ μ → Prop}
  {S T : List ι} {a b c : Net ι σ μ}

omit [DecidableEq ι] in
theorem Joined.none (a : Net ι σ μ) : Joined enters [] a a := ⟨by simp, fun _ _ => rfl, rfl⟩

theorem Growing.rounds (h : Growing P hears enters C S a T b) {t : Nat}
    (hrounds : Rounds P hears T t b c) (hC : ∀ n, C T [] n) : Growing P hears enters C S a T c := by
  induction hrounds with
  | zero => exact h
  | succ _ hr ih =>
    have hnext := (ih h).round (.none _) (hC _) (by rwa [List.append_nil])
    rwa [List.append_nil] at hnext

end Growing

section Simulation

variable {σ' μ' : Type*} {P' : Protocol ι σ' μ'}

def Net.map (α : ι → σ → σ') (β : μ → μ') (n : Net ι σ μ) : Net ι σ' μ' where
  node k := α k (n.node k)
  flight := n.flight.map fun p => (p.1, β p.2)

omit [DecidableEq ι] in
theorem map_post (β : μ → μ') (dests : List ι) (ms : List μ) :
    (post dests ms).map (fun p => (p.1, β p.2)) = post dests (ms.map β) := by
  simp [post, List.map_flatMap, List.flatMap_map, Function.comp_def]

structure Simulates (P : Protocol ι σ μ) (P' : Protocol ι σ' μ') (S : List ι) (α : ι → σ → σ')
    (β : μ → μ') (I₀ I : ι → σ → Prop) (Q : ι → μ → Prop) : Prop where
  tick : ∀ k ∈ S, ∀ s, I₀ k s → α k (P.tick k s).1 = (P'.tick k (α k s)).1 ∧
    (P.tick k s).2.map β = (P'.tick k (α k s)).2
  recv : ∀ k ∈ S, ∀ m s, I k s → Q k m → α k (P.recv k m s).1 = (P'.recv k (β m) (α k s)).1 ∧
    (P.recv k m s).2.map β = (P'.recv k (β m) (α k s)).2

variable {α : ι → σ → σ'} {β : μ → μ'} {I₀ I : ι → σ → Prop} {Q : ι → μ → Prop}

theorem Simulates.tickAll (hs : Simulates P P' S α β I₀ I Q) {n : Net ι σ μ}
    (hn : ∀ k ∈ S, I₀ k (n.node k)) :
    (tickAll P hears S n).map α β = MessageNet.tickAll P' hears S (n.map α β) := by
  ext1
  · funext k
    by_cases hk : k ∈ S
    · simpa [Net.map, MessageNet.tickAll, hk] using (hs.tick k hk _ (hn k hk)).1
    · simp [Net.map, MessageNet.tickAll, hk]
  · simp only [Net.map, MessageNet.tickAll, List.map_append, List.map_flatMap, map_post]
    congr 1
    refine List.flatMap_congr fun k hk => ?_
    rw [(hs.tick k hk _ (hn k hk)).2]

theorem Simulates.deliver (hs : Simulates P P' S α β I₀ I Q) {a b : Net ι σ μ}
    (ha : Local S I Q a) (hd : Deliver P hears S a b) :
    Deliver P' hears S (a.map α β) (b.map α β) := by
  cases hd with
  | intro pre suf k m hf =>
    have hkm : k ∈ S ∧ Q k m := ha.2 k m (by simp [hf])
    obtain ⟨hnode, hsent⟩ := hs.recv k hkm.1 m _ (ha.1 k hkm.1) hkm.2
    have hd' : Deliver P' hears S (a.map α β) _ := .intro (a.map α β)
      (pre.map fun p => (p.1, β p.2)) (suf.map fun p => (p.1, β p.2)) k (β m)
      (by simp [Net.map, hf])
    convert hd' using 1
    ext1
    · funext j
      by_cases hjk : j = k
      · subst hjk; simpa [Net.map] using hnode
      · simp [Net.map, Function.update_of_ne hjk]
    · simp only [Net.map, List.map_append, map_post]
      rw [hsent]

theorem Simulates.round (hs : Simulates P P' S α β I₀ I Q) {n n' : Net ι σ μ}
    (hn : ∀ k ∈ S, I₀ k (n.node k)) (hp : Phase P hears S I Q n) (hr : Round P hears S n n') :
    Round P' hears S (n.map α β) (n'.map α β) := by
  obtain ⟨hrun, hflight⟩ := hr
  refine ⟨?_, by simp [Net.map, hflight]⟩
  rw [← hs.tickAll hn]
  have hall : Local S I Q n' ∧ Relation.ReflTransGen (Deliver P' hears S)
      ((MessageNet.tickAll P hears S n).map α β) (n'.map α β) := by
    clear hflight
    induction hrun with
    | refl => exact ⟨hp.local_tickAll, .refl⟩
    | tail _ hd ih => exact ⟨hp.toClosed.deliver ih.1 hd, ih.2.tail (hs.deliver ih.1 hd)⟩
  exact hall.2

theorem Simulates.rounds (hs : Simulates P P' S α β I₀ I Q)
    (hphase : ∀ n : Net ι σ μ, (∀ k ∈ S, I₀ k (n.node k)) → n.flight = [] →
      Phase P hears S I Q n)
    (hI : ∀ k ∈ S, ∀ s, I k s → I₀ k s) {t : Nat} {a b : Net ι σ μ}
    (h : Rounds P hears S t a b) (ha : ∀ k ∈ S, I₀ k (a.node k)) (hflight : a.flight = []) :
    Rounds P' hears S t (a.map α β) (b.map α β) ∧ ∀ k ∈ S, I₀ k (b.node k) := by
  induction h with
  | zero n => exact ⟨.zero _, ha⟩
  | succ hab hr ih =>
    obtain ⟨hrounds, hb⟩ := ih ha hflight
    have hp := hphase _ hb (hab.flight hflight)
    exact ⟨hrounds.succ (hs.round hb hp hr), fun k hk => hI k hk _ (hp.holds hr k hk)⟩

end Simulation

end MessageNet
