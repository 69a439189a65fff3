import Mathlib

namespace LossyNet

structure Machine (ι ε σ μ : Type*) where
  act : ι → ε → σ → σ × List μ
  recv : ι → μ → σ → σ × List μ

structure Cloud (ι σ μ : Type*) where
  node : ι → σ
  flight : List μ

variable {ι ε σ μ : Type*} [DecidableEq ι] (M : Machine ι ε σ μ)

def acted (i : ι) (e : ε) (n : Cloud ι σ μ) : Cloud ι σ μ where
  node := Function.update n.node i (M.act i e (n.node i)).1
  flight := n.flight ++ (M.act i e (n.node i)).2

def received (i : ι) (m : μ) (n : Cloud ι σ μ) : Cloud ι σ μ where
  node := Function.update n.node i (M.recv i m (n.node i)).1
  flight := n.flight ++ (M.recv i m (n.node i)).2

-- A received message stays in flight until it is lost, so it may be received again and later.
inductive Move (live : ι → Prop) : Cloud ι σ μ → Cloud ι σ μ → Prop
  | act (n : Cloud ι σ μ) (i : ι) (e : ε) (hi : live i) : Move live n (acted M i e n)
  | recv (n : Cloud ι σ μ) (i : ι) (m : μ) (hi : live i) (hm : m ∈ n.flight) :
      Move live n (received M i m n)
  | lose (n : Cloud ι σ μ) (pre suf : List μ) (m : μ) (h : n.flight = pre ++ m :: suf) :
      Move live n ⟨n.node, pre ++ suf⟩

def Reach (live : ι → Prop) : Cloud ι σ μ → Cloud ι σ μ → Prop :=
  Relation.ReflTransGen (Move M live)

def Local (cards : ι → Prop) (I : ι → σ → Prop) (Q : μ → Prop) (n : Cloud ι σ μ) : Prop :=
  (∀ i, cards i → I i (n.node i)) ∧ ∀ m ∈ n.flight, Q m

structure Closed (live : ι → Prop) (I : ι → σ → Prop) (Q : μ → Prop) : Prop where
  act : ∀ i e s, live i → I i s → I i (M.act i e s).1 ∧ ∀ m ∈ (M.act i e s).2, Q m
  recv : ∀ i m s, live i → I i s → Q m →
    I i (M.recv i m s).1 ∧ ∀ m' ∈ (M.recv i m s).2, Q m'

variable {M} {live cards : ι → Prop} {I : ι → σ → Prop} {Q : μ → Prop}

theorem Local.update {n : Cloud ι σ μ} (hn : Local cards I Q n) {i : ι} {s : σ} {ms : List μ}
    (hs : I i s) (hms : ∀ m ∈ ms, Q m) :
    Local cards I Q ⟨Function.update n.node i s, n.flight ++ ms⟩ := by
  constructor
  · intro j hj
    by_cases hji : j = i
    · subst hji; simpa using hs
    · simpa [Function.update_of_ne hji] using hn.1 j hj
  · intro m hm
    rcases List.mem_append.mp hm with hm | hm
    · exact hn.2 m hm
    · exact hms m hm

theorem Closed.move (hc : Closed M live I Q) (hsub : ∀ i, live i → cards i)
    {n n' : Cloud ι σ μ} (hn : Local cards I Q n) (hmove : Move M live n n') :
    Local cards I Q n' := by
  cases hmove with
  | act i e hi =>
    obtain ⟨hs, hms⟩ := hc.act i e _ hi (hn.1 i (hsub i hi))
    exact hn.update hs hms
  | recv i m hi hm =>
    obtain ⟨hs, hms⟩ := hc.recv i m _ hi (hn.1 i (hsub i hi)) (hn.2 m hm)
    exact hn.update hs hms
  | lose pre suf m h =>
    refine ⟨hn.1, fun m' hm' => hn.2 m' ?_⟩
    rw [h]
    rcases List.mem_append.mp hm' with hm' | hm'
    · exact List.mem_append_left _ hm'
    · exact List.mem_append_right _ (List.mem_cons_of_mem _ hm')

theorem Closed.reach (hc : Closed M live I Q) (hsub : ∀ i, live i → cards i)
    {n n' : Cloud ι σ μ} (hn : Local cards I Q n) (hreach : Reach M live n n') :
    Local cards I Q n' := by
  induction hreach with
  | refl => exact hn
  | tail _ hmove ih => exact hc.move hsub ih hmove

theorem Reach.mono {live' : ι → Prop} (hsub : ∀ i, live i → live' i) {n n' : Cloud ι σ μ}
    (h : Reach M live n n') : Reach M live' n n' := by
  refine Relation.ReflTransGen.mono (p := Move M live') ?_ _ _ h
  intro a b hab
  cases hab with
  | act i e hi => exact .act a i e (hsub i hi)
  | recv i m hi hm => exact .recv a i m (hsub i hi) hm
  | lose pre suf m h => exact .lose a pre suf m h

end LossyNet
