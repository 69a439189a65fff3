import Chassisd.Library.LossyNet

namespace LossyNet

variable {ι ε σ μ : Type*} [DecidableEq ι]

-- What a group of the nodes does in front of everybody, it can do on its own: its nodes react to
-- the messages of the group as R says, and nothing else reaches them.
structure Isolated (M : Machine ι ε σ μ) (live group : ι → Prop) (I : ι → σ → Prop)
    (Q mine : μ → Prop) (R : ι → σ → σ → Prop) : Prop where
  act : ∀ i e s t, live i → group i → I i s → R i s t →
    R i (M.act i e s).1 (M.act i e t).1 ∧ (M.act i e s).2 = (M.act i e t).2
  hear : ∀ i m s t, live i → group i → I i s → Q m → mine m → R i s t →
    R i (M.recv i m s).1 (M.recv i m t).1 ∧ (M.recv i m s).2 = (M.recv i m t).2
  ignore : ∀ i m s t, live i → group i → I i s → Q m → ¬mine m → R i s t →
    R i (M.recv i m s).1 t ∧ (M.recv i m s).2 = []
  actMine : ∀ i e s, live i → I i s → ∀ m ∈ (M.act i e s).2, mine m ↔ group i
  recvMine : ∀ i m s, live i → I i s → Q m → ∀ m' ∈ (M.recv i m s).2, mine m' ↔ group i

structure Follows (live group : ι → Prop) (mine : μ → Prop) [DecidablePred mine]
    (R : ι → σ → σ → Prop) (n alone : Cloud ι σ μ) : Prop where
  node : ∀ i, live i → group i → R i (n.node i) (alone.node i)
  flight : alone.flight = n.flight.filter mine

variable {M : Machine ι ε σ μ} {live group : ι → Prop} {I : ι → σ → Prop} {Q mine : μ → Prop}
variable [DecidablePred mine] {R : ι → σ → σ → Prop} {n alone : Cloud ι σ μ}

omit [DecidableEq ι] in
theorem Follows.mem_flight (h : Follows live group mine R n alone) {m : μ} :
    m ∈ alone.flight ↔ m ∈ n.flight ∧ mine m := by
  rw [h.flight, List.mem_filter, decide_eq_true_iff]

theorem Follows.both (h : Follows live group mine R n alone) {i : ι} {s t : σ}
    {ms : List μ} (hst : R i s t) (hms : ∀ m ∈ ms, mine m) :
    Follows live group mine R ⟨Function.update n.node i s, n.flight ++ ms⟩
      ⟨Function.update alone.node i t, alone.flight ++ ms⟩ where
  node j hj hg := by
    rcases eq_or_ne j i with rfl | hji
    · simpa using hst
    · simpa [Function.update_of_ne hji] using h.node j hj hg
  flight := by
    have hall : ms.filter mine = ms :=
      List.filter_eq_self.mpr fun m hm => decide_eq_true (hms m hm)
    rw [List.filter_append, hall, h.flight]

theorem Follows.left (h : Follows live group mine R n alone) {i : ι} {s : σ}
    {ms : List μ} (hs : group i → R i s (alone.node i)) (hms : ∀ m ∈ ms, ¬mine m) :
    Follows live group mine R ⟨Function.update n.node i s, n.flight ++ ms⟩ alone where
  node j hj hg := by
    rcases eq_or_ne j i with rfl | hji
    · simpa using hs hg
    · simpa [Function.update_of_ne hji] using h.node j hj hg
  flight := by
    have hnone : ms.filter mine = [] :=
      List.filter_eq_nil_iff.mpr fun m hm hmine => hms m hm (of_decide_eq_true hmine)
    rw [List.filter_append, hnone, List.append_nil, h.flight]

theorem Follows.lost (h : Follows live group mine R n alone) {pre suf : List μ} {m : μ}
    (hsplit : n.flight = pre ++ m :: suf) :
    ∃ alone', Reach M (fun i => live i ∧ group i) alone alone' ∧
      Follows live group mine R ⟨n.node, pre ++ suf⟩ alone' := by
  have hflight := h.flight
  rw [hsplit, List.filter_append] at hflight
  by_cases hmine : mine m
  · rw [List.filter_cons, if_pos (decide_eq_true hmine)] at hflight
    exact ⟨_, .single (.lose alone _ _ m hflight), h.node, (List.filter_append ..).symm⟩
  · rw [List.filter_cons, if_neg (fun hm => hmine (of_decide_eq_true hm)),
      ← List.filter_append] at hflight
    exact ⟨alone, .refl, h.node, hflight⟩

theorem Isolated.move (h : Isolated M live group I Q mine R) {n' : Cloud ι σ μ}
    (hn : Local live I Q n) (hf : Follows live group mine R n alone)
    (hmove : Move M live n n') :
    ∃ alone', Reach M (fun i => live i ∧ group i) alone alone' ∧
      Follows live group mine R n' alone' := by
  cases hmove with
  | act i e hi =>
    have hmine := h.actMine i e _ hi (hn.1 i hi)
    by_cases hg : group i
    · obtain ⟨hR, hout⟩ := h.act i e _ _ hi hg (hn.1 i hi) (hf.node i hi hg)
      refine ⟨acted M i e alone, .single (.act alone i e ⟨hi, hg⟩), ?_⟩
      rw [acted, acted, ← hout]
      exact hf.both hR fun m hm => (hmine m hm).mpr hg
    · exact ⟨alone, .refl, hf.left (fun hg' => absurd hg' hg)
        fun m hm hm' => hg ((hmine m hm).mp hm')⟩
  | recv i m hi hm =>
    have hsent := h.recvMine i m _ hi (hn.1 i hi) (hn.2 m hm)
    by_cases hg : group i
    · by_cases hmine : mine m
      · obtain ⟨hR, hout⟩ := h.hear i m _ _ hi hg (hn.1 i hi) (hn.2 m hm) hmine
          (hf.node i hi hg)
        refine ⟨received M i m alone,
          .single (.recv alone i m ⟨hi, hg⟩ (hf.mem_flight.mpr ⟨hm, hmine⟩)), ?_⟩
        rw [received, received, ← hout]
        exact hf.both hR fun m' hm' => (hsent m' hm').mpr hg
      · obtain ⟨hR, hout⟩ := h.ignore i m _ _ hi hg (hn.1 i hi) (hn.2 m hm) hmine
          (hf.node i hi hg)
        refine ⟨alone, .refl, hf.left (fun _ => hR) ?_⟩
        rw [hout]
        exact fun _ hm' => absurd hm' List.not_mem_nil
    · exact ⟨alone, .refl, hf.left (fun hg' => absurd hg' hg)
        fun m' hm' hmine => hg ((hsent m' hm').mp hmine)⟩
  | lose pre suf m hsplit => exact hf.lost hsplit

theorem Isolated.reach (h : Isolated M live group I Q mine R) (hc : Closed M live I Q)
    {n' : Cloud ι σ μ} (hn : Local live I Q n) (hf : Follows live group mine R n alone)
    (hreach : Reach M live n n') :
    ∃ alone', Reach M (fun i => live i ∧ group i) alone alone' ∧
      Follows live group mine R n' alone' := by
  induction hreach with
  | refl => exact ⟨alone, .refl, hf⟩
  | tail hprev hmove ih =>
    obtain ⟨mid, hmid, hfollows⟩ := ih
    obtain ⟨alone', hrest, hlast⟩ :=
      h.move (hc.reach (fun _ hi => hi) hn hprev) hfollows hmove
    exact ⟨alone', hmid.trans hrest, hlast⟩

end LossyNet
