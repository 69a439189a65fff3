import Mathlib.Tactic.SplitIfs

namespace Retry

variable {σ τ : Type*} (body : Nat → σ → σ) (more : σ → Bool)

-- do s = body(r, s); while (++r < left + 1 && more(s)), started with r rounds done
def attempts : Nat → Nat → σ → σ
  | 0, r, s => body r s
  | left + 1, r, s =>
    if more (body r s) then attempts left (r + 1) (body r s) else body r s

variable {body more}

theorem established {I J : σ → Prop} (hbody : ∀ r s, I s → J (body r s))
    (hback : ∀ s, J s → I s) (left r : Nat) {s : σ} (h : I s) :
    J (attempts body more left r s) := by
  induction left generalizing r s with
  | zero => exact hbody r s h
  | succ left ih =>
    rw [attempts]
    split_ifs
    · exact ih (r + 1) (hback _ (hbody r s h))
    · exact hbody r s h

theorem invariant {I : σ → Prop} (hbody : ∀ r s, I s → I (body r s)) (left r : Nat) {s : σ}
    (h : I s) : I (attempts body more left r s) :=
  established hbody (fun _ hs => hs) left r h

theorem simulates {body' : Nat → τ → τ} {more' : τ → Bool} {I J : σ → τ → Prop}
    (hbody : ∀ r s t, I s t → J (body r s) (body' r t)) (hback : ∀ s t, J s t → I s t)
    (hmore : ∀ s t, J s t → more s = more' t) (left r : Nat) {s : σ} {t : τ} (h : I s t) :
    J (attempts body more left r s) (attempts body' more' left r t) := by
  induction left generalizing r s t with
  | zero => exact hbody r s t h
  | succ left ih =>
    have hround := hbody r s t h
    rw [attempts, attempts, ← hmore _ _ hround]
    split_ifs
    · exact ih (r + 1) (hback _ _ hround)
    · exact hround

variable (body more) (body' : Nat → τ → τ) (more' : τ → Bool)

-- Two loops go round together until, in one round, both are lost; neither recovers.
theorem together {R : σ → τ → Prop} {P : σ → Prop} {Q : τ → Prop}
    (hbody : ∀ r s t, R s t → R (body r s) (body' r t) ∨ (P (body r s) ∧ Q (body' r t)))
    (hmore : ∀ r s t, R s t → R (body r s) (body' r t) → more (body r s) = more' (body' r t))
    (hP : ∀ r s, P s → P (body r s)) (hQ : ∀ r t, Q t → Q (body' r t))
    (left r : Nat) {s : σ} {t : τ} (h : R s t) :
    R (attempts body more left r s) (attempts body' more' left r t) ∨
      (P (attempts body more left r s) ∧ Q (attempts body' more' left r t)) := by
  induction left generalizing r s t with
  | zero => exact hbody r s t h
  | succ left ih =>
    rw [attempts, attempts]
    rcases hbody r s t h with hkept | ⟨hlost, hlost'⟩
    · rw [← hmore r s t h hkept]
      split_ifs
      · exact ih (r + 1) hkept
      · exact .inl hkept
    · refine .inr ⟨?_, ?_⟩
      · split_ifs
        · exact invariant hP left (r + 1) hlost
        · exact hlost
      · split_ifs
        · exact invariant hQ left (r + 1) hlost'
        · exact hlost'

end Retry
