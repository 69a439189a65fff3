import Mathlib

namespace Runs

variable {σ ε : Type*} (step : ε → σ → σ)

def run (s : σ) (es : List ε) : σ := es.foldl (fun s e => step e s) s

def Along (C : σ → ε → Prop) : σ → List ε → Prop
  | _, [] => True
  | s, e :: es => C s e ∧ Along C (step e s) es

@[simp] theorem run_nil (s : σ) : run step s [] = s := rfl

@[simp] theorem run_cons (s : σ) (e : ε) (es : List ε) :
    run step s (e :: es) = run step (step e s) es := rfl

theorem run_append (s : σ) (es fs : List ε) :
    run step s (es ++ fs) = run step (run step s es) fs := List.foldl_append

theorem run_concat (s : σ) (es : List ε) (e : ε) :
    run step s (es ++ [e]) = step e (run step s es) := by
  rw [run_append]; rfl

theorem along_append (C : σ → ε → Prop) (s : σ) (es fs : List ε) :
    Along step C s (es ++ fs) ↔ Along step C s es ∧ Along step C (run step s es) fs := by
  induction es generalizing s with
  | nil => simp [Along]
  | cons e es ih => simp [Along, ih, and_assoc]

-- A run that only remembers its events: conditions on it speak of whole histories.
def remember (e : ε) (history : List ε) : List ε := history ++ [e]

theorem run_remember (history es : List ε) : run remember history es = history ++ es := by
  induction es generalizing history with
  | nil => exact (List.append_nil history).symm
  | cons e es ih => rw [run_cons, ih, remember, List.append_assoc]; rfl

instance instDecidableAlong (C : σ → ε → Prop) [∀ s e, Decidable (C s e)] :
    ∀ s es, Decidable (Along step C s es)
  | _, [] => .isTrue trivial
  | s, e :: es =>
    have := instDecidableAlong C (step e s) es
    inferInstanceAs (Decidable (C s e ∧ Along step C (step e s) es))

variable {step} {I : σ → Prop} {C D : σ → ε → Prop}

theorem along_mono (h : ∀ s e, C s e → D s e) {s : σ} {es : List ε} (hC : Along step C s es) :
    Along step D s es := by
  induction es generalizing s with
  | nil => trivial
  | cons e es ih => exact ⟨h s e hC.1, ih hC.2⟩

theorem invariant (hstep : ∀ s e, I s → I (step e s)) {s : σ} (h0 : I s) (es : List ε) :
    I (run step s es) := by
  induction es generalizing s with
  | nil => exact h0
  | cons e es ih => exact ih (hstep s e h0)

theorem invariant_of_mem {es : List ε} (hstep : ∀ e ∈ es, ∀ s, I s → I (step e s)) {s : σ}
    (h0 : I s) : I (run step s es) := by
  induction es generalizing s with
  | nil => exact h0
  | cons e es ih =>
    exact ih (fun f hf => hstep f (List.mem_cons_of_mem e hf)) (hstep e List.mem_cons_self s h0)

theorem along_iff (hstep : ∀ s e, I s → C s e → I (step e s))
    (hiff : ∀ s e, I s → (D s e ↔ C s e)) {s : σ} {es : List ε} (h0 : I s) :
    Along step D s es ↔ Along step C s es := by
  induction es generalizing s with
  | nil => exact Iff.rfl
  | cons e es ih =>
    constructor
    · rintro ⟨hd, hrest⟩
      have hc := (hiff s e h0).mp hd
      exact ⟨hc, (ih (hstep s e h0 hc)).mp hrest⟩
    · rintro ⟨hc, hrest⟩
      exact ⟨(hiff s e h0).mpr hc, (ih (hstep s e h0 hc)).mpr hrest⟩

end Runs
