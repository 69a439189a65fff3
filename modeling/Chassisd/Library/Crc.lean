import Mathlib

namespace Crc

variable {w : Nat}

section Register

variable (poly : BitVec w)

def clock (s : BitVec w) : BitVec w := s >>> 1 ^^^ if s.getLsbD 0 then poly else 0#w

def bit (b : Bool) : BitVec w := if b then 1#w else 0#w

def feed (s : BitVec w) (b : Bool) : BitVec w := clock poly (s ^^^ bit b)

def crc (s : BitVec w) (bits : List Bool) : BitVec w := bits.foldl (feed poly) s

@[simp] theorem crc_nil (s : BitVec w) : crc poly s [] = s := rfl

@[simp] theorem crc_cons (s : BitVec w) (b : Bool) (bits : List Bool) :
    crc poly s (b :: bits) = crc poly (feed poly s b) bits := rfl

theorem crc_append (s : BitVec w) (xs ys : List Bool) :
    crc poly s (xs ++ ys) = crc poly (crc poly s xs) ys := List.foldl_append

end Register

section Linear

variable (poly : BitVec w)

theorem getLsbD_bit (b : Bool) (i : Nat) :
    (bit b : BitVec w).getLsbD i = (b && decide (i = 0) && decide (0 < w)) := by
  cases b <;> simp [bit, BitVec.getLsbD_one, Bool.and_comm]

theorem bit_xor (a b : Bool) : bit (a ^^ b) = (bit a ^^^ bit b : BitVec w) := by
  cases a <;> cases b <;> simp [bit]

@[simp] theorem clock_zero : clock poly 0#w = 0#w := by simp [clock]

theorem clock_xor (s t : BitVec w) : clock poly (s ^^^ t) = clock poly s ^^^ clock poly t := by
  ext i hi
  cases hs : s.getLsbD 0 <;> cases ht : t.getLsbD 0 <;> simp [clock, hs, ht] <;> grind

theorem feed_xor (s t : BitVec w) (a b : Bool) :
    feed poly (s ^^^ t) (a ^^ b) = feed poly s a ^^^ feed poly t b := by
  have hmix : s ^^^ t ^^^ (bit a ^^^ bit b) = (s ^^^ bit a) ^^^ (t ^^^ bit b) := by
    ext i hi; simp; grind
  rw [feed, bit_xor, hmix, clock_xor]
  rfl

theorem crc_xor (s t : BitVec w) {xs ys : List Bool} (h : xs.length = ys.length) :
    crc poly (s ^^^ t) (List.zipWith xor xs ys) = crc poly s xs ^^^ crc poly t ys := by
  induction xs generalizing s t ys with
  | nil =>
    obtain rfl := List.length_eq_zero_iff.mp h.symm
    rfl
  | cons x xs ih =>
    cases ys with
    | nil => exact absurd h (by simp)
    | cons y ys =>
      rw [List.zipWith_cons_cons, crc_cons, crc_cons, crc_cons, feed_xor]
      exact ih _ _ (by simpa using h)

theorem crc_quiet (s : BitVec w) {xs : List Bool} (h : ∀ x ∈ xs, x = false) :
    crc poly s xs = (clock poly)^[xs.length] s := by
  induction xs generalizing s with
  | nil => rfl
  | cons x xs ih =>
    obtain rfl := h x (by simp)
    rw [crc_cons, ih _ fun y hy => h y (by simp [hy])]
    simp [feed, bit]

end Linear

section Injective

variable {poly : BitVec w}

theorem width_pos (hpoly : poly.msb = true) : 0 < w := by
  rcases Nat.eq_zero_or_pos w with rfl | hw
  · simp [BitVec.msb_eq_getLsbD_last] at hpoly
  · exact hw

theorem msb_clock (hpoly : poly.msb = true) (s : BitVec w) :
    (clock poly s).msb = s.getLsbD 0 := by
  have hw := width_pos hpoly
  rw [BitVec.msb_eq_getLsbD_last] at hpoly ⊢
  have htop : (s >>> 1).getLsbD (w - 1) = false := by
    rw [BitVec.getLsbD_ushiftRight]
    exact BitVec.getLsbD_of_ge s _ (by omega)
  rw [clock, BitVec.getLsbD_xor, htop]
  cases s.getLsbD 0 <;> simp [hpoly]

theorem eq_zero_of_clock_eq_zero (hpoly : poly.msb = true) {s : BitVec w}
    (h : clock poly s = 0#w) : s = 0#w := by
  have hlsb : s.getLsbD 0 = false := by
    rw [← msb_clock hpoly, h]
    simp
  have hshift : s >>> 1 = 0#w := by simpa [clock, hlsb] using h
  apply BitVec.eq_of_getLsbD_eq
  intro i hi
  cases i with
  | zero => simpa using hlsb
  | succ i =>
    have hbit := congrArg (fun x => x.getLsbD i) hshift
    simpa [Nat.add_comm] using hbit

theorem eq_zero_of_clock_iterate_eq_zero (hpoly : poly.msb = true) {s : BitVec w} {n : Nat}
    (h : (clock poly)^[n] s = 0#w) : s = 0#w := by
  induction n generalizing s with
  | zero => exact h
  | succ n ih => exact eq_zero_of_clock_eq_zero hpoly (ih h)

end Injective

section Burst

variable (poly : BitVec w)

def ofBits : List Bool → BitVec w
  | [] => 0#w
  | b :: bits => bit b ^^^ ofBits bits <<< 1

theorem getLsbD_ofBits (bits : List Bool) {i : Nat} (hi : i < w) :
    (ofBits bits : BitVec w).getLsbD i = bits.getD i false := by
  induction bits generalizing i with
  | nil => simp [ofBits]
  | cons b bits ih =>
    cases i with
    | zero => cases b <;> simp [ofBits, bit, hi]
    | succ i =>
      have htail := ih (Nat.lt_of_succ_lt hi)
      have hshift : (ofBits bits <<< 1 : BitVec w).getLsbD (i + 1) = bits.getD i false := by
        rw [BitVec.getLsbD_shiftLeft]
        simpa [hi] using htail
      rw [ofBits, BitVec.getLsbD_xor, getLsbD_bit, hshift]
      simp

theorem clock_shiftLeft {s : BitVec w} (h : s.msb = false) : clock poly (s <<< 1) = s := by
  rcases Nat.eq_zero_or_pos w with rfl | hw
  · exact Subsingleton.elim _ _
  · rw [BitVec.msb_eq_getLsbD_last] at h
    have hlsb : (s <<< 1).getLsbD 0 = false := by simp
    rw [clock, hlsb, if_neg Bool.false_ne_true, BitVec.xor_zero]
    apply BitVec.eq_of_getLsbD_eq
    intro i hi
    rw [BitVec.getLsbD_ushiftRight, BitVec.getLsbD_shiftLeft]
    rcases Nat.lt_or_ge i (w - 1) with hlt | hge
    · simp [show 1 + i < w by omega]
    · obtain rfl : i = w - 1 := by omega
      simp [show 1 + (w - 1) = w by omega, h]

theorem crc_burst (s : BitVec w) {bits : List Bool} (h : bits.length ≤ w) :
    crc poly s bits = (clock poly)^[bits.length] (s ^^^ ofBits bits) := by
  induction bits generalizing s with
  | nil => simp [ofBits]
  | cons b bits ih =>
    have hlt : bits.length < w := h
    have hmsb : (ofBits bits : BitVec w).msb = false := by
      rw [BitVec.msb_eq_getLsbD_last, getLsbD_ofBits bits (by omega)]
      exact List.getD_eq_default _ _ (by omega)
    rw [crc_cons, ih _ hlt.le, List.length_cons, Function.iterate_succ_apply, ofBits,
      ← BitVec.xor_assoc, clock_xor, clock_shiftLeft poly hmsb]
    rfl

theorem ofBits_ne_zero {bits : List Bool} (hlength : bits.length ≤ w) (h : true ∈ bits) :
    (ofBits bits : BitVec w) ≠ 0#w := by
  obtain ⟨i, hi, hbit⟩ := List.getElem_of_mem h
  intro hzero
  have := congrArg (fun x => x.getLsbD i) hzero
  simp [getLsbD_ofBits bits (hi.trans_le hlength), hi, hbit] at this

theorem crc_burst_ne_zero (hpoly : poly.msb = true) {pre bits post : List Bool}
    (hlength : bits.length ≤ w) (h : true ∈ bits) (hpre : ∀ x ∈ pre, x = false)
    (hpost : ∀ x ∈ post, x = false) : crc poly 0#w (pre ++ (bits ++ post)) ≠ 0#w := by
  have hstill : crc poly 0#w pre = 0#w := by
    rw [crc_quiet poly _ hpre]
    exact Function.iterate_fixed (clock_zero poly) _
  rw [crc_append, crc_append, hstill, crc_burst poly _ hlength, crc_quiet poly _ hpost,
    ← Function.iterate_add_apply, BitVec.zero_xor]
  exact fun hzero => ofBits_ne_zero hlength h (eq_zero_of_clock_iterate_eq_zero hpoly hzero)

end Burst

section Parity

variable (poly : BitVec w)

def parity (s : BitVec w) : ZMod 2 := ∑ i ∈ Finset.range w, ((s.getLsbD i).toNat : ZMod 2)

theorem toNat_xor (a b : Bool) : ((a ^^ b).toNat : ZMod 2) = a.toNat + b.toNat := by
  cases a <;> cases b <;> decide

theorem parity_xor (s t : BitVec w) : parity (s ^^^ t) = parity s + parity t := by
  simp only [parity, BitVec.getLsbD_xor, ← Finset.sum_add_distrib, ← toNat_xor]

theorem parity_bit (hw : 0 < w) (b : Bool) : parity (bit b : BitVec w) = b.toNat := by
  rw [parity, Finset.sum_eq_single_of_mem 0 (by simpa using hw)]
  · rw [getLsbD_bit]
    simp [hw]
  · intro i _ hi
    simp [getLsbD_bit, hi]

theorem parity_shift (s : BitVec w) : parity (s >>> 1) + (s.getLsbD 0).toNat = parity s := by
  have htop : s.getLsbD w = false := BitVec.getLsbD_of_ge s w le_rfl
  have hlast := Finset.sum_range_succ (fun i => ((s.getLsbD i).toNat : ZMod 2)) w
  rw [Finset.sum_range_succ', htop] at hlast
  simpa [parity, Nat.add_comm] using hlast

theorem parity_clock (hpoly : parity poly = 1) (s : BitVec w) :
    parity (clock poly s) = parity s := by
  rw [clock, parity_xor, ← parity_shift s]
  cases s.getLsbD 0
  · simp [parity]
  · simp [hpoly]

theorem parity_crc (hpoly : parity poly = 1) (s : BitVec w) (bits : List Bool) :
    parity (crc poly s bits) = parity s + bits.count true := by
  have hw : 0 < w := by
    rcases Nat.eq_zero_or_pos w with rfl | hw
    · simp [parity] at hpoly
    · exact hw
  induction bits generalizing s with
  | nil => simp
  | cons b bits ih =>
    rw [crc_cons, ih, feed, parity_clock poly hpoly, parity_xor, parity_bit hw, List.count_cons]
    rw [show (b == true) = b from beq_true b, add_assoc]
    cases b <;> simp [add_comm]

end Parity

section Detection

variable {poly : BitVec w} {xs ys : List Bool}

def Within (n : Nat) (bits : List Bool) : Prop :=
  ∃ k, ∀ i, bits[i]? = some true → k ≤ i ∧ i < k + n

theorem exists_burst {n : Nat} {bits : List Bool} (h : Within n bits) (htrue : true ∈ bits) :
    ∃ pre burst post, bits = pre ++ (burst ++ post) ∧ burst.length ≤ n ∧ true ∈ burst ∧
      (∀ x ∈ pre, x = false) ∧ ∀ x ∈ post, x = false := by
  obtain ⟨k, hk⟩ := h
  have hsplit : bits = bits.take k ++ ((bits.drop k).take n ++ (bits.drop k).drop n) := by
    rw [List.take_append_drop, List.take_append_drop]
  have hpre : ∀ x ∈ bits.take k, x = false := by
    intro x hx
    obtain ⟨i, hi, rfl⟩ := List.getElem_of_mem hx
    rw [List.length_take] at hi
    rw [List.getElem_take]
    by_contra hne
    have hin := hk i (by simpa [List.getElem?_eq_getElem (show i < bits.length by omega)] using hne)
    omega
  have hpost : ∀ x ∈ (bits.drop k).drop n, x = false := by
    intro x hx
    obtain ⟨i, hi, rfl⟩ := List.getElem_of_mem hx
    rw [List.length_drop, List.length_drop] at hi
    rw [List.getElem_drop, List.getElem_drop]
    by_contra hne
    have hin := hk (k + (n + i))
      (by simpa [List.getElem?_eq_getElem (show k + (n + i) < bits.length by omega)] using hne)
    omega
  refine ⟨_, _, _, hsplit, List.length_take_le n _, ?_, hpre, hpost⟩
  rw [hsplit, List.mem_append, List.mem_append] at htrue
  rcases htrue with hin | hin | hin
  · exact absurd (hpre true hin) (by simp)
  · exact hin
  · exact absurd (hpost true hin) (by simp)

theorem true_mem_zipWith (h : xs.length = ys.length) (hne : xs ≠ ys) :
    true ∈ List.zipWith xor xs ys := by
  induction xs generalizing ys with
  | nil => exact absurd (List.length_eq_zero_iff.mp h.symm).symm hne
  | cons x xs ih =>
    cases ys with
    | nil => exact absurd h (by simp)
    | cons y ys =>
      rw [List.zipWith_cons_cons, List.mem_cons]
      by_cases hxy : x = y
      · exact .inr (ih (by simpa using h) (by simpa [hxy] using hne))
      · exact .inl (by simpa using hxy)

theorem crc_ne_of_difference (s : BitVec w) (h : xs.length = ys.length)
    (hne : crc poly 0#w (List.zipWith xor xs ys) ≠ 0#w) : crc poly s xs ≠ crc poly s ys := by
  intro heq
  have hxor := crc_xor poly s s h
  rw [BitVec.xor_self, heq, BitVec.xor_self] at hxor
  exact hne hxor

theorem crc_ne_of_burst (hpoly : poly.msb = true) (s : BitVec w) (h : xs.length = ys.length)
    (hne : xs ≠ ys) (hburst : Within w (List.zipWith xor xs ys)) :
    crc poly s xs ≠ crc poly s ys := by
  obtain ⟨pre, burst, post, heq, hlength, htrue, hpre, hpost⟩ :=
    exists_burst hburst (true_mem_zipWith h hne)
  refine crc_ne_of_difference s h ?_
  rw [heq]
  exact crc_burst_ne_zero poly hpoly hlength htrue hpre hpost

theorem crc_ne_of_odd (hpoly : parity poly = 1) (s : BitVec w) (h : xs.length = ys.length)
    (hodd : Odd ((List.zipWith xor xs ys).count true)) : crc poly s xs ≠ crc poly s ys := by
  refine crc_ne_of_difference s h ?_
  intro hzero
  have hparity := parity_crc poly hpoly 0#w (List.zipWith xor xs ys)
  rw [hzero, ZMod.natCast_eq_one_iff_odd.mpr hodd] at hparity
  simp [parity] at hparity

end Detection

end Crc
