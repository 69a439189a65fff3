import Chassisd.Bpdu.Machine
import Chassisd.Epoll.Loop

namespace Chassisd

def Fits64 (x : Int) : Prop := -2 ^ 63 ≤ x ∧ x < 2 ^ 63

instance (x : Int) : Decidable (Fits64 x) := inferInstanceAs (Decidable (_ ∧ _))

-- Microseconds from the reading now until the deadline, start + 1 s + n * 200 ms.
def remaining (start : Timeval) (n : Nat) (now : Timeval) : Int :=
  (start.tvSec.toInt * 1000000 + start.tvUsec.toInt) + 1000000 + n * 200000 -
    (now.tvSec.toInt * 1000000 + now.tvUsec.toInt)

structure NoOverflow (start : Timeval) (n : Nat) (now : Timeval) : Prop where
  sec : Fits64 (start.tvSec.toInt + 1)
  usec : Fits64 (start.tvUsec.toInt + n * 200000)
  secDiff : Fits64 (start.tvSec.toInt + 1 - now.tvSec.toInt)
  usecDiff : Fits64 (start.tvUsec.toInt + n * 200000 - now.tvUsec.toInt)
  milliseconds : Fits64 ((start.tvSec.toInt + 1 - now.tvSec.toInt) * 1000)
  sum : Fits64 ((start.tvSec.toInt + 1 - now.tvSec.toInt) * 1000 +
    (start.tvUsec.toInt + n * 200000 - now.tvUsec.toInt).tdiv 1000)

structure TickExact (start : Timeval) (n : Nat) (turn : Turn) : Prop where
  due : remaining start n turn.now ≤ -1000 → turn.ran = true
  early : 0 ≤ remaining start n turn.now → turn.ran = false
  waits : turn.ran = false →
    0 ≤ turn.timeout.toInt ∧ turn.timeout.toInt ≤ -(-remaining start n turn.now / 1000)

-- The remaining time in whole milliseconds: rounded down where the microseconds of the deadline
-- are ahead of those of the clock, up where they are behind.
def remainingMs (start : Timeval) (n : Nat) (now : Timeval) : Int :=
  if now.tvUsec.toInt ≤ start.tvUsec.toInt + n * 200000 then remaining start n now / 1000
  else -(-remaining start n now / 1000)

def KeepsSign (start : Timeval) (n : Nat) (now : Timeval) : Prop :=
  0 ≤ remainingMs start n now ↔ remainingMs start n now % 2 ^ 32 < 2 ^ 31

theorem fits64_bmod {x : Int} (h : Fits64 x) : x.bmod (2 ^ 64) = x := by
  unfold Fits64 at h
  exact Int.bmod_eq_of_le (by norm_num; omega) (by norm_num; omega)

theorem tvSec_deadlineAfter (start : Timeval) (n : Nat) :
    (deadlineAfter start n).tvSec = start.tvSec + 1 := by
  induction n with
  | zero => rfl
  | succ n ih => rw [deadlineAfter, ih]

theorem tvUsec_deadlineAfter (start : Timeval) (n : Nat) :
    (deadlineAfter start n).tvUsec.toInt = (start.tvUsec.toInt + n * 200000).bmod (2 ^ 64) := by
  induction n with
  | zero => simp [deadlineAfter]
  | succ n ih =>
    have hinterval : defaultIntervalTime.toInt = 200000 := by decide
    rw [deadlineAfter, Int64.toInt_add, ih, hinterval, Int.bmod_add_bmod]
    congr 1
    push_cast
    ring

theorem remainingMs_eq (start : Timeval) (n : Nat) (now : Timeval) :
    remainingMs start n now = (start.tvSec.toInt + 1 - now.tvSec.toInt) * 1000 +
      (start.tvUsec.toInt + n * 200000 - now.tvUsec.toInt).tdiv 1000 := by
  unfold remainingMs remaining
  split_ifs with hahead
  · rw [Int.tdiv_eq_ediv_of_nonneg (by omega)]
    omega
  · rw [← Int.neg_neg (_ - now.tvUsec.toInt), Int.neg_tdiv, Int.tdiv_eq_ediv_of_nonneg (by omega)]
    omega

theorem toInt_epollLoopTimeDiff {start : Timeval} {n : Nat} {now : Timeval}
    (h : NoOverflow start n now) :
    (epollLoopTimeDiff (deadlineAfter start n) now).toInt =
      (remainingMs start n now).bmod (2 ^ 32) := by
  have husec : (deadlineAfter start n).tvUsec.toInt = start.tvUsec.toInt + n * 200000 := by
    rw [tvUsec_deadlineAfter, fits64_bmod h.usec]
  have hone : (1 : Int64).toInt = 1 := by decide
  have hthousand : (1000 : Int64).toInt = 1000 := by decide
  have hne : (1000 : Int64) ≠ -1 := by decide
  rw [remainingMs_eq, epollLoopTimeDiff, Int64.toInt_toInt32, Int64.toInt_add, Int64.toInt_mul,
    Int64.toInt_sub, tvSec_deadlineAfter, Int64.toInt_add, hone, hthousand, fits64_bmod h.sec,
    fits64_bmod h.secDiff, fits64_bmod h.milliseconds, Int64.toInt_div_of_ne_right _ _ hne,
    hthousand, Int64.toInt_sub, husec, fits64_bmod h.usecDiff, fits64_bmod h.sum]

section Sign

variable {start : Timeval} {n : Nat} {now : Timeval}

theorem remainingMs_neg (h : remaining start n now ≤ -1000) : remainingMs start n now < 0 := by
  unfold remainingMs
  split_ifs <;> omega

theorem remainingMs_nonneg (h : 0 ≤ remaining start n now) : 0 ≤ remainingMs start n now := by
  unfold remainingMs
  split_ifs <;> omega

theorem remainingMs_le_ceil : remainingMs start n now ≤ -(-remaining start n now / 1000) := by
  unfold remainingMs
  split_ifs <;> omega

theorem bmod32_neg_iff (x : Int) : x.bmod (2 ^ 32) < 0 ↔ ¬x % 2 ^ 32 < 2 ^ 31 := by
  have hlow := Int.emod_nonneg x (show (2 ^ 32 : Int) ≠ 0 by decide)
  have hhigh := Int.emod_lt_of_pos x (show (0 : Int) < 2 ^ 32 by decide)
  rw [Int.bmod_def]
  push_cast
  split_ifs <;> omega

theorem bmod32_le {x : Int} (h : 0 ≤ x) : x.bmod (2 ^ 32) ≤ x := by
  rw [Int.bmod_def]
  push_cast
  split_ifs <;> omega

theorem keepsSign_of_near (hlow : -2 ^ 31 * 1000 ≤ remaining start n now)
    (hhigh : remaining start n now ≤ (2 ^ 31 - 1) * 1000) : KeepsSign start n now := by
  unfold KeepsSign remainingMs
  split_ifs <;> omega

theorem turnAt_cases (h : NoOverflow start n now) :
    (¬remainingMs start n now % 2 ^ 32 < 2 ^ 31 ∧
        turnAt (deadlineAfter start n) now = ⟨now, true, 0⟩) ∨
      (remainingMs start n now % 2 ^ 32 < 2 ^ 31 ∧ ∃ timeout : Int32,
        turnAt (deadlineAfter start n) now = ⟨now, false, timeout⟩ ∧
          timeout.toInt = (remainingMs start n now).bmod (2 ^ 32)) := by
  have hdiff := toInt_epollLoopTimeDiff h
  have hsign := bmod32_neg_iff (remainingMs start n now)
  rw [← hdiff] at hsign
  have hneg : epollLoopTimeDiff (deadlineAfter start n) now < 0 ↔
      ¬remainingMs start n now % 2 ^ 32 < 2 ^ 31 := by
    rw [← hsign, Int32.lt_iff_toInt_lt]
    rfl
  unfold turnAt
  split_ifs with hlate
  · exact .inl ⟨hneg.mp hlate, rfl⟩
  · exact .inr ⟨not_not.mp fun hkept => hlate (hneg.mpr hkept), _, rfl, hdiff⟩

theorem tickExact_ran {timeout : Int32} :
    TickExact start n ⟨now, true, timeout⟩ ↔ remaining start n now < 0 := by
  constructor
  · intro h
    by_contra hge
    exact absurd (h.early (not_lt.mp hge)) (by simp)
  · exact fun h => ⟨fun _ => rfl, fun h0 => absurd h (not_lt.mpr h0), fun hran => by simp at hran⟩

theorem tickExact_waits {timeout : Int32} :
    TickExact start n ⟨now, false, timeout⟩ ↔ -1000 < remaining start n now ∧
      0 ≤ timeout.toInt ∧ timeout.toInt ≤ -(-remaining start n now / 1000) := by
  constructor
  · intro h
    refine ⟨?_, h.waits rfl⟩
    by_contra hge
    exact absurd (h.due (not_lt.mp hge)) (by simp)
  · exact fun h => ⟨fun hdue => absurd h.1 (not_lt.mpr hdue), fun _ => rfl, fun _ => h.2⟩

theorem tickExact_turnAt_iff (h : NoOverflow start n now) :
    TickExact start n (turnAt (deadlineAfter start n) now) ↔ KeepsSign start n now := by
  have hsign := bmod32_neg_iff (remainingMs start n now)
  rcases turnAt_cases h with ⟨hlost, heq⟩ | ⟨hkept, timeout, heq, htimeout⟩
  · rw [heq, tickExact_ran]
    constructor
    · intro hlate
      refine ⟨fun h0 => ?_, fun hmod => absurd hmod hlost⟩
      have hzero : remainingMs start n now = 0 := by
        unfold remainingMs at h0 ⊢
        split_ifs at h0 ⊢ <;> omega
      rw [hzero]
      decide
    · intro hkeeps
      by_contra hearly
      exact hlost (hkeeps.mp (remainingMs_nonneg (not_lt.mp hearly)))
  · rw [heq, tickExact_waits, htimeout]
    constructor
    · rintro ⟨hearly, -⟩
      refine ⟨fun _ => hkept, fun _ => ?_⟩
      by_contra hneg
      unfold remainingMs at hkept hneg
      split_ifs at hkept hneg <;> omega
    · intro hkeeps
      have h0 : 0 ≤ remainingMs start n now := hkeeps.mpr hkept
      refine ⟨?_, ?_, (bmod32_le h0).trans remainingMs_le_ceil⟩
      · by_contra hdue
        exact absurd (remainingMs_neg (not_lt.mp hdue)) (not_lt.mpr h0)
      · by_contra hneg
        exact hsign.mp (not_le.mp hneg) hkept

end Sign

section Claim

variable {σ ε : Type*} (step : ε → σ → σ) (oneSecond : ε)

theorem tick_exact_iff (start : Timeval) (daemon : σ) (rounds : List (Round ε))
    {pre post : List Turn} {turn : Turn}
    (h : (epollLoopMainLoop step oneSecond start daemon rounds).1.turns = pre ++ turn :: post)
    (hfits : NoOverflow start (ticksRun pre) turn.now) :
    TickExact start (ticksRun pre) turn ↔ KeepsSign start (ticksRun pre) turn.now := by
  have hturn := (scheduled_mainLoop step oneSecond start daemon rounds).turns pre turn post h
  have hiff := tickExact_turnAt_iff hfits
  rwa [← hturn] at hiff

end Claim

theorem tick_runs_when_due :
    TickExact ⟨100, 250000⟩ 0 ⟨⟨101, 500000⟩, true, 0⟩ := by
  refine (tick_exact_iff step .tick ⟨100, 250000⟩ (startUp 33 .fabricCard .enabled (.replicate 6 0))
    [⟨⟨101, 500000⟩, some []⟩]
    (show _ = [] ++ ⟨⟨101, 500000⟩, true, 0⟩ :: [] from rfl) ?_).mpr
    (keepsSign_of_near (by decide) (by decide))
  exact ⟨by decide, by decide, by decide, by decide, by decide, by decide⟩

theorem clock_set_back_ticks_early :
    (epollLoopMainLoop step .tick ⟨3000000, 0⟩ (startUp 33 .fabricCard .enabled (.replicate 6 0))
        [⟨⟨0, 0⟩, some []⟩]).1.turns = [⟨⟨0, 0⟩, true, 0⟩] ∧
      NoOverflow ⟨3000000, 0⟩ 0 ⟨0, 0⟩ ∧ remaining ⟨3000000, 0⟩ 0 ⟨0, 0⟩ = 3000001000000 ∧
      ¬TickExact ⟨3000000, 0⟩ 0 ⟨⟨0, 0⟩, true, 0⟩ := by
  refine ⟨rfl, ?_, by decide, fun h => absurd (h.early (by decide)) (by decide)⟩
  exact ⟨by decide, by decide, by decide, by decide, by decide, by decide⟩

end Chassisd
