import Chassisd.Library.Runs
import Chassisd.Thermal.Manager

namespace Chassisd

def othersPlan (slot : Int) : List PowerAction :=
  (List.range numOfLc).map (linecardAction slot) ++
    [.shutdownFabriccard (neighbour slot), .resetFabriccardMac slot "a",
      .resetFabriccardMac slot "b", .resetFabriccardCpu slot "b"]

def ioErrorPlan (slot : Int) (others itself : Bool) : List PowerAction :=
  (if others then othersPlan slot else []) ++ if itself then [.shutdownFabriccard slot] else []

def streak (history : List FabricPoll) (tid : Nat) : Nat :=
  ((history.reverse.map fun p => p.outcome tid).takeWhile fun o => o = .failed).length

def reachesRetry (n : Nat) : Prop := (n : Int) = sdMgrIoerrRetryCount

def reachesThreshold (n : Nat) : Prop := sdMgrIoerrShutdownThreshold ≤ n * sdMgrUpdateInterval

-- the same test on the product of two ints
def wrapsToThreshold (n : Nat) : Prop :=
  sdMgrIoerrShutdownThreshold ≤ CString.toInt (n * sdMgrUpdateInterval)

instance : DecidablePred reachesRetry := fun n => inferInstanceAs (Decidable ((n : Int) = _))
instance : DecidablePred reachesThreshold := fun _ => inferInstanceAs (Decidable (_ ≤ _))
instance : DecidablePred wrapsToThreshold := fun _ => inferInstanceAs (Decidable (_ ≤ _))

structure EmergenciesAsDesigned (driver : Driver) (history : List FabricPoll) (p : FabricPoll) :
    Prop where
  counts : ∀ tid ∈ tids, ((pollData (history ++ [p])).entry tid).error = streak (history ++ [p]) tid
  actions : ∀ j, Carries (ioErrorPlan p.slot
      (decide (∃ tid ∈ tids, reachesRetry (streak (history ++ [p]) tid)))
      (decide (∃ tid ∈ tids, reachesThreshold (streak (history ++ [p]) tid)))) j
    (shutdownMgrHandleThermalIoError driver (pollData (history ++ [p])) j)

structure StreaksIntact (history : List FabricPoll) (p : FabricPoll) : Prop where
  unbroken : ∀ tid ∈ tids, p.outcome tid = .absent → streak history tid = 0
  bounded : ∀ tid ∈ tids, streak (history ++ [p]) tid < 2 ^ 31
  reaches : (∃ tid ∈ tids, reachesThreshold (streak (history ++ [p]) tid)) →
    ∃ tid ∈ tids, wrapsToThreshold (streak (history ++ [p]) tid)

section Actions

theorem countIoError_flags (d : ThermalData) (f : IoErrors) (tid : Nat) :
    ((countIoError d f tid).shutdownOthers = true ↔
      f.shutdownOthers = true ∨ (d.entry tid).error = sdMgrIoerrRetryCount) ∧
    ((countIoError d f tid).shutdownItself = true ↔ f.shutdownItself = true ∨
      sdMgrIoerrRetryCount < (d.entry tid).error ∧ sdMgrIoerrShutdownThreshold ≤
        CString.toInt ((d.entry tid).error * sdMgrUpdateInterval)) := by
  unfold countIoError
  generalize (d.entry tid).error = error
  dsimp only
  split_ifs with hzero hlow hretry hhigh
  · simp [hzero]
  · simp [hlow.ne, hlow.not_gt]
  · simp [hretry]
  · simp [hretry, hhigh, lt_of_le_of_ne (Int.not_lt.mp hlow) (Ne.symm hretry)]
  · simp [hretry, hhigh]

theorem countIoErrors_scan (d : ThermalData) (l : List Nat) (f : IoErrors) :
    ((l.foldl (countIoError d) f).shutdownOthers = true ↔
      f.shutdownOthers = true ∨ ∃ tid ∈ l, (d.entry tid).error = sdMgrIoerrRetryCount) ∧
    ((l.foldl (countIoError d) f).shutdownItself = true ↔
      f.shutdownItself = true ∨ ∃ tid ∈ l,
        sdMgrIoerrRetryCount < (d.entry tid).error ∧ sdMgrIoerrShutdownThreshold ≤
          CString.toInt ((d.entry tid).error * sdMgrUpdateInterval)) := by
  induction l generalizing f with
  | nil => simp
  | cons tid l ih =>
    have hstep := countIoError_flags d f tid
    have hrest := ih (countIoError d f tid)
    rw [hstep.1, hstep.2] at hrest
    simp only [List.foldl_cons, List.exists_mem_cons_iff, ← or_assoc]
    exact hrest

theorem shutdownOthers_eq (driver : Driver) {slot : Int} (h : 0 ≤ slot ∧ slot ≤ 3) (j : Journal) :
    shutdownOthers driver slot j = performAll driver (othersPlan slot) j := by
  have hline : ∀ j, (List.range numOfLc).foldl
      (fun j i => (shutdownMgrShutdownLinecard driver slot i j).1) j =
      performAll driver ((List.range numOfLc).map (linecardAction slot)) j := by
    intro j
    rw [performAll, List.foldl_map]
    refine List.foldl_ext _ _ j fun j i hi => ?_
    rw [shutdownLinecard_eq driver h (List.mem_range.mp hi)]
  have hslots : slot = 0 ∨ slot = 1 ∨ slot = 2 ∨ slot = 3 := by omega
  have hrange : List.range numOfFc = [0, 1] := rfl
  unfold shutdownOthers
  rw [hline, hrange, othersPlan, performAll, performAll, List.foldl_append]
  generalize List.foldl _ j _ = j
  rcases hslots with rfl | rfl | rfl | rfl
  all_goals
    simp [neighbour, fcSlotTarget, shutdownMgrShutdownFabriccard, shutdownMgrResetFabriccardMac,
      shutdownMgrResetFabriccardCpu]

theorem handleThermalIoError_eq (driver : Driver) {d : ThermalData}
    (h : 0 ≤ d.slot ∧ d.slot ≤ 3) (j : Journal) :
    shutdownMgrHandleThermalIoError driver d j = performAll driver (ioErrorPlan d.slot
      (countIoErrors d).shutdownOthers (countIoErrors d).shutdownItself) j := by
  unfold shutdownMgrHandleThermalIoError
  simp only [shutdownOthers_eq driver h, shutdownFabriccard_eq driver h]
  cases (countIoErrors d).shutdownOthers <;> cases (countIoErrors d).shutdownItself <;>
    simp [ioErrorPlan, performAll]

theorem onBoard_ioErrorPlan {slot : Int} {others itself : Bool} :
    ∀ a ∈ ioErrorPlan slot others itself, a.OnBoard := by
  have hothers : ∀ a ∈ othersPlan slot, a.OnBoard := by
    intro a ha
    rcases List.mem_append.mp ha with hline | hrest
    · obtain ⟨k, hk, rfl⟩ := List.mem_map.mp hline
      exact onBoard_linecardAction slot (List.mem_range.mp hk)
    · fin_cases hrest <;> trivial
  intro a ha
  rcases List.mem_append.mp ha with ha | ha
  · cases others with
    | true => exact hothers a ha
    | false => exact absurd ha List.not_mem_nil
  · cases itself with
    | true =>
      obtain rfl := List.mem_singleton.mp ha
      trivial
    | false => exact absurd ha List.not_mem_nil

theorem ioErrorPlan_inj {slot : Int} {a b a' b' : Bool} :
    ioErrorPlan slot a b = ioErrorPlan slot a' b' ↔ a = a' ∧ b = b' := by
  constructor
  · intro h
    have hlen := congrArg List.length h
    have hothers : (othersPlan slot).length = 12 := by simp [othersPlan]
    revert hlen
    cases a <;> cases b <;> cases a' <;> cases b' <;> simp [ioErrorPlan, hothers]
  · rintro ⟨rfl, rfl⟩
    rfl

end Actions

section Counting

variable {history : List FabricPoll} {p : FabricPoll} {tid : Nat}

theorem streak_concat (history : List FabricPoll) (p : FabricPoll) (tid : Nat) :
    streak (history ++ [p]) tid =
      if p.outcome tid = .failed then streak history tid + 1 else 0 := by
  simp only [streak, List.reverse_append, List.reverse_singleton, List.singleton_append,
    List.map_cons, List.takeWhile_cons, decide_eq_true_eq]
  split_ifs <;> rfl

theorem error_concat (h : tid ∈ tids) :
    ((pollData (history ++ [p])).entry tid).error =
      match p.outcome tid with
      | .success _ => 0
      | .failed => CString.toInt (((pollData history).entry tid).error + 1)
      | .absent => ((pollData history).entry tid).error := by
  rw [pollData_concat, FabricPoll.status, entry_getThermalStatus _ _ h, getThermal_eq h]
  unfold FabricPoll.outcome
  cases readOutcome (p.sensors tid) p.slot tid <;> rfl

theorem toInt_of_small {n : Nat} (h : n < 2 ^ 31) : CString.toInt n = n := by
  rw [CString.toInt, Int.bmod_eq_of_le] <;> omega

theorem toInt_of_large {n : Nat} (h : n = 2 ^ 31) : CString.toInt n ≠ n := by
  subst h
  decide

theorem reachesThreshold_of_wraps {n : Nat} (h : wrapsToThreshold n) : reachesThreshold n := by
  by_contra hlow
  have hnat : n * 3000 < 60000 := by
    have hint : ¬ (60000 : Int) ≤ n * 3000 := hlow
    omega
  have hwrap : CString.toInt ((n : Int) * 3000) = n * 3000 := by
    exact_mod_cast toInt_of_small (n := n * 3000) (by omega)
  have hint : (60000 : Int) ≤ CString.toInt (n * 3000) := h
  omega

theorem retry_lt_of_wraps {n : Nat} (h : wrapsToThreshold n) : sdMgrIoerrRetryCount < n := by
  have hint : (60000 : Int) ≤ n * 3000 := reachesThreshold_of_wraps h
  change (2 : Int) < n
  omega

def Counted (history : List FabricPoll) : Prop :=
  ∀ tid ∈ tids, ((pollData history).entry tid).error = streak history tid ∧
    streak history tid < 2 ^ 31

theorem counted_nil : Counted [] := by
  intro tid htid
  have hlt : tid < numOfThermal + 1 := Nat.lt_succ_of_le (mem_tids.mp htid).2
  refine ⟨?_, Nat.two_pow_pos 31⟩
  simp only [pollData, List.foldl_nil, ThermalData.entry, ThermalData.zero,
    Vector.getElem?_eq_getElem hlt, Vector.getElem_replicate, Option.getD_some]
  rfl

theorem count_iff (h : Counted history) (htid : tid ∈ tids) :
    ((pollData (history ++ [p])).entry tid).error = streak (history ++ [p]) tid ↔
      (p.outcome tid = .absent → streak history tid = 0) ∧
        streak (history ++ [p]) tid < 2 ^ 31 := by
  obtain ⟨herror, hbound⟩ := h tid htid
  rw [error_concat htid, streak_concat, herror]
  cases p.outcome tid with
  | success r => simp
  | absent => simp
  | failed =>
    simp only [if_true, reduceCtorEq, false_implies, true_and]
    constructor
    · intro hcount
      refine lt_of_le_of_ne hbound fun hfull => toInt_of_large hfull ?_
      exact_mod_cast hcount
    · intro hsmall
      exact_mod_cast toInt_of_small hsmall

theorem counts_iff (h : Counted history) :
    (∀ tid ∈ tids, ((pollData (history ++ [p])).entry tid).error = streak (history ++ [p]) tid) ↔
      (∀ tid ∈ tids, p.outcome tid = .absent → streak history tid = 0) ∧
        ∀ tid ∈ tids, streak (history ++ [p]) tid < 2 ^ 31 := by
  rw [← forall₂_and]
  exact forall₂_congr fun tid htid => count_iff h htid

theorem ioErrors_of_counts
    (h : ∀ tid ∈ tids, ((pollData history).entry tid).error = streak history tid) :
    countIoErrors (pollData history) =
      ⟨decide (∃ tid ∈ tids, reachesRetry (streak history tid)),
        decide (∃ tid ∈ tids, wrapsToThreshold (streak history tid))⟩ := by
  obtain ⟨hothers, hitself⟩ := countIoErrors_scan (pollData history) tids ⟨false, false⟩
  have hother : (countIoErrors (pollData history)).shutdownOthers =
      decide (∃ tid ∈ tids, reachesRetry (streak history tid)) := by
    rw [Bool.eq_iff_iff, decide_eq_true_iff]
    refine hothers.trans ((or_iff_right Bool.false_ne_true).trans ?_)
    exact exists_congr fun tid => and_congr_right fun htid => by rw [h tid htid]; rfl
  have hself : (countIoErrors (pollData history)).shutdownItself =
      decide (∃ tid ∈ tids, wrapsToThreshold (streak history tid)) := by
    rw [Bool.eq_iff_iff, decide_eq_true_iff]
    refine hitself.trans ((or_iff_right Bool.false_ne_true).trans ?_)
    refine exists_congr fun tid => and_congr_right fun htid => ?_
    rw [h tid htid]
    exact ⟨And.right, fun hwraps => ⟨retry_lt_of_wraps hwraps, hwraps⟩⟩
  rw [← hother, ← hself]

theorem actions_iff (driver : Driver) (history : List FabricPoll) (p : FabricPoll)
    (hcounts : ∀ tid ∈ tids,
      ((pollData (history ++ [p])).entry tid).error = streak (history ++ [p]) tid) :
    (∀ j, Carries (ioErrorPlan p.slot
          (decide (∃ tid ∈ tids, reachesRetry (streak (history ++ [p]) tid)))
          (decide (∃ tid ∈ tids, reachesThreshold (streak (history ++ [p]) tid)))) j
        (shutdownMgrHandleThermalIoError driver (pollData (history ++ [p])) j)) ↔
      ((∃ tid ∈ tids, reachesThreshold (streak (history ++ [p]) tid)) →
        ∃ tid ∈ tids, wrapsToThreshold (streak (history ++ [p]) tid)) := by
  have hslot : (pollData (history ++ [p])).slot = p.slot := by rw [pollData_concat]; rfl
  have hrange : 0 ≤ (pollData (history ++ [p])).slot ∧ (pollData (history ++ [p])).slot ≤ 3 := by
    rw [hslot]
    exact p.range
  have hsub : (∃ tid ∈ tids, wrapsToThreshold (streak (history ++ [p]) tid)) →
      ∃ tid ∈ tids, reachesThreshold (streak (history ++ [p]) tid) :=
    fun ⟨tid, htid, hwraps⟩ => ⟨tid, htid, reachesThreshold_of_wraps hwraps⟩
  simp only [handleThermalIoError_eq driver hrange, hslot, ioErrors_of_counts hcounts,
    carries_performAll_iff driver onBoard_ioErrorPlan, ioErrorPlan_inj, true_and,
    decide_eq_decide]
  exact ⟨fun h hreach => (h idleJournal).mp hreach, fun h _ => ⟨h, hsub⟩⟩

theorem emergencies_iff (driver : Driver) (h : Counted history) :
    EmergenciesAsDesigned driver history p ↔ StreaksIntact history p := by
  constructor
  · rintro ⟨hcounts, hactions⟩
    obtain ⟨hunbroken, hbounded⟩ := (counts_iff h).mp hcounts
    exact ⟨hunbroken, hbounded, (actions_iff driver history p hcounts).mp hactions⟩
  · rintro ⟨hunbroken, hbounded, hreaches⟩
    have hcounts := (counts_iff h).mpr ⟨hunbroken, hbounded⟩
    exact ⟨hcounts, (actions_iff driver history p hcounts).mpr hreaches⟩

end Counting

theorem io_error_emergencies_iff (driver : Driver) (ps : List FabricPoll) :
    Runs.Along Runs.remember (EmergenciesAsDesigned driver) [] ps ↔
      Runs.Along Runs.remember StreaksIntact [] ps := by
  refine Runs.along_iff (I := Counted) ?_ (fun history p h => emergencies_iff driver h) counted_nil
  intro history p h hc tid htid
  exact ⟨(counts_iff h).mpr ⟨hc.unbroken, hc.bounded⟩ tid htid, hc.bounded tid htid⟩

def pollOf (text : Option (List Char)) : FabricPoll where
  files := fun _ => some ['0']
  sensors := fun tid _ => if tid = 1 then text else some ['1']
  slot := 0
  range := by decide
  read := by decide

theorem streak_outlives_absence :
    ¬ ∀ (driver : Driver) (ps : List FabricPoll),
      Runs.Along Runs.remember (EmergenciesAsDesigned driver) [] ps := by
  intro h
  have hlast := (h (fun _ => 0) [pollOf none, pollOf none, pollOf (some ['0'])]).2.2.1
  have hcount := hlast.counts 1 (by decide)
  revert hcount
  decide +kernel

end Chassisd
