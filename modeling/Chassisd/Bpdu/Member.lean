import Chassisd.Bpdu.Types

namespace Chassisd

-- 5*DEFAULT_FORWARDDELAY+1
abbrev ownAge : UInt8 := 16

namespace ChassisExist

-- Past the table the source reads what lies behind it, in a frame and in CTPM_T; here nothing is
-- alive there.
def entry (t : ChassisExist) (i : Nat) : BridgeExist :=
  if h : i < maximumMicroServerCardNumber then t.entries[i] else default

def set (i : Nat) (e : BridgeExist) (t : ChassisExist) : ChassisExist :=
  ⟨t.entries.setIfInBounds i e⟩

def setAge (i : Nat) (age : UInt8) (t : ChassisExist) : ChassisExist :=
  t.set i { t.entry i with age := age }

def setId (i : Nat) (id : BridgeId) (t : ChassisExist) : ChassisExist :=
  t.set i { t.entry i with id := id }

-- memcpy of sizeof(BRIDGE_EXIST) bytes onto the id of entry i: eight bytes of id, then the age
-- byte (and the padding) of entry i+1. Past entry 47 lies the padding of CTPM_T.
def copyFromId (i : Nat) (f t : ChassisExist) : ChassisExist :=
  (t.setId i (f.entry i).id).setAge (i + 1) (f.entry (i + 1)).age

theorem entry_of_ge (t : ChassisExist) {i : Nat} (h : 48 ≤ i) : t.entry i = default :=
  dif_neg (by simpa using h)

theorem entry_set (t : ChassisExist) (i j : Nat) (e : BridgeExist) :
    (t.set i e).entry j = if j = i ∧ i < 48 then e else t.entry j := by
  by_cases hj : j < 48
  · simp only [entry, set, dif_pos hj, Vector.getElem_setIfInBounds]
    by_cases h : i = j
    · subst h; simp [hj]
    · simp [h, Ne.symm h]
  · have hi : ¬ (j = i ∧ i < 48) := by omega
    simp [entry, hj, hi]

@[simp] theorem entry_setAge (t : ChassisExist) (i j : Nat) (a : UInt8) :
    (t.setAge i a).entry j = if j = i ∧ i < 48 then ⟨a, (t.entry i).id⟩ else t.entry j :=
  entry_set t i j _

@[simp] theorem entry_setId (t : ChassisExist) (i j : Nat) (id : BridgeId) :
    (t.setId i id).entry j = if j = i ∧ i < 48 then ⟨(t.entry i).age, id⟩ else t.entry j :=
  entry_set t i j _

@[simp] theorem entry_zero (i : Nat) : ChassisExist.zero.entry i = BridgeExist.zero := by
  by_cases h : i < 48
  · simp [entry, ChassisExist.zero, h]
  · rw [entry_of_ge _ (by omega)]; rfl

end ChassisExist

open ChassisExist

def clearChassisMember (usNumber : Nat) (brId : BridgeId) : ChassisExist :=
  (ChassisExist.zero.setAge (usNumber - 1) ownAge).setId (usNumber - 1) brId

def updateChassisMemberAt (usNumber : Nat) (f : ChassisExist) (t : ChassisExist) (i : Nat) :
    ChassisExist :=
  if i + 1 = usNumber then t
  else if 1 ≤ (f.entry i).age ∧ (t.entry i).age < (f.entry i).age then
    copyFromId i f (t.setAge i (f.entry i).age)
  else t

def updateChassisMember (usNumber : Nat) (f t : ChassisExist) : ChassisExist :=
  (List.range maximumMicroServerCardNumber).foldl (updateChassisMemberAt usNumber f) t

def decChassisMemberAt (usNumber : Nat) (t : ChassisExist) (i : Nat) : ChassisExist :=
  if i + 1 = usNumber then t.setAge i ownAge
  else if 1 ≤ (t.entry i).age then t.setAge i ((t.entry i).age - 1)
  else t

def decChassisMember (usNumber : Nat) (t : ChassisExist) : ChassisExist :=
  (List.range maximumMicroServerCardNumber).foldl (decChassisMemberAt usNumber) t

theorem entry_clearChassisMember (usNumber : Nat) (brId : BridgeId) (i : Nat)
    (h : 1 ≤ usNumber) (h' : usNumber ≤ 48) :
    (clearChassisMember usNumber brId).entry i =
      if i + 1 = usNumber then ⟨ownAge, brId⟩ else BridgeExist.zero := by
  have hiff : (i = usNumber - 1 ∧ usNumber - 1 < 48) ↔ i + 1 = usNumber := by omega
  have hself : usNumber - 1 = usNumber - 1 ∧ usNumber - 1 < 48 := by omega
  rw [clearChassisMember, entry_setId, entry_setAge, entry_setAge, if_pos hself]
  simp only [hiff, entry_zero]
  split <;> rfl

theorem entry_foldl_range (step : ChassisExist → Nat → ChassisExist)
    (g : Nat → BridgeExist → BridgeExist)
    (hstep : ∀ t i j, i < 48 →
      (step t i).entry j = if j = i then g i (t.entry i) else t.entry j)
    (t : ChassisExist) (j : Nat) (n : Nat) (hn : n ≤ 48) :
    ((List.range n).foldl step t).entry j = if j < n then g j (t.entry j) else t.entry j := by
  induction n with
  | zero => simp
  | succ n ih =>
    rw [List.range_succ, List.foldl_append, List.foldl_cons, List.foldl_nil, hstep _ _ _ (by omega)]
    by_cases hjn : j = n
    · subst hjn
      rw [if_pos rfl, ih (by omega), if_neg (lt_irrefl j), if_pos (Nat.lt_succ_self j)]
    · have hiff : j < n + 1 ↔ j < n := by omega
      simp only [if_neg hjn, ih (by omega : n ≤ 48), hiff]

def decEntry (usNumber : Nat) (i : Nat) (e : BridgeExist) : BridgeExist :=
  ⟨if i + 1 = usNumber then ownAge else if 1 ≤ e.age then e.age - 1 else e.age, e.id⟩

theorem entry_decChassisMember (usNumber : Nat) (t : ChassisExist) (i : Nat) (hi : i < 48) :
    (decChassisMember usNumber t).entry i = decEntry usNumber i (t.entry i) := by
  have hstep : ∀ t i j, i < 48 → (decChassisMemberAt usNumber t i).entry j =
      if j = i then decEntry usNumber i (t.entry i) else t.entry j := by
    intro t i j hi
    unfold decChassisMemberAt decEntry
    by_cases hj : j = i
    · subst hj
      split
      · simp [hi]
      · split <;> simp [hi]
    · split
      · simp [hj]
      · split <;> simp [hj]
  simpa [decChassisMember, hi] using
    entry_foldl_range (decChassisMemberAt usNumber) _ hstep t i 48 le_rfl

-- Whether the loop copies entry i; the copy of entry i-1 has already overwritten the age of entry i
-- with the frame's, and then nothing larger is left to take.
def copied (usNumber : Nat) (f t : ChassisExist) : Nat → Bool
  | 0 => decide (1 ≠ usNumber ∧ 1 ≤ (f.entry 0).age ∧ (t.entry 0).age < (f.entry 0).age)
  | i + 1 => !copied usNumber f t i && decide (i + 2 ≠ usNumber ∧ 1 ≤ (f.entry (i + 1)).age ∧
      (t.entry (i + 1)).age < (f.entry (i + 1)).age)

def spilled (usNumber : Nat) (f t : ChassisExist) : Nat → Bool
  | 0 => false
  | i + 1 => copied usNumber f t i

theorem copied_eq (usNumber : Nat) (f t : ChassisExist) (i : Nat) :
    copied usNumber f t i = (!spilled usNumber f t i && decide (i + 1 ≠ usNumber ∧
      1 ≤ (f.entry i).age ∧ (t.entry i).age < (f.entry i).age)) := by
  cases i with
  | zero => simp [copied, spilled]
  | succ i => rfl

def mergedEntry (usNumber : Nat) (f t : ChassisExist) (n i : Nat) : BridgeExist :=
  ⟨if (i < n ∧ copied usNumber f t i) ∨ (i ≤ n ∧ spilled usNumber f t i) then (f.entry i).age
    else (t.entry i).age,
   if i < n ∧ copied usNumber f t i then (f.entry i).id else (t.entry i).id⟩

theorem updateChassisMemberAt_eq (usNumber : Nat) (f t u : ChassisExist) (n : Nat)
    (hu : u.entry n = mergedEntry usNumber f t n n) :
    updateChassisMemberAt usNumber f u n =
      if copied usNumber f t n then copyFromId n f (u.setAge n (f.entry n).age) else u := by
  have hage : (u.entry n).age =
      if spilled usNumber f t n then (f.entry n).age else (t.entry n).age := by
    rw [hu]; simp [mergedEntry]
  unfold updateChassisMemberAt
  rw [copied_eq, hage]
  by_cases hs : spilled usNumber f t n
  · simp [hs]
  · by_cases hown : n + 1 = usNumber <;> simp [hs, hown]

theorem entry_updateChassisMember (usNumber : Nat) (f t : ChassisExist) (i : Nat) (hi : i < 48) :
    (updateChassisMember usNumber f t).entry i = mergedEntry usNumber f t 48 i := by
  have key (n : Nat) (hn : n ≤ 48) : ∀ i, i < 48 →
      ((List.range n).foldl (updateChassisMemberAt usNumber f) t).entry i =
        mergedEntry usNumber f t n i := by
    induction n with
    | zero =>
      intro i _
      cases i <;> simp [mergedEntry, spilled]
    | succ n ih =>
      intro i hi
      have ih := ih (by omega)
      rw [List.range_succ, List.foldl_append, List.foldl_cons, List.foldl_nil,
        updateChassisMemberAt_eq usNumber f t _ n (ih n (by omega))]
      set u := (List.range n).foldl (updateChassisMemberAt usNumber f) t
      by_cases hc : copied usNumber f t n = true
      · rw [if_pos hc, copyFromId, entry_setAge, entry_setId, entry_setId, entry_setAge,
          entry_setAge, entry_setAge]
        by_cases h1 : i = n + 1
        · subst h1
          simp [hi, ih _ hi, mergedEntry, spilled, hc]
        · by_cases h2 : i = n
          · subst h2
            simp [hi, mergedEntry, hc]
          · have h3 : i < n + 1 ↔ i < n := by omega
            have h4 : i ≤ n + 1 ↔ i ≤ n := by omega
            simp [h1, h2, ih _ hi, mergedEntry, h3, h4]
      · rw [if_neg hc, ih _ hi]
        have hc : copied usNumber f t n = false := by simpa using hc
        by_cases h1 : i = n + 1
        · subst h1
          simp [mergedEntry, spilled, hc]
        · by_cases h2 : i = n
          · subst h2
            simp [mergedEntry, hc]
          · have h3 : i < n + 1 ↔ i < n := by omega
            have h4 : i ≤ n + 1 ↔ i ≤ n := by omega
            simp [mergedEntry, h3, h4]
  exact key 48 le_rfl i hi

theorem age_updateChassisMember (usNumber : Nat) (f t : ChassisExist) (i : Nat) (hi : i < 48) :
    ((updateChassisMember usNumber f t).entry i).age = (t.entry i).age ∨
      ((updateChassisMember usNumber f t).entry i).age = (f.entry i).age := by
  rw [entry_updateChassisMember usNumber f t i hi, mergedEntry]
  split <;> simp

end Chassisd
