import Chassisd.Udp.Linecard

namespace Chassisd

abbrev Files := String → Option (List Char)

abbrev enxio : Int := 6

abbrev numOfThermal : Nat := 72

-- The buffer holds seven characters and a zero.
def shutdownMgrFileReadInt (files : Files) (file : String) : Int × Int :=
  match files file with
  | none => (-eio, 0)
  | some text => (0, CString.atoi (text.take 7))

structure Reading where
  temperature : Int
  warning : Int
  shutdown : Int
  deriving DecidableEq, Repr, Inhabited

def Reading.zero : Reading := ⟨0, 0, 0⟩

def fanBoardChan1Dir : String := "/sys/bus/i2c/devices/2-0066/"
def fanBoardChan7Dir : String := "/sys/bus/i2c/devices/8-0066/"

def shutdownMgrGetFanBoardDir (fcSlot : Int) (tid : Nat) : String :=
  if fcSlot ≤ 1 then
    if tid ≤ 36 then fanBoardChan7Dir else fanBoardChan1Dir
  else if tid ≤ 36 then fanBoardChan1Dir else fanBoardChan7Dir

def thermalName (tid : Nat) : Option String :=
  let name (card : String) (cid index : Nat) : String :=
    card ++ toString cid ++ "_temp" ++ toString index ++ "_"
  if 1 ≤ tid ∧ tid ≤ 24 then some (name "lc" ((tid - 1) / 6 + 1) ((tid - 1) % 6 + 1))
  else if 37 ≤ tid ∧ tid ≤ 60 then some (name "lc" ((tid - 37) / 6 + 1) ((tid - 37) % 6 + 1))
  else if 25 ≤ tid ∧ tid ≤ 30 then some (name "fc" 1 ((tid - 25) % 6 + 1))
  else if 61 ≤ tid ∧ tid ≤ 66 then some (name "fc" 1 ((tid - 61) % 6 + 1))
  else if 31 ≤ tid ∧ tid ≤ 36 then some (name "fc" 2 ((tid - 31) % 6 + 1))
  else if 67 ≤ tid ∧ tid ≤ 72 then some (name "fc" 2 ((tid - 67) % 6 + 1))
  else none

def shutdownMgrTemperatureGet (files : Files) (fcSlot : Int) (tid : Nat) (old : Reading) :
    Int × Reading :=
  match thermalName tid with
  | none => (-einval, old)
  | some name =>
    let fanDir := shutdownMgrGetFanBoardDir fcSlot tid
    let present := shutdownMgrFileReadInt files (fanDir ++ "fan_present")
    if present.1 < 0 then (present.1, Reading.zero)
    else if present.2 = 0 then (-enxio, Reading.zero)
    else
      let t := shutdownMgrFileReadInt files (fanDir ++ name ++ "input")
      let w := shutdownMgrFileReadInt files (fanDir ++ name ++ "warning")
      let s := shutdownMgrFileReadInt files (fanDir ++ name ++ "shutdown")
      if t.1 < 0 then (t.1, Reading.zero)
      else if w.1 < 0 then (w.1, Reading.zero)
      else if s.1 < 0 then (s.1, Reading.zero)
      else (0, ⟨t.2, w.2, s.2⟩)

structure Thermal where
  reading : Reading
  absent : Int
  error : Int
  deriving DecidableEq, Repr, Inhabited

structure ThermalData where
  slot : Int
  thermal : Vector Thermal (numOfThermal + 1)
  deriving DecidableEq, Repr

namespace ThermalData

def zero : ThermalData := ⟨0, Vector.replicate _ ⟨Reading.zero, 0, 0⟩⟩

def entry (d : ThermalData) (tid : Nat) : Thermal := d.thermal[tid]?.getD default

end ThermalData

-- Index 0 of the arrays is not used.
def tids : List Nat := List.range' 1 numOfThermal

theorem mem_tids {tid : Nat} : tid ∈ tids ↔ 1 ≤ tid ∧ tid ≤ 72 := by
  simp only [tids, List.mem_range'_1, numOfThermal]
  omega

def getThermal (files : Files) (slot : Int) (tid : Nat) (t : Thermal) : Thermal :=
  let (ret, reading) := shutdownMgrTemperatureGet files slot tid t.reading
  if ret = -enxio then { t with reading := reading, absent := 1 }
  else if ret < 0 then { t with reading := reading, error := CString.toInt (t.error + 1) }
  else { t with reading := reading, error := 0 }

-- Each sensor sees files of its own: they may change while the poll goes on.
def shutdownMgrGetThermalStatus (sensors : Nat → Files) (d : ThermalData) : ThermalData :=
  { d with thermal := Vector.ofFn fun i =>
      if i.val = 0 then d.thermal.get i
      else getThermal (sensors i) d.slot i (d.thermal.get i) }

inductive ReadOutcome where
  | success (reading : Reading)
  | failed
  | absent
  deriving DecidableEq, Repr

def readOutcome (files : Files) (slot : Int) (tid : Nat) : ReadOutcome :=
  let (ret, reading) := shutdownMgrTemperatureGet files slot tid Reading.zero
  if ret = -enxio then .absent else if ret < 0 then .failed else .success reading

section Reading

variable {files : Files} {slot : Int} {tid : Nat} {t : Thermal}

theorem fileReadInt_fst (file : String) :
    (shutdownMgrFileReadInt files file).1 = -eio ∨ (shutdownMgrFileReadInt files file).1 = 0 := by
  unfold shutdownMgrFileReadInt
  cases files file with
  | none => exact .inl rfl
  | some text => exact .inr rfl

theorem thermalName_isSome (h : tid ∈ tids) : ∃ name, thermalName tid = some name := by
  rw [mem_tids] at h
  rw [← Option.isSome_iff_exists]
  unfold thermalName
  extract_lets name
  split_ifs
  all_goals first | rfl | omega

variable (files slot) in
theorem temperatureGet_cases (h : tid ∈ tids) (old : Reading) :
    (∃ ret, (ret = -eio ∨ ret = -enxio) ∧
      shutdownMgrTemperatureGet files slot tid old = (ret, Reading.zero)) ∨
    ∃ r, shutdownMgrTemperatureGet files slot tid old = (0, r) := by
  obtain ⟨name, hname⟩ := thermalName_isSome h
  have hfail : ∀ file, (shutdownMgrFileReadInt files file).1 < 0 →
      (shutdownMgrFileReadInt files file).1 = -eio := by
    intro file hneg
    refine (fileReadInt_fst file).resolve_right fun hzero => ?_
    rw [hzero] at hneg
    exact lt_irrefl 0 hneg
  unfold shutdownMgrTemperatureGet
  rw [hname]
  dsimp only
  split_ifs with hpresent hzero ht hw hs
  · exact .inl ⟨_, .inl (hfail _ hpresent), rfl⟩
  · exact .inl ⟨_, .inr rfl, rfl⟩
  · exact .inl ⟨_, .inl (hfail _ ht), rfl⟩
  · exact .inl ⟨_, .inl (hfail _ hw), rfl⟩
  · exact .inl ⟨_, .inl (hfail _ hs), rfl⟩
  · exact .inr ⟨_, rfl⟩

theorem temperatureGet_old (h : tid ∈ tids) (old old' : Reading) :
    shutdownMgrTemperatureGet files slot tid old =
      shutdownMgrTemperatureGet files slot tid old' := by
  obtain ⟨name, hname⟩ := thermalName_isSome h
  unfold shutdownMgrTemperatureGet
  rw [hname]

theorem getThermal_eq (h : tid ∈ tids) :
    getThermal files slot tid t =
      match readOutcome files slot tid with
      | .absent => { t with reading := Reading.zero, absent := 1 }
      | .failed => { t with reading := Reading.zero, error := CString.toInt (t.error + 1) }
      | .success r => { t with reading := r, error := 0 } := by
  unfold getThermal readOutcome
  rw [temperatureGet_old h t.reading Reading.zero]
  rcases temperatureGet_cases files slot h Reading.zero with ⟨ret, hret, hget⟩ | ⟨r, hget⟩
  · rw [hget]
    rcases hret with rfl | rfl <;> rfl
  · rw [hget]
    rfl

theorem entry_getThermalStatus (sensors : Nat → Files) (d : ThermalData) (h : tid ∈ tids) :
    (shutdownMgrGetThermalStatus sensors d).entry tid =
      getThermal (sensors tid) d.slot tid (d.entry tid) := by
  obtain ⟨hlow, hhigh⟩ := mem_tids.mp h
  have hlt : tid < numOfThermal + 1 := Nat.lt_succ_of_le hhigh
  have hne : tid ≠ 0 := Nat.one_le_iff_ne_zero.mp hlow
  simp only [ThermalData.entry, shutdownMgrGetThermalStatus,
    Vector.getElem?_eq_getElem hlt, Option.getD_some, Vector.getElem_ofFn, if_neg hne]
  rfl

end Reading

end Chassisd
