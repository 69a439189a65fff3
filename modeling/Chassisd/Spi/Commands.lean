import Chassisd.Bpdu.Socket
import Chassisd.Spi.Driven

namespace Chassisd

open CommandLine

section Source

def lc1MulticastAddress : List Char := "0x0110b5000001".toList
def fc1MulticastAddress : List Char := "0x0110b5000002".toList

-- The line of chassis_add_static_arl, with its continuation blanks; other numbers have none.
def staticArlLine (usNumber : Nat) : List Char :=
  let entry (name address ports : List Char) : List Char :=
    name ++ " -w 0x0 -p 0x4 -l 1 -v 0x10;            ".toList ++
      name ++ " -w 0x04 -p 0x4 -l 6 -v ".toList ++ address ++ ";            ".toList ++
      name ++ " -w 0x10 -p 0x4 -l 6 -v ".toList ++ address ++ ";            ".toList ++
      name ++ " -w 0x16 -p 0x4 -l 6 -v ".toList ++ ports ++ [';']
  if 1 ≤ usNumber ∧ usNumber ≤ 16 then
    entry "bcm5389".toList lc1MulticastAddress "0x00000001".toList
  else if 33 ≤ usNumber ∧ usNumber ≤ 40 then
    entry "bcm5396".toList fc1MulticastAddress "0x00004000".toList
  else if 17 ≤ usNumber ∧ usNumber ≤ 32 then
    entry "bcm5389".toList fc1MulticastAddress "0x00000001".toList
  else if 41 ≤ usNumber ∧ usNumber ≤ 48 then
    entry "bcm5396".toList lc1MulticastAddress "0x00004000".toList
  else []

def addStaticArl (usNumber : Nat) : List Char :=
  if usNumber % 2 = 0 then [] else staticArlLine usNumber

def configMulticast (usNumber : Nat) : List Char :=
  if usNumber % 2 = 0 then []
  else if 1 ≤ usNumber ∧ usNumber ≤ 16 then "bcm5389 -w 0x2f -p 0x0 -v 0x0a".toList
  else if 33 ≤ usNumber ∧ usNumber ≤ 40 then "bcm5396 -w 0x50 -p 0x0 -v 0x12".toList
  else if 17 ≤ usNumber ∧ usNumber ≤ 32 then "bcm5389 -w 0x2f -p 0x0 -v 0x12".toList
  else if 41 ≤ usNumber ∧ usNumber ≤ 48 then "bcm5396 -w 0x50 -p 0x0 -v 0x0a".toList
  else []

-- "%d" of the states 0x6 and 0x7
def stpDigit (status : Nat) : Char := if status = 1 then '7' else '6'

def configLcStp (status : Nat) : List Char :=
  "bcm5389 -w 0xb -p 0 -v ".toList ++ [stpDigit status] ++ " -l 1".toList

def configFcStp (status : Nat) : List Char :=
  "bcm5396 -w 0x20 -p 0 -v ".toList ++ [stpDigit status] ++ " -l 1".toList

def setSerdesmode : List Char :=
  "bcm5389 -w 0x20 -p 0x12 -v 0x01c1 -l 2;bcm5389 -w 0x20 -p 0x13 -v 0x01c1 -l 2;".toList ++
    "bcm5389 -w 0x20 -p 0x14 -v 0x01c1 -l 2;bcm5389 -w 0x20 -p 0x15 -v 0x01c1 -l 2;".toList

def setSlavemode : List Char :=
  ["10", "11", "12", "13", "14", "15", "16", "17", "18", "1a", "1b", "1c", "1d"].flatMap
    fun page => "bcm5396 -w 0x20 -p 0x".toList ++ page.toList ++ " -v 0x01d1 -l 2;".toList

-- What chassis_initial_default_topology runs besides its port commands; the first line of
-- chassis_initial_phy goes to other programs too.
def topologyLines (usNumber : Nat) : List (List Char) :=
  if usNumber % 2 = 0 then []
  else if 1 ≤ usNumber ∧ usNumber ≤ 32 then
    [setSerdesmode, configLcStp 1, addStaticArl usNumber, configMulticast usNumber]
  else [setSlavemode, configFcStp 1, addStaticArl usNumber, configMulticast usNumber]

-- What chassis_initial_bcm runs besides chassis_initial_vlan and its port commands.
def initialBcmLines : List (List Char) :=
  ["bcm5396 -w 0x8 -p 0x8a -l 2 -v 0x3e1".toList, setSlavemode,
    "bcm5396 -w 0x20 -p 0 -v 0x7 -l 1".toList, staticArlLine 33]

end Source

section Options

def optionsOf (command : List Char) : Option (List (Char × List Char)) :=
  match words command with
  | [] => none
  | name :: args =>
    if name ∈ spiPrograms ∧ ¬(args.length = 0 ∨ args.length = 1) then getopt diagLetters args
    else none

def optionWrites (outside : Int → UInt8) (options : List (Char × List Char)) :
    List RegisterWrite :=
  let d := options.foldl (DiagArgument.take outside) .zero
  if 0 ≤ d.size ∧ d.mode = some .write then
    [⟨d.pageNum, d.regNum, (List.range d.size.toUInt8.toNat).map d.regData⟩]
  else []

theorem commandWrites_eq (outside : Int → UInt8) (command : List Char) :
    commandWrites outside command = ((optionsOf command).map (optionWrites outside)).getD [] := by
  unfold commandWrites optionsOf
  cases words command with
  | nil => rfl
  | cons name args =>
    dsimp only
    by_cases hname : name ∈ spiPrograms
    · rw [if_pos hname, writesOf]
      by_cases hargc : args.length = 0 ∨ args.length = 1
      · rw [if_pos (by simpa using hargc), if_neg (by tauto)]
        rfl
      · rw [if_neg (by simpa using hargc), if_pos ⟨hname, hargc⟩, List.tail_cons]
        cases getopt diagLetters args with
        | none => rfl
        | some options => rfl
    · rw [if_neg hname, if_neg (by tauto)]
      rfl

theorem lineWrites_eq (outside : Int → UInt8) (line : List Char) : lineWrites outside line =
    ((commands line).map optionsOf).flatMap fun options =>
      (options.map (optionWrites outside)).getD [] := by
  rw [lineWrites, List.flatMap_map]
  exact congrArg (fun f => List.flatMap f (commands line)) (funext (commandWrites_eq outside))

def leBytes (n size : Nat) : List UInt8 :=
  (List.range size).map fun k => UInt8.ofNat (n / 256 ^ k)

theorem byte_argument_even (value : List Char) (outside : Int → UInt8) (len k : Nat)
    (heven : Even value.length) :
    ((converStrtoArray (fun _ => 0) (value.map Char.toUInt8) outside len).array k).toNat =
      valueOf value / 256 ^ k % 256 := by
  rcases Nat.lt_or_ge k (value.length / 2) with hlt | hge
  · exact byte_argument _ value outside len hlt
  · have hlength : (value.map Char.toUInt8).reverse.length = value.length := by simp
    have hsmall : valueOf value < 256 ^ k := by
      have hlt := @denoted_lt (value.map Char.toUInt8).reverse (by rwa [hlength])
      rw [hlength] at hlt
      exact hlt.trans_le (Nat.pow_le_pow_right (by decide) hge)
    have hzero : (converStrtoArray (fun _ => 0) (value.map Char.toUInt8) outside len).array k =
        0 := by
      rw [converStrtoArray_eq]
      refine array_converLoop _ _ _ _ (.inr ?_)
      have := heven.two_dvd
      simp
      omega
    rw [hzero, Nat.div_eq_of_lt hsmall]
    rfl

def Fits (value : List Char) (size : Nat) : Prop :=
  Even value.length ∨ size ≤ value.length / 2

instance (value : List Char) (size : Nat) : Decidable (Fits value size) :=
  inferInstanceAs (Decidable (_ ∨ _))

theorem map_argument (value : List Char) (outside : Int → UInt8) (len : Nat) {size : Nat}
    (h : Fits value size) :
    (List.range size).map
        (converStrtoArray (fun _ => 0) (value.map Char.toUInt8) outside len).array =
      leBytes (valueOf value) size := by
  refine List.map_congr_left fun k hk => ?_
  rw [List.mem_range] at hk
  have hbyte : ((converStrtoArray (fun _ => 0) (value.map Char.toUInt8) outside len).array
      k).toNat = valueOf value / 256 ^ k % 256 := by
    rcases h with heven | hsize
    · exact byte_argument_even value outside len k heven
    · exact byte_argument _ value outside len (by omega)
  rw [← UInt8.toNat_inj, hbyte]
  exact (UInt8.toNat_ofNat' ..).symm

def sizeOf (length : List Char) : Nat := (UInt8.ofNat (strtoul16 length)).toInt8.toUInt8.toNat

variable (outside : Int → UInt8) (offset page length value : List Char)

theorem optionWrites_length_first (hlength : 0 ≤ (UInt8.ofNat (strtoul16 length)).toInt8)
    (h : Fits value (sizeOf length)) :
    optionWrites outside [('w', offset), ('p', page), ('l', length), ('v', value)] =
      [⟨UInt8.ofNat (strtoul16 page), UInt8.ofNat (strtoul16 offset),
        leBytes (valueOf value) (sizeOf length)⟩] := by
  rw [← map_argument value outside _ h]
  exact if_pos ⟨hlength, rfl⟩

end Options

section Spared

def placeOf (d : DiagArgument) : Option DiagMode × UInt8 × UInt8 × Int8 :=
  (d.mode, d.pageNum, d.regNum, d.size)

theorem placeOf_eq {d d' : DiagArgument} : placeOf d = placeOf d' ↔
    d.mode = d'.mode ∧ d.pageNum = d'.pageNum ∧ d.regNum = d'.regNum ∧ d.size = d'.size := by
  simp [placeOf]

theorem placeOf_take (outside outside' : Int → UInt8) (option : Char × List Char)
    {d d' : DiagArgument} (h : placeOf d = placeOf d') :
    placeOf (DiagArgument.take outside d option) =
      placeOf (DiagArgument.take outside' d' option) := by
  obtain ⟨hmode, hpage, hreg, hsize⟩ := placeOf_eq.mp h
  obtain ⟨letter, optarg⟩ := option
  by_cases hr : letter = 'r'
  · subst hr
    simp [DiagArgument.take, placeOf, hpage, hsize]
  by_cases hw : letter = 'w'
  · subst hw
    simp [DiagArgument.take, placeOf, hpage, hsize]
  by_cases hp : letter = 'p'
  · subst hp
    simp [DiagArgument.take, placeOf, hmode, hreg, hsize]
  by_cases hl : letter = 'l'
  · subst hl
    simp [DiagArgument.take, placeOf, hmode, hpage, hreg]
  have hkeep : ∀ outside d, placeOf (DiagArgument.take outside d (letter, optarg)) =
      placeOf d := by
    intro outside d
    unfold DiagArgument.take
    split <;> simp_all [placeOf]
  rw [hkeep, hkeep, h]

theorem placeOf_foldl (outside outside' : Int → UInt8) (options : List (Char × List Char))
    {d d' : DiagArgument} (h : placeOf d = placeOf d') :
    placeOf (options.foldl (DiagArgument.take outside) d) =
      placeOf (options.foldl (DiagArgument.take outside') d') := by
  induction options generalizing d d' with
  | nil => exact h
  | cons option options ih => exact ih (placeOf_take outside outside' option h)

def place (w : RegisterWrite) : UInt8 × UInt8 := (w.page, w.offset)

theorem optionWrites_place (outside outside' : Int → UInt8) (options : List (Char × List Char)) :
    (optionWrites outside options).map place = (optionWrites outside' options).map place := by
  have hplace := placeOf_foldl outside outside' options (rfl : placeOf DiagArgument.zero = _)
  unfold optionWrites
  generalize options.foldl (DiagArgument.take outside) .zero = d at hplace ⊢
  generalize options.foldl (DiagArgument.take outside') .zero = d' at hplace ⊢
  obtain ⟨hmode, hpage, hreg, hsize⟩ := placeOf_eq.mp hplace
  dsimp only
  rw [hmode, hsize]
  split_ifs
  · simp [place, hpage, hreg]
  · rfl

theorem map_getD {α β γ : Type} (f : β → γ) {g h : α → List β}
    (heq : ∀ x, (g x).map f = (h x).map f) (x : Option α) :
    ((x.map g).getD []).map f = ((x.map h).getD []).map f := by
  cases x with
  | none => rfl
  | some x => exact heq x

theorem lineWrites_place (outside outside' : Int → UInt8) (text : List Char) :
    (lineWrites outside text).map place = (lineWrites outside' text).map place := by
  rw [lineWrites_eq outside, lineWrites_eq outside', List.map_flatMap, List.map_flatMap]
  exact List.flatMap_congr fun options _ =>
    map_getD place (optionWrites_place outside outside') options

theorem Spares.outside {outside outside' : Int → UInt8} {n : Nat} {text : List Char}
    (h : Spares outside n text) : Spares outside' n text := by
  refine ⟨h.1, fun w hw => ?_⟩
  have hmem : place w ∈ (lineWrites outside text).map place := by
    rw [lineWrites_place outside outside']
    exact List.mem_map_of_mem hw
  obtain ⟨v, hv, heq⟩ := List.mem_map.mp hmem
  obtain ⟨hpage, hoffset⟩ := Prod.ext_iff.mp heq
  have hspares := h.2 v hv
  rw [show v.offset = w.offset from hoffset, show v.page = w.page from hpage] at hspares
  exact hspares

theorem spares_topologyLines (outside : Int → UInt8) {usNumber : Nat} (hk : usNumber ≤ 48)
    {text : List Char} (htext : text ∈ topologyLines usNumber) :
    Spares outside (portCount usNumber) text := by
  have hlines : ∀ k ∈ List.range 49, ∀ text ∈ topologyLines k,
      Spares (fun _ => 0) (portCount k) text := by decide +kernel
  exact (hlines usNumber (List.mem_range.mpr (by omega)) text htext).outside

theorem spares_initialBcmLines (outside : Int → UInt8) {usNumber : Nat}
    (hf : ¬(1 ≤ usNumber ∧ usNumber ≤ 32)) {text : List Char} (htext : text ∈ initialBcmLines) :
    Spares outside (portCount usNumber) text := by
  have hlines : ∀ text ∈ initialBcmLines, Spares (fun _ => 0) 16 text := by decide +kernel
  rw [portCount_fabric hf]
  exact (hlines text htext).outside

end Spared

section StaticArl

def arlWrites (address ports : Nat) : List RegisterWrite :=
  [⟨0x4, 0x0, [0x10]⟩, ⟨0x4, 0x4, leBytes address 6⟩, ⟨0x4, 0x10, leBytes address 6⟩,
    ⟨0x4, 0x16, leBytes ports 6⟩]

def groupNumber (usNumber : Nat) : Nat :=
  0x0110b5000000 + if listensFirst usNumber then 1 else 2

def cpuPort (usNumber : Nat) : Nat := if isLineNumber usNumber then port8C1 else port16C1

def arlOptions (address ports : List Char) : List (Option (List (Char × List Char))) :=
  [some [('w', "0x0".toList), ('p', "0x4".toList), ('l', "1".toList), ('v', "0x10".toList)],
    some [('w', "0x04".toList), ('p', "0x4".toList), ('l', "6".toList), ('v', address)],
    some [('w', "0x10".toList), ('p', "0x4".toList), ('l', "6".toList), ('v', address)],
    some [('w', "0x16".toList), ('p', "0x4".toList), ('l', "6".toList), ('v', ports)], none]

theorem arlOptions_writes (outside : Int → UInt8) {address ports : List Char}
    (haddress : Fits address 6) (hports : Fits ports 6) :
    ((arlOptions address ports).flatMap fun options =>
      (options.map (optionWrites outside)).getD []) =
        arlWrites (valueOf address) (valueOf ports) := by
  have hone : sizeOf "1".toList = 1 := by decide
  have hsix : sizeOf "6".toList = 6 := by decide
  have hpage : UInt8.ofNat (strtoul16 "0x4".toList) = 4 := by decide
  have hfirst : Fits "0x10".toList (sizeOf "1".toList) := by decide
  have hallocated : 0 ≤ (UInt8.ofNat (strtoul16 "1".toList)).toInt8 ∧
      0 ≤ (UInt8.ofNat (strtoul16 "6".toList)).toInt8 := by decide
  rw [← hsix] at haddress hports
  simp only [arlOptions, List.flatMap_cons, List.flatMap_nil, Option.map_some, Option.map_none,
    Option.getD_some, Option.getD_none,
    optionWrites_length_first outside _ _ _ _ hallocated.1 hfirst,
    optionWrites_length_first outside _ _ _ _ hallocated.2 haddress,
    optionWrites_length_first outside _ _ _ _ hallocated.2 hports, hone, hsix, hpage,
    List.append_nil]
  rfl

theorem options_staticArlLine {usNumber : Nat} (hk : 1 ≤ usNumber ∧ usNumber ≤ 48) :
    (commands (staticArlLine usNumber)).map optionsOf = arlOptions
      (if listensFirst usNumber then lc1MulticastAddress else fc1MulticastAddress)
      (if isLineNumber usNumber then "0x00000001".toList else "0x00004000".toList) := by
  have hline : isLineNumber usNumber = true ↔ 1 ≤ usNumber ∧ usNumber ≤ 32 := decide_eq_true_iff
  unfold staticArlLine
  by_cases h₁ : 1 ≤ usNumber ∧ usNumber ≤ 16
  · have hfirst : listensFirst usNumber := .inl h₁
    rw [if_pos h₁, if_pos hfirst, if_pos (hline.mpr (by omega))]
    decide +kernel
  · rw [if_neg h₁]
    by_cases h₂ : 33 ≤ usNumber ∧ usNumber ≤ 40
    · have hfirst : ¬listensFirst usNumber := by
        rintro (h | h)
        · exact h₁ h
        · omega
      rw [if_pos h₂, if_neg hfirst, if_neg fun h => by have := hline.mp h; omega]
      decide +kernel
    · rw [if_neg h₂]
      by_cases h₃ : 17 ≤ usNumber ∧ usNumber ≤ 32
      · have hfirst : ¬listensFirst usNumber := by
          rintro (h | h)
          · exact h₁ h
          · omega
        rw [if_pos h₃, if_neg hfirst, if_pos (hline.mpr (by omega))]
        decide +kernel
      · have hfirst : listensFirst usNumber := .inr (by omega)
        rw [if_neg h₃, if_pos (by omega), if_pos hfirst, if_neg fun h => by
          have := hline.mp h; omega]
        decide +kernel

theorem lineWrites_addStaticArl (outside : Int → UInt8) {usNumber : Nat}
    (hodd : usNumber % 2 = 1) (hk : usNumber ≤ 48) :
    lineWrites outside (addStaticArl usNumber) =
      arlWrites (groupNumber usNumber) (2 ^ cpuPort usNumber) := by
  have haddress : ∀ b : Prop, [Decidable b] →
      Fits (if b then lc1MulticastAddress else fc1MulticastAddress) 6 ∧
      valueOf (if b then lc1MulticastAddress else fc1MulticastAddress) =
        0x0110b5000000 + if b then 1 else 2 := by
    intro b _
    by_cases hb : b
    · simp only [if_pos hb]
      decide
    · simp only [if_neg hb]
      decide
  have hports : ∀ b : Bool,
      Fits (if b then "0x00000001".toList else "0x00004000".toList) 6 ∧
      valueOf (if b then "0x00000001".toList else "0x00004000".toList) =
        2 ^ if b then port8C1 else port16C1 := by decide
  rw [addStaticArl, if_neg (by omega), lineWrites_eq, options_staticArlLine ⟨by omega, hk⟩,
    arlOptions_writes outside (haddress _).1 (hports _).1, (haddress _).2, (hports _).2]
  rfl

theorem leBytes_groupNumber (usNumber : Nat) : (leBytes (groupNumber usNumber) 6).reverse =
    (bpduGroup (if listensFirst usNumber then 1 else 2)).toList := by
  rw [groupNumber]
  by_cases hfirst : listensFirst usNumber
  · rw [if_pos hfirst, if_pos hfirst]
    decide
  · rw [if_neg hfirst, if_neg hfirst]
    decide

variable {trace : List PortEvent} {ioperm : Int32}

-- The switch hands its CPU port the frames that the socket of the card lets through.
theorem static_arl_matches_filter (init : UInt16 → UInt32)
    (inb : List PortEvent → UInt16 → UInt8) (hio : ¬ioperm < 0) (outside : Int → UInt8)
    (regs : Registers) (hidle : BusIdle trace) (usNumber : Nat) (hodd : usNumber % 2 = 1)
    (hk : usNumber ≤ 48) :
    let file := registersAfter regs
      (system (latchBoard init inb) ioperm outside (addStaticArl usNumber) trace)
    (∀ frame, Bpf.accepts (attachedFilter usNumber) frame ≠ 0 ↔
        (file 0x4 0x4).reverse <+: frame) ∧
      file 0x4 0x10 = file 0x4 0x4 ∧
      Nat.ofDigits 256 ((file 0x4 0x16).map UInt8.toNat) = 2 ^ cpuPort usNumber := by
  have hwrites := lineWrites_addStaticArl outside hodd hk
  have hpage : ∀ w ∈ lineWrites outside (addStaticArl usNumber), w.offset ≠ 0xFF := by
    rw [hwrites]
    simp [arlWrites]
  obtain ⟨-, hfile⟩ := @system_writes init inb ioperm outside trace regs hio _ hpage hidle
  intro file
  have hvalue : file 0x4 0x4 = leBytes (groupNumber usNumber) 6 ∧
      file 0x4 0x10 = leBytes (groupNumber usNumber) 6 ∧
      file 0x4 0x16 = leBytes (2 ^ cpuPort usNumber) 6 := by
    have heq : file = (registersAfter regs trace).writes
        (arlWrites (groupNumber usNumber) (2 ^ cpuPort usNumber)) := hwrites ▸ hfile
    rw [heq]
    simp [arlWrites, writes_cons, RegisterFile.write, Function.update]
  refine ⟨fun frame => ?_, hvalue.2.1.trans hvalue.1.symm, ?_⟩
  · rw [passed_attachedFilter, hvalue.1, leBytes_groupNumber]
    generalize (bpduGroup _).toList = group
    by_cases hbegins : group <+: frame
    · simp [hbegins]
    · simp [hbegins]
  · rw [hvalue.2.2, cpuPort]
    split_ifs <;> decide

theorem static_arl_matches_filter_lc :
    registersAfter ⟨0, fun _ _ => []⟩ (system (latchBoard (fun _ => 0) fun _ _ => 0) 0
      (fun _ => 0) (addStaticArl 1) []) 0x4 0x10 =
    registersAfter ⟨0, fun _ _ => []⟩ (system (latchBoard (fun _ => 0) fun _ _ => 0) 0
      (fun _ => 0) (addStaticArl 1) []) 0x4 0x4 :=
  (static_arl_matches_filter (fun _ => 0) (fun _ _ => 0) (by decide) (fun _ => 0)
    ⟨0, fun _ _ => []⟩ ⟨[], rfl⟩ 1 (by decide) (by decide)).2.1

end StaticArl

end Chassisd
