import Chassisd.Library.Spi
import Chassisd.Spi.Init
import Mathlib

namespace Chassisd

section Source

def writePort (pin : Nat) (value : UInt8) (g : Gpio) : Gpio :=
  if pin = gpioCs then
    if value = 1 then
      let g := { g with gDefaultOne := g.gDefaultOne ||| 0x8000000 }
      let g := { g with gDefaultOne := g.gDefaultOne ||| 0x1 }
      g.outl g.gDefaultOne 0x588
    else if value = 0 then
      let g := { g with gDefaultOne := g.gDefaultOne &&& 0xF7FFFFFF }
      g.outl g.gDefaultOne 0x588
    else g
  else if pin = gpioMosi then
    let g := { g with gDefaultOne := g.gDefaultOne &&& 0xFFFFFFFE }
    let g := g.outl g.gDefaultOne 0x588
    let g :=
      if value = 1 then { g with gDefaultOne := g.gDefaultOne ||| 0x02 }
      else if value = 0 then { g with gDefaultOne := g.gDefaultOne &&& 0xFFFFFFFD }
      else g
    let g := g.outl g.gDefaultOne 0x588
    let g := { g with gDefaultOne := g.gDefaultOne ||| 0x1 }
    let g := g.outl g.gDefaultOne 0x588
    g.outl g.gDefaultOne 0x588
  else g

variable (board : Board)

def readPort (g : Gpio) : UInt8 × Gpio :=
  let g := { g with gDefaultOne := g.gDefaultOne &&& 0xFFFFFFFE }
  let g := g.outl g.gDefaultOne 0x588
  let (input, g) := g.inb board 0x58b
  let ucRet := (input &&& 0x4) >>> 2
  let g := { g with gDefaultOne := g.gDefaultOne ||| 0x1 }
  (ucRet, g.outl g.gDefaultOne 0x588)

-- for (i=7; i>=0; i--), with the bits below the given one still to send
def spiWriteBits (b : UInt8) : Nat → Gpio → Gpio
  | 0, g => g
  | i + 1, g =>
    let value := b &&& (1 <<< UInt8.ofNat i)
    spiWriteBits b i (writePort gpioMosi (if value ≠ 0 then 1 else 0) g)

def spiWriteByte (b : UInt8) (g : Gpio) : Gpio := spiWriteBits b 8 g

def spiReadBits : Nat → UInt8 → Gpio → UInt8 × Gpio
  | 0, r, g => (r, g)
  | i + 1, r, g =>
    let (bit, g) := readPort board g
    spiReadBits i (r <<< 1 ||| bit) g

def spiReadByte (g : Gpio) : UInt8 × Gpio := spiReadBits board 8 0 g

abbrev spiModeRead : UInt8 := 0x0
abbrev spiModeWrite : UInt8 := 0x1
abbrev pageStatus : UInt8 := 0xFE
abbrev pageRegister : UInt8 := 0xFF
abbrev pageDataio : UInt8 := 0xF0

def bcmPagePrefix (mode registerss : UInt8) (g : Gpio) : Gpio :=
  spiWriteByte registerss (spiWriteByte (0x60 ||| mode) g)

-- while (size!=0), the bytes still to come counted down
def readValue : Nat → UInt8 → (Nat → UInt8) → Gpio → (Nat → UInt8) × Gpio
  | 0, _, value, g => (value, g)
  | size + 1, i, value, g =>
    let (temp, g) := spiReadByte board g
    readValue size (i + 1) (Function.update value i.toNat temp) g

def writeValue (value : Nat → UInt8) : Nat → UInt8 → Gpio → Gpio
  | 0, _, g => g
  | size + 1, i, g => writeValue value size (i + 1) (spiWriteByte (value i.toNat) g)

-- Both transactions start with the status read whose result is thrown away.
def statusFrame (g : Gpio) : Gpio :=
  let g := writePort gpioCs 0 g
  let g := bcmPagePrefix spiModeRead pageStatus g
  let (_, g) := spiReadByte board g
  writePort gpioCs 1 g

def pageFrame (page : UInt8) (g : Gpio) : Gpio :=
  let g := writePort gpioCs 0 g
  let g := bcmPagePrefix spiModeWrite pageRegister g
  let g := spiWriteByte page g
  writePort gpioCs 1 g

def bcm5389Read (page offset : UInt8) (value : Nat → UInt8) (size : Int8) (g : Gpio) :
    (Nat → UInt8) × Gpio :=
  let g := pageFrame page (statusFrame board g)
  let g := writePort gpioCs 0 g
  let g := bcmPagePrefix spiModeRead offset g
  let g := bcmPagePrefix spiModeRead pageStatus g
  let (_, g) := spiReadByte board g
  let g := writePort gpioCs 1 g
  let g := writePort gpioCs 0 g
  let g := bcmPagePrefix spiModeRead pageDataio g
  let (value, g) := readValue board size.toUInt8.toNat 0 value g
  (value, writePort gpioCs 1 g)

def bcm5389Write (page offset : UInt8) (value : Nat → UInt8) (size : UInt8) (g : Gpio) : Gpio :=
  let g := pageFrame page (statusFrame board g)
  let g := writePort gpioCs 0 g
  let g := bcmPagePrefix spiModeWrite offset g
  let g := writeValue value size.toNat 0 g
  writePort gpioCs 1 g

end Source

section Levels

def levels (r : UInt32) (clock mosi cs : Bool) : UInt32 :=
  (r &&& 0xF7FFFFFC) ||| ((if clock then 0x1 else 0) ||| (if mosi then 0x2 else 0) |||
    (if cs then 0x8000000 else 0))

theorem and_or_right (x y z : UInt32) : (x ||| y) &&& z = (x &&& z) ||| (y &&& z) :=
  congrArg UInt32.ofBitVec BitVec.and_or_distrib_right

theorem and_or_left (x y z : UInt32) : x &&& (y ||| z) = (x &&& y) ||| (x &&& z) :=
  congrArg UInt32.ofBitVec BitVec.and_or_distrib_left

variable (r : UInt32) (clock mosi cs : Bool)

theorem levels_and (mask : UInt32) :
    levels r clock mosi cs &&& mask = (r &&& (0xF7FFFFFC &&& mask)) |||
      (((if clock then 0x1 else 0) ||| (if mosi then 0x2 else 0) |||
        (if cs then 0x8000000 else 0)) &&& mask) := by
  rw [levels, and_or_right, UInt32.and_assoc]

theorem levels_clock_low : levels r clock mosi cs &&& 0xFFFFFFFE = levels r false mosi cs := by
  rw [levels_and]
  cases clock <;> cases mosi <;> cases cs <;> rfl

theorem levels_mosi_low : levels r clock mosi cs &&& 0xFFFFFFFD = levels r clock false cs := by
  rw [levels_and]
  cases clock <;> cases mosi <;> cases cs <;> rfl

theorem levels_cs_low : levels r clock mosi cs &&& 0xF7FFFFFF = levels r clock mosi false := by
  rw [levels_and]
  cases clock <;> cases mosi <;> cases cs <;> rfl

theorem levels_clock_high : levels r clock mosi cs ||| 0x1 = levels r true mosi cs := by
  rw [levels, UInt32.or_assoc]
  cases clock <;> cases mosi <;> cases cs <;> rfl

theorem levels_mosi_high : levels r clock mosi cs ||| 0x2 = levels r clock true cs := by
  rw [levels, UInt32.or_assoc]
  cases clock <;> cases mosi <;> cases cs <;> rfl

theorem levels_cs_high : levels r clock mosi cs ||| 0x8000000 = levels r clock mosi true := by
  rw [levels, UInt32.or_assoc]
  cases clock <;> cases mosi <;> cases cs <;> rfl

theorem clockOf_levels : clockOf (levels r clock mosi cs) = clock := by
  have hmask : (0xF7FFFFFC &&& 0x1 : UInt32) = 0 := rfl
  rw [clockOf, levels_and, hmask, UInt32.and_zero, UInt32.zero_or]
  cases clock <;> cases mosi <;> cases cs <;> rfl

theorem mosiOf_levels : mosiOf (levels r clock mosi cs) = mosi := by
  have hmask : (0xF7FFFFFC &&& 0x2 : UInt32) = 0 := rfl
  rw [mosiOf, levels_and, hmask, UInt32.and_zero, UInt32.zero_or]
  cases clock <;> cases mosi <;> cases cs <;> rfl

theorem csOf_levels : csOf (levels r clock mosi cs) = cs := by
  have hmask : (0xF7FFFFFC &&& 0x8000000 : UInt32) = 0 := rfl
  rw [csOf, levels_and, hmask, UInt32.and_zero, UInt32.zero_or]
  cases clock <;> cases mosi <;> cases cs <;> rfl

theorem sameForeign_levels : SameForeign (levels r clock mosi cs) r := by
  rw [SameForeign, levels_and]
  cases clock <;> cases mosi <;> cases cs <;> exact UInt32.or_zero

theorem and_bit (k : Nat) {mask : UInt32} (h : mask = .ofBitVec (.twoPow 32 k)) :
    r &&& mask = if r &&& mask ≠ 0 then mask else 0 := by
  have heq : r &&& mask = if r.toBitVec.getLsbD k then mask else 0 := by
    rw [h, ← UInt32.toBitVec_inj, UInt32.toBitVec_and, BitVec.and_twoPow]
    split_ifs <;> rfl
  cases hset : r.toBitVec.getLsbD k with
  | false => simp [heq, hset]
  | true =>
    rw [heq, hset, if_pos rfl]
    split_ifs with hzero
    · rfl
    · exact not_not.mp hzero

theorem levels_self : levels r (clockOf r) (mosiOf r) (csOf r) = r := by
  have hclock : r &&& 0x1 = if r &&& 0x1 ≠ 0 then 0x1 else 0 := and_bit r 0 rfl
  have hmosi : r &&& 0x2 = if r &&& 0x2 ≠ 0 then 0x2 else 0 := and_bit r 1 rfl
  have hcs : r &&& 0x8000000 = if r &&& 0x8000000 ≠ 0 then 0x8000000 else 0 := and_bit r 27 rfl
  have hall : r &&& (0xF7FFFFFC ||| (0x1 ||| 0x2 ||| 0x8000000)) = r := UInt32.and_neg_one
  conv_rhs => rw [← hall, and_or_left, and_or_left, and_or_left, hclock, hmosi, hcs]
  simp only [levels, clockOf, mosiOf, csOf, decide_eq_true_eq]

end Levels

section Refinement

def decode : PortEvent → List Spi.Event
  | .outl v port => if port = 0x588 then [.level (clockOf v) (mosiOf v) (csOf v)] else []
  | .inb port v => if port = 0x58b then [.miso (v &&& 0x4 ≠ 0)] else []
  | .inl _ _ => []

def observed (trace : List PortEvent) : Spi.Device := (Spi.idle []).watch (trace.flatMap decode)

-- The shadow register follows the levels the device sees, and no write has touched a foreign bit.
structure At (r : UInt32) (mosi : Bool) (d : Spi.Device) (g : Gpio) : Prop where
  shadow : g.gDefaultOne = levels r d.clock mosi d.cs
  seen : observed g.trace = d
  foreign : ∀ v port, .outl v port ∈ g.trace → port = 0x588 ∧ SameForeign v r

theorem observed_append (trace more : List PortEvent) :
    observed (trace ++ more) = (observed trace).watch (more.flatMap decode) := by
  rw [observed, List.flatMap_append, Spi.watch_append]
  rfl

variable (board : Board) {r : UInt32} {mosi : Bool} {d d' : Spi.Device} {g : Gpio}

theorem At.extend (h : At r mosi d g) {clock mosi' cs : Bool} {more : List PortEvent}
    (hd : d.watch (more.flatMap decode) = d') (hclock : d'.clock = clock) (hcs : d'.cs = cs)
    (hmore : ∀ v port, .outl v port ∈ more → port = 0x588 ∧ SameForeign v r) :
    At r mosi' d' ⟨levels r clock mosi' cs, g.trace ++ more⟩ where
  shadow := by rw [hclock, hcs]
  seen := by rw [observed_append, h.seen, hd]
  foreign := by
    intro v port hv
    rcases List.mem_append.mp hv with hv | hv
    · exact h.foreign v port hv
    · exact hmore v port hv

theorem decode_levels (clock mosi cs : Bool) :
    decode (.outl (levels r clock mosi cs) 0x588) = [.level clock mosi cs] := by
  rw [decode, if_pos rfl, clockOf_levels, mosiOf_levels, csOf_levels]

theorem writePort_cs_low {clock cs : Bool} (h : g.gDefaultOne = levels r clock mosi cs) :
    writePort gpioCs 0 g = ⟨levels r clock mosi false,
      g.trace ++ [.outl (levels r clock mosi false) 0x588]⟩ := by
  simp [writePort, Gpio.outl, h, levels_cs_low]

theorem writePort_cs_high {clock cs : Bool} (h : g.gDefaultOne = levels r clock mosi cs) :
    writePort gpioCs 1 g = ⟨levels r true mosi true,
      g.trace ++ [.outl (levels r true mosi true) 0x588]⟩ := by
  simp [writePort, Gpio.outl, h, levels_cs_high, levels_clock_high]

theorem writePort_mosi {clock cs : Bool} (h : g.gDefaultOne = levels r clock mosi cs)
    (bit : Bool) :
    writePort gpioMosi (if bit then 1 else 0) g = ⟨levels r true bit cs, g.trace ++
      [.outl (levels r false mosi cs) 0x588, .outl (levels r false bit cs) 0x588,
        .outl (levels r true bit cs) 0x588, .outl (levels r true bit cs) 0x588]⟩ := by
  cases bit <;>
    simp [writePort, gpioMosi, gpioCs, Gpio.outl, h, levels_clock_low, levels_mosi_low,
      levels_mosi_high, levels_clock_high]

theorem readPort_eq {clock cs : Bool} (h : g.gDefaultOne = levels r clock mosi cs) :
    ∃ input : UInt8, readPort board g = ((input &&& 0x4) >>> 2, ⟨levels r true mosi cs, g.trace ++
      [.outl (levels r false mosi cs) 0x588, .inb 0x58b input,
        .outl (levels r true mosi cs) 0x588]⟩) := by
  refine ⟨board.inb (g.trace ++ [.outl (levels r false mosi cs) 0x588]) 0x58b, ?_⟩
  simp only [readPort, Gpio.outl, Gpio.inb, h, levels_clock_low, levels_clock_high,
    List.append_assoc]
  rfl

variable {frames : List Spi.Frame} {frame : Spi.Frame}

theorem At.select (h : At r mosi (Spi.idle frames) g) :
    At r mosi (Spi.selected frames .empty) (writePort gpioCs 0 g) := by
  rw [writePort_cs_low h.shadow]
  refine h.extend ?_ rfl rfl ?_
  · rw [List.flatMap_singleton, decode_levels]
    exact Spi.watch_select frames mosi
  · simp [sameForeign_levels]

theorem At.deselect (h : At r mosi (Spi.selected frames frame) g) :
    At r mosi (Spi.idle (frames ++ [frame])) (writePort gpioCs 1 g) := by
  rw [writePort_cs_high h.shadow]
  refine h.extend ?_ rfl rfl ?_
  · rw [List.flatMap_singleton, decode_levels]
    exact Spi.watch_deselect frames frame mosi
  · simp [sameForeign_levels]

theorem At.writeBit (h : At r mosi (Spi.selected frames frame) g) (bit : Bool) :
    At r bit (Spi.selected frames (frame.shift [bit] []))
      (writePort gpioMosi (if bit then 1 else 0) g) := by
  rw [writePort_mosi h.shadow bit]
  refine h.extend ?_ rfl rfl ?_
  · simp only [List.flatMap_cons, List.flatMap_nil, decode_levels]
    exact Spi.watch_write frames frame mosi bit
  · intro v port hv
    simp only [List.mem_cons, PortEvent.outl.injEq, List.not_mem_nil, or_false] at hv
    rcases hv with ⟨rfl, rfl⟩ | ⟨rfl, rfl⟩ | ⟨rfl, rfl⟩ | ⟨rfl, rfl⟩ <;>
      exact ⟨rfl, sameForeign_levels _ _ _ _⟩

theorem miso_shifted (input : UInt8) :
    (input &&& 0x4) >>> 2 = if input &&& 0x4 ≠ 0 then 1 else 0 :=
  forall_byte input (by decide)

theorem At.readBit (h : At r mosi (Spi.selected frames frame) g) :
    ∃ bit : Bool, (readPort board g).1 = (if bit then 1 else 0) ∧
      At r mosi (Spi.selected frames (frame.shift [mosi] [bit])) (readPort board g).2 := by
  obtain ⟨input, hread⟩ := readPort_eq board h.shadow
  refine ⟨input &&& 0x4 ≠ 0, ?_, ?_⟩
  · rw [hread, miso_shifted]
    simp only [decide_eq_true_eq]
  · rw [hread]
    refine h.extend ?_ rfl rfl ?_
    · simp only [List.flatMap_cons, List.flatMap_nil, decode_levels]
      exact Spi.watch_read frames frame mosi _
    · intro v port hv
      simp only [List.mem_cons, PortEvent.outl.injEq, reduceCtorEq, List.not_mem_nil, or_false,
        false_or] at hv
      rcases hv with ⟨rfl, rfl⟩ | ⟨rfl, rfl⟩ <;> exact ⟨rfl, sameForeign_levels _ _ _ _⟩

end Refinement

section Bytes

def bitsDown (b : UInt8) (i : Nat) : List Bool := (List.range i).reverse.map b.toBitVec.getLsbD

def msbFirst (b : UInt8) : List Bool := bitsDown b 8

theorem bitsDown_succ (b : UInt8) (i : Nat) :
    bitsDown b (i + 1) = b.toBitVec.getLsbD i :: bitsDown b i := by
  simp [bitsDown, List.range_succ]

theorem and_shifted_ne_zero (b : UInt8) {i : Nat} (hi : i < 8) :
    decide (b &&& (1 <<< UInt8.ofNat i) ≠ 0) = b.toBitVec.getLsbD i := by
  interval_cases i <;> exact forall_byte b (by decide)

def shiftedIn (r : UInt8) (bits : List Bool) : UInt8 :=
  bits.foldl (fun (r : UInt8) bit => r <<< 1 ||| if bit then 1 else 0) r

theorem msbFirst_shiftedIn : ∀ a b c d e f g h : Bool,
    msbFirst (shiftedIn 0 [a, b, c, d, e, f, g, h]) = [a, b, c, d, e, f, g, h] := by decide

variable (board : Board) {r : UInt32} {mosi : Bool} {g : Gpio}
variable {frames : List Spi.Frame} {frame : Spi.Frame}

theorem At.writeBits (b : UInt8) (h : At r mosi (Spi.selected frames frame) g) {i : Nat}
    (hi : i ≤ 8) :
    At r (if i = 0 then mosi else b.toBitVec.getLsbD 0)
      (Spi.selected frames (frame.shift (bitsDown b i) [])) (spiWriteBits b i g) := by
  induction i generalizing mosi frame g with
  | zero => simpa [spiWriteBits, bitsDown, Spi.Frame.shift] using h
  | succ i ih =>
    have hbit := h.writeBit (b.toBitVec.getLsbD i)
    rw [← and_shifted_ne_zero b (Nat.lt_of_succ_le hi)] at hbit
    simp only [decide_eq_true_eq] at hbit
    have hrest := ih hbit (Nat.le_of_succ_le hi)
    rw [and_shifted_ne_zero b (Nat.lt_of_succ_le hi), Spi.Frame.shift_shift] at hrest
    rw [if_neg (Nat.succ_ne_zero i), bitsDown_succ, spiWriteBits]
    cases i with
    | zero => exact hrest
    | succ i => exact hrest

theorem At.writeByte (b : UInt8) (h : At r mosi (Spi.selected frames frame) g) :
    At r (b.toBitVec.getLsbD 0) (Spi.selected frames (frame.shift (msbFirst b) []))
      (spiWriteByte b g) := h.writeBits b le_rfl

theorem At.readBits (h : At r mosi (Spi.selected frames frame) g) (i : Nat) (v : UInt8) :
    ∃ bits : List Bool, bits.length = i ∧
      (spiReadBits board i v g).1 = shiftedIn v bits ∧
      At r mosi (Spi.selected frames (frame.shift (.replicate i mosi) bits))
        (spiReadBits board i v g).2 := by
  induction i generalizing frame v g with
  | zero => exact ⟨[], rfl, rfl, by simpa [spiReadBits, Spi.Frame.shift] using h⟩
  | succ i ih =>
    obtain ⟨bit, hbit, hnext⟩ := h.readBit board
    obtain ⟨bits, hlength, hvalue, hrest⟩ :=
      ih hnext (v <<< 1 ||| (readPort board g).1)
    refine ⟨bit :: bits, by rw [List.length_cons, hlength], ?_, ?_⟩
    · rw [hbit] at hvalue
      simp only [spiReadBits, hbit]
      exact hvalue
    · rw [Spi.Frame.shift_shift] at hrest
      exact hrest

theorem At.readByte (h : At r mosi (Spi.selected frames frame) g) :
    At r mosi (Spi.selected frames
        (frame.shift (.replicate 8 mosi) (msbFirst (spiReadByte board g).1)))
      (spiReadByte board g).2 := by
  obtain ⟨bits, hlength, hvalue, hrest⟩ := h.readBits board 8 0
  have hbits : msbFirst (spiReadByte board g).1 = bits := by
    rw [spiReadByte, hvalue]
    match bits, hlength with
    | [a, b, c, d, e, f, g, h], _ => exact msbFirst_shiftedIn a b c d e f g h
  rw [hbits]
  exact hrest

def bytesBits (value : Nat → UInt8) (i n : Nat) : List Bool :=
  (List.range' i n).flatMap fun k => msbFirst (value k)

theorem bytesBits_succ (value : Nat → UInt8) (i n : Nat) :
    bytesBits value i (n + 1) = msbFirst (value i) ++ bytesBits value (i + 1) n := by
  simp [bytesBits, List.range'_succ]

theorem toNat_succ {i : UInt8} (h : i.toNat + 1 < 256) : (i + 1).toNat = i.toNat + 1 := by
  rw [UInt8.toNat_add]
  exact Nat.mod_eq_of_lt h

theorem At.writeValue (value : Nat → UInt8) {n : Nat} {i : UInt8} (hn : i.toNat + n < 256)
    (h : At r mosi (Spi.selected frames frame) g) :
    ∃ mosi', At r mosi' (Spi.selected frames (frame.shift (bytesBits value i.toNat n) []))
      (writeValue value n i g) := by
  induction n generalizing mosi frame i g with
  | zero => exact ⟨mosi, by simpa [Chassisd.writeValue, bytesBits, Spi.Frame.shift] using h⟩
  | succ n ih =>
    have hi := toNat_succ (i := i) (by omega)
    obtain ⟨mosi', hrest⟩ := ih (i := i + 1) (by omega) (h.writeByte (value i.toNat))
    refine ⟨mosi', ?_⟩
    rw [Spi.Frame.shift_shift, hi] at hrest
    rw [bytesBits_succ, Chassisd.writeValue]
    exact hrest

theorem At.readValue (value : Nat → UInt8) {n : Nat} {i : UInt8} (hn : i.toNat + n < 256)
    (h : At r mosi (Spi.selected frames frame) g) :
    At r mosi (Spi.selected frames (frame.shift (.replicate (8 * n) mosi)
        (bytesBits (readValue board n i value g).1 i.toNat n)))
      (readValue board n i value g).2 ∧
    ∀ k, k < i.toNat ∨ i.toNat + n ≤ k → (readValue board n i value g).1 k = value k := by
  induction n generalizing frame value i g with
  | zero =>
    exact ⟨by simpa [Chassisd.readValue, bytesBits, Spi.Frame.shift] using h, fun _ _ => rfl⟩
  | succ n ih =>
    have hi := toNat_succ (i := i) (by omega)
    obtain ⟨hrest, hframe⟩ := ih (Function.update value i.toNat (spiReadByte board g).1)
      (i := i + 1) (by omega) (h.readByte board)
    have hfirst : (readValue board (n + 1) i value g).1 i.toNat = (spiReadByte board g).1 := by
      rw [Chassisd.readValue]
      dsimp only
      rw [hframe i.toNat (.inl (by omega)), Function.update_self]
    refine ⟨?_, fun k hk => ?_⟩
    · rw [Spi.Frame.shift_shift, List.replicate_append_replicate, hi] at hrest
      rw [bytesBits_succ, hfirst, show 8 * (n + 1) = 8 + 8 * n by ring]
      exact hrest
    · rw [Chassisd.readValue]
      dsimp only
      rw [hframe k (by omega), Function.update_of_ne (by omega)]

end Bytes

section Transactions

def frameBits (bytes : List UInt8) : List Bool := bytes.flatMap msbFirst

variable (board : Board) {r : UInt32} {mosi : Bool} {g : Gpio}
variable {frames : List Spi.Frame} {frame : Spi.Frame}

theorem frameBits_concat (bytes : List UInt8) (b : UInt8) :
    frameBits (bytes ++ [b]) = frameBits bytes ++ msbFirst b := by simp [frameBits]

theorem At.pagePrefix (mode registerss : UInt8) (h : At r mosi (Spi.selected frames frame) g) :
    At r (registerss.toBitVec.getLsbD 0)
      (Spi.selected frames (frame.shift (frameBits [0x60 ||| mode, registerss]) []))
      (bcmPagePrefix mode registerss g) := by
  have hboth := (h.writeByte (0x60 ||| mode)).writeByte registerss
  rw [Spi.Frame.shift_shift] at hboth
  simpa [frameBits, bcmPagePrefix] using hboth

-- The eight clocks of a read find MOSI as the last bit of 0xFE has left it.
theorem At.status (h : At r mosi (Spi.idle frames) g) :
    ∃ miso, At r false
      (Spi.idle (frames ++ [⟨frameBits [0x60, 0xFE] ++ .replicate 8 false, miso⟩]))
      (statusFrame board g) := by
  have hread := (h.select.pagePrefix spiModeRead pageStatus).readByte board
  rw [Spi.Frame.shift_shift, Spi.Frame.empty_shift] at hread
  exact ⟨_, hread.deselect⟩

theorem At.page (page : UInt8) (h : At r mosi (Spi.idle frames) g) :
    ∃ mosi', At r mosi' (Spi.idle (frames ++ [⟨frameBits [0x61, 0xFF, page], []⟩]))
      (pageFrame page g) := by
  have hpage := (h.select.pagePrefix spiModeWrite pageRegister).writeByte page
  rw [Spi.Frame.shift_shift, Spi.Frame.empty_shift, ← frameBits_concat] at hpage
  exact ⟨_, hpage.deselect⟩

theorem frameBits_append (xs ys : List UInt8) :
    frameBits (xs ++ ys) = frameBits xs ++ frameBits ys := List.flatMap_append

theorem bytesBits_eq (value : Nat → UInt8) (n : Nat) :
    bytesBits value 0 n = frameBits ((List.range n).map value) := by
  rw [bytesBits, frameBits, List.flatMap_map, List.range_eq_range']

theorem At.write (page offset : UInt8) (value : Nat → UInt8) (size : UInt8)
    (h : At r mosi (Spi.idle frames) g) :
    ∃ mosi' status, At r mosi' (Spi.idle (frames ++
        [⟨frameBits [0x60, 0xFE] ++ .replicate 8 false, status⟩,
          ⟨frameBits [0x61, 0xFF, page], []⟩,
          ⟨frameBits ([0x61, offset] ++ (List.range size.toNat).map value), []⟩]))
      (bcm5389Write board page offset value size g) := by
  obtain ⟨status, hstatus⟩ := h.status board
  obtain ⟨mosi₁, hpage⟩ := hstatus.page page
  have hsize : (0 : UInt8).toNat + size.toNat < 256 := by
    rw [UInt8.toNat_zero, Nat.zero_add]
    exact size.toNat_lt
  obtain ⟨mosi₂, hvalue⟩ := (hpage.select.pagePrefix spiModeWrite offset).writeValue value hsize
  rw [Spi.Frame.shift_shift, Spi.Frame.empty_shift, UInt8.toNat_zero, bytesBits_eq,
    ← frameBits_append] at hvalue
  refine ⟨mosi₂, status, ?_⟩
  have hdone := hvalue.deselect
  rw [List.append_assoc, List.append_assoc] at hdone
  exact hdone

theorem At.read (page offset : UInt8) (value : Nat → UInt8) (size : Int8)
    (h : At r mosi (Spi.idle frames) g) :
    ∃ mosi' status status', At r mosi' (Spi.idle (frames ++
        [⟨frameBits [0x60, 0xFE] ++ .replicate 8 false, status⟩,
          ⟨frameBits [0x61, 0xFF, page], []⟩,
          ⟨frameBits [0x60, offset, 0x60, 0xFE] ++ .replicate 8 false, status'⟩,
          ⟨frameBits [0x60, 0xF0] ++ .replicate (8 * size.toUInt8.toNat) false,
            frameBits ((List.range size.toUInt8.toNat).map
              (bcm5389Read board page offset value size g).1)⟩]))
      (bcm5389Read board page offset value size g).2 := by
  obtain ⟨status, hstatus⟩ := h.status board
  obtain ⟨mosi₁, hpage⟩ := hstatus.page page
  have hoffset := ((hpage.select.pagePrefix spiModeRead offset).pagePrefix spiModeRead
    pageStatus).readByte board
  rw [Spi.Frame.shift_shift, Spi.Frame.shift_shift, Spi.Frame.empty_shift,
    ← List.append_assoc (frameBits _), ← frameBits_append] at hoffset
  have hsize : (0 : UInt8).toNat + size.toUInt8.toNat < 256 := by
    rw [UInt8.toNat_zero, Nat.zero_add]
    exact size.toUInt8.toNat_lt
  obtain ⟨hvalue, -⟩ := (hoffset.deselect.select.pagePrefix spiModeRead pageDataio).readValue
    board value hsize
  rw [Spi.Frame.shift_shift, Spi.Frame.empty_shift, UInt8.toNat_zero, bytesBits_eq] at hvalue
  have hdone := hvalue.deselect
  rw [List.append_assoc, List.append_assoc, List.append_assoc] at hdone
  exact ⟨_, status, _, hdone⟩

theorem at_start {r : UInt32} (hclock : clockOf r = true) (hcs : csOf r = true) :
    At r (mosiOf r) (Spi.idle []) ⟨r, []⟩ where
  shadow := by
    change r = levels r true (mosiOf r) true
    conv_lhs => rw [← levels_self r, hclock, hcs]
  seen := rfl
  foreign := by simp

theorem bcm5389_transfers {r : UInt32} (hclock : clockOf r = true) (hcs : csOf r = true)
    (page offset : UInt8) (value : Nat → UInt8) {n : Nat} (hn : n ≤ 127) :
    (∃ status, observed (bcm5389Write board page offset value (.ofNat n) ⟨r, []⟩).trace =
        Spi.idle [⟨frameBits [0x60, 0xFE] ++ .replicate 8 false, status⟩,
          ⟨frameBits [0x61, 0xFF, page], []⟩,
          ⟨frameBits ([0x61, offset] ++ (List.range n).map value), []⟩]) ∧
    (∃ status status', observed (bcm5389Read board page offset value (.ofNat n) ⟨r, []⟩).2.trace =
        Spi.idle [⟨frameBits [0x60, 0xFE] ++ .replicate 8 false, status⟩,
          ⟨frameBits [0x61, 0xFF, page], []⟩,
          ⟨frameBits [0x60, offset, 0x60, 0xFE] ++ .replicate 8 false, status'⟩,
          ⟨frameBits [0x60, 0xF0] ++ .replicate (8 * n) false,
            frameBits ((List.range n).map
              (bcm5389Read board page offset value (.ofNat n) ⟨r, []⟩).1)⟩]) ∧
    (∀ v port, .outl v port ∈ (bcm5389Write board page offset value (.ofNat n) ⟨r, []⟩).trace ∨
        .outl v port ∈ (bcm5389Read board page offset value (.ofNat n) ⟨r, []⟩).2.trace →
      port = 0x588 ∧ SameForeign v r) := by
  have hsize : (UInt8.ofNat n).toNat = n := UInt8.toNat_ofNat_of_lt' (show n < 256 by omega)
  have hsize' : (Int8.ofNat n).toUInt8.toNat = n := hsize
  obtain ⟨_, status, hwrite⟩ := (at_start hclock hcs).write board page offset value (.ofNat n)
  obtain ⟨_, status₁, status₂, hread⟩ :=
    (at_start hclock hcs).read board page offset value (.ofNat n)
  have hwritten := hwrite.seen
  have hreceived := hread.seen
  rw [hsize] at hwritten
  rw [hsize'] at hreceived
  refine ⟨⟨status, hwritten⟩, ⟨status₁, status₂, hreceived⟩, fun v port h => ?_⟩
  exact h.elim (hwrite.foreign v port) (hread.foreign v port)

theorem one_byte_transfers : (∃ status, observed (bcm5389Write ⟨fun _ _ => 0, fun _ _ => 0xFF⟩
      0x01 0x02 (fun _ => 0xA5) (.ofNat 1) ⟨0x8000001, []⟩).trace =
    Spi.idle [⟨frameBits [0x60, 0xFE] ++ .replicate 8 false, status⟩,
      ⟨frameBits [0x61, 0xFF, 0x01], []⟩, ⟨frameBits [0x61, 0x02, 0xA5], []⟩]) :=
  (bcm5389_transfers ⟨fun _ _ => 0, fun _ _ => 0xFF⟩ rfl rfl 0x01 0x02 (fun _ => 0xA5)
    (show 1 ≤ 127 by decide)).1

end Transactions

end Chassisd
