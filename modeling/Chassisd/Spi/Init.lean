import Chassisd.Spi.Port

namespace Chassisd

section Source

variable (board : Board)

def setGpioDirection (bank : Nat) (pin mode : Nat) (g : Gpio) : Gpio :=
  let base := if bank = 0 then gpio1BaseAddr else gpio2BaseAddr
  let baseAddrSel := base + gpio1UseSel
  let baseAddrIo := base + gpio1IoSel
  let numBit := pin % 32
  let bit : UInt32 := 1 <<< UInt32.ofNat (numBit - 1)
  let (val, g) := g.inl board baseAddrSel
  let g := g.outl (val ||| bit) baseAddrSel
  let (val, g) := g.inl board baseAddrIo
  let tmp :=
    if mode = gpioModeOutput then val &&& ~~~bit
    else if mode = gpioModeInput then val ||| bit
    else 0
  g.outl tmp baseAddrIo

-- Without hardware access write_level touches the shadow and port 0x588 only; the low level of MOSI
-- is or-ed in complemented, where its siblings mask the bit out.
def writeLevel (pin : Nat) (value : UInt8) (g : Gpio) : Gpio :=
  let put (v : UInt32) : Gpio := { g with gDefaultOne := v }.outl v 0x588
  if pin = gpioCs then
    put (if value = 1 then g.gDefaultOne ||| 0x8000000
      else if value = 0 then g.gDefaultOne &&& ~~~0x8000000 else g.gDefaultOne)
  else if pin = gpioMosi then
    put (if value = 1 then g.gDefaultOne ||| 0x2
      else if value = 0 then g.gDefaultOne ||| ~~~0x2 else g.gDefaultOne)
  else if pin = gpioClock then
    put (if value = 1 then g.gDefaultOne ||| 0x1
      else if value = 0 then g.gDefaultOne &&& ~~~0x1 else g.gDefaultOne)
  else g

-- ispVMDelay(1000) touches no port. ioperm is what the call to it returns.
def deviceGpioInit (ioperm : Int32) (g : Gpio) : Gpio :=
  if ioperm < 0 then g
  else
    let g := setGpioDirection board 1 gpioClock gpioModeOutput g
    let g := setGpioDirection board 1 gpioCs gpioModeOutput g
    let g := setGpioDirection board 1 gpioMosi gpioModeOutput g
    let g := setGpioDirection board 1 gpioMiso gpioModeInput g
    let g := writeLevel gpioClock 1 g
    let g := writeLevel gpioMosi 0 g
    let g := writeLevel gpioCs 1 g
    let (value, g) := g.inl board 0x588
    { g with gDefaultOne := value }

end Source

section Latches

-- A port reads what was last written to it, or what it held before.
def latch (init : UInt16 → UInt32) (trace : List PortEvent) (port : UInt16) : UInt32 :=
  trace.foldl (fun held e =>
    match e with
    | .outl v p => if p = port then v else held
    | _ => held) (init port)

def latchBoard (init : UInt16 → UInt32) (inb : List PortEvent → UInt16 → UInt8) : Board :=
  ⟨latch init, inb⟩

structure InitExact (init : UInt16 → UInt32) (g : Gpio) : Prop where
  foreign : ∀ v, .outl v 0x588 ∈ g.trace → SameForeign v (init 0x588)
  clock : clockOf (latch init g.trace 0x588) = true
  mosi : mosiOf (latch init g.trace 0x588) = false
  cs : csOf (latch init g.trace 0x588) = true
  shadow : g.gDefaultOne = latch init g.trace 0x588

variable {board : Board} {g : Gpio} {init : UInt16 → UInt32}

@[simp] theorem gDefaultOne_setGpioDirection (bank : Nat) (pin mode : Nat) :
    (setGpioDirection board bank pin mode g).gDefaultOne = g.gDefaultOne := rfl

theorem writeLevel_clock_high : writeLevel gpioClock 1 g =
    ⟨g.gDefaultOne ||| 0x1, g.trace ++ [.outl (g.gDefaultOne ||| 0x1) 0x588]⟩ := rfl

theorem writeLevel_mosi_low : writeLevel gpioMosi 0 g =
    ⟨g.gDefaultOne ||| ~~~0x2, g.trace ++ [.outl (g.gDefaultOne ||| ~~~0x2) 0x588]⟩ := rfl

theorem writeLevel_cs_high : writeLevel gpioCs 1 g =
    ⟨g.gDefaultOne ||| 0x8000000, g.trace ++ [.outl (g.gDefaultOne ||| 0x8000000) 0x588]⟩ := rfl

theorem latch_concat (trace : List PortEvent) (v : UInt32) (port : UInt16) :
    latch init (trace ++ [.outl v port]) port = v := by
  simp [latch, List.foldl_append]

theorem latch_concat_inl (trace : List PortEvent) (v : UInt32) (port port' : UInt16) :
    latch init (trace ++ [.inl port' v]) port = latch init trace port := by
  simp [latch, List.foldl_append]

theorem deviceGpioInit_eq (board : Board) {ioperm : Int32} (h : ¬ioperm < 0) :
    ∃ before after, after = before ++ [.outl 0x1 0x588] ++ [.outl 0xFFFFFFFD 0x588] ++
        [.outl 0xFFFFFFFD 0x588] ∧
      deviceGpioInit board ioperm ⟨0, []⟩ =
        ⟨board.inl after 0x588, after ++ [.inl 0x588 (board.inl after 0x588)]⟩ := by
  rw [deviceGpioInit, if_neg h]
  simp only [writeLevel_clock_high, writeLevel_mosi_low, writeLevel_cs_high,
    gDefaultOne_setGpioDirection]
  exact ⟨_, _, rfl, rfl⟩

variable (init) (inb : List PortEvent → UInt16 → UInt8)

-- Where the initialisation ends is right: only the way there is not.
theorem deviceGpioInit_levels {ioperm : Int32} (h : ¬ioperm < 0) :
    latch init (deviceGpioInit (latchBoard init inb) ioperm ⟨0, []⟩).trace 0x588 = 0xFFFFFFFD ∧
      (deviceGpioInit (latchBoard init inb) ioperm ⟨0, []⟩).gDefaultOne = 0xFFFFFFFD := by
  obtain ⟨before, after, hafter, heq⟩ := deviceGpioInit_eq (latchBoard init inb) h
  have hread : latch init after 0x588 = 0xFFFFFFFD := by rw [hafter, latch_concat]
  rw [heq]
  exact ⟨by rw [latch_concat_inl, hread], hread⟩

theorem init_not_exact (ioperm : Int32) :
    ¬InitExact init (deviceGpioInit (latchBoard init inb) ioperm ⟨0, []⟩) := by
  intro hexact
  by_cases h : ioperm < 0
  · rw [deviceGpioInit, if_pos h] at hexact
    have hclock := hexact.clock
    rw [← hexact.shadow] at hclock
    exact absurd hclock (by decide)
  · obtain ⟨before, after, rfl, heq⟩ := deviceGpioInit_eq (latchBoard init inb) h
    rw [heq] at hexact
    have hzeros := hexact.foreign 0x1 (by simp)
    have hones := hexact.foreign 0xFFFFFFFD (by simp)
    exact absurd (hzeros.trans hones.symm) (by decide)

theorem foreign_pins_raised :
    .outl 0xFFFFFFFD 0x588 ∈
        (deviceGpioInit (latchBoard (fun _ => 0) fun _ _ => 0) 0 ⟨0, []⟩).trace ∧
      ¬InitExact (fun _ => 0)
        (deviceGpioInit (latchBoard (fun _ => 0) fun _ _ => 0) 0 ⟨0, []⟩) := by
  refine ⟨by decide, fun h => absurd (h.foreign 0xFFFFFFFD (by decide)) ?_⟩
  unfold SameForeign
  decide

end Latches

end Chassisd
