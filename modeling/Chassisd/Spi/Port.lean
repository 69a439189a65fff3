import Mathlib.Data.List.Basic

namespace Chassisd

inductive PortEvent where
  | outl (value : UInt32) (port : UInt16)
  | inl (port : UInt16) (value : UInt32)
  | inb (port : UInt16) (value : UInt8)
  deriving DecidableEq, Repr

-- g_default_one and every access to a port so far.
structure Gpio where
  gDefaultOne : UInt32
  trace : List PortEvent
  deriving DecidableEq, Repr

def gpio1BaseAddr : UInt16 := 0x500
def gpio2BaseAddr : UInt16 := 0x580
def gpio1UseSel : UInt16 := 0x0
def gpio1IoSel : UInt16 := 0x4

def gpioModeOutput : Nat := 0
def gpioModeInput : Nat := 1
def gpioClock : Nat := 0 + 1
def gpioMosi : Nat := 1 + 1
def gpioMiso : Nat := 26 + 1
def gpioCs : Nat := 27 + 1

structure Board where
  inl : List PortEvent → UInt16 → UInt32
  inb : List PortEvent → UInt16 → UInt8

def Gpio.outl (g : Gpio) (value : UInt32) (port : UInt16) : Gpio :=
  { g with trace := g.trace ++ [.outl value port] }

def Gpio.inl (g : Gpio) (board : Board) (port : UInt16) : UInt32 × Gpio :=
  let value := board.inl g.trace port
  (value, { g with trace := g.trace ++ [.inl port value] })

def Gpio.inb (g : Gpio) (board : Board) (port : UInt16) : UInt8 × Gpio :=
  let value := board.inb g.trace port
  (value, { g with trace := g.trace ++ [.inb port value] })

@[elab_as_elim] theorem forall_byte {P : UInt8 → Prop} (b : UInt8)
    (h : ∀ v : BitVec 8, P (.ofBitVec v)) : P b := h b.toBitVec

-- The three pins in the level register at 0x588.
def clockOf (v : UInt32) : Bool := v &&& 0x1 ≠ 0
def mosiOf (v : UInt32) : Bool := v &&& 0x2 ≠ 0
def csOf (v : UInt32) : Bool := v &&& 0x8000000 ≠ 0

def SameForeign (v r : UInt32) : Prop := v &&& 0xF7FFFFFC = r &&& 0xF7FFFFFC

end Chassisd
