import Chassisd.Library.CommandLine
import Chassisd.Spi.Argument
import Chassisd.Spi.Transfer

namespace Chassisd

open CommandLine

section Source

inductive DiagMode where
  | read
  | write
  deriving DecidableEq, Repr

structure DiagArgument where
  pageNum : UInt8
  regNum : UInt8
  regData : Nat → UInt8
  size : Int8
  mode : Option DiagMode

def DiagArgument.zero : DiagArgument := ⟨0, 0, fun _ => 0, 1, none⟩

-- `outside` is the memory around the argument of -v.
def DiagArgument.take (outside : Int → UInt8) (d : DiagArgument) : Char × List Char → DiagArgument
  | ('r', optarg) =>
    { d with regNum := UInt8.ofNat (strtoul16 optarg), mode := some .read }
  | ('w', optarg) =>
    { d with mode := some .write, regNum := UInt8.ofNat (strtoul16 optarg) }
  | ('p', optarg) => { d with pageNum := UInt8.ofNat (strtoul16 optarg) }
  | ('l', optarg) => { d with size := (UInt8.ofNat (strtoul16 optarg)).toInt8 }
  | ('v', optarg) =>
    { d with
      regData := (converStrtoArray d.regData (optarg.map Char.toUInt8) outside
        d.size.toInt.toNat).array }
  | _ => d

def diagLetters : List Char := ['r', 'w', 'p', 'v', 'l']

-- "0x%02x"
def hexByte (b : UInt8) : List Char :=
  let digits := hexText b.toNat
  '0' :: 'x' :: (if digits.length < 2 then '0' :: digits else digits)

-- while(size!=0), from the last byte to the first
def printData (value : Nat → UInt8) : Nat → List Char
  | 0 => []
  | size + 1 => " 0x".toList ++ hexText (value size).toNat ++ [' '] ++ printData value size

def printRead (d : DiagArgument) (value : Nat → UInt8) : List Char :=
  "\n\rpage_num=".toList ++ hexByte d.pageNum ++ ", reg_num=".toList ++ hexByte d.regNum ++
    " Data=".toList ++ printData value d.size.toUInt8.toNat ++ "\n\r".toList

def runDiagArgument (board : Board) (ioperm : Int32) (outside : Int → UInt8)
    (argv : List (List Char)) (g : Gpio) : List Char × Gpio :=
  if argv.length = 1 ∨ argv.length = 2 then ([], g)
  else
    match getopt diagLetters argv.tail with
    | none => ([], g)
    | some options =>
      let d := options.foldl (DiagArgument.take outside) .zero
      let g := deviceGpioInit board ioperm g
      -- calloc of a negative int8_t fails
      if 0 ≤ d.size then
        match d.mode with
        | some .read =>
          let (value, g) := bcm5389Read board d.pageNum d.regNum (fun _ => 0) d.size g
          (printRead d value, g)
        | some .write => ([], bcm5389Write board d.pageNum d.regNum d.regData d.size.toUInt8 g)
        | none => ([], g)
      else ([], g)

-- For other words the source does not say what happens: -v puts one byte in the eight of reg_data
-- for each two characters, mode is set by -r and -w alone, and -w sends as many bytes as -l says.
def WellCalled (argv : List (List Char)) : Prop :=
  (∀ word ∈ argv, word.length ≤ 16) ∧
    (¬(argv.length = 1 ∨ argv.length = 2) → ∀ options ∈ getopt diagLetters argv.tail,
      (options.foldl (DiagArgument.take fun _ => 0) .zero).mode ≠ none ∧
        ((options.foldl (DiagArgument.take fun _ => 0) .zero).mode = some .write →
          (options.foldl (DiagArgument.take fun _ => 0) .zero).size ≤ 8))

instance (argv : List (List Char)) : Decidable (WellCalled argv) :=
  inferInstanceAs (Decidable (_ ∧ _))

structure Invocation where
  argv : List (List Char)
  wellCalled : WellCalled argv

-- Every process starts with its own shadow register.
def spiProcess (board : Board) (ioperm : Int32) (outside : Int → UInt8) (argv : List (List Char))
    (trace : List PortEvent) : List Char × List PortEvent :=
  let (stdout, g) := runDiagArgument board ioperm outside argv ⟨0, trace⟩
  (stdout, g.trace)

def spiPrograms : List (List Char) := ["bcm5389".toList, "bcm5396".toList]

instance (name : List Char) : Decidable (name ∈ spiPrograms) :=
  List.instDecidableMemOfLawfulBEq name spiPrograms

def system (board : Board) (ioperm : Int32) (outside : Int → UInt8) (line : List Char)
    (trace : List PortEvent) : List PortEvent :=
  (commands line).foldl (fun trace command =>
    match words command with
    | [] => trace
    | name :: args =>
      if name ∈ spiPrograms then (spiProcess board ioperm outside (name :: args) trace).2
      else trace) trace

end Source

section Value

def valueOf (text : List Char) : Nat := denoted (text.map Char.toUInt8).reverse

theorem byte_argument (array : Nat → UInt8) (text : List Char) (outside : Int → UInt8)
    (len : Nat) {k : Nat} (hk : k < text.length / 2) :
    ((converStrtoArray array (text.map Char.toUInt8) outside len).array k).toNat =
      valueOf text / 256 ^ k % 256 := by
  have hbyte := byte_converLoop (spells_stringAt (text.map Char.toUInt8) outside) 0
    ⟨array, 0, [1], []⟩ (k := k) (by simpa using hk)
  rw [List.length_reverse, Nat.zero_add] at hbyte
  rw [converStrtoArray_eq]
  exact hbyte

theorem valueOf_concat (text : List Char) (c : Char) :
    valueOf (text ++ [c]) = 16 * valueOf text + (hexNibble c.toUInt8).toNat := by
  rw [valueOf, List.map_append, List.reverse_append]
  simp only [denoted, valueOf, List.map_cons, List.map_nil, List.reverse_singleton,
    List.singleton_append, Nat.ofDigits_cons]
  ring

theorem hexNibble_digitChar : ∀ d < 16, (hexNibble (Nat.digitChar d).toUInt8).toNat = d := by
  decide

theorem valueOf_hexText {text : List Char} (h : valueOf text = 0) (n : Nat) :
    valueOf (text ++ hexText n) = n := by
  induction n using Nat.strong_induction_on with
  | _ n ih =>
    rw [hexText_eq]
    split_ifs with hn
    · rw [valueOf_concat, h, hexNibble_digitChar n hn, Nat.mul_zero, Nat.zero_add]
    · rw [← List.append_assoc, valueOf_concat, ih (n / 16) (by omega),
        hexNibble_digitChar _ (Nat.mod_lt _ (by decide))]
      omega

end Value

section Behind

def Gpio.behind (earlier : List PortEvent) (g : Gpio) : Gpio :=
  { g with trace := earlier ++ g.trace }

def Board.after (board : Board) (earlier : List PortEvent) : Board where
  inl trace := board.inl (earlier ++ trace)
  inb trace := board.inb (earlier ++ trace)

variable (board : Board) (earlier : List PortEvent) (g : Gpio)

theorem outl_behind (value : UInt32) (port : UInt16) :
    (g.behind earlier).outl value port = (g.outl value port).behind earlier := by
  simp [Gpio.outl, Gpio.behind]

theorem inl_behind (port : UInt16) : (g.behind earlier).inl board port =
    ((g.inl (board.after earlier) port).1,
        (g.inl (board.after earlier) port).2.behind earlier) := by
  simp [Gpio.inl, Gpio.behind, Board.after]

theorem writePort_behind (pin : Nat) (value : UInt8) :
    writePort pin value (g.behind earlier) = (writePort pin value g).behind earlier := by
  unfold writePort
  split_ifs <;> simp [Gpio.outl, Gpio.behind]

theorem readPort_behind : readPort board (g.behind earlier) =
    ((readPort (board.after earlier) g).1,
        (readPort (board.after earlier) g).2.behind earlier) := by
  simp [readPort, Gpio.outl, Gpio.inb, Gpio.behind, Board.after]

theorem spiWriteBits_behind (b : UInt8) (i : Nat) :
    spiWriteBits b i (g.behind earlier) = (spiWriteBits b i g).behind earlier := by
  induction i generalizing g with
  | zero => rfl
  | succ i ih =>
    rw [spiWriteBits, writePort_behind]
    exact ih _

theorem spiWriteByte_behind (b : UInt8) :
    spiWriteByte b (g.behind earlier) = (spiWriteByte b g).behind earlier :=
  spiWriteBits_behind earlier g b 8

theorem bcmPagePrefix_behind (mode registerss : UInt8) :
    bcmPagePrefix mode registerss (g.behind earlier) =
      (bcmPagePrefix mode registerss g).behind earlier := by
  simp only [bcmPagePrefix, spiWriteByte_behind]

theorem spiReadBits_behind (i : Nat) (r : UInt8) : spiReadBits board i r (g.behind earlier) =
    ((spiReadBits (board.after earlier) i r g).1,
      (spiReadBits (board.after earlier) i r g).2.behind earlier) := by
  induction i generalizing r g with
  | zero => rfl
  | succ i ih =>
    simp only [spiReadBits, readPort_behind]
    exact ih _ _

theorem spiReadByte_behind : spiReadByte board (g.behind earlier) =
    ((spiReadByte (board.after earlier) g).1,
      (spiReadByte (board.after earlier) g).2.behind earlier) :=
  spiReadBits_behind board earlier g 8 0

theorem readValue_behind (size : Nat) (i : UInt8) (value : Nat → UInt8) :
    readValue board size i value (g.behind earlier) =
      ((readValue (board.after earlier) size i value g).1,
        (readValue (board.after earlier) size i value g).2.behind earlier) := by
  induction size generalizing i value g with
  | zero => rfl
  | succ size ih =>
    simp only [readValue, spiReadByte_behind]
    exact ih _ _ _

theorem writeValue_behind (value : Nat → UInt8) (size : Nat) (i : UInt8) :
    writeValue value size i (g.behind earlier) = (writeValue value size i g).behind earlier := by
  induction size generalizing i g with
  | zero => rfl
  | succ size ih =>
    rw [writeValue, spiWriteByte_behind]
    exact ih _ _

theorem statusFrame_behind :
    statusFrame board (g.behind earlier) =
      (statusFrame (board.after earlier) g).behind earlier := by
  simp only [statusFrame, writePort_behind, bcmPagePrefix_behind, spiReadByte_behind]

theorem pageFrame_behind (page : UInt8) :
    pageFrame page (g.behind earlier) = (pageFrame page g).behind earlier := by
  simp only [pageFrame, writePort_behind, bcmPagePrefix_behind, spiWriteByte_behind]

theorem bcm5389Write_behind (page offset : UInt8) (value : Nat → UInt8) (size : UInt8) :
    bcm5389Write board page offset value size (g.behind earlier) =
      (bcm5389Write (board.after earlier) page offset value size g).behind earlier := by
  simp only [bcm5389Write, statusFrame_behind, pageFrame_behind, writePort_behind,
    bcmPagePrefix_behind, writeValue_behind]

theorem bcm5389Read_behind (page offset : UInt8) (value : Nat → UInt8) (size : Int8) :
    bcm5389Read board page offset value size (g.behind earlier) =
      ((bcm5389Read (board.after earlier) page offset value size g).1,
        (bcm5389Read (board.after earlier) page offset value size g).2.behind earlier) := by
  simp only [bcm5389Read, statusFrame_behind, pageFrame_behind, writePort_behind,
    bcmPagePrefix_behind, spiReadByte_behind, readValue_behind]

theorem setGpioDirection_behind (bank pin mode : Nat) :
    setGpioDirection board bank pin mode (g.behind earlier) =
      (setGpioDirection (board.after earlier) bank pin mode g).behind earlier := by
  simp only [setGpioDirection, inl_behind, outl_behind]

theorem writeLevel_behind (pin : Nat) (value : UInt8) :
    writeLevel pin value (g.behind earlier) = (writeLevel pin value g).behind earlier := by
  unfold writeLevel
  split_ifs <;> simp [Gpio.outl, Gpio.behind]

theorem deviceGpioInit_behind (ioperm : Int32) : deviceGpioInit board ioperm (g.behind earlier) =
    (deviceGpioInit (board.after earlier) ioperm g).behind earlier := by
  unfold deviceGpioInit
  split_ifs
  · rfl
  · simp only [setGpioDirection_behind, writeLevel_behind, inl_behind]
    rfl

theorem latchBoard_after (init : UInt16 → UInt32) (inb : List PortEvent → UInt16 → UInt8) :
    (latchBoard init inb).after earlier =
      latchBoard (latch init earlier) fun trace => inb (earlier ++ trace) := by
  have hlatch (trace : List PortEvent) :
      latch init (earlier ++ trace) = latch (latch init earlier) trace := by
    funext port
    exact List.foldl_append
  simp only [Board.after, latchBoard, hlatch]

end Behind

section Process

variable {trace : List PortEvent} {g : Gpio}

theorem observed_setGpioDirection (board : Board) (pin mode : Nat) :
    (setGpioDirection board 1 pin mode g).trace.flatMap decode = g.trace.flatMap decode := by
  simp [setGpioDirection, Gpio.inl, Gpio.outl, gpio2BaseAddr, gpio1UseSel, gpio1IoSel, decode]

theorem observed_deviceGpioInit (init : UInt16 → UInt32)
    (inb : List PortEvent → UInt16 → UInt8) {ioperm : Int32} (h : ¬ioperm < 0) :
    observed (deviceGpioInit (latchBoard init inb) ioperm ⟨0, []⟩).trace = Spi.idle [.empty] := by
  rw [deviceGpioInit, if_neg h, observed]
  simp only [writeLevel_clock_high, writeLevel_mosi_low, writeLevel_cs_high, Gpio.inl,
    List.flatMap_append, observed_setGpioDirection, gDefaultOne_setGpioDirection]
  rfl

-- The board from the second process on: its ports hold what the earlier ones have left there.
variable (init : UInt16 → UInt32) (inb : List PortEvent → UInt16 → UInt8)

theorem at_process {frames : List Spi.Frame} (h : observed trace = Spi.idle frames)
    {ioperm : Int32} (hio : ¬ioperm < 0) :
    ∃ earlier, deviceGpioInit (latchBoard init inb) ioperm ⟨0, trace⟩ =
        Gpio.behind earlier ⟨0xFFFFFFFD, []⟩ ∧
      observed earlier = Spi.idle (frames ++ [.empty]) := by
  have hbehind := deviceGpioInit_behind (latchBoard init inb) trace ⟨0, []⟩ ioperm
  rw [latchBoard_after] at hbehind
  have hlevels := deviceGpioInit_levels (latch init trace) (fun more => inb (trace ++ more)) hio
  have hseen := observed_deviceGpioInit (latch init trace) (fun more => inb (trace ++ more)) hio
  generalize deviceGpioInit (latchBoard (latch init trace) fun more => inb (trace ++ more)) ioperm
    ⟨0, []⟩ = g at hbehind hlevels hseen
  refine ⟨trace ++ g.trace, ?_, ?_⟩
  · have hstart : Gpio.behind trace ⟨0, []⟩ = ⟨0, trace⟩ := by simp [Gpio.behind]
    rw [← hstart, hbehind, Gpio.behind, Gpio.behind, hlevels.2, List.append_nil]
  · rw [observed_append, h]
    exact Spi.watch_idle _ frames hseen

theorem observed_behind {earlier : List PortEvent} {frames more : List Spi.Frame}
    (h : observed earlier = Spi.idle frames) (hg : observed g.trace = Spi.idle more) :
    observed (g.behind earlier).trace = Spi.idle (frames ++ more) := by
  rw [Gpio.behind, observed_append, h]
  exact Spi.watch_idle more frames hg

theorem observed_process_write {frames : List Spi.Frame} (h : observed trace = Spi.idle frames)
    {ioperm : Int32} (hio : ¬ioperm < 0) (page offset : UInt8) (value : Nat → UInt8)
    (size : UInt8) :
    ∃ status, observed (bcm5389Write (latchBoard init inb) page offset value size
        (deviceGpioInit (latchBoard init inb) ioperm ⟨0, trace⟩)).trace =
      Spi.idle (frames ++ [.empty] ++ [⟨frameBits [0x60, 0xFE] ++ .replicate 8 false, status⟩,
        ⟨frameBits [0x61, 0xFF, page], []⟩,
        ⟨frameBits ([0x61, offset] ++ (List.range size.toNat).map value), []⟩]) := by
  obtain ⟨earlier, hinit, hseen⟩ := at_process init inb h hio
  obtain ⟨_, status, hwrite⟩ := (at_start (r := 0xFFFFFFFD) rfl rfl).write
    ((latchBoard init inb).after earlier) page offset value size
  rw [hinit, bcm5389Write_behind]
  exact ⟨status, observed_behind hseen hwrite.seen⟩

theorem observed_process_read {frames : List Spi.Frame} (h : observed trace = Spi.idle frames)
    {ioperm : Int32} (hio : ¬ioperm < 0) (page offset : UInt8) (value : Nat → UInt8)
    (size : Int8) :
    ∃ status status' data, observed (bcm5389Read (latchBoard init inb) page offset value size
        (deviceGpioInit (latchBoard init inb) ioperm ⟨0, trace⟩)).2.trace =
      Spi.idle (frames ++ [.empty] ++ [⟨frameBits [0x60, 0xFE] ++ .replicate 8 false, status⟩,
        ⟨frameBits [0x61, 0xFF, page], []⟩,
        ⟨frameBits [0x60, offset, 0x60, 0xFE] ++ .replicate 8 false, status'⟩,
        ⟨frameBits [0x60, 0xF0] ++ .replicate (8 * size.toUInt8.toNat) false, data⟩]) := by
  obtain ⟨earlier, hinit, hseen⟩ := at_process init inb h hio
  obtain ⟨_, status, status', hread⟩ := (at_start (r := 0xFFFFFFFD) rfl rfl).read
    ((latchBoard init inb).after earlier) page offset value size
  rw [hinit, bcm5389Read_behind]
  exact ⟨status, status', _, observed_behind hseen hread.seen⟩

end Process

end Chassisd
