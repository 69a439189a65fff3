import Chassisd.Spi.Registers

namespace Chassisd

open CommandLine

section Source

-- The data register 0xF0 gives what the register held when the last read named it.
structure Chip where
  regs : Registers
  page : UInt8
  data : List UInt8

def Chip.take (c : Chip) : List UInt8 → Chip
  | 0x60 :: offset :: bytes =>
    if offset = 0xFE ∨ offset = 0xF0 then { c with regs := c.regs.take (0x60 :: offset :: bytes) }
    else { c with page := c.regs.page, data := c.regs.file c.regs.page offset }
  | bytes => { c with regs := c.regs.take bytes }

def Chip.watch (c : Chip) (frames : List Spi.Frame) : Chip :=
  frames.foldl (fun c frame => c.take (packed frame.mosi)) c

def Chip.bit (c : Chip) (n : Nat) : Bool := (frameBits c.data).getD n false

-- On MISO the switch puts a register of the page bit by bit, after the two bytes that ask for it.
def AnswersReads (c : Chip) (page : UInt8) (inb : List PortEvent → UInt16 → UInt8) : Prop :=
  ∀ trace, frameBits [0x60, 0xF0] <+: (observed trace).frame.mosi →
    (c.watch (observed trace).frames).page = page →
      decide (inb trace 0x58b &&& 0x4 ≠ 0) =
        (c.watch (observed trace).frames).bit ((observed trace).frame.mosi.length - 16)

def Chip.inb (c : Chip) (trace : List PortEvent) (_ : UInt16) : UInt8 :=
  if (c.watch (observed trace).frames).bit ((observed trace).frame.mosi.length - 16) then 0x4 else 0

theorem answersReads_inb (c : Chip) (page : UInt8) : AnswersReads c page c.inb := by
  intro trace _ _
  unfold Chip.inb
  split_ifs with hbit
  · rw [hbit]
    rfl
  · rw [Bool.not_eq_true] at hbit
    rw [hbit]
    rfl

end Source

section Watch

variable (c : Chip)

theorem regs_take (bytes : List UInt8) : (c.take bytes).regs = c.regs.take bytes := by
  unfold Chip.take
  split
  · split_ifs
    · rfl
    · rfl
  · rfl

theorem regs_watch (frames : List Spi.Frame) :
    (c.watch frames).regs = c.regs.watch frames := by
  induction frames generalizing c with
  | nil => rfl
  | cons frame frames ih =>
    rw [Chip.watch, List.foldl_cons, Registers.watch, List.foldl_cons, ← regs_take]
    exact ih _

theorem watch_chip_cons (mosi miso : List Bool) (frames : List Spi.Frame) :
    c.watch (⟨mosi, miso⟩ :: frames) = (c.take (packed mosi)).watch frames := rfl

theorem watch_append_chip (xs ys : List Spi.Frame) :
    c.watch (xs ++ ys) = (c.watch xs).watch ys := List.foldl_append

def namingFrames (page offset : UInt8) (status status' : List Bool) : List Spi.Frame :=
  [⟨frameBits [0x60, 0xFE] ++ .replicate 8 false, status⟩, ⟨frameBits [0x61, 0xFF, page], []⟩,
    ⟨frameBits [0x60, offset, 0x60, 0xFE] ++ .replicate 8 false, status'⟩]

theorem watch_named (status status' : List Bool) (page : UInt8) {offset : UInt8}
    (h : offset ≠ 0xFE ∧ offset ≠ 0xF0) :
    let c' := c.watch (namingFrames page offset status status')
    c'.page = page ∧ c'.data = c.regs.file page offset := by
  intro c'
  have hpage := packed_frameBits [0x61, 0xFF, page] []
  rw [List.append_nil] at hpage
  have hwatch : c' = ((c.take (0x60 :: 0xFE :: packed (.replicate 8 false))).take
      [0x61, 0xFF, page]).take (0x60 :: offset :: 0x60 :: 0xFE :: packed (.replicate 8 false)) := by
    simp only [c', namingFrames, watch_chip_cons, packed_frameBits, hpage]
    rfl
  rw [hwatch, Chip.take, if_neg (by tauto)]
  simp only [regs_take]
  exact ⟨rfl, rfl⟩

theorem AnswersReads.after {c : Chip} {page : UInt8} {inb : List PortEvent → UInt16 → UInt8}
    (h : AnswersReads c page inb) {earlier : List PortEvent} {frames : List Spi.Frame}
    (hearlier : observed earlier = Spi.idle frames) :
    AnswersReads (c.watch frames) page fun trace => inb (earlier ++ trace) := by
  intro trace
  have hseen : observed (earlier ++ trace) = (observed trace).behind frames := by
    have hbehind := Spi.watch_behind frames (Spi.idle []) (trace.flatMap decode)
    rw [observed_append, hearlier, observed, ← hbehind, Spi.Device.behind, Spi.idle, Spi.idle,
      List.append_nil]
  have hbit := h (earlier ++ trace)
  rw [hseen] at hbit
  rw [← watch_append_chip]
  exact hbit

end Watch

section Bits

theorem getD_frameBits (data : List UInt8) (k : Nat) {j : Nat} (hj : j < 8) :
    (frameBits data).getD (8 * k + j) false = (msbFirst (data.getD k 0)).getD j false := by
  induction data generalizing k with
  | nil =>
    have hzero : ∀ j < 8, (msbFirst 0).getD j false = false := by decide
    exact (hzero j hj).symm
  | cons b data ih =>
    have hlength : (msbFirst b).length = 8 := rfl
    cases k with
    | zero =>
      rw [Nat.mul_zero, Nat.zero_add]
      exact List.getD_append _ _ _ _ (by omega)
    | succ k =>
      have hindex : 8 * (k + 1) + j - (msbFirst b).length = 8 * k + j := by omega
      rw [show frameBits (b :: data) = msbFirst b ++ frameBits data from rfl,
        List.getD_append_right _ _ _ _ (by omega), hindex]
      exact ih k

theorem byte_bits (c : Chip) (k : Nat) :
    shiftedIn 0 ((List.range' (8 * k) 8).map c.bit) = c.data.getD k 0 := by
  have hbits : (List.range' (8 * k) 8).map c.bit = msbFirst (c.data.getD k 0) := by
    have hmap : (List.range' (8 * k) 8).map c.bit =
        (List.range 8).map fun j => (msbFirst (c.data.getD k 0)).getD j false := by
      rw [List.range'_eq_map_range, List.map_map]
      exact List.map_congr_left fun j hj => getD_frameBits _ k (List.mem_range.mp hj)
    rw [hmap]
    rfl
  rw [hbits]
  exact shiftedIn_bits (c.data.getD k 0).toBitVec

end Bits

section Reading

variable {c : Chip} {page : UInt8} {board : Board} {r : UInt32} {mosi : Bool} {g : Gpio}
variable {frames : List Spi.Frame} {frame : Spi.Frame}

theorem length_of_begins (h : frameBits [0x60, 0xF0] <+: frame.mosi) :
    16 ≤ frame.mosi.length := h.length_le

theorem begins_shift (h : frameBits [0x60, 0xF0] <+: frame.mosi) (a b : List Bool) :
    frameBits [0x60, 0xF0] <+: (frame.shift a b).mosi := h.trans (List.prefix_append _ _)

theorem answered_bit (ha : AnswersReads c page board.inb) (hpage : (c.watch frames).page = page)
    (h : At r mosi (Spi.selected frames frame) g) (hb : frameBits [0x60, 0xF0] <+: frame.mosi) :
    (readPort board g).1 =
      if (c.watch frames).bit (frame.mosi.length - 16) then 1 else 0 := by
  have hlow : readPort board g = (((board.inb (g.trace ++
      [.outl (levels r false mosi false) 0x588]) 0x58b) &&& 0x4) >>> 2, (readPort board g).2) := by
    simp only [readPort, Gpio.outl, Gpio.inb, h.shadow, levels_clock_low]
    rfl
  have hseen : observed (g.trace ++ [.outl (levels r false mosi false) 0x588]) =
      ⟨false, false, frame, frames⟩ := by
    rw [observed_append, h.seen, List.flatMap_singleton, decode_levels]
    rfl
  have hbit := ha (g.trace ++ [.outl (levels r false mosi false) 0x588])
  rw [hseen] at hbit
  rw [hlow, miso_shifted, ← hbit hb hpage]
  simp only [decide_eq_true_eq]

theorem answered_bits (ha : AnswersReads c page board.inb) (hpage : (c.watch frames).page = page)
    (h : At r mosi (Spi.selected frames frame) g) (hb : frameBits [0x60, 0xF0] <+: frame.mosi)
    (i : Nat) (v : UInt8) :
    (spiReadBits board i v g).1 =
      shiftedIn v ((List.range' (frame.mosi.length - 16) i).map (c.watch frames).bit) := by
  induction i generalizing frame v g with
  | zero => rfl
  | succ i ih =>
    obtain ⟨bit, -, hnext⟩ := h.readBit board
    have hlong := length_of_begins hb
    have hrest := ih hnext (begins_shift hb _ _) (v <<< 1 ||| (readPort board g).1)
    have hlength : (frame.shift [mosi] [bit]).mosi.length - 16 = frame.mosi.length - 16 + 1 := by
      simp [Spi.Frame.shift]
      omega
    rw [hlength] at hrest
    rw [List.range'_succ, List.map_cons]
    refine hrest.trans ?_
    rw [answered_bit ha hpage h hb]
    rfl

theorem answered_byte (ha : AnswersReads c page board.inb) (hpage : (c.watch frames).page = page)
    (h : At r mosi (Spi.selected frames frame) g) (hb : frameBits [0x60, 0xF0] <+: frame.mosi)
    {k : Nat} (hk : frame.mosi.length = 16 + 8 * k) :
    (spiReadByte board g).1 = (c.watch frames).data.getD k 0 := by
  rw [spiReadByte, answered_bits ha hpage h hb, hk, Nat.add_sub_cancel_left]
  exact byte_bits (c.watch frames) k

theorem answered_value (ha : AnswersReads c page board.inb) (hpage : (c.watch frames).page = page)
    (value : Nat → UInt8) {n : Nat} {i : UInt8} (hn : i.toNat + n < 256)
    (h : At r mosi (Spi.selected frames frame) g) (hb : frameBits [0x60, 0xF0] <+: frame.mosi)
    (hi : frame.mosi.length = 16 + 8 * i.toNat) :
    ∀ k, i.toNat ≤ k → k < i.toNat + n →
      (readValue board n i value g).1 k = (c.watch frames).data.getD k 0 := by
  induction n generalizing frame value i g with
  | zero => exact fun k hle hlt => absurd hlt (by omega)
  | succ n ih =>
    have hbyte := h.readByte board
    have hnext := toNat_succ (i := i) (by omega)
    intro k hle hlt
    rw [readValue]
    dsimp only
    rcases hle.eq_or_lt with rfl | hgt
    · obtain ⟨-, hframe⟩ := hbyte.readValue board
        (Function.update value i.toNat (spiReadByte board g).1) (n := n) (i := i + 1) (by omega)
      rw [hframe i.toNat (.inl (by omega)), Function.update_self]
      exact answered_byte ha hpage h hb hi
    · refine ih (Function.update value i.toNat (spiReadByte board g).1) (i := i + 1) (by omega)
        hbyte (begins_shift hb _ _) ?_ k (by omega) (by omega)
      simp [Spi.Frame.shift]
      omega

theorem answered_read (ha : AnswersReads c page board.inb) (h : At r mosi (Spi.idle frames) g)
    {offset : UInt8} (hoffset : offset ≠ 0xFE ∧ offset ≠ 0xF0) (value : Nat → UInt8)
    (size : Int8) : ∀ k < size.toUInt8.toNat, (bcm5389Read board page offset value size g).1 k =
      ((c.watch frames).regs.file page offset).getD k 0 := by
  obtain ⟨status, hstatus⟩ := h.status board
  obtain ⟨mosi', hpage⟩ := hstatus.page page
  have hnamed := ((hpage.select.pagePrefix spiModeRead offset).pagePrefix spiModeRead
    pageStatus).readByte board
  rw [Spi.Frame.shift_shift, Spi.Frame.shift_shift, Spi.Frame.empty_shift,
    ← List.append_assoc (frameBits _), ← frameBits_append] at hnamed
  have hasked := hnamed.deselect.select.pagePrefix spiModeRead pageDataio
  rw [List.append_assoc, List.append_assoc] at hasked
  intro k hk
  have hsize : (0 : UInt8).toNat + size.toUInt8.toNat < 256 := by
    rw [UInt8.toNat_zero, Nat.zero_add]
    exact size.toUInt8.toNat_lt
  obtain ⟨hchosen, hdata⟩ := watch_named (c.watch frames) status _ page hoffset
  rw [← watch_append_chip] at hchosen hdata
  rw [← hdata]
  refine answered_value ha hchosen value hsize hasked ?_ rfl k (Nat.zero_le k) (by simpa using hk)
  exact List.prefix_refl _

end Reading

section Process

variable {c : Chip} {init : UInt16 → UInt32} {inb : List PortEvent → UInt16 → UInt8}
variable {ioperm : Int32} {trace : List PortEvent}

theorem printData_congr {value value' : Nat → UInt8} {n : Nat}
    (h : ∀ k < n, value k = value' k) : printData value n = printData value' n := by
  induction n with
  | zero => rfl
  | succ n ih =>
    rw [printData, printData, h n (Nat.lt_succ_self n), ih fun k hk => h k (Nat.lt_succ_of_lt hk)]

theorem printRead_congr (d : DiagArgument) {value value' : Nat → UInt8}
    (h : ∀ k < d.size.toUInt8.toNat, value k = value' k) :
    printRead d value = printRead d value' := by
  unfold printRead
  rw [printData_congr h]

def readOf (outside : Int → UInt8) (argv : List (List Char)) : Option DiagArgument :=
  if argv.length = 1 ∨ argv.length = 2 then none
  else
    match getopt diagLetters argv.tail with
    | none => none
    | some options =>
      let d := options.foldl (DiagArgument.take outside) .zero
      if 0 ≤ d.size ∧ d.mode = some .read then some d else none

variable {outside : Int → UInt8} {argv : List (List Char)} {d : DiagArgument}

theorem spiProcess_reading (board : Board) (h : readOf outside argv = some d) :
    spiProcess board ioperm outside argv trace =
      let read := bcm5389Read board d.pageNum d.regNum (fun _ => 0) d.size
        (deviceGpioInit board ioperm ⟨0, trace⟩)
      (printRead d read.1, read.2.trace) := by
  unfold readOf at h
  rw [spiProcess, runDiagArgument]
  split_ifs at h with hargc
  rw [if_neg hargc]
  cases hopt : getopt diagLetters argv.tail with
  | none => rw [hopt] at h; cases h
  | some options =>
    rw [hopt] at h
    dsimp only at h ⊢
    split_ifs at h with hread
    obtain rfl := Option.some.inj h
    rw [if_pos hread.1, hread.2]

theorem writesOf_reading (h : readOf outside argv = some d) : writesOf outside argv = [] := by
  unfold readOf at h
  unfold writesOf
  split_ifs at h with hargc
  rw [if_neg hargc]
  cases hopt : getopt diagLetters argv.tail with
  | none => rfl
  | some options =>
    rw [hopt] at h
    dsimp only at h ⊢
    split_ifs at h with hread
    rw [if_neg (by rw [hread.2]; simp)]

theorem process_reads (hidle : BusIdle trace) (hio : ¬ioperm < 0)
    (h : readOf outside argv = some d) :
    (∃ value, (spiProcess (latchBoard init inb) ioperm outside argv trace).1 =
        printRead d value) ∧
      BusIdle (spiProcess (latchBoard init inb) ioperm outside argv trace).2 ∧
      ∀ regs, registersAfter regs (spiProcess (latchBoard init inb) ioperm outside argv trace).2 =
        registersAfter regs trace := by
  have hwrites := writesOf_reading h
  have hregs := fun regs => @spiProcess_writes init inb ioperm outside trace regs hidle hio argv
    (by rw [hwrites]; exact fun w hw => absurd hw List.not_mem_nil)
  rw [hwrites] at hregs
  have hprinted := congrArg Prod.fst (@spiProcess_reading ioperm trace outside argv d
    (latchBoard init inb) h)
  exact ⟨⟨_, hprinted⟩, (hregs ⟨0, fun _ _ => []⟩).1, fun regs => (hregs regs).2⟩

theorem process_prints (ha : AnswersReads c d.pageNum inb) (hidle : BusIdle trace)
    (hio : ¬ioperm < 0) (h : readOf outside argv = some d)
    (hoffset : d.regNum ≠ 0xFE ∧ d.regNum ≠ 0xF0) :
    (spiProcess (latchBoard init inb) ioperm outside argv trace).1 =
      printRead d fun k => (registersAfter c.regs trace d.pageNum d.regNum).getD k 0 := by
  obtain ⟨frames, hframes⟩ := hidle
  obtain ⟨earlier, hinit, hseen⟩ := at_process init inb hframes hio
  have hchip : AnswersReads (c.watch (frames ++ [.empty])) d.pageNum
      ((latchBoard init inb).after earlier).inb := ha.after hseen
  have hread := answered_read hchip (at_start (r := 0xFFFFFFFD) rfl rfl) hoffset (fun _ => 0)
    d.size
  have hfile : ((c.watch (frames ++ [.empty])).watch []).regs.file =
      registersAfter c.regs trace := by
    rw [← watch_append_chip, List.append_nil, watch_append_chip, regs_watch, regs_watch,
      registersAfter, hframes]
    rfl
  rw [hfile] at hread
  have hprinted := congrArg Prod.fst (@spiProcess_reading ioperm trace outside argv d
    (latchBoard init inb) h)
  rw [hinit, bcm5389Read_behind] at hprinted
  exact hprinted.trans (printRead_congr d hread)

def processes (board : Board) (ioperm : Int32) (outside : Int → UInt8)
    (calls : List Invocation) (trace : List PortEvent) : List PortEvent :=
  calls.foldl (fun trace call => (spiProcess board ioperm outside call.argv trace).2) trace

def Invocation.writes (outside : Int → UInt8) (call : Invocation) : List RegisterWrite :=
  writesOf outside call.argv

theorem processes_writes (hidle : BusIdle trace) (hio : ¬ioperm < 0) (regs : Registers)
    {calls : List Invocation}
    (hpage : ∀ w ∈ calls.flatMap (Invocation.writes outside), w.offset ≠ 0xFF) :
    BusIdle (processes (latchBoard init inb) ioperm outside calls trace) ∧
      registersAfter regs (processes (latchBoard init inb) ioperm outside calls trace) =
        (registersAfter regs trace).writes (calls.flatMap (Invocation.writes outside)) := by
  induction calls generalizing trace with
  | nil => exact ⟨hidle, rfl⟩
  | cons call calls ih =>
    rw [List.flatMap_cons] at hpage ⊢
    obtain ⟨hnext, hfirst⟩ := @spiProcess_writes init inb ioperm outside trace regs hidle hio
      call.argv fun w hw => hpage w (List.mem_append_left _ hw)
    rw [writes_append, Invocation.writes, ← hfirst]
    exact ih hnext fun w hw => hpage w (List.mem_append_right _ hw)

-- After any runs of the tool a read prints what the last write to the register gave.
theorem tool_reads_last_write {call : Invocation} (ha : AnswersReads c d.pageNum inb)
    (init : UInt16 → UInt32) (hio : ¬ioperm < 0) (hidle : BusIdle trace)
    {calls : List Invocation}
    (hpage : ∀ w ∈ calls.flatMap (Invocation.writes outside), w.offset ≠ 0xFF)
    (hread : readOf outside call.argv = some d) (hoffset : d.regNum ≠ 0xFE ∧ d.regNum ≠ 0xF0)
    {earlier later : List RegisterWrite} {data : List UInt8}
    (hwrites : calls.flatMap (Invocation.writes outside) =
      earlier ++ ⟨d.pageNum, d.regNum, data⟩ :: later)
    (hlater : ∀ w ∈ later, ¬(d.pageNum = w.page ∧ d.regNum = w.offset)) :
    (spiProcess (latchBoard init inb) ioperm outside call.argv
      (processes (latchBoard init inb) ioperm outside calls trace)).1 =
        printRead d fun k => data.getD k 0 := by
  obtain ⟨hidle', hfile⟩ := @processes_writes init inb ioperm trace outside hidle hio c.regs calls
    hpage
  have hregister : registersAfter c.regs (processes (latchBoard init inb) ioperm outside calls
      trace) d.pageNum d.regNum = data := by
    rw [hfile, hwrites, writes_append, writes_cons, writes_of_ne _ hlater]
    exact write_self _ ⟨d.pageNum, d.regNum, data⟩
  rw [process_prints ha hidle' hio hread hoffset, hregister]

def blankChip : Chip := ⟨⟨0, fun _ _ => []⟩, 0, []⟩

def pvidWrites : List Invocation :=
  [⟨words "bcm5396 -w 0x10 -p 0x34 -l 2 -v 0x0123".toList, by decide +kernel⟩,
    ⟨words "bcm5396 -w 0x12 -p 0x34 -l 2 -v 0x0456".toList, by decide +kernel⟩]

def pvidRead : Invocation :=
  ⟨words "bcm5396 -r 0x10 -p 0x34 -l 2".toList, by decide +kernel⟩

theorem tool_reads_pvid :
    (spiProcess (latchBoard (fun _ => 0) blankChip.inb) 0 (fun _ => 0) pvidRead.argv
      (processes (latchBoard (fun _ => 0) blankChip.inb) 0 (fun _ => 0) pvidWrites [])).1 =
      printRead ⟨0x34, 0x10, fun _ => 0, 2, some .read⟩ fun k => [0x23, 0x01].getD k 0 := by
  refine @tool_reads_last_write blankChip blankChip.inb 0 [] (fun _ => 0)
    ⟨0x34, 0x10, fun _ => 0, 2, some .read⟩ pvidRead (answersReads_inb blankChip 0x34)
    (fun _ => 0) (by decide) ⟨[], rfl⟩ _ (by decide +kernel) ?_ (by decide) []
    [⟨0x34, 0x12, [0x56, 0x04]⟩] _ (by decide +kernel) (by decide)
  have hopt : getopt diagLetters pvidRead.argv.tail =
      some [('r', "0x10".toList), ('p', "0x34".toList), ('l', "2".toList)] := by decide +kernel
  have hplace : UInt8.ofNat (strtoul16 "0x10".toList) = 0x10 ∧
      UInt8.ofNat (strtoul16 "0x34".toList) = 0x34 ∧
      (UInt8.ofNat (strtoul16 "2".toList)).toInt8 = 2 := by decide
  have hargc : ¬(pvidRead.argv.length = 1 ∨ pvidRead.argv.length = 2) := by decide
  have hsize : (0 : Int8) ≤ 2 := by decide
  rw [readOf, if_neg hargc, hopt]
  simp only [List.foldl_cons, List.foldl_nil, DiagArgument.take, DiagArgument.zero, hplace, hsize,
    and_true, if_true]

end Process

end Chassisd
