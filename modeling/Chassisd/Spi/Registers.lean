import Chassisd.Spi.Tool

namespace Chassisd

open CommandLine

abbrev RegisterFile := UInt8 → UInt8 → List UInt8

structure RegisterWrite where
  page : UInt8
  offset : UInt8
  data : List UInt8
  deriving DecidableEq, Repr

def RegisterFile.write (file : RegisterFile) (w : RegisterWrite) : RegisterFile :=
  Function.update file w.page (Function.update (file w.page) w.offset w.data)

def RegisterFile.writes (file : RegisterFile) (ws : List RegisterWrite) : RegisterFile :=
  ws.foldl RegisterFile.write file

structure Registers where
  page : UInt8
  file : RegisterFile

-- A frame that starts with 0x61 writes: the page, or a register of the page named last.
def Registers.take (regs : Registers) : List UInt8 → Registers
  | [0x61, 0xFF, page] => { regs with page := page }
  | 0x61 :: offset :: data => { regs with file := regs.file.write ⟨regs.page, offset, data⟩ }
  | _ => regs

def packed : List Bool → List UInt8
  | a :: b :: c :: d :: e :: f :: g :: h :: bits =>
    shiftedIn 0 [a, b, c, d, e, f, g, h] :: packed bits
  | _ => []

def Registers.watch (regs : Registers) (frames : List Spi.Frame) : Registers :=
  frames.foldl (fun regs frame => regs.take (packed frame.mosi)) regs

def registersAfter (regs : Registers) (trace : List PortEvent) : RegisterFile :=
  (regs.watch (observed trace).frames).file

def BusIdle (trace : List PortEvent) : Prop := ∃ frames, observed trace = Spi.idle frames

section Files

variable (file : RegisterFile)

@[simp] theorem writes_nil : file.writes [] = file := rfl

theorem writes_cons (w : RegisterWrite) (ws : List RegisterWrite) :
    file.writes (w :: ws) = (file.write w).writes ws := rfl

theorem writes_append (ws ws' : List RegisterWrite) :
    file.writes (ws ++ ws') = (file.writes ws).writes ws' := List.foldl_append

theorem write_self (w : RegisterWrite) : (file.write w) w.page w.offset = w.data := by
  simp [RegisterFile.write]

theorem write_of_ne {w : RegisterWrite} {page offset : UInt8}
    (h : ¬(page = w.page ∧ offset = w.offset)) : (file.write w) page offset = file page offset := by
  rw [RegisterFile.write]
  rcases eq_or_ne page w.page with rfl | hpage
  · rw [Function.update_self, Function.update_of_ne fun hoffset => h ⟨rfl, hoffset⟩]
  · rw [Function.update_of_ne hpage]

theorem writes_of_ne {ws : List RegisterWrite} {page offset : UInt8}
    (h : ∀ w ∈ ws, ¬(page = w.page ∧ offset = w.offset)) :
    (file.writes ws) page offset = file page offset := by
  induction ws generalizing file with
  | nil => rfl
  | cons w ws ih =>
    rw [writes_cons, ih _ fun v hv => h v (List.mem_cons_of_mem w hv)]
    exact write_of_ne file (h w List.mem_cons_self)

end Files

section Frames

variable (regs : Registers)

theorem shiftedIn_bits : ∀ v : BitVec 8, shiftedIn 0 (msbFirst (.ofBitVec v)) = .ofBitVec v := by
  decide

theorem packed_msbFirst (b : UInt8) (bits : List Bool) :
    packed (msbFirst b ++ bits) = b :: packed bits :=
  congrArg (· :: packed bits) (shiftedIn_bits b.toBitVec)

theorem packed_frameBits (bytes : List UInt8) (bits : List Bool) :
    packed (frameBits bytes ++ bits) = bytes ++ packed bits := by
  induction bytes with
  | nil => rfl
  | cons b bytes ih =>
    have hsplit : frameBits (b :: bytes) ++ bits = msbFirst b ++ (frameBits bytes ++ bits) :=
      List.append_assoc ..
    rw [hsplit, packed_msbFirst, ih, List.cons_append]

theorem take_read (bytes : List UInt8) : regs.take (0x60 :: bytes) = regs := rfl

theorem take_write {offset : UInt8} (h : offset ≠ 0xFF) (data : List UInt8) :
    regs.take (0x61 :: offset :: data) =
      { regs with file := regs.file.write ⟨regs.page, offset, data⟩ } := by
  unfold Registers.take
  split
  · rename_i heq
    simp only [List.cons.injEq] at heq
    exact absurd heq.2.1 h
  · rename_i heq
    obtain ⟨rfl, rfl⟩ : offset = _ ∧ data = _ := by simpa using heq
    rfl
  · rename_i hno
    exact absurd rfl (hno offset data)

theorem watch_cons (mosi miso : List Bool) (frames : List Spi.Frame) :
    regs.watch (⟨mosi, miso⟩ :: frames) = (regs.take (packed mosi)).watch frames := rfl

theorem watch_append_frames (xs ys : List Spi.Frame) :
    regs.watch (xs ++ ys) = (regs.watch xs).watch ys := List.foldl_append

theorem watch_prologue (status : List Bool) (page : UInt8) (frames : List Spi.Frame) :
    regs.watch (.empty :: ⟨frameBits [0x60, 0xFE] ++ .replicate 8 false, status⟩ ::
        ⟨frameBits [0x61, 0xFF, page], []⟩ :: frames) =
      { regs with page := page : Registers }.watch frames := by
  have hempty : regs.take (packed []) = regs := rfl
  have hpage := packed_frameBits [0x61, 0xFF, page] []
  rw [List.append_nil] at hpage
  rw [Spi.Frame.empty, watch_cons, hempty, watch_cons, packed_frameBits, List.cons_append,
    take_read, watch_cons, hpage]
  rfl

theorem watch_write (status : List Bool) (page : UInt8) {offset : UInt8} (h : offset ≠ 0xFF)
    (data : List UInt8) :
    (regs.watch [.empty, ⟨frameBits [0x60, 0xFE] ++ .replicate 8 false, status⟩,
        ⟨frameBits [0x61, 0xFF, page], []⟩, ⟨frameBits ([0x61, offset] ++ data), []⟩]).file =
      regs.file.write ⟨page, offset, data⟩ := by
  have hdata := packed_frameBits (0x61 :: offset :: data) []
  rw [List.append_nil] at hdata
  rw [watch_prologue, watch_cons, List.cons_append, List.singleton_append, hdata]
  exact congrArg Registers.file (take_write { regs with page := page } h (data ++ packed []))
    |>.trans (by rw [show packed [] = [] from rfl, List.append_nil])

theorem watch_read (status status' data : List Bool) (page offset : UInt8) (n : Nat) :
    (regs.watch [.empty, ⟨frameBits [0x60, 0xFE] ++ .replicate 8 false, status⟩,
        ⟨frameBits [0x61, 0xFF, page], []⟩,
        ⟨frameBits [0x60, offset, 0x60, 0xFE] ++ .replicate 8 false, status'⟩,
        ⟨frameBits [0x60, 0xF0] ++ .replicate n false, data⟩]).file = regs.file := by
  rw [watch_prologue, watch_cons, packed_frameBits, List.cons_append, take_read, watch_cons,
    packed_frameBits, List.cons_append, take_read]
  rfl

end Frames

section Lines

variable {init : UInt16 → UInt32} {inb : List PortEvent → UInt16 → UInt8} {ioperm : Int32}
variable {outside : Int → UInt8} {trace : List PortEvent} {regs : Registers}

def writesOf (outside : Int → UInt8) (argv : List (List Char)) : List RegisterWrite :=
  if argv.length = 1 ∨ argv.length = 2 then []
  else
    match getopt diagLetters argv.tail with
    | none => []
    | some options =>
      let d := options.foldl (DiagArgument.take outside) .zero
      if 0 ≤ d.size ∧ d.mode = some .write then
        [⟨d.pageNum, d.regNum, (List.range d.size.toUInt8.toNat).map d.regData⟩]
      else []

theorem registersAfter_of_observed (regs : Registers) {after : List PortEvent}
    {frames more : List Spi.Frame}
    (h : observed trace = Spi.idle frames) (hafter : observed after = Spi.idle (frames ++ more)) :
    registersAfter regs after = ((regs.watch frames).watch more).file ∧
      registersAfter regs trace = (regs.watch frames).file := by
  rw [registersAfter, registersAfter, h, hafter]
  exact ⟨congrArg Registers.file (watch_append_frames regs frames more), rfl⟩

variable (init inb regs) in
theorem idle_deviceGpioInit (h : BusIdle trace) (hio : ¬ioperm < 0) :
    BusIdle (deviceGpioInit (latchBoard init inb) ioperm ⟨0, trace⟩).trace ∧
      registersAfter regs (deviceGpioInit (latchBoard init inb) ioperm ⟨0, trace⟩).trace =
        registersAfter regs trace := by
  obtain ⟨frames, hframes⟩ := h
  obtain ⟨earlier, hinit, hseen⟩ := at_process init inb hframes hio
  obtain ⟨hafter, hbefore⟩ := registersAfter_of_observed regs hframes hseen
  rw [hinit, Gpio.behind, List.append_nil, hafter, hbefore]
  exact ⟨⟨_, hseen⟩, rfl⟩

theorem spiProcess_writes (h : BusIdle trace) (hio : ¬ioperm < 0) {argv : List (List Char)}
    (hpage : ∀ w ∈ writesOf outside argv, w.offset ≠ 0xFF) :
    BusIdle (spiProcess (latchBoard init inb) ioperm outside argv trace).2 ∧
      registersAfter regs (spiProcess (latchBoard init inb) ioperm outside argv trace).2 =
        (registersAfter regs trace).writes (writesOf outside argv) := by
  obtain ⟨frames, hframes⟩ := h
  unfold writesOf at hpage ⊢
  rw [spiProcess, runDiagArgument]
  by_cases hargc : argv.length = 1 ∨ argv.length = 2
  · rw [if_pos hargc, if_pos hargc]
    exact ⟨⟨frames, hframes⟩, rfl⟩
  · rw [if_neg hargc] at hpage ⊢
    rw [if_neg hargc]
    cases hopt : getopt diagLetters argv.tail with
    | none => exact ⟨⟨frames, hframes⟩, rfl⟩
    | some options =>
      rw [hopt] at hpage
      dsimp only at hpage ⊢
      generalize options.foldl (DiagArgument.take outside) .zero = d at hpage ⊢
      have hidle := idle_deviceGpioInit init inb regs ⟨frames, hframes⟩ hio
      by_cases hsize : 0 ≤ d.size
      · rw [if_pos hsize]
        cases hmode : d.mode with
        | none =>
          rw [if_neg (by simp)]
          exact hidle
        | some mode =>
          cases mode with
          | read =>
            obtain ⟨status, status', data, hseen⟩ := observed_process_read init inb hframes hio
              d.pageNum d.regNum (fun _ => 0) d.size
            rw [List.append_assoc] at hseen
            obtain ⟨hafter, hbefore⟩ := registersAfter_of_observed regs hframes hseen
            dsimp only
            rw [if_neg (by simp), hafter, hbefore, List.singleton_append, watch_read]
            exact ⟨⟨_, hseen⟩, rfl⟩
          | write =>
            rw [if_pos ⟨hsize, hmode⟩] at hpage
            obtain ⟨status, hseen⟩ := observed_process_write init inb hframes hio d.pageNum
              d.regNum d.regData d.size.toUInt8
            rw [List.append_assoc] at hseen
            obtain ⟨hafter, hbefore⟩ := registersAfter_of_observed regs hframes hseen
            dsimp only
            rw [if_pos ⟨hsize, rfl⟩, hafter, hbefore, List.singleton_append,
              watch_write _ _ _ (hpage _ List.mem_cons_self)]
            exact ⟨⟨_, hseen⟩, rfl⟩
      · rw [if_neg hsize, if_neg fun h => hsize h.1]
        exact hidle

def commandWrites (outside : Int → UInt8) (command : List Char) : List RegisterWrite :=
  match words command with
  | [] => []
  | name :: args => if name ∈ spiPrograms then writesOf outside (name :: args) else []

def lineWrites (outside : Int → UInt8) (line : List Char) : List RegisterWrite :=
  (commands line).flatMap (commandWrites outside)

theorem system_writes (hio : ¬ioperm < 0) {line : List Char}
    (hpage : ∀ w ∈ lineWrites outside line, w.offset ≠ 0xFF) (h : BusIdle trace) :
    BusIdle (system (latchBoard init inb) ioperm outside line trace) ∧
      registersAfter regs (system (latchBoard init inb) ioperm outside line trace) =
        (registersAfter regs trace).writes (lineWrites outside line) := by
  unfold system
  unfold lineWrites at hpage ⊢
  generalize commands line = line at hpage ⊢
  induction line generalizing trace with
  | nil => exact ⟨h, rfl⟩
  | cons command rest ih =>
    rw [List.flatMap_cons] at hpage ⊢
    have hlater := fun w hw => hpage w (List.mem_append_right _ hw)
    have hfirst := fun w hw => hpage w (List.mem_append_left _ hw)
    rw [List.foldl_cons, writes_append]
    unfold commandWrites at hfirst ⊢
    cases hwords : words command with
    | nil => exact ih h hlater
    | cons name args =>
      rw [hwords] at hfirst
      dsimp only at hfirst ⊢
      by_cases hname : name ∈ spiPrograms
      · rw [if_pos hname] at hfirst ⊢
        obtain ⟨hidle, hregs⟩ := @spiProcess_writes init inb ioperm outside trace regs
          h hio _ hfirst
        rw [if_pos hname, ← hregs]
        exact ih hidle hlater
      · rw [if_neg hname, if_neg hname]
        exact ih h hlater

end Lines

end Chassisd
