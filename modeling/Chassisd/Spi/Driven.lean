import Chassisd.Bpdu.Identity
import Chassisd.Library.Runs
import Chassisd.Spi.PortRegisters

namespace Chassisd

open CommandLine

section Records

variable {k : Nat} {bpdu : RstpBpdu} {c c' : Chassis}

theorem records_enterBlock (hk : c.usCardNumber = k) :
    Records (portCount k) c.switch (enterBlock c).switch := by
  rw [← hk]
  unfold enterBlock
  dsimp only
  split_ifs
  · exact records_configAllPort .blocking c.switch
  · exact records_configAllPort .forwarding c.switch

theorem records_wake (hk : c.usCardNumber = k) :
    Records (portCount k) c.switch (wake c).switch := by
  rw [← hk]
  unfold wake enterListening
  dsimp only
  split_ifs
  · exact records_configAllPort .listening c.switch
  · exact .refl _

theorem records_enterLearning (hk : c.usCardNumber = k) :
    Records (portCount k) c.switch (enterLearning c).switch := by
  rw [← hk]
  unfold enterLearning
  dsimp only
  split_ifs
  · exact records_configOptional .forwarding (fun _ h => onePort_lt h) _
  · exact .refl _

theorem records_lcSyncToHello (bpdu : RstpBpdu) (hk : c.usCardNumber = k) :
    Records (portCount k) c.switch (lcSyncToHello bpdu c).switch := by
  rw [← hk, (lcSyncToHello_frame bpdu c).2.2.2.1]
  split_ifs
  · exact records_enterForwardingState _ _ _
  · exact .refl _

theorem records_block_of_eq {d : Chassis} (hk : d.usCardNumber = k) (h : d.switch = c.switch) :
    Records (portCount k) c.switch (enterBlock d).switch := by
  rw [← h]
  exact records_enterBlock hk

theorem LineRx.records (h : LineRx bpdu c c') (hk : c.usCardNumber = k) :
    Records (portCount k) c.switch c'.switch := by
  cases h with
  | wake =>
    refine (records_wake hk).trans (.of_eq ?_)
    simp only [inUpdateChassisMember_frame, txInfoBpdu_frame, takeTimes_frame, adopt_frame]
  | lcChange => exact records_block_of_eq (by simpa using hk) (by simp)
  | sync =>
    exact @records_lcSyncToHello k (restartTimer (inUpdateChassisMember bpdu c)) bpdu hk
  | _ => exact .of_eq (by simp)

theorem FabricRx.records (h : FabricRx bpdu c c') (hk : c.usCardNumber = k) :
    Records (portCount k) c.switch c'.switch := by
  cases h with
  | wake =>
    refine (records_wake hk).trans (.of_eq ?_)
    simp only [inUpdateChassisMember_frame, takeTimes_frame, adopt_frame]
  | sync =>
    exact @records_lcSyncToHello k (restartTimer (inUpdateChassisMember bpdu c)) bpdu hk
  | alone => exact records_block_of_eq (by simpa using hk) (by simp)
  | lcChange => exact records_block_of_eq (by simpa using hk) (by simp)
  | _ => exact .of_eq (by simp)

theorem Ticked.records (h : Ticked c c') (hk : c.usCardNumber = k) :
    Records (portCount k) c.switch c'.switch := by
  cases h with
  | blockTimeout _ hf =>
    rw [← hk]
    exact records_blockTime (by omega) c.switch
  | learn => exact records_enterLearning hk
  | forward =>
    rw [← hk]
    exact records_enterForwardingState _ _ _
  | alone => exact records_block_of_eq (by simpa using hk) (by simp)
  | lost => exact records_enterBlock hk
  | _ => exact .of_eq (by simp)

theorem records_step (e : Event) (hk : c.usCardNumber = k) :
    Records (portCount k) (quiet c).switch (step e c).switch := by
  have h := stepped e c
  generalize step e c = c' at h
  cases h with
  | idle => exact .refl _
  | tick _ h => exact h.records hk
  | dropped => exact .refl _
  | line _ _ h => exact h.records hk
  | fabric _ _ h => exact h.records hk
  | exit =>
    have hblock := @records_enterBlock k (ready c.rxBpdu c) hk
    unfold signalExit
    dsimp only
    split_ifs
    · exact hblock
    · exact hblock

theorem records_writePorts {n : Nat} {ws : List (Nat × PortState)} (h : ∀ w ∈ ws, w.1 < n)
    (c : Chassis) : Records n c.switch (writePorts ws c).switch := records_foldl ws h c.switch

theorem defaultTopologyPorts_lt (k : Nat) : ∀ w ∈ defaultTopologyPorts k, w.1 < portCount k := by
  unfold defaultTopologyPorts
  split_ifs with hline
  · rw [portCount_line hline]
    decide
  · rw [portCount_fabric hline]
    decide

theorem initialStaticLc_lt (h : 1 ≤ k ∧ k ≤ 32) : ∀ w ∈ initialStaticLc k, w.1 < portCount k := by
  rw [portCount_line h]
  unfold initialStaticLc
  split_ifs <;> decide

theorem initialStaticFc_lt (h : ¬(1 ≤ k ∧ k ≤ 32)) :
    ∀ w ∈ initialStaticFc k, w.1 < portCount k := by
  rw [portCount_fabric h]
  unfold initialStaticFc
  split_ifs <;> decide

theorem records_startUp (k : Nat) (type : CardType) (topology : CtpMode)
    (hwaddr : Vector UInt8 6) :
    Records (portCount k) ⟨fun _ => none, []⟩ (startUp k type topology hwaddr).switch := by
  have hbase : ∀ c : Chassis, c.usCardNumber = k → Records (portCount k) c.switch
      (enterBlock (writePorts (defaultTopologyPorts k) (enterBlock c))).switch := fun c hk =>
    ((records_enterBlock hk).trans (records_writePorts (defaultTopologyPorts_lt k) _)).trans
      (records_enterBlock (by simpa [writePorts] using hk))
  unfold startUp
  dsimp only
  split_ifs with _ hline
  · exact (hbase _ rfl).trans (records_writePorts (initialStaticLc_lt hline) _)
  · exact (hbase _ rfl).trans (records_writePorts (initialStaticFc_lt hline) _)
  · exact hbase _ rfl

end Records

section Hardware

-- Lines for the same two programs run between the commands of the protocol: `between i` ahead of
-- command i. `reset` is what a reset of the switch in this event leaves in it.
inductive SwitchEvent where
  | card (e : Event) (reset : Registers) (between : Nat → List (List Char))
  | line (text : List Char)

-- The registers `base` were in the switch at its last reset; `trace` and `written` are the port
-- accesses and the port commands since then.
structure Driven where
  card : Chassis
  board : Board
  base : Registers
  trace : List PortEvent
  written : List (Nat × PortState)

-- chassis_bpdu_block_time resets the switch before it sets it up anew.
def ResetsSwitch (c : Chassis) : Event → Prop
  | .tick => c.ctpm.adminState = .enabled ∧ c.ctpm.state = .block ∧
      (33 ≤ c.usCardNumber ∧ c.usCardNumber ≤ 48) ∧
      defaultMaxAge.toNat ≤ c.ctpm.timeSinceTopoChange + 1
  | _ => False

instance (c : Chassis) (e : Event) : Decidable (ResetsSwitch c e) :=
  match e with
  | .tick => inferInstanceAs (Decidable (_ ∧ _))
  | .rx _ _ | .exit => .isFalse id

def Driven.reset (regs : Registers) (d : Driven) : Driven :=
  { d with board := d.board.after d.trace, base := regs, trace := [], written := [] }

variable (ioperm : Int32) (outside : Int → UInt8)

def runLines (board : Board) (lines : List (List Char)) (trace : List PortEvent) :
    List PortEvent :=
  lines.foldl (fun trace text => system board ioperm outside text trace) trace

def driveWrites (board : Board) (usNumber : Nat) :
    (Nat → List (List Char)) → List (Nat × PortState) → List PortEvent → List PortEvent
  | between, [], trace => runLines ioperm outside board (between 0) trace
  | between, w :: ws, trace =>
    driveWrites board usNumber (fun i => between (i + 1)) ws
      (system board ioperm outside (portCommand usNumber w.2 w.1)
        (runLines ioperm outside board (between 0) trace))

def Driven.drive (c : Chassis) (between : Nat → List (List Char)) (d : Driven) : Driven :=
  { d with
    card := c
    trace := driveWrites ioperm outside d.board c.usCardNumber between c.switch.writes d.trace
    written := d.written ++ c.switch.writes }

def drivenStart (c : Chassis) (board : Board) (regs : Registers)
    (between : Nat → List (List Char)) : Driven :=
  Driven.drive ioperm outside c between ⟨c, board, regs, [], []⟩

def drivenStep (e : SwitchEvent) (d : Driven) : Driven :=
  match e with
  | .card e reset between =>
    Driven.drive ioperm outside (step e d.card) between
      (if ResetsSwitch d.card e then d.reset reset else d)
  | .line text => { d with trace := system d.board ioperm outside text d.trace }

def Spares (outside : Int → UInt8) (n : Nat) (text : List Char) : Prop :=
  (∀ command ∈ commands text, words command = [] ∨
      (words command).headD [] ∈ spiPrograms ∧ WellCalled (words command)) ∧
    ∀ w ∈ lineWrites outside text, w.offset ≠ 0xFF ∧ ¬(w.page = 0 ∧ w.offset.toNat < n)

instance (outside : Int → UInt8) (n : Nat) (text : List Char) :
    Decidable (Spares outside n text) := inferInstanceAs (Decidable (_ ∧ _))

-- On exit the daemon leaves the switch in reset and is gone.
def SwitchEvent.Plain (outside : Int → UInt8) (n : Nat) : SwitchEvent → Prop
  | .card e _ between => e ≠ .exit ∧ ∀ i, ∀ text ∈ between i, Spares outside n text
  | .line text => Spares outside n text

def Shows (initial file : RegisterFile) (n : Nat) (port : Nat → Option PortState) : Prop :=
  ∀ pid < n, file 0 (UInt8.ofNat pid) =
    (port pid).elim (initial 0 (UInt8.ofNat pid)) fun state =>
      [UInt8.ofNat (portStateCode state)]

def Driven.port (d : Driven) : Nat → Option PortState := Switch.put (fun _ => none) d.written

structure PortsFollow (n : Nat) (d : Driven) : Prop where
  table : ∀ pid state, d.port pid = some state → d.card.switch.port pid = some state
  registers : Shows d.base.file (registersAfter d.base d.trace) n d.port

variable {ioperm : Int32} {outside : Int → UInt8} {n : Nat} {initial file : RegisterFile}
variable {port : Nat → Option PortState}

theorem toNat_port (hn : n ≤ 16) {p : Nat} (hp : p < n) : (UInt8.ofNat p).toNat = p :=
  UInt8.toNat_ofNat_of_lt' (show p < 256 by omega)

theorem Shows.write (hn : n ≤ 16) (h : Shows initial file n port) {w : Nat × PortState}
    (hw : w.1 < n) :
    Shows initial (file.write (portWrite w)) n fun p => if p = w.1 then some w.2 else port p := by
  intro pid hpid
  dsimp only
  by_cases heq : pid = w.1
  · rw [heq, if_pos rfl]
    exact write_self file (portWrite w)
  · rw [if_neg heq, write_of_ne]
    · exact h pid hpid
    · intro hsame
      have hoffset := congrArg UInt8.toNat hsame.2
      rw [portWrite, toNat_port hn hpid, toNat_port hn hw] at hoffset
      exact heq hoffset

theorem Shows.spared (hn : n ≤ 16) (h : Shows initial file n port) {text : List Char}
    (htext : Spares outside n text) :
    Shows initial (file.writes (lineWrites outside text)) n port := by
  intro pid hpid
  rw [writes_of_ne, h pid hpid]
  intro w hw hsame
  refine (htext.2 w hw).2 ⟨hsame.1.symm, ?_⟩
  rw [← hsame.2, toNat_port hn hpid]
  exact hpid

theorem put_append (port : Nat → Option PortState) (ws ws' : List (Nat × PortState)) :
    Switch.put port (ws ++ ws') = Switch.put (Switch.put port ws) ws' := List.foldl_append

theorem put_mono {f g : Nat → Option PortState}
    (h : ∀ pid state, f pid = some state → g pid = some state) (ws : List (Nat × PortState)) :
    ∀ pid state, Switch.put f ws pid = some state → Switch.put g ws pid = some state := by
  induction ws generalizing f g with
  | nil => exact h
  | cons w ws ih =>
    refine ih fun pid state => ?_
    dsimp only
    by_cases heq : pid = w.1
    · rw [if_pos heq, if_pos heq]
      exact id
    · rw [if_neg heq, if_neg heq]
      exact h pid state

variable {init : UInt16 → UInt32} {inb : List PortEvent → UInt16 → UInt8}
variable {trace : List PortEvent} {regs : Registers}

theorem runLines_shows (hio : ¬ioperm < 0) (hn : n ≤ 16) {lines : List (List Char)}
    (hlines : ∀ text ∈ lines, Spares outside n text) (hidle : BusIdle trace)
    (h : Shows initial (registersAfter regs trace) n port) :
    BusIdle (runLines ioperm outside (latchBoard init inb) lines trace) ∧
      Shows initial (registersAfter regs
        (runLines ioperm outside (latchBoard init inb) lines trace)) n port := by
  induction lines generalizing trace with
  | nil => exact ⟨hidle, h⟩
  | cons text lines ih =>
    have htext := hlines text List.mem_cons_self
    obtain ⟨hnext, hwrites⟩ := @system_writes init inb ioperm outside trace regs hio text
      (fun w hw => (htext.2 w hw).1) hidle
    refine ih (fun text' hmem => hlines text' (List.mem_cons_of_mem text hmem)) hnext ?_
    rw [hwrites]
    exact h.spared hn htext

theorem portCommand_shows (hio : ¬ioperm < 0) (hn : n ≤ 16) (usNumber : Nat)
    {w : Nat × PortState} (hw : w.1 < n) (hidle : BusIdle trace)
    (h : Shows initial (registersAfter regs trace) n port) :
    let after := system (latchBoard init inb) ioperm outside (portCommand usNumber w.2 w.1) trace
    BusIdle after ∧ Shows initial (registersAfter regs after) n
      fun p => if p = w.1 then some w.2 else port p := by
  have hline := lineWrites_portCommand usNumber w.2 outside (show w.1 < 256 by omega)
  have hpage : ∀ v ∈ lineWrites outside (portCommand usNumber w.2 w.1), v.offset ≠ 0xFF := by
    intro v hv
    rw [hline, List.mem_singleton] at hv
    rw [hv, Ne, ← UInt8.toNat_inj, portWrite, toNat_port hn hw]
    exact Nat.ne_of_lt (by omega : w.1 < 255)
  obtain ⟨hnext, hwrites⟩ := @system_writes init inb ioperm outside trace regs hio _ hpage hidle
  refine ⟨hnext, ?_⟩
  rw [hwrites, hline]
  exact h.write hn hw

theorem driveWrites_shows (hio : ¬ioperm < 0) (hn : n ≤ 16) (usNumber : Nat)
    {between : Nat → List (List Char)} (hbetween : ∀ i, ∀ text ∈ between i, Spares outside n text)
    {ws : List (Nat × PortState)} (hws : ∀ w ∈ ws, w.1 < n) (hidle : BusIdle trace)
    (h : Shows initial (registersAfter regs trace) n port) :
    let after := driveWrites ioperm outside (latchBoard init inb) usNumber between ws trace
    BusIdle after ∧ Shows initial (registersAfter regs after) n (Switch.put port ws) := by
  induction ws generalizing between trace port with
  | nil => exact runLines_shows hio hn (hbetween 0) hidle h
  | cons w ws ih =>
    obtain ⟨hidle₁, hlines⟩ := @runLines_shows ioperm outside n initial port init inb trace regs
      hio hn _ (hbetween 0) hidle h
    obtain ⟨hidle₂, hport⟩ := @portCommand_shows ioperm outside n initial port init inb _ regs
      hio hn usNumber _ (hws w List.mem_cons_self) hidle₁ hlines
    exact ih (fun i => hbetween (i + 1)) (fun v hv => hws v (List.mem_cons_of_mem w hv)) hidle₂
      hport

structure Mirrors (k : Nat) (d : Driven) : Prop where
  number : d.card.usCardNumber = k
  latched : ∃ init inb, d.board = latchBoard init inb
  idle : BusIdle d.trace
  follow : PortsFollow (portCount k) d

theorem portCount_le (k : Nat) : portCount k ≤ 16 := by
  unfold portCount
  split_ifs <;> decide

theorem portsFollow_nothing {d : Driven} (htrace : d.trace = []) (hwritten : d.written = []) :
    PortsFollow n d := by
  have hport : d.port = fun _ => none := by rw [Driven.port, hwritten]; rfl
  refine ⟨fun pid state hstate => ?_, fun pid _ => ?_⟩
  · rw [hport] at hstate
    cases hstate
  · rw [hport, htrace]
    rfl

theorem Mirrors.reset {k : Nat} {d : Driven} (h : Mirrors k d) (regs : Registers) :
    Mirrors k (d.reset regs) where
  number := h.number
  latched := by
    obtain ⟨init, inb, hboard⟩ := h.latched
    refine ⟨latch init d.trace, fun trace => inb (d.trace ++ trace), ?_⟩
    rw [Driven.reset, hboard, latchBoard_after]
  idle := ⟨[], rfl⟩
  follow := portsFollow_nothing rfl rfl

theorem Mirrors.drive {k : Nat} (hio : ¬ioperm < 0) {d : Driven} (h : Mirrors k d) {c : Chassis}
    (hk : c.usCardNumber = k) {sw : Switch} (hr : Records (portCount k) sw c.switch)
    (hempty : sw.writes = []) (hport : sw.port = d.card.switch.port)
    {between : Nat → List (List Char)}
    (hbetween : ∀ i, ∀ text ∈ between i, Spares outside (portCount k) text) :
    Mirrors k (d.drive ioperm outside c between) := by
  obtain ⟨ws, hwrites, htable, hlt⟩ := hr
  rw [hempty, List.nil_append] at hwrites
  obtain ⟨init, inb, hboard⟩ := h.latched
  obtain ⟨hidle, hshows⟩ := @driveWrites_shows ioperm outside _ _ d.port init inb d.trace d.base
    hio (portCount_le k) c.usCardNumber between hbetween ws hlt h.idle h.follow.registers
  rw [← hboard, ← hwrites] at hidle hshows
  have hwritten : (d.drive ioperm outside c between).port = Switch.put d.port ws := by
    rw [Driven.port, Driven.drive, hwrites, put_append]
    rfl
  refine ⟨hk, ⟨init, inb, hboard⟩, hidle, ⟨?_, ?_⟩⟩
  · intro pid state hstate
    rw [hwritten] at hstate
    change c.switch.port pid = some state
    rw [htable, hport]
    exact put_mono h.follow.table ws pid state hstate
  · rw [hwritten, ← hwrites]
    exact hshows

theorem mirrors_step {k : Nat} (hio : ¬ioperm < 0) {e : SwitchEvent}
    (he : e.Plain outside (portCount k)) {d : Driven} (h : Mirrors k d) :
    Mirrors k (drivenStep ioperm outside e d) := by
  cases e with
  | card e reset between =>
    have hcard : ∀ d' : Driven, Mirrors k d' → d'.card = d.card →
        Mirrors k (d'.drive ioperm outside (step e d.card) between) := by
      intro d' h' hsame
      refine h'.drive hio ((sameCard_step e d.card).number.trans h.number)
        (records_step e h.number) rfl ?_ he.2
      rw [hsame]
      rfl
    rw [drivenStep]
    split_ifs
    · exact hcard _ (h.reset reset) rfl
    · exact hcard d h rfl
  | line text =>
    obtain ⟨init, inb, hboard⟩ := h.latched
    obtain ⟨hidle, hshows⟩ := @runLines_shows ioperm outside _ _ d.port init inb d.trace d.base hio
      (portCount_le k) [text] (List.forall_mem_singleton.mpr he) h.idle h.follow.registers
    rw [← hboard] at hidle hshows
    exact ⟨h.number, h.latched, hidle, h.follow.table, hshows⟩

theorem port_registers_follow (init : UInt16 → UInt32) (inb : List PortEvent → UInt16 → UInt8)
    (hio : ¬ioperm < 0) (outside : Int → UInt8) (regs : Registers) (k : Nat) (type : CardType)
    (topology : CtpMode) (hwaddr : Vector UInt8 6) (between : Nat → List (List Char))
    (hbetween : ∀ i, ∀ text ∈ between i, Spares outside (portCount k) text)
    (es : List SwitchEvent) (hes : ∀ e ∈ es, e.Plain outside (portCount k)) :
    PortsFollow (portCount k) (Runs.run (drivenStep ioperm outside)
      (drivenStart ioperm outside (startUp k type topology hwaddr) (latchBoard init inb) regs
        between) es) := by
  have hstart : Mirrors k (drivenStart ioperm outside (startUp k type topology hwaddr)
      (latchBoard init inb) regs between) := by
    have hbefore : Mirrors k ⟨{ startUp k type topology hwaddr with switch := ⟨fun _ => none, []⟩ },
        latchBoard init inb, regs, [], []⟩ :=
      ⟨(startUp_frame k type topology hwaddr).1, ⟨init, inb, rfl⟩, ⟨[], rfl⟩,
        portsFollow_nothing rfl rfl⟩
    exact hbefore.drive hio (startUp_frame k type topology hwaddr).1
      (records_startUp k type topology hwaddr) rfl rfl hbetween
  exact (Runs.invariant_of_mem (fun e he d h => mirrors_step hio (hes e he) h) hstart).follow

def stpLine (i : Nat) : List (List Char) :=
  if i = 0 then ["bcm5396 -w 0x20 -p 0 -v 0x7 -l 1".toList] else []

def blockedRun : Driven :=
  Runs.run (drivenStep 0 fun _ => 0)
    (drivenStart 0 (fun _ => 0) (startUp 33 .fabricCard .enabled (Vector.replicate 6 0))
      (latchBoard (fun _ => 0) fun _ _ => 0) ⟨0, fun _ _ => []⟩ stpLine)
    (List.replicate 15 (.card .tick ⟨0, fun _ _ => [0x20]⟩ stpLine))

theorem port_registers_follow_start :
    registersAfter blockedRun.base blockedRun.trace 0 14 = [0xA0] ∧
      registersAfter blockedRun.base blockedRun.trace 0 5 = [0x20] := by
  have hline : ∀ i, ∀ text ∈ stpLine i, Spares (fun _ => 0) (portCount 33) text := by
    intro i text htext
    unfold stpLine at htext
    split_ifs at htext
    · obtain rfl := List.mem_singleton.mp htext
      decide +kernel
    · exact absurd htext List.not_mem_nil
  have hfollow := @port_registers_follow 0 (fun _ => 0) (fun _ _ => 0) (by decide)
    (fun _ => 0) ⟨0, fun _ _ => []⟩ 33 .fabricCard .enabled (Vector.replicate 6 0) stpLine hline
    (List.replicate 15 (.card .tick ⟨0, fun _ _ => [0x20]⟩ stpLine)) fun e he => by
      obtain rfl := List.eq_of_mem_replicate he
      exact ⟨nofun, hline⟩
  have hports : blockedRun.port 14 = some .forwarding ∧ blockedRun.port 5 = none ∧
      blockedRun.base.file 0 5 = [0x20] := by decide +kernel
  refine ⟨(hfollow.registers 14 (by decide)).trans ?_, (hfollow.registers 5 (by decide)).trans ?_⟩
  · change (blockedRun.port 14).elim _ _ = _
    rw [hports.1]
    rfl
  · change (blockedRun.port 5).elim (blockedRun.base.file 0 5) _ = _
    rw [hports.2.1, hports.2.2]
    rfl

end Hardware

end Chassisd
