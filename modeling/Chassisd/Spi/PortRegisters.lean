import Chassisd.Bpdu.Port
import Chassisd.Spi.Registers

namespace Chassisd

open CommandLine

section Source

-- port_state_array
def portStateCode : PortState → Nat
  | .noSpanningTree => 0x00
  | .disabled => 0x20
  | .blocking => 0x40
  | .listening => 0x60
  | .learning => 0x80
  | .forwarding => 0xA0

-- "%2x" pads with blanks.
def hexText2 (n : Nat) : List Char := List.leftpad 2 ' ' (hexText n)

def spiProgram (usNumber : Nat) : List Char :=
  if 1 ≤ usNumber ∧ usNumber ≤ 32 then "bcm5389".toList else "bcm5396".toList

-- The command of chassis_config_port; there is none for the second CPU of a card.
def portCommand (usNumber : Nat) (state : PortState) (pid : Nat) : List Char :=
  spiProgram usNumber ++ " -w 0x".toList ++ hexText pid ++ " -p 0 -v 0x".toList ++
    hexText2 (portStateCode state) ++ " -l 1".toList

end Source

section Command

variable (usNumber : Nat) (state : PortState) {pid : Nat}

theorem hexText_clean (n : Nat) : ∀ c ∈ hexText n, (hexValue c).isSome := by
  obtain ⟨ds, hdigits, -, -⟩ := hexText_spec n
  intro c hc
  have hmem := List.mem_map_of_mem (f := hexValue) hc
  rw [hdigits] at hmem
  obtain ⟨d, -, hd⟩ := List.mem_map.mp hmem
  rw [← hd]
  rfl

theorem not_mem_hexText {c : Char} (h : hexValue c = none) (n : Nat) : c ∉ hexText n := by
  intro hc
  have hsome := hexText_clean n c hc
  rw [h] at hsome
  cases hsome

def portTail (state : PortState) : List Char :=
  "-p 0 -v 0x".toList ++ hexText2 (portStateCode state) ++ " -l 1".toList

theorem command_eq (name offset value : List Char) :
    name ++ " -w 0x".toList ++ offset ++ " -p 0 -v 0x".toList ++ value ++ " -l 1".toList =
      unwords [name, ['-', 'w'], '0' :: 'x' :: offset] ++
        ("-p 0 -v 0x".toList ++ value ++ " -l 1".toList) := by
  simp [unwords]

theorem portCommand_eq : portCommand usNumber state pid =
    unwords [spiProgram usNumber, ['-', 'w'], '0' :: 'x' :: hexText pid] ++ portTail state :=
  command_eq _ _ _

theorem spiProgram_mem : spiProgram usNumber ∈ spiPrograms := by
  unfold spiProgram
  split_ifs <;> decide

theorem words_portCommand : words (portCommand usNumber state pid) =
    [spiProgram usNumber, ['-', 'w'], '0' :: 'x' :: hexText pid] ++ words (portTail state) := by
  rw [portCommand_eq]
  refine words_unwords _ ?_ ?_ _
  · have hname : spiProgram usNumber ≠ [] := by
      unfold spiProgram
      split_ifs <;> decide
    simp [hname]
  · have hname : ' ' ∉ spiProgram usNumber := by
      unfold spiProgram
      split_ifs <;> decide
    have hblank : ' ' ∉ hexText pid := not_mem_hexText (by decide) pid
    simp [hname, hblank]

theorem getopt_portCommand : getopt diagLetters (['-', 'w'] :: ('0' :: 'x' :: hexText pid) ::
    words (portTail state)) = some [('w', '0' :: 'x' :: hexText pid), ('p', ['0']),
      ('v', (words ('0' :: 'x' :: hexText2 (portStateCode state))).headD []), ('l', ['1'])] := by
  rw [getopt_option (by decide) (by decide)]
  have htail : getopt diagLetters (words (portTail state)) = some [('p', ['0']),
      ('v', (words ('0' :: 'x' :: hexText2 (portStateCode state))).headD []), ('l', ['1'])] := by
    cases state <;> decide +kernel
  rw [htail]
  rfl

def valueWord (state : PortState) : List Char :=
  (words ('0' :: 'x' :: hexText2 (portStateCode state))).headD []

theorem valueWord_spec : valueOf (valueWord state) = portStateCode state ∧
    0 < (valueWord state).length / 2 := by
  cases state <;> decide

theorem semicolon_portCommand : ';' ∉ portCommand usNumber state pid := by
  have hname : ';' ∉ spiProgram usNumber := by
    unfold spiProgram
    split_ifs <;> decide
  have hpid : ';' ∉ hexText pid := not_mem_hexText (by decide) pid
  have htail : ';' ∉ portTail state := by cases state <;> decide
  rw [portCommand_eq, unwords]
  simp [hname, hpid, htail]

def portWrite (w : Nat × PortState) : RegisterWrite :=
  ⟨0, UInt8.ofNat w.1, [UInt8.ofNat (portStateCode w.2)]⟩

theorem writesOf_portCommand (outside : Int → UInt8) (hpid : pid < 256) :
    writesOf outside (words (portCommand usNumber state pid)) = [portWrite (pid, state)] := by
  obtain ⟨hvalue, hlength⟩ := valueWord_spec state
  have hbyte := byte_argument (fun _ => 0) (valueWord state) outside (1 : Int8).toInt.toNat hlength
  rw [hvalue, pow_zero, Nat.div_one] at hbyte
  have hcode : portStateCode state < 256 := by cases state <;> decide
  have hoffset : strtoul16 ('0' :: 'x' :: hexText pid) = pid := strtoul16_hexText (by omega)
  have hdata : (converStrtoArray (fun _ => 0) ((valueWord state).map Char.toUInt8) outside
      (1 : Int8).toInt.toNat).array 0 = UInt8.ofNat (portStateCode state) := by
    rw [← UInt8.toNat_inj, hbyte, UInt8.toNat_ofNat_of_lt' hcode, Nat.mod_eq_of_lt hcode]
  have hwords := @words_portCommand usNumber state pid
  have hargc : ¬((words (portCommand usNumber state pid)).length = 1 ∨
      (words (portCommand usNumber state pid)).length = 2) := by
    rw [hwords]
    simp
  rw [writesOf, if_neg hargc, hwords, List.cons_append, List.tail_cons, List.cons_append,
    List.singleton_append, getopt_portCommand state]
  have hzero : UInt8.ofNat (strtoul16 ['0']) = 0 := by decide
  have hone : (UInt8.ofNat (strtoul16 ['1'])).toInt8 = 1 := by decide
  have hrange : List.range (1 : Int8).toUInt8.toNat = [0] := by decide
  have hsize : (0 : Int8) ≤ 1 := by decide
  simp only [List.foldl_cons, List.foldl_nil, DiagArgument.take, DiagArgument.zero, hoffset, hzero,
    hone, hsize, and_true, if_true, hrange, List.map_singleton]
  exact congrArg (fun b => [(⟨0, UInt8.ofNat pid, [b]⟩ : RegisterWrite)]) hdata

theorem lineWrites_portCommand (outside : Int → UInt8) (hpid : pid < 256) :
    lineWrites outside (portCommand usNumber state pid) = [portWrite (pid, state)] := by
  have hwords := @words_portCommand usNumber state pid
  have hwrites := writesOf_portCommand usNumber state outside hpid
  rw [lineWrites, commands_single (semicolon_portCommand usNumber state), List.flatMap_singleton,
    commandWrites]
  rw [hwords, List.cons_append] at hwrites ⊢
  exact (if_pos (spiProgram_mem usNumber)).trans hwrites

end Command

section Writes

def Switch.put (port : Nat → Option PortState) (ws : List (Nat × PortState)) :
    Nat → Option PortState :=
  ws.foldl (fun port w p => if p = w.1 then some w.2 else port p) port

def portCount (usNumber : Nat) : Nat := if isLineNumber usNumber then 8 else 16

theorem portCount_line {usNumber : Nat} (h : 1 ≤ usNumber ∧ usNumber ≤ 32) :
    portCount usNumber = 8 := if_pos (decide_eq_true h)

theorem portCount_fabric {usNumber : Nat} (h : ¬(1 ≤ usNumber ∧ usNumber ≤ 32)) :
    portCount usNumber = 16 := if_neg (by simpa [isLineNumber] using h)

def Records (n : Nat) (sw sw' : Switch) : Prop :=
  ∃ ws, sw'.writes = sw.writes ++ ws ∧ sw'.port = Switch.put sw.port ws ∧ ∀ w ∈ ws, w.1 < n

variable {n : Nat} {sw sw' sw'' : Switch} {usNumber pid : Nat}

theorem Records.refl (sw : Switch) : Records n sw sw :=
  ⟨[], (List.append_nil _).symm, rfl, fun _ hw => absurd hw List.not_mem_nil⟩

theorem Records.trans (h : Records n sw sw') (h' : Records n sw' sw'') : Records n sw sw'' := by
  obtain ⟨ws, hwrites, hport, hlt⟩ := h
  obtain ⟨ws', hwrites', hport', hlt'⟩ := h'
  refine ⟨ws ++ ws', ?_, ?_, ?_⟩
  · rw [hwrites', hwrites, List.append_assoc]
  · rw [hport', hport, Switch.put, Switch.put, Switch.put, List.foldl_append]
  · intro w hw
    rcases List.mem_append.mp hw with hw | hw
    · exact hlt w hw
    · exact hlt' w hw

theorem Records.of_eq (h : sw' = sw) : Records n sw sw' := by
  rw [h]
  exact .refl sw

theorem records_configPort (state : PortState) (hpid : pid < n) (sw : Switch) :
    Records n sw (configPort usNumber state pid sw) := by
  unfold configPort
  split_ifs
  · exact .refl sw
  · refine ⟨[(pid, state)], rfl, rfl, fun w hw => ?_⟩
    rw [List.mem_singleton.mp hw]
    exact hpid

theorem records_foldl (ws : List (Nat × PortState)) (h : ∀ w ∈ ws, w.1 < n) (sw : Switch) :
    Records n sw (ws.foldl (fun sw w => configPort usNumber w.2 w.1 sw) sw) := by
  induction ws generalizing sw with
  | nil => exact .refl sw
  | cons w ws ih =>
    rw [List.foldl_cons]
    exact (records_configPort w.2 (h w List.mem_cons_self) sw).trans
      (ih (fun v hv => h v (List.mem_cons_of_mem w hv)) _)

theorem backplanePorts_lt : ∀ p ∈ backplanePorts usNumber, p < portCount usNumber := by
  unfold backplanePorts portCount
  split_ifs <;> decide

theorem onePort_lt {port : Nat} (h : onePort usNumber port = some pid) :
    pid < portCount usNumber := by
  unfold onePort at h
  unfold portCount
  split_ifs at h ⊢ <;> split at h <;> cases h <;> decide

theorem forwardingPort_lt {rootFcId designedLcId : Nat}
    (h : forwardingPort usNumber rootFcId designedLcId = some pid) :
    pid < portCount usNumber := by
  unfold forwardingPort at h
  unfold portCount
  split_ifs at h ⊢ <;> split at h <;> cases h <;> decide

theorem records_configAllPort (status : PortState) (sw : Switch) :
    Records (portCount usNumber) sw (configAllPort usNumber status sw) := by
  have h := @records_foldl (portCount usNumber) usNumber
    ((backplanePorts usNumber).map fun p => (p, status)) (by simpa using backplanePorts_lt) sw
  rw [List.foldl_map] at h
  exact h

theorem records_configOptional (status : PortState) {port : Option Nat}
    (h : ∀ pid, port = some pid → pid < n) (sw : Switch) :
    Records n sw (configOptional usNumber status port sw) := by
  cases port with
  | none => exact .refl sw
  | some pid => exact records_configPort status (h pid rfl) sw

theorem records_enterForwardingState (rootFcId designedLcId : Nat) (sw : Switch) :
    Records (portCount usNumber) sw (enterForwardingState usNumber rootFcId designedLcId sw) := by
  unfold enterForwardingState
  split_ifs
  · exact records_configAllPort .forwarding sw
  · exact (records_configAllPort .blocking sw).trans
      (records_configOptional .forwarding (fun _ h => forwardingPort_lt h) _)
  · exact .refl sw

theorem records_blockTime (hf : ¬(1 ≤ usNumber ∧ usNumber ≤ 32)) (sw : Switch) :
    Records (portCount usNumber) sw (blockTime usNumber sw) := by
  rw [portCount_fabric hf]
  exact records_foldl _ (by decide) sw

end Writes

end Chassisd
