import Chassisd.Bpdu.Types

namespace Chassisd

abbrev port8Fc0 : Nat := 2
abbrev port8Fc1 : Nat := 3
abbrev port8Fc2 : Nat := 4
abbrev port8Fc3 : Nat := 5
abbrev port8C1 : Nat := 0
abbrev port8C2 : Nat := 7
abbrev port8Port1 : Nat := 1
abbrev port8Port6 : Nat := 6

abbrev port16Lc0 : Nat := 5
abbrev port16Lc1 : Nat := 4
abbrev port16Lc2 : Nat := 7
abbrev port16Lc3 : Nat := 6
abbrev port16Lc4 : Nat := 1
abbrev port16Lc5 : Nat := 0
abbrev port16Lc6 : Nat := 3
abbrev port16Lc7 : Nat := 2
abbrev port16Port8 : Nat := 8
abbrev port16Rj45 : Nat := 9
abbrev port16Port10 : Nat := 10
abbrev port16Fc : Nat := 11
abbrev port16Port12 : Nat := 12
abbrev port16Port13 : Nat := 13
abbrev port16C1 : Nat := 14
abbrev port16C2 : Nat := 15

def configPort (usNumber : Nat) (state : PortState) (pid : Nat) (sw : Switch) : Switch :=
  if usNumber % 2 = 0 then sw
  else
    { port := fun p => if p = pid then some state else sw.port p
      writes := sw.writes ++ [(pid, state)] }

def isLineNumber (usNumber : Nat) : Bool := decide (1 ≤ usNumber ∧ usNumber ≤ 32)

def isLowFabricNumber (usNumber : Nat) : Bool :=
  decide ((33 ≤ usNumber ∧ usNumber ≤ 36) ∨ (41 ≤ usNumber ∧ usNumber ≤ 44))

def isHighFabricNumber (usNumber : Nat) : Bool :=
  decide ((37 ≤ usNumber ∧ usNumber ≤ 40) ∨ (45 ≤ usNumber ∧ usNumber ≤ 48))

def onePort (usNumber port : Nat) : Option Nat :=
  if isLineNumber usNumber then
    match port with
    | 33 | 34 | 41 | 42 => some port8Fc0
    | 35 | 36 | 43 | 44 => some port8Fc1
    | 37 | 38 | 45 | 46 => some port8Fc2
    | 39 | 40 | 47 | 48 => some port8Fc3
    | _ => none
  else if isLowFabricNumber usNumber then
    match port with
    | 1 | 2 | 17 | 18 => some port16Lc0
    | 3 | 4 | 19 | 20 => some port16Lc1
    | 5 | 6 | 21 | 22 => some port16Lc2
    | 7 | 8 | 23 | 24 => some port16Lc3
    | 9 | 10 | 25 | 26 => some port16Lc4
    | 11 | 12 | 27 | 28 => some port16Lc5
    | 13 | 14 | 29 | 30 => some port16Lc6
    | 15 | 16 | 31 | 32 => some port16Lc7
    | _ => none
  else
    match port with
    | 1 | 2 | 17 | 18 => some port16Lc4
    | 3 | 4 | 19 | 20 => some port16Lc5
    | 5 | 6 | 21 | 22 => some port16Lc6
    | 7 | 8 | 23 | 24 => some port16Lc7
    | 9 | 10 | 25 | 26 => some port16Lc0
    | 11 | 12 | 27 | 28 => some port16Lc1
    | 13 | 14 | 29 | 30 => some port16Lc2
    | 15 | 16 | 31 | 32 => some port16Lc3
    | _ => none

def configOptional (usNumber : Nat) (state : PortState) : Option Nat → Switch → Switch
  | none, sw => sw
  | some pid, sw => configPort usNumber state pid sw

def config1Port (usNumber port : Nat) (status : PortState) (sw : Switch) : Switch :=
  configOptional usNumber status (onePort usNumber port) sw

def backplanePorts (usNumber : Nat) : List Nat :=
  if isLineNumber usNumber then [port8Fc0, port8Fc1, port8Fc2, port8Fc3]
  else [port16Lc0, port16Lc1, port16Lc2, port16Lc3, port16Lc4, port16Lc5, port16Lc6, port16Lc7,
    port16Fc]

def configAllPort (usNumber : Nat) (status : PortState) (sw : Switch) : Switch :=
  (backplanePorts usNumber).foldl (fun sw pid => configPort usNumber status pid sw) sw

def enterBlockState (usNumber : Nat) (sw : Switch) : Switch := configAllPort usNumber .blocking sw

def enterLearningState (usNumber : Nat) (sw : Switch) : Switch :=
  configAllPort usNumber .listening sw

-- the switches of chassis_bpdu_enter_forwarding_state
def forwardingPort (usNumber rootFcId designedLcId : Nat) : Option Nat :=
  if isLineNumber usNumber then
    match rootFcId with
    | 33 | 41 => some port8Fc0
    | 35 | 43 => some port8Fc1
    | 37 | 45 => some port8Fc2
    | 39 | 47 => some port8Fc3
    | _ => none
  else if isLowFabricNumber usNumber then
    match designedLcId with
    | 1 | 17 => some port16Lc0
    | 3 | 19 => some port16Lc1
    | 5 | 21 => some port16Lc2
    | 7 | 23 => some port16Lc3
    | 9 | 25 => some port16Lc4
    | 11 | 27 => some port16Lc5
    | 13 | 29 => some port16Lc6
    | 15 | 31 => some port16Lc7
    | _ => none
  else
    match designedLcId with
    | 1 | 17 => some port16Lc4
    | 3 | 19 => some port16Lc5
    | 5 | 21 => some port16Lc6
    | 7 | 23 => some port16Lc7
    | 9 | 25 => some port16Lc0
    | 11 | 27 => some port16Lc1
    | 13 | 29 => some port16Lc2
    | 15 | 31 => some port16Lc3
    | _ => none

def isElected (usNumber rootFcId designedLcId : Nat) : Bool :=
  if isLineNumber usNumber then designedLcId == usNumber else rootFcId == usNumber

def enterForwardingState (usNumber rootFcId designedLcId : Nat) (sw : Switch) : Switch :=
  if isLineNumber usNumber || isLowFabricNumber usNumber || isHighFabricNumber usNumber then
    if isElected usNumber rootFcId designedLcId then configAllPort usNumber .forwarding sw
    else configOptional usNumber .forwarding (forwardingPort usNumber rootFcId designedLcId)
      (configAllPort usNumber .blocking sw)
  else sw

-- The port writes of chassis_initial_bcm; its other commands set VLAN, PHY and ARL registers.
def initialBcm (usNumber : Nat) (sw : Switch) : Switch :=
  [(port16Fc, PortState.disabled), (port16Port8, .disabled), (port16Port10, .disabled),
    (port16Port12, .disabled), (port16Port13, .disabled), (port16Rj45, .forwarding),
    (port16C1, .forwarding), (port16C2, .forwarding)].foldl
    (fun sw w => configPort usNumber w.2 w.1 sw) sw

-- The port writes alone: chassis_bpdu_reset_cpld ahead of them resets the switch.
def blockTime (usNumber : Nat) (sw : Switch) : Switch := initialBcm usNumber sw

end Chassisd
