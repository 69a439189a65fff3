import Chassisd.Bpdu.RoundTrip
import Chassisd.Library.Bpf

namespace Chassisd

open Bpf (SockFilter accepts etherDst)

def stpFilter3 : List SockFilter :=
  [⟨0x20, 0, 0, 0x00000002⟩, ⟨0x15, 0, 3, 0xb5000001⟩, ⟨0x28, 0, 0, 0x00000000⟩,
    ⟨0x15, 0, 1, 0x00000110⟩, ⟨0x6, 0, 0, 0x0000ffff⟩, ⟨0x6, 0, 0, 0x00000000⟩]

def stpFilter4 : List SockFilter :=
  [⟨0x20, 0, 0, 0x00000002⟩, ⟨0x15, 0, 3, 0xb5000002⟩, ⟨0x28, 0, 0, 0x00000000⟩,
    ⟨0x15, 0, 1, 0x00000110⟩, ⟨0x6, 0, 0, 0x0000ffff⟩, ⟨0x6, 0, 0, 0x00000000⟩]

def attachedFilter (usNumber : Nat) : List SockFilter :=
  if (1 ≤ usNumber ∧ usNumber ≤ 16) ∨ (41 ≤ usNumber ∧ usNumber ≤ 48) then stpFilter3
  else stpFilter4

-- recvfrom into buf[2048]
def readInto (stale : ReceiveBuffer) (bytes : List UInt8) : ReceiveBuffer :=
  Vector.ofFn fun i => bytes.getD i (stale.get i)

-- A frame on the wire reaches bpdu_packet_rcv cut to what the filter lets through, or not at all.
def bpduSocketRcv (usNumber : Nat) (stale : ReceiveBuffer) (frame : List UInt8) (c : Chassis) :
    Chassis :=
  let passed := accepts (attachedFilter usNumber) frame
  if passed = 0 then c
  else
    let bytes := (frame.take passed).take 2048
    bpduPacketRcv (readInto stale bytes) bytes.length c

inductive Tier where
  | upper
  | down
  deriving DecidableEq

def tier (usNumber : Nat) : Tier :=
  if usNumber ≤ 16 ∨ (33 ≤ usNumber ∧ usNumber ≤ 40) then .upper else .down

section Groups

def bpduGroup (last : UInt8) : Vector UInt8 6 := #v[0x1, 0x10, 0xb5, 0x0, 0x0, last]

theorem stpFilter3_eq : stpFilter3 = etherDst (bpduGroup 1).toList 0xffff := by decide

theorem stpFilter4_eq : stpFilter4 = etherDst (bpduGroup 2).toList 0xffff := by decide

def listensFirst (usNumber : Nat) : Prop :=
  (1 ≤ usNumber ∧ usNumber ≤ 16) ∨ (41 ≤ usNumber ∧ usNumber ≤ 48)

instance (usNumber : Nat) : Decidable (listensFirst usNumber) :=
  inferInstanceAs (Decidable (_ ∨ _))

theorem attachedFilter_eq (usNumber : Nat) : attachedFilter usNumber =
    etherDst (bpduGroup (if listensFirst usNumber then 1 else 2)).toList 0xffff := by
  have hif : attachedFilter usNumber = if listensFirst usNumber then stpFilter3 else stpFilter4 :=
    rfl
  rw [hif, stpFilter3_eq, stpFilter4_eq]
  split_ifs <;> rfl

theorem bpduMulticast_eq (usNumber : Nat) :
    bpduMulticast usNumber = bpduGroup (if listensFirst usNumber then 2 else 1) := by
  have hif : bpduMulticast usNumber =
      if listensFirst usNumber then #v[0x1, 0x10, 0xb5, 0x0, 0x0, 0x2]
      else #v[0x1, 0x10, 0xb5, 0x0, 0x0, 0x1] := rfl
  rw [hif]
  split_ifs <;> rfl

theorem bpduGroup_inj {x y : UInt8} : bpduGroup x = bpduGroup y ↔ x = y := by
  constructor
  · intro h
    exact congrArg (fun v : Vector UInt8 6 => v[5]) h
  · exact congrArg bpduGroup

theorem passed_attachedFilter (usNumber : Nat) (frame : List UInt8) :
    accepts (attachedFilter usNumber) frame =
      if (bpduGroup (if listensFirst usNumber then 1 else 2)).toList <+: frame then 0xffff
      else 0 := by
  rw [attachedFilter_eq]
  exact Bpf.accepts_etherDst (by simp) 0xffff frame

theorem listensFirst_iff {k : Nat} (hk : 1 ≤ k ∧ k ≤ 48) :
    listensFirst k ↔ (tier k = .upper ↔ k < 33) := by
  have hupper : tier k = .upper ↔ k ≤ 16 ∨ (33 ≤ k ∧ k ≤ 40) := by
    unfold tier
    split_ifs with h <;> simp [h]
  rw [hupper]
  unfold listensFirst
  omega

end Groups

section Reception

variable {m : RstpBpdu} {pad : TablePadding} {usNumber : Nat}

theorem prefix_toBytes (group : Vector UInt8 6) (m : RstpBpdu) (pad : TablePadding) :
    group.toList <+: m.toBytes pad ↔ group = m.mac.dstMac := by
  obtain ⟨rest, hrest⟩ : ∃ rest, m.toBytes pad = m.mac.dstMac.toList ++ rest := by
    simp [RstpBpdu.toBytes, RstpBpdu.headBytes]
  rw [hrest, List.prefix_iff_eq_take, List.take_append_of_le_length (by simp),
    List.take_of_length_le (by simp), Vector.toList_inj]

theorem prefix_ofFn {n : Nat} (stale : Fin n → UInt8) {bytes : List UInt8}
    (h : bytes.length ≤ n) :
    bytes <+: (Vector.ofFn fun i : Fin n => bytes.getD i (stale i)).toList := by
  rw [List.prefix_iff_eq_take, Vector.toList_ofFn]
  refine List.ext_getElem ?_ fun i hi _ => ?_
  · rw [List.length_take, List.length_ofFn, Nat.min_eq_left h]
  · rw [List.getElem_take, List.getElem_ofFn, List.getD_eq_getElem _ _ hi]

theorem bpduSocketRcv_toBytes (stale : ReceiveBuffer) (c : Chassis) :
    bpduSocketRcv usNumber stale (m.toBytes pad) c =
      if bpduGroup (if listensFirst usNumber then 1 else 2) = m.mac.dstMac then
        rxBpdu m RstpBpdu.sizeof c
      else c := by
  have hlen : (m.toBytes pad).length = 534 := RstpBpdu.toBytes_length pad m
  have hpass := passed_attachedFilter usNumber (m.toBytes pad)
  have hmac := prefix_toBytes (bpduGroup (if listensFirst usNumber then 1 else 2)) m pad
  by_cases hgroup : bpduGroup (if listensFirst usNumber then 1 else 2) = m.mac.dstMac
  · have hfit : (m.toBytes pad).length ≤ 2048 := by omega
    obtain ⟨rest, hbuf⟩ := prefix_ofFn stale.get hfit
    have htake : ((m.toBytes pad).take 0xffff).take 2048 = m.toBytes pad := by
      rw [List.take_of_length_le (i := 0xffff) (by omega), List.take_of_length_le (by omega)]
    rw [if_pos (hmac.mpr hgroup)] at hpass
    rw [bpduSocketRcv, if_pos hgroup, hpass, if_neg (by decide), htake]
    dsimp only
    rw [hlen, bpduPacketRcv, if_neg (by decide), readInto, ← hbuf, RstpBpdu.ofBytes_toBytes]
    rfl
  · rw [if_neg fun h => hgroup (hmac.mp h)] at hpass
    rw [bpduSocketRcv, if_neg hgroup, hpass, if_pos rfl]

end Reception

section Hearing

variable {j k : Nat} (this : Ctpm) (t : ChassisExist) (bpduType : UInt8)
  (pad : TablePadding)

theorem heard_iff (hj : 1 ≤ j ∧ j ≤ 48) (hk : 1 ≤ k ∧ k ≤ 48) :
    bpduGroup (if listensFirst j then 1 else 2) = bpduMulticast k ↔
      (tier j = tier k ↔ ¬(j < 33 ↔ k < 33)) := by
  have hjk := listensFirst_iff hj
  have hkk := listensFirst_iff hk
  rw [bpduMulticast_eq, bpduGroup_inj]
  cases hhj : tier j <;> cases hhk : tier k <;> simp only [hhj, hhk, reduceCtorEq] at hjk hkk ⊢ <;>
    by_cases hlj : j < 33 <;> by_cases hlk : k < 33 <;> simp [hjk, hkk, hlj, hlk]

theorem socket_hears_iff (hj : 1 ≤ j ∧ j ≤ 48) (hk : 1 ≤ k ∧ k ≤ 48) (stale : ReceiveBuffer)
    (c : Chassis) :
    bpduSocketRcv j stale ((infoBpdu k this t bpduType).toBytes pad) c =
      if tier j = tier k ↔ ¬(j < 33 ↔ k < 33) then
        rxBpdu (infoBpdu k this t bpduType) RstpBpdu.sizeof c
      else c := by
  rw [bpduSocketRcv_toBytes]
  exact if_congr (heard_iff hj hk) rfl rfl

theorem socket_hears_reply :
    bpduSocketRcv 1 (Vector.replicate 2048 0) ((infoBpdu 33 Ctpm.zero ChassisExist.zero
        bpduTypeHello).toBytes noPadding) (startUp 1 .lineCard .enabled (Vector.replicate 6 0)) =
      rxBpdu (infoBpdu 33 Ctpm.zero ChassisExist.zero bpduTypeHello) RstpBpdu.sizeof
        (startUp 1 .lineCard .enabled (Vector.replicate 6 0)) := by
  rw [socket_hears_iff _ _ _ _ (by decide) (by decide), if_pos (by decide)]

end Hearing

end Chassisd
