import Chassisd.Bpdu.Receive

namespace Chassisd

theorem number_eq (b : BridgeId) : b.number = b.prio.toNat / 256 := by
  have hb : b.prio.toNat < 65536 := b.prio.toNat_lt
  have h255 : (0x00ff : UInt16).toNat = 2 ^ 8 - 1 := rfl
  have h8 : (8 : UInt16).toNat % 16 = 8 := rfl
  simp only [BridgeId.number, htons, UInt16.toNat_and, UInt16.toNat_or, UInt16.toNat_shiftLeft,
    UInt16.toNat_shiftRight, h255, Nat.and_two_pow_sub_one_eq_mod, Nat.or_mod_two_pow]
  rw [h8, Nat.shiftLeft_eq, Nat.shiftRight_eq_div_pow]
  have h0 : b.prio.toNat * 2 ^ 8 % 2 ^ 16 % 2 ^ 8 = 0 := by omega
  rw [h0, Nat.zero_or]
  omega

theorem idByte_toBytes (b : BridgeId) : BridgeId.idByte b.toBytes = b.number := by
  rw [number_eq]
  have hb : b.prio.toNat < 65536 := b.prio.toNat_lt
  simp [BridgeId.idByte, BridgeId.toBytes, UInt16.toNat_shiftRight, Nat.shiftRight_eq_div_pow]
  omega

theorem number_ofBytes (v : Vector UInt8 8) : (BridgeId.ofBytes v).number = BridgeId.idByte v := by
  rw [number_eq, BridgeId.idByte]
  have h0 := v[0].toNat_lt
  have h1 := v[1].toNat_lt
  have h8 : (8 : UInt16).toNat % 16 = 8 := rfl
  simp only [BridgeId.ofBytes, UInt16.toNat_or, UInt16.toNat_shiftLeft, UInt8.toNat_toUInt16, h8]
  have hs : v[1].toNat <<< 8 % 2 ^ 16 = v[1].toNat <<< 8 := by
    rw [Nat.shiftLeft_eq]; omega
  rw [hs, Nat.or_comm, ← Nat.shiftLeft_add_eq_or_of_lt h0, Nat.shiftLeft_eq]
  omega

@[simp] theorem number_rootId (m : RstpBpdu) :
    (BridgeId.ofBytes m.body.rootId).number = m.rootId := number_ofBytes _

@[simp] theorem number_bridgeId (m : RstpBpdu) :
    (BridgeId.ofBytes m.body.bridgeId).number = m.dbridgeId := number_ofBytes _

@[simp] theorem number_zero : BridgeId.zero.number = 0 := by decide

theorem number_htons (x : UInt16) (a : Vector UInt8 6) :
    (BridgeId.mk (htons x) a).number = x.toNat % 256 := by
  have hx : x.toNat < 65536 := x.toNat_lt
  have h8 : (8 : UInt16).toNat % 16 = 8 := rfl
  simp only [number_eq, htons, UInt16.toNat_or, UInt16.toNat_shiftLeft, UInt16.toNat_shiftRight,
    h8, Nat.shiftLeft_eq, Nat.shiftRight_eq_div_pow]
  rw [show (256 : Nat) = 2 ^ 8 from rfl, Nat.or_div_two_pow]
  have h0 : x.toNat / 2 ^ 8 / 2 ^ 8 = 0 := by omega
  rw [h0, Nat.or_zero]
  omega

theorem number_initial (k : Nat) (hk : k < 256) (a : Vector UInt8 6) :
    (BridgeId.mk (htons (UInt16.ofNat (4096 + k))) a).number = k := by
  rw [number_htons, UInt16.toNat_ofNat']
  omega

section Sent

variable (usNumber : Nat) (ctpm : Ctpm) (t : ChassisExist) (bpduType : UInt8)

@[simp] theorem infoBpdu_rootId :
    (infoBpdu usNumber ctpm t bpduType).rootId = ctpm.rootPrio.rootBridge.number :=
  idByte_toBytes _

@[simp] theorem infoBpdu_dbridgeId :
    (infoBpdu usNumber ctpm t bpduType).dbridgeId = ctpm.rootPrio.designBridge.number :=
  idByte_toBytes _

@[simp] theorem infoBpdu_bpduType : (infoBpdu usNumber ctpm t bpduType).bpduType = bpduType := rfl

@[simp] theorem infoBpdu_chassisExist :
    (infoBpdu usNumber ctpm t bpduType).chassisExist = t := rfl

theorem infoBpdu_slotid (h : usNumber < 256) :
    (infoBpdu usNumber ctpm t bpduType).slotid = usNumber := by
  change (UInt8.ofNat usNumber).toNat = usNumber
  rw [UInt8.toNat_ofNat']
  omega

theorem forwardingBit_infoBpdu :
    forwardingBit (infoBpdu usNumber ctpm t bpduType) = 1 ↔ ctpm.state = .forwarding := by
  have htype : typeFlag bpduType ∈ [(0x01 : UInt8), 0x02, 0x40, 0x80, 0] := by
    unfold typeFlag; split_ifs <;> simp
  have hrole : roleFlag ctpm ∈ [(0x0c : UInt8), 0x08, 0x04] := by
    unfold roleFlag; dsimp only; split_ifs <;> simp
  change ((stateFlag ctpm.state ||| typeFlag bpduType ||| roleFlag ctpm) &&& 0x20) >>> 5 = 1 ↔ _
  generalize typeFlag bpduType = x at htype ⊢
  generalize roleFlag ctpm = y at hrole ⊢
  simp only [List.mem_cons, List.not_mem_nil, or_false] at htype hrole
  rcases htype with rfl | rfl | rfl | rfl | rfl <;> rcases hrole with rfl | rfl | rfl <;>
    cases ctpm.state <;> decide

end Sent

end Chassisd
