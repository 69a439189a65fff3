import Chassisd.Library.Crc

namespace Chassisd

def calculateCrc8Checksum (crc data : UInt8) : UInt8 :=
  let i := data ^^^ crc
  let crc : UInt8 := 0
  let crc := if i &&& 1 ≠ 0 then crc ^^^ 0x5e else crc
  let crc := if i &&& 2 ≠ 0 then crc ^^^ 0xbc else crc
  let crc := if i &&& 4 ≠ 0 then crc ^^^ 0x61 else crc
  let crc := if i &&& 8 ≠ 0 then crc ^^^ 0xc2 else crc
  let crc := if i &&& 0x10 ≠ 0 then crc ^^^ 0x9d else crc
  let crc := if i &&& 0x20 ≠ 0 then crc ^^^ 0x23 else crc
  let crc := if i &&& 0x40 ≠ 0 then crc ^^^ 0x46 else crc
  let crc := if i &&& 0x80 ≠ 0 then crc ^^^ 0x8c else crc
  crc

def calculateCrc8ChecksumOfBuffer (checksum : UInt8 → UInt8 → UInt8) (data : List UInt8) : UInt8 :=
  data.foldl checksum 0

def crcUtilCalculateCrc8Checksum : UInt8 → UInt8 → UInt8 := calculateCrc8Checksum

def crcUtilCalculateCrc8ChecksumOfBuffer : List UInt8 → UInt8 :=
  calculateCrc8ChecksumOfBuffer crcUtilCalculateCrc8Checksum

def tcpClientCalculateCrc8Checksum : UInt8 → UInt8 → UInt8 := calculateCrc8Checksum

def tcpClientCalculateCrc8ChecksumOfBuffer : List UInt8 → UInt8 :=
  calculateCrc8ChecksumOfBuffer tcpClientCalculateCrc8Checksum

-- The polynomial x⁸ + x⁵ + x⁴ + 1, reflected.
def crc8Poly : BitVec 8 := 0x8c#8

def byteBits (data : UInt8) : List Bool := (List.range 8).map data.toBitVec.getLsbD

def bufferBits (data : List UInt8) : List Bool := data.flatMap byteBits

def differingBits (a b : List UInt8) : List Bool := List.zipWith xor (bufferBits a) (bufferBits b)

@[simp] theorem length_byteBits (data : UInt8) : (byteBits data).length = 8 := rfl

@[simp] theorem bufferBits_cons (d : UInt8) (data : List UInt8) :
    bufferBits (d :: data) = byteBits d ++ bufferBits data := List.flatMap_cons

theorem length_bufferBits (data : List UInt8) : (bufferBits data).length = 8 * data.length := by
  induction data with
  | nil => rfl
  | cons d data ih =>
    rw [bufferBits_cons, List.length_append, length_byteBits, ih, List.length_cons]
    omega

theorem ofBits_byteBits (data : UInt8) : Crc.ofBits (byteBits data) = data.toBitVec := by
  apply BitVec.eq_of_getLsbD_eq
  intro i hi
  rw [Crc.getLsbD_ofBits _ hi, byteBits, List.getD_eq_getElem _ _ (by simpa using hi)]
  simp

theorem byteBits_injective : Function.Injective byteBits := by
  intro a b h
  rw [← UInt8.toBitVec_inj, ← ofBits_byteBits a, h, ofBits_byteBits]

theorem bufferBits_injective {a b : List UInt8} (hlength : a.length = b.length)
    (h : bufferBits a = bufferBits b) : a = b := by
  induction a generalizing b with
  | nil => exact (List.length_eq_zero_iff.mp hlength.symm).symm
  | cons x a ih =>
    cases b with
    | nil => exact absurd hlength (by simp)
    | cons y b =>
      rw [bufferBits_cons, bufferBits_cons] at h
      obtain ⟨hhead, htail⟩ := List.append_inj h rfl
      rw [byteBits_injective hhead, ih (by simpa using hlength) htail]

theorem crc8Constants_eq_clocks :
    ∀ i : BitVec 8, (calculateCrc8Checksum 0 (.ofBitVec i)).toBitVec =
      (Crc.clock crc8Poly)^[8] i := by
  decide +kernel

theorem calculateCrc8Checksum_eq_clocks (crc data : UInt8) :
    (calculateCrc8Checksum crc data).toBitVec =
      (Crc.clock crc8Poly)^[8] (crc.toBitVec ^^^ data.toBitVec) := by
  have hindex : calculateCrc8Checksum crc data = calculateCrc8Checksum 0 (data ^^^ crc) := by
    rw [calculateCrc8Checksum, calculateCrc8Checksum, UInt8.xor_zero]
  rw [hindex, BitVec.xor_comm]
  exact crc8Constants_eq_clocks (data ^^^ crc).toBitVec

theorem calculateCrc8Checksum_serial (crc data : UInt8) :
    (calculateCrc8Checksum crc data).toBitVec = Crc.crc crc8Poly crc.toBitVec (byteBits data) := by
  rw [Crc.crc_burst _ _ (length_byteBits data).le, ofBits_byteBits,
    calculateCrc8Checksum_eq_clocks]
  rfl

theorem checksum_foldl_serial (crc : UInt8) (data : List UInt8) :
    (data.foldl calculateCrc8Checksum crc).toBitVec =
      Crc.crc crc8Poly crc.toBitVec (bufferBits data) := by
  induction data generalizing crc with
  | nil => rfl
  | cons d data ih =>
    rw [List.foldl_cons, ih, bufferBits_cons, Crc.crc_append, calculateCrc8Checksum_serial]

theorem crcUtil_serial (data : List UInt8) :
    (crcUtilCalculateCrc8ChecksumOfBuffer data).toBitVec =
      Crc.crc crc8Poly 0#8 (bufferBits data) := checksum_foldl_serial 0 data

theorem tcpClient_serial (data : List UInt8) :
    (tcpClientCalculateCrc8ChecksumOfBuffer data).toBitVec =
      Crc.crc crc8Poly 0#8 (bufferBits data) := checksum_foldl_serial 0 data

theorem checksum_ne_of_crc_ne {a b : List UInt8}
    (h : Crc.crc crc8Poly 0#8 (bufferBits a) ≠ Crc.crc crc8Poly 0#8 (bufferBits b)) :
    crcUtilCalculateCrc8ChecksumOfBuffer a ≠ crcUtilCalculateCrc8ChecksumOfBuffer b := by
  intro heq
  rw [← crcUtil_serial, ← crcUtil_serial, heq] at h
  exact h rfl

theorem checksum_detects_errors :
    (∀ a b : List UInt8, a.length = b.length → a ≠ b →
      Crc.Within 8 (differingBits a b) ∨ Odd ((differingBits a b).count true) →
      crcUtilCalculateCrc8ChecksumOfBuffer a ≠ crcUtilCalculateCrc8ChecksumOfBuffer b) ∧
    ∀ data : List UInt8,
      (crcUtilCalculateCrc8ChecksumOfBuffer data).toBitVec =
        Crc.crc 0x8c#8 0#8 (bufferBits data) ∧
      (tcpClientCalculateCrc8ChecksumOfBuffer data).toBitVec =
        Crc.crc 0x8c#8 0#8 (bufferBits data) := by
  refine ⟨?_, fun data => ⟨crcUtil_serial data, tcpClient_serial data⟩⟩
  intro a b hlength hne herror
  have hbits : (bufferBits a).length = (bufferBits b).length := by
    rw [length_bufferBits, length_bufferBits, hlength]
  apply checksum_ne_of_crc_ne
  rcases herror with hburst | hodd
  · exact Crc.crc_ne_of_burst (by decide) 0#8 hbits
      (fun h => hne (bufferBits_injective hlength h)) hburst
  · exact Crc.crc_ne_of_odd (by decide) 0#8 hbits hodd

theorem straddling_burst_detected :
    crcUtilCalculateCrc8ChecksumOfBuffer [0x80, 0x00] ≠
      crcUtilCalculateCrc8ChecksumOfBuffer [0x00, 0x01] := by
  refine checksum_detects_errors.1 _ _ rfl (by decide) (.inl ⟨7, fun i hi => ?_⟩)
  obtain ⟨hlt, hbit⟩ := List.getElem?_eq_some_iff.mp hi
  have hwindow : ∀ j : Fin (differingBits [0x80, 0x00] [0x00, 0x01]).length,
      (differingBits [0x80, 0x00] [0x00, 0x01]).get j = true → 7 ≤ j.val ∧ j.val < 7 + 8 := by
    decide
  exact hwindow ⟨i, hlt⟩ hbit

end Chassisd
