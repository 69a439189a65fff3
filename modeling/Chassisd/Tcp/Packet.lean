import Chassisd.Tcp.Checksum
import Chassisd.Udp.Server

namespace Chassisd

abbrev tcpMagic : UInt16 := 0xFBFB

abbrev errorCommand : UInt16 := 255

structure TcpPacketCommandHeader where
  magic : UInt16
  length : UInt16
  uSnumber : UInt16
  commandID : UInt16
  externalMode : UInt16
  deriving DecidableEq, Repr

namespace TcpPacketCommandHeader

def sizeof : Nat := 10

def toBytes (h : TcpPacketCommandHeader) : List UInt8 :=
  (bytesOfUInt16 h.magic).toList ++ ((bytesOfUInt16 h.length).toList ++
    ((bytesOfUInt16 h.uSnumber).toList ++ ((bytesOfUInt16 h.commandID).toList ++
      (bytesOfUInt16 h.externalMode).toList)))

def ofBytes (bs : List UInt8) : TcpPacketCommandHeader where
  magic := halfAt bs 0
  length := halfAt bs 2
  uSnumber := halfAt bs 4
  commandID := halfAt bs 6
  externalMode := halfAt bs 8

variable (h : TcpPacketCommandHeader) (body : List UInt8)

@[simp] theorem length_toBytes : h.toBytes.length = sizeof := rfl

theorem ofBytes_toBytes : ofBytes (h.toBytes ++ body) = h := by
  have hhalf := UdpServer.halfAt_append
  have hmagic := hhalf [] ((bytesOfUInt16 h.length).toList ++ ((bytesOfUInt16 h.uSnumber).toList ++
    ((bytesOfUInt16 h.commandID).toList ++ ((bytesOfUInt16 h.externalMode).toList ++ body))))
    h.magic
  have hlength := hhalf (bytesOfUInt16 h.magic).toList ((bytesOfUInt16 h.uSnumber).toList ++
    ((bytesOfUInt16 h.commandID).toList ++ ((bytesOfUInt16 h.externalMode).toList ++ body)))
    h.length
  have hnumber := hhalf ((bytesOfUInt16 h.magic).toList ++ (bytesOfUInt16 h.length).toList)
    ((bytesOfUInt16 h.commandID).toList ++ ((bytesOfUInt16 h.externalMode).toList ++ body))
    h.uSnumber
  have hcommand := hhalf ((bytesOfUInt16 h.magic).toList ++ ((bytesOfUInt16 h.length).toList ++
    (bytesOfUInt16 h.uSnumber).toList)) ((bytesOfUInt16 h.externalMode).toList ++ body) h.commandID
  have hmode := hhalf ((bytesOfUInt16 h.magic).toList ++ ((bytesOfUInt16 h.length).toList ++
    ((bytesOfUInt16 h.uSnumber).toList ++ (bytesOfUInt16 h.commandID).toList))) body h.externalMode
  simp only [List.append_assoc, List.nil_append] at hmagic hlength hnumber hcommand hmode
  simp only [toBytes, List.append_assoc]
  cases h
  exact congr (congr (congr (congr (congrArg mk hmagic) hlength) hnumber) hcommand) hmode

end TcpPacketCommandHeader

section Words

def wordsBytes (words : List UInt32) : List UInt8 :=
  words.flatMap fun word => (bytesOfUInt32 word).toList

def wordAt (bs : List UInt8) (offset : Nat) : UInt32 := uInt32OfBytes (bytesAt bs offset 4)

def tableBytes (table : Int → UInt32) : List UInt8 :=
  wordsBytes ((List.range maximumMicroServerCardNumber).map fun i : Nat => table i)

theorem length_wordsBytes (words : List UInt32) : (wordsBytes words).length = 4 * words.length := by
  induction words with
  | nil => rfl
  | cons word words ih =>
    rw [wordsBytes, List.flatMap_cons, List.length_append, Vector.length_toList]
    rw [wordsBytes] at ih
    rw [ih, List.length_cons]
    omega

theorem length_tableBytes (table : Int → UInt32) : (tableBytes table).length = 192 := by
  rw [tableBytes, length_wordsBytes, List.length_map, List.length_range,
    maximumMicroServerCardNumber]

theorem wordAt_wordsBytes {words : List UInt32} (pre post : List UInt8) {i : Nat} {word : UInt32}
    (hi : words[i]? = some word) :
    wordAt (pre ++ (wordsBytes words ++ post)) (pre.length + 4 * i) = word := by
  induction words generalizing pre i with
  | nil => exact absurd hi (by simp)
  | cons first words ih =>
    have hsplit : wordsBytes (first :: words) = (bytesOfUInt32 first).toList ++ wordsBytes words :=
      List.flatMap_cons
    rw [hsplit, List.append_assoc]
    cases i with
    | zero =>
      obtain rfl : first = word := Option.some.inj hi
      rw [wordAt, Nat.mul_zero, bytesAt_append_right, bytesAt_toList, uInt32OfBytes_bytesOfUInt32]
    | succ i =>
      have hnext := ih (pre ++ (bytesOfUInt32 first).toList) hi
      rw [List.length_append, Vector.length_toList, List.append_assoc] at hnext
      rw [show pre.length + 4 * (i + 1) = pre.length + 4 + 4 * i by omega]
      exact hnext

theorem wordAt_tableBytes (table : Int → UInt32) (pre post : List UInt8) {i : Nat}
    (hi : i < maximumMicroServerCardNumber) :
    wordAt (pre ++ (tableBytes table ++ post)) (pre.length + 4 * i) = table i := by
  refine wordAt_wordsBytes pre post ?_
  rw [List.getElem?_map, List.getElem?_range hi, Option.map_some]

end Words

section Sealed

-- Both sides leave the magic and the csum itself out of the checksum.
def sealed (checksum : List UInt8 → UInt8) (data : List UInt8) : List UInt8 :=
  data ++ [checksum (data.drop 2)]

def CsumMatches (checksum : List UInt8 → UInt8) (size : Nat) (bs : List UInt8) : Prop :=
  checksum ((bs.take (size - 1)).drop 2) = byteAt bs (size - 1)

instance (checksum : List UInt8 → UInt8) (size : Nat) (bs : List UInt8) :
    Decidable (CsumMatches checksum size bs) := inferInstanceAs (Decidable (_ = _))

theorem sealed_csumMatches (checksum : List UInt8 → UInt8) (data rest : List UInt8) :
    CsumMatches checksum (data.length + 1) (sealed checksum data ++ rest) := by
  have hbyte := byteAt_append_right data ([checksum (data.drop 2)] ++ rest) 0
  rw [CsumMatches, sealed, Nat.add_sub_cancel, List.append_assoc, List.take_left, ← Nat.add_zero
    data.length, hbyte]
  rfl

theorem calculateCrc8Checksum_eq_zero (crc data : UInt8) :
    calculateCrc8Checksum crc data = 0 ↔ crc = data := by
  rw [← UInt8.toBitVec_inj, calculateCrc8Checksum_eq_clocks, ← UInt8.toBitVec_inj]
  constructor
  · intro h
    have hzero := Crc.eq_zero_of_clock_iterate_eq_zero (by decide) h
    exact BitVec.xor_eq_zero_iff.mp hzero
  · intro h
    rw [h, BitVec.xor_self]
    decide

theorem checksum_concat_eq_zero (data : List UInt8) (csum : UInt8) :
    crcUtilCalculateCrc8ChecksumOfBuffer (data ++ [csum]) = 0 ↔
      crcUtilCalculateCrc8ChecksumOfBuffer data = csum := by
  have hstep : crcUtilCalculateCrc8ChecksumOfBuffer (data ++ [csum]) =
      calculateCrc8Checksum (crcUtilCalculateCrc8ChecksumOfBuffer data) csum :=
    List.foldl_concat ..
  rw [hstep, calculateCrc8Checksum_eq_zero]

theorem checksum_zeros (data : List UInt8) (n : Nat) :
    crcUtilCalculateCrc8ChecksumOfBuffer (data ++ .replicate n 0) = 0 ↔
      crcUtilCalculateCrc8ChecksumOfBuffer data = 0 := by
  induction n with
  | zero => rw [List.replicate_zero, List.append_nil]
  | succ n ih =>
    rw [List.replicate_succ', ← List.append_assoc, checksum_concat_eq_zero, ih]

theorem csumMatches_iff {size : Nat} {bs : List UInt8} (hsize : 3 ≤ size)
    (hbs : size ≤ bs.length) : CsumMatches crcUtilCalculateCrc8ChecksumOfBuffer size bs ↔
      crcUtilCalculateCrc8ChecksumOfBuffer ((bs.take size).drop 2) = 0 := by
  obtain ⟨n, rfl⟩ := Nat.exists_eq_add_of_le' (show 1 ≤ size by omega)
  have hlast : (bs.take (n + 1)).drop 2 = (bs.take n).drop 2 ++ [byteAt bs n] := by
    rw [List.take_add_one, List.getElem?_eq_getElem (by omega), Option.toList_some,
      List.drop_append_of_le_length (by rw [List.length_take]; omega), byteAt,
      List.getD_eq_getElem _ _ (by omega)]
  rw [CsumMatches, Nat.add_sub_cancel, hlast, checksum_concat_eq_zero]

end Sealed

end Chassisd
