import Chassisd.Bpdu.Machine

namespace Chassisd

def byteAt (bs : List UInt8) (i : Nat) : UInt8 := bs.getD i 0

def bytesAt (bs : List UInt8) (off n : Nat) : Vector UInt8 n :=
  Vector.ofFn fun i => byteAt bs (off + i)

-- sizeof(BRIDGE_EXIST): the age, a byte of padding, the id
def bridgeExistSize : Nat := 10

def chassisExistOffset : Nat := 54

def BridgeExist.ofBytes (bs : List UInt8) (off : Nat) : BridgeExist :=
  ⟨byteAt bs off, BridgeId.ofBytes (bytesAt bs (off + 2) 8)⟩

def BridgeExist.toBytes (pad : UInt8) (e : BridgeExist) : List UInt8 :=
  e.age :: pad :: e.id.toBytes.toList

-- The padding byte of each entry is whatever the sender's table holds there.
abbrev TablePadding := Vector UInt8 maximumMicroServerCardNumber

def noPadding : TablePadding := Vector.replicate _ 0

namespace RstpBpdu

-- the cast of the receive buffer to RSTP_BPDU_T*
def ofBytes (bs : List UInt8) : RstpBpdu where
  mac := ⟨bytesAt bs 0 6, bytesAt bs 6 6⟩
  eth := ⟨bytesAt bs 12 2, byteAt bs 14, byteAt bs 15, byteAt bs 16⟩
  hdr := ⟨bytesAt bs 17 2, byteAt bs 19, byteAt bs 20⟩
  body :=
    { flags := byteAt bs 21
      rootId := bytesAt bs 22 8
      rootPathCost := bytesAt bs 30 4
      bridgeId := bytesAt bs 34 8
      portId := bytesAt bs 42 2
      messageAge := bytesAt bs 44 2
      maxAge := bytesAt bs 46 2
      helloTime := bytesAt bs 48 2
      forwardDelay := bytesAt bs 50 2 }
  ver1Len := bytesAt bs 52 2
  chassisExist :=
    ⟨Vector.ofFn fun i => BridgeExist.ofBytes bs (chassisExistOffset + bridgeExistSize * i)⟩

def headBytes (m : RstpBpdu) : List UInt8 :=
  m.mac.dstMac.toList ++ (m.mac.srcMac.toList ++ (m.eth.len8023.toList ++
    ([m.eth.dsap, m.eth.ssap, m.eth.llc] ++ (m.hdr.protocol.toList ++
      ([m.hdr.version, m.hdr.bpduType, m.body.flags] ++ (m.body.rootId.toList ++
        (m.body.rootPathCost.toList ++ (m.body.bridgeId.toList ++ (m.body.portId.toList ++
          (m.body.messageAge.toList ++ (m.body.maxAge.toList ++ (m.body.helloTime.toList ++
            (m.body.forwardDelay.toList ++ m.ver1Len.toList)))))))))))))

def toBytes (pad : TablePadding) (m : RstpBpdu) : List UInt8 :=
  m.headBytes ++ (List.zipWith BridgeExist.toBytes pad.toList m.chassisExist.entries.toList).flatten

end RstpBpdu

abbrev ReceiveBuffer := Vector UInt8 2048

def bpduPacketRcv (buf : ReceiveBuffer) (cc : Int) (c : Chassis) : Chassis :=
  if cc ≤ 0 then c else rxBpdu (RstpBpdu.ofBytes buf.toList) cc.toNat c

section Layout

theorem byteAt_append_right (pre bs : List UInt8) (i : Nat) :
    byteAt (pre ++ bs) (pre.length + i) = byteAt bs i := by
  simp [byteAt, List.getD_eq_getElem?_getD, List.getElem?_append_right]

theorem bytesAt_append_right (pre bs : List UInt8) (off n : Nat) :
    bytesAt (pre ++ bs) (pre.length + off) n = bytesAt bs off n := by
  simp only [bytesAt, Nat.add_assoc, byteAt_append_right]

theorem bytesAt_toList {n : Nat} (v : Vector UInt8 n) (post : List UInt8) :
    bytesAt (v.toList ++ post) 0 n = v := by
  refine Vector.ext fun i hi => ?_
  have hlen : i < v.toList.length := by simpa using hi
  simp [bytesAt, byteAt, List.getD_eq_getElem?_getD, List.getElem?_append_left hlen, hi]

theorem byteAt_skip {k : Nat} (v : Vector UInt8 k) (post : List UInt8) {off : Nat}
    (h : k ≤ off) : byteAt (v.toList ++ post) off = byteAt post (off - k) := by
  have hlen : v.toList.length = k := by simp
  rw [show off = v.toList.length + (off - k) by omega, byteAt_append_right, hlen,
    Nat.add_sub_cancel_left]

theorem byteAt_skip_cons (b : UInt8) (post : List UInt8) {off : Nat} (h : 1 ≤ off) :
    byteAt (b :: post) off = byteAt post (off - 1) := by
  obtain ⟨off, rfl⟩ := Nat.exists_eq_add_of_le' h
  rfl

theorem bytesAt_skip {k : Nat} (v : Vector UInt8 k) (post : List UInt8) {off n : Nat}
    (h : k ≤ off) : bytesAt (v.toList ++ post) off n = bytesAt post (off - k) n := by
  have hlen : v.toList.length = k := by simp
  rw [show off = v.toList.length + (off - k) by omega, bytesAt_append_right, hlen,
    Nat.add_sub_cancel_left]

theorem bytesAt_skip_cons (b : UInt8) (post : List UInt8) {off n : Nat} (h : 1 ≤ off) :
    bytesAt (b :: post) off n = bytesAt post (off - 1) n := by
  obtain ⟨off, rfl⟩ := Nat.exists_eq_add_of_le' h
  rw [Nat.add_sub_cancel, Nat.add_comm]
  exact bytesAt_append_right [b] post off n

theorem byteAt_cons (b : UInt8) (post : List UInt8) : byteAt (b :: post) 0 = b := rfl

theorem BridgeExist.toBytes_length (pad : UInt8) (e : BridgeExist) :
    (e.toBytes pad).length = bridgeExistSize := by
  simp [BridgeExist.toBytes, bridgeExistSize]

theorem flatten_toBytes_split (pads : List UInt8) (es : List BridgeExist)
    (hpads : pads.length = es.length) (i : Nat) (h : i < es.length) :
    ∃ pad pre post, (List.zipWith BridgeExist.toBytes pads es).flatten =
        pre ++ (es[i].toBytes pad ++ post) ∧ pre.length = bridgeExistSize * i := by
  induction es generalizing pads i with
  | nil => exact absurd h (Nat.not_lt_zero i)
  | cons e es ih =>
    obtain ⟨pad, pads, rfl⟩ := List.exists_cons_of_length_eq_add_one hpads
    cases i with
    | zero => exact ⟨pad, [], _, rfl, rfl⟩
    | succ i =>
      obtain ⟨pad', pre, post, heq, hlen⟩ :=
        ih pads (Nat.succ.inj hpads) i (Nat.lt_of_succ_lt_succ h)
      refine ⟨pad', e.toBytes pad ++ pre, post, ?_, ?_⟩
      · rw [List.zipWith_cons_cons, List.flatten_cons, heq, List.append_assoc,
          List.getElem_cons_succ]
      · rw [List.length_append, BridgeExist.toBytes_length, hlen, Nat.mul_succ, Nat.add_comm]

theorem flatten_toBytes_length (pads : List UInt8) (es : List BridgeExist)
    (hpads : pads.length = es.length) :
    (List.zipWith BridgeExist.toBytes pads es).flatten.length = bridgeExistSize * es.length := by
  induction es generalizing pads with
  | nil => simp
  | cons e es ih =>
    obtain ⟨pad, pads, rfl⟩ := List.exists_cons_of_length_eq_add_one hpads
    rw [List.zipWith_cons_cons, List.flatten_cons, List.length_append,
      ih pads (Nat.succ.inj hpads), BridgeExist.toBytes_length, List.length_cons, Nat.mul_succ,
      Nat.add_comm]

end Layout

theorem uInt16_of_bytes (x : UInt16) :
    x.toUInt8.toUInt16 ||| ((x >>> 8).toUInt8.toUInt16 <<< 8) = x := by
  have hb : x.toNat < 65536 := x.toNat_lt
  have h8 : (8 : UInt16).toNat % 16 = 8 := rfl
  apply UInt16.toNat_inj.mp
  simp only [UInt16.toNat_or, UInt16.toNat_shiftLeft, UInt16.toNat_shiftRight,
    UInt8.toNat_toUInt16, UInt16.toNat_toUInt8, h8, Nat.shiftRight_eq_div_pow]
  have hs : (x.toNat / 2 ^ 8 % 2 ^ 8) <<< 8 % 2 ^ 16 = (x.toNat / 2 ^ 8) <<< 8 := by
    simp only [Nat.shiftLeft_eq]; omega
  rw [hs, Nat.or_comm, ← Nat.shiftLeft_add_eq_or_of_lt (Nat.mod_lt _ (by decide)),
    Nat.shiftLeft_eq]
  omega

theorem BridgeId.ofBytes_toBytes (b : BridgeId) : BridgeId.ofBytes b.toBytes = b := by
  obtain ⟨prio, addr⟩ := b
  have haddr : #v[addr[0], addr[1], addr[2], addr[3], addr[4], addr[5]] = addr := by
    refine Vector.ext fun i hi => ?_
    interval_cases i <;> rfl
  exact congrArg₂ BridgeId.mk (uInt16_of_bytes prio) haddr

theorem htonl_htonl (x : UInt32) : htonl (htonl x) = x := by
  apply UInt32.toBitVec_inj.mp
  refine BitVec.eq_of_getLsbD_eq fun i hi => ?_
  simp only [htonl, UInt32.toBitVec_or, UInt32.toBitVec_and, UInt32.toBitVec_shiftLeft,
    UInt32.toBitVec_shiftRight]
  interval_cases i <;> simp

theorem uInt32OfBytes_bytesOfUInt32 (x : UInt32) : uInt32OfBytes (bytesOfUInt32 x) = x := by
  apply UInt32.toBitVec_inj.mp
  refine BitVec.eq_of_getLsbD_eq fun i hi => ?_
  simp only [uInt32OfBytes, bytesOfUInt32, UInt32.toBitVec_or, UInt32.toBitVec_shiftLeft,
    UInt8.toBitVec_toUInt32]
  interval_cases i <;> simp

theorem getTime2_setTime {t : UInt16} (h : t.toNat < 256) : getTime2 (setTime t) = t := by
  apply UInt16.toNat_inj.mp
  simp only [getTime2, setTime, bytesOfUInt16, htons]
  have hhigh : t.toNat <<< 8 % 65536 = t.toNat * 256 := by rw [Nat.shiftLeft_eq]; omega
  have hlow : (t.toNat * 256) <<< 8 % 256 = 0 := by rw [Nat.shiftLeft_eq]; omega
  have hbyte : (t.toNat * 256) >>> 8 = t.toNat := by rw [Nat.shiftRight_eq_div_pow]; omega
  have hmod : t.toNat % 256 = t.toNat := Nat.mod_eq_of_lt h
  have hzero : t.toNat >>> 8 = 0 := by rw [Nat.shiftRight_eq_div_pow]; omega
  simp [hhigh, hlow, hbyte, hmod, hzero]

theorem getTime2_lt (b : Vector UInt8 2) : (getTime2 b).toNat < 256 := by
  have h := (htons b[0].toUInt16).toNat_lt
  simp only [getTime2, UInt16.toNat_shiftRight]
  rw [show (8 : UInt16).toNat % 16 = 8 from rfl, Nat.shiftRight_eq_div_pow]
  omega

theorem ofBytes_entry (pad : UInt8) (pre post : List UInt8) (e : BridgeExist) :
    BridgeExist.ofBytes (pre ++ (e.toBytes pad ++ post)) pre.length = e := by
  have hage := byteAt_append_right pre (e.toBytes pad ++ post) 0
  have hid := bytesAt_append_right pre (e.toBytes pad ++ post) 2 8
  simp only [BridgeExist.toBytes, List.cons_append, byteAt_cons, Nat.add_zero] at hage
  simp only [BridgeExist.toBytes, List.cons_append, bytesAt_skip_cons, Nat.reduceLeDiff,
    Nat.reduceSub, bytesAt_toList] at hid
  rw [BridgeExist.ofBytes, BridgeExist.toBytes]
  simp only [List.cons_append]
  rw [hage, hid, BridgeId.ofBytes_toBytes]

namespace RstpBpdu

variable (pad : TablePadding) (m : RstpBpdu) (stale : List UInt8)

theorem headBytes_length : m.headBytes.length = chassisExistOffset := by
  simp [headBytes, chassisExistOffset]

theorem padding_length : pad.toList.length = m.chassisExist.entries.toList.length := by
  rw [Vector.length_toList, Vector.length_toList]

theorem toBytes_length : (m.toBytes pad).length = sizeof := by
  rw [toBytes, List.length_append, headBytes_length,
    flatten_toBytes_length _ _ (padding_length pad m), Vector.length_toList]
  rfl

theorem toBytes_append : ∃ rest, m.toBytes pad ++ stale = m.mac.dstMac.toList ++
    (m.mac.srcMac.toList ++ (m.eth.len8023.toList ++ (m.eth.dsap :: m.eth.ssap :: m.eth.llc ::
      (m.hdr.protocol.toList ++ (m.hdr.version :: m.hdr.bpduType :: m.body.flags ::
        (m.body.rootId.toList ++ (m.body.rootPathCost.toList ++ (m.body.bridgeId.toList ++
          (m.body.portId.toList ++ (m.body.messageAge.toList ++ (m.body.maxAge.toList ++
            (m.body.helloTime.toList ++ (m.body.forwardDelay.toList ++
              (m.ver1Len.toList ++ rest)))))))))))))) :=
  ⟨(List.zipWith BridgeExist.toBytes pad.toList m.chassisExist.entries.toList).flatten ++ stale,
    by simp [toBytes, headBytes]⟩

theorem chassisExist_ofBytes :
    (ofBytes (m.toBytes pad ++ stale)).chassisExist = m.chassisExist := by
  refine congrArg ChassisExist.mk (Vector.ext fun i hi => ?_)
  have hlen : i < m.chassisExist.entries.toList.length := by simpa using hi
  obtain ⟨pad', pre, post, heq, hoff⟩ := flatten_toBytes_split pad.toList
    m.chassisExist.entries.toList (padding_length pad m) i hlen
  have hbytes : m.toBytes pad ++ stale = (m.headBytes ++ pre) ++
      (m.chassisExist.entries.toList[i].toBytes pad' ++ (post ++ stale)) := by
    rw [toBytes, heq]; simp
  have hpre : (m.headBytes ++ pre).length = chassisExistOffset + bridgeExistSize * i := by
    rw [List.length_append, headBytes_length, hoff]
  rw [Vector.getElem_ofFn, hbytes, ← hpre, ofBytes_entry]
  simp

theorem ofBytes_toBytes : ofBytes (m.toBytes pad ++ stale) = m := by
  have htable := chassisExist_ofBytes pad m stale
  obtain ⟨rest, hbytes⟩ := toBytes_append pad m stale
  generalize m.toBytes pad ++ stale = bs at htable hbytes ⊢
  obtain ⟨mac, eth, hdr, body, ver1, table⟩ := m
  have hhead : (ofBytes bs).mac = mac ∧ (ofBytes bs).eth = eth ∧ (ofBytes bs).hdr = hdr ∧
      (ofBytes bs).body = body ∧ (ofBytes bs).ver1Len = ver1 := by
    subst hbytes
    simp [ofBytes, byteAt_skip, byteAt_skip_cons, bytesAt_skip, bytesAt_skip_cons, byteAt_cons,
      bytesAt_toList]
  obtain ⟨hmac, heth, hhdr, hbody, hver⟩ := hhead
  calc ofBytes bs
      = ⟨(ofBytes bs).mac, (ofBytes bs).eth, (ofBytes bs).hdr, (ofBytes bs).body,
          (ofBytes bs).ver1Len, (ofBytes bs).chassisExist⟩ := rfl
    _ = ⟨mac, eth, hdr, body, ver1, table⟩ := by
      rw [hmac, heth, hhdr, hbody, hver, htable]

end RstpBpdu

end Chassisd
