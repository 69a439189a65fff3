import Chassisd.Bpdu.Bounds
import Chassisd.Bpdu.Wire

namespace Chassisd

inductive Input where
  | tick
  | packet (buf : ReceiveBuffer) (cc : Int)
  | exit

def handleInput : Input → Chassis → Chassis
  | .tick, c => step .tick c
  | .packet buf cc, c => bpduPacketRcv buf cc (quiet c)
  | .exit, c => step .exit c

namespace Input

-- The socket delivers the first cc bytes; the rest of the buffer is what the stack held.
inductive Agree : Input → Input → Prop
  | tick : Agree .tick .tick
  | exit : Agree .exit .exit
  | packet {buf buf' : ReceiveBuffer} {cc : Int}
      (h : buf.toList.take cc.toNat = buf'.toList.take cc.toNat) :
      Agree (.packet buf cc) (.packet buf' cc)

-- Nothing behind the delivered bytes is read. An id above 48 that is looked up in the table of the
-- frame reads behind all of it.
def Delivered (c : Chassis) : Input → Prop
  | .packet buf cc =>
    cc ≤ 0 ∨ ((RstpBpdu.sizeof : Int) ≤ cc ∧
        (Handled (RstpBpdu.ofBytes buf.toList) cc.toNat c →
          LooksUp (RstpBpdu.ofBytes buf.toList) c → IdsInTable (RstpBpdu.ofBytes buf.toList) c)) ∨
      c.usCardNumber % 2 = 0 ∨
      (21 ≤ cc ∧ acceptsBpdu (RstpBpdu.ofBytes buf.toList).bpduType cc.toNat = false) ∨
      (44 ≤ cc ∧ ¬ ((checkRxBpduInterval (RstpBpdu.ofBytes buf.toList) c.rxBpdu).1 = 0 ∧
        opposite c.type (RstpBpdu.ofBytes buf.toList).slotid))
  | _ => True

end Input

theorem handleInput_packet (buf : ReceiveBuffer) {cc : Int} (hcc : 0 < cc) (c : Chassis) :
    handleInput (.packet buf cc) c = step (.rx (RstpBpdu.ofBytes buf.toList) cc.toNat) c :=
  if_neg (by omega)

section Prefix

variable {bs bs' : List UInt8} {n : Nat}

theorem byteAt_take (h : bs.take n = bs'.take n) {i : Nat} (hi : i < n) :
    byteAt bs i = byteAt bs' i := by
  have hget := congrArg (fun l => l[i]?) h
  simp only [List.getElem?_take, if_pos hi] at hget
  simp only [byteAt, List.getD_eq_getElem?_getD, hget]

theorem bytesAt_take (h : bs.take n = bs'.take n) {off k : Nat} (hk : off + k ≤ n) :
    bytesAt bs off k = bytesAt bs' off k := by
  refine congrArg Vector.ofFn (funext fun i => byteAt_take h ?_)
  omega

theorem bpduType_take (h : bs.take n = bs'.take n) (hn : 21 ≤ n) :
    (RstpBpdu.ofBytes bs).bpduType = (RstpBpdu.ofBytes bs').bpduType :=
  byteAt_take h (by omega)

theorem slotid_take (h : bs.take n = bs'.take n) (hn : 44 ≤ n) :
    (RstpBpdu.ofBytes bs).slotid = (RstpBpdu.ofBytes bs').slotid := by
  have hport : bytesAt bs 42 2 = bytesAt bs' 42 2 := bytesAt_take h hn
  unfold RstpBpdu.slotid
  rw [show (RstpBpdu.ofBytes bs).body.portId = bytesAt bs 42 2 from rfl, hport]
  rfl

theorem ofBytes_take (h : bs.take n = bs'.take n) (hn : RstpBpdu.sizeof ≤ n) :
    RstpBpdu.ofBytes bs = RstpBpdu.ofBytes bs' := by
  have hsize : RstpBpdu.sizeof = 534 := rfl
  have hbytes (off k : Nat) (hk : off + k ≤ 534) : bytesAt bs off k = bytesAt bs' off k :=
    bytesAt_take h (by omega)
  have hbyte (i : Nat) (hi : i < 534) : byteAt bs i = byteAt bs' i := byteAt_take h (by omega)
  have htable : (RstpBpdu.ofBytes bs).chassisExist = (RstpBpdu.ofBytes bs').chassisExist := by
    refine congrArg ChassisExist.mk (congrArg Vector.ofFn (funext fun i => ?_))
    have hi : (i : Nat) < 48 := i.isLt
    have hoff : chassisExistOffset + bridgeExistSize * i + 10 ≤ 534 := by
      simp only [chassisExistOffset, bridgeExistSize]; omega
    unfold BridgeExist.ofBytes
    rw [hbyte _ (by omega), hbytes _ _ (by omega)]
  have hhead : (RstpBpdu.ofBytes bs).mac = (RstpBpdu.ofBytes bs').mac ∧
      (RstpBpdu.ofBytes bs).eth = (RstpBpdu.ofBytes bs').eth ∧
      (RstpBpdu.ofBytes bs).hdr = (RstpBpdu.ofBytes bs').hdr ∧
      (RstpBpdu.ofBytes bs).body = (RstpBpdu.ofBytes bs').body ∧
      (RstpBpdu.ofBytes bs).ver1Len = (RstpBpdu.ofBytes bs').ver1Len := by
    simp [RstpBpdu.ofBytes, hbyte, hbytes]
  obtain ⟨hmac, heth, hhdr, hbody, hver⟩ := hhead
  calc RstpBpdu.ofBytes bs
      = ⟨(RstpBpdu.ofBytes bs).mac, (RstpBpdu.ofBytes bs).eth, (RstpBpdu.ofBytes bs).hdr,
          (RstpBpdu.ofBytes bs).body, (RstpBpdu.ofBytes bs).ver1Len,
          (RstpBpdu.ofBytes bs).chassisExist⟩ := rfl
    _ = RstpBpdu.ofBytes bs' := by rw [hmac, heth, hhdr, hbody, hver, htable]

end Prefix

theorem check_congr {m m' : RstpBpdu} (rx : List RxHeader) (htype : m.bpduType = m'.bpduType)
    (hslot : m.slotid = m'.slotid) : checkRxBpduInterval m rx = checkRxBpduInterval m' rx := by
  unfold checkRxBpduInterval
  rw [htype, hslot]

theorem dispatchBpdu_of_not_opposite {m : RstpBpdu} {c : Chassis}
    (h : ¬ opposite c.type m.slotid) : dispatchBpdu m c = c := by
  have hd := dispatched m c
  generalize dispatchBpdu m c = d at hd ⊢
  cases hd with
  | line htype hs _ => exact absurd (by rw [htype]; exact hs) h
  | fabric htype hs _ => exact absurd (by rw [htype]; exact hs) h
  | ignored _ => rfl

theorem inRxBpdu_of_not_opposite {m : RstpBpdu} {c : Chassis} (hodd : c.usCardNumber % 2 ≠ 0)
    (h : ¬ ((checkRxBpduInterval m c.rxBpdu).1 = 0 ∧ opposite c.type m.slotid)) :
    inRxBpdu m c = { c with rxBpdu := (checkRxBpduInterval m c.rxBpdu).2 } := by
  rw [inRxBpdu, if_neg hodd]
  rcases check_fst m c.rxBpdu with hcheck | hcheck
  · have hslot : ¬ opposite c.type m.slotid := fun hs => h ⟨hcheck, hs⟩
    simp only [hcheck]
    rw [if_neg (by decide)]
    exact dispatchBpdu_of_not_opposite hslot
  · simp [hcheck]

theorem handleInput_congr {c : Chassis} {i j : Input} (hij : i.Agree j) (hi : i.Delivered c) :
    handleInput i c = handleInput j c := by
  cases hij with
  | tick => rfl
  | exit => rfl
  | @packet buf buf' cc h =>
    change bpduPacketRcv buf cc (quiet c) = bpduPacketRcv buf' cc (quiet c)
    unfold bpduPacketRcv
    by_cases hcc : cc ≤ 0
    · rw [if_pos hcc, if_pos hcc]
    rw [if_neg hcc, if_neg hcc]
    rcases hi with h0 | ⟨hfull, -⟩ | heven | ⟨hlen, htype⟩ | ⟨hlen, hnot⟩
    · exact absurd h0 hcc
    · rw [ofBytes_take h (by omega)]
    · have hquiet : (quiet c).usCardNumber % 2 = 0 := heven
      simp only [rxBpdu, inRxBpdu, if_pos hquiet, ite_self]
    · have hsame := bpduType_take h (by omega)
      unfold rxBpdu
      rw [← hsame, htype]
      rfl
    · have htype := bpduType_take h (by omega)
      have hslot := slotid_take h (by omega)
      have hcheck := check_congr c.rxBpdu htype hslot
      unfold rxBpdu
      by_cases heven : (quiet c).usCardNumber % 2 = 0
      · simp only [inRxBpdu, if_pos heven, ite_self]
      · rw [inRxBpdu_of_not_opposite heven hnot, inRxBpdu_of_not_opposite heven
          (by rw [hcheck, hslot] at hnot; exact hnot), ← htype]
        simp only [quiet, hcheck]

def Chassis.outcome (c : Chassis) :
    Ctpm × List RxHeader × List (Nat × PortState) × List RstpBpdu :=
  (c.ctpm, c.rxBpdu, c.switch.writes, c.sent)

def LeakFree (c : Chassis) (i : Input) : Prop :=
  ∀ j, i.Agree j → (handleInput j c).outcome = (handleInput i c).outcome

theorem run_congr {c : Chassis} {is js : List Input} (hij : List.Forall₂ Input.Agree is js)
    (h : Runs.Along handleInput (fun c i => i.Delivered c) c is) (n : Nat) :
    Runs.run handleInput c (is.take n) = Runs.run handleInput c (js.take n) := by
  induction hij generalizing c n with
  | nil => rfl
  | cons hag _ ih =>
    cases n with
    | zero => rfl
    | succ n =>
      simp only [List.take_succ_cons, Runs.run_cons]
      rw [← handleInput_congr hag h.1]
      exact ih h.2 n

theorem delivered_frames_leak_free (k : Nat) (type : CardType) (topology : CtpMode)
    (hwaddr : Vector UInt8 6) (is js : List Input) (hij : List.Forall₂ Input.Agree is js)
    (h : Runs.Along handleInput (fun c i => i.Delivered c) (startUp k type topology hwaddr) is) :
    Runs.Along handleInput LeakFree (startUp k type topology hwaddr) is ∧
      ∀ n, (Runs.run handleInput (startUp k type topology hwaddr) (is.take n)).outcome =
        (Runs.run handleInput (startUp k type topology hwaddr) (js.take n)).outcome := by
  refine ⟨Runs.along_mono (fun c i hi j hag => ?_) h, fun n => ?_⟩
  · rw [handleInput_congr hag hi]
  · rw [run_congr hij h n]

def bufferOf (m : RstpBpdu) (stale : UInt8) : ReceiveBuffer :=
  Vector.ofFn fun i => byteAt (m.toBytes noPadding ++ List.replicate 1514 stale) i

theorem toList_bufferOf (m : RstpBpdu) (stale : UInt8) :
    (bufferOf m stale).toList = m.toBytes noPadding ++ List.replicate 1514 stale := by
  have hlen : (m.toBytes noPadding ++ List.replicate 1514 stale).length = 2048 := by
    rw [List.length_append, RstpBpdu.toBytes_length, List.length_replicate, RstpBpdu.sizeof]
  generalize hbs : m.toBytes noPadding ++ List.replicate 1514 stale = bs at hlen
  rw [bufferOf, hbs, Vector.toList_ofFn]
  refine List.ext_getElem (by rw [List.length_ofFn, hlen]) fun i h₁ h₂ => ?_
  rw [List.getElem_ofFn, byteAt, List.getD_eq_getElem _ _ h₂]

theorem ofBytes_bufferOf (m : RstpBpdu) (stale : UInt8) :
    RstpBpdu.ofBytes (bufferOf m stale).toList = m := by
  rw [toList_bufferOf, RstpBpdu.ofBytes_toBytes]

theorem agree_tail (m : RstpBpdu) (stale stale' : UInt8) :
    Input.Agree (.packet (bufferOf m stale) RstpBpdu.sizeof)
      (.packet (bufferOf m stale') RstpBpdu.sizeof) := by
  refine .packet ?_
  have hlen := RstpBpdu.toBytes_length noPadding m
  rw [toList_bufferOf, toList_bufferOf, Int.toNat_natCast, ← hlen, List.take_left,
    List.take_left]

theorem agree_head (m : RstpBpdu) (t : ChassisExist) (stale : UInt8) :
    Input.Agree (.packet (bufferOf m stale) chassisExistOffset)
      (.packet (bufferOf { m with chassisExist := t } stale) chassisExistOffset) := by
  refine .packet ?_
  have hlen := RstpBpdu.headBytes_length m
  rw [toList_bufferOf, toList_bufferOf, Int.toNat_natCast, RstpBpdu.toBytes, RstpBpdu.toBytes,
    List.append_assoc, List.append_assoc, ← hlen, List.take_left]
  exact (List.take_left).symm

theorem delivered_config_leak_free :
    Runs.Along handleInput LeakFree (startUp 1 .lineCard .enabled (Vector.replicate 6 0))
      [.packet (bufferOf (configFrame 33) 0) RstpBpdu.sizeof, .tick] := by
  have hids : (configFrame 33).rootId ≤ 48 ∧ (configFrame 33).dbridgeId ≤ 48 := by
    decide +kernel
  refine (delivered_frames_leak_free 1 .lineCard .enabled (Vector.replicate 6 0) _
    [.packet (bufferOf (configFrame 33) 255) RstpBpdu.sizeof, .tick]
    (.cons (agree_tail (configFrame 33) 0 255) (.cons .tick .nil))
    ⟨.inr (.inl ⟨le_rfl, fun _ _ => ?_⟩), trivial, trivial⟩).1
  rw [ofBytes_bufferOf]
  exact ⟨fun _ => hids.1, hids.2⟩

def shortReply : RstpBpdu := { configFrame 33 with hdr.bpduType := bpduTypeReply }

def staleTable : ChassisExist := ChassisExist.zero.setAge 2 ownAge

set_option maxRecDepth 100000 in
theorem short_reply_leaks :
    ¬ ∀ (k : Nat) (type : CardType) (topology : CtpMode) (hwaddr : Vector UInt8 6)
      (is : List Input) (i : Input),
      LeakFree (Runs.run handleInput (startUp k type topology hwaddr) is) i := by
  intro h
  have hleak := h 1 .lineCard .enabled (Vector.replicate 6 0) []
    (.packet (bufferOf shortReply 0) chassisExistOffset) _
    (agree_head shortReply staleTable 0)
  have hpos : (0 : Int) < chassisExistOffset := by decide
  rw [handleInput_packet _ hpos, handleInput_packet _ hpos, ofBytes_bufferOf,
    ofBytes_bufferOf] at hleak
  have htable := congrArg (fun o => ((o.1.chassisExist).entry 2).age) hleak
  revert htable
  decide +kernel

end Chassisd
