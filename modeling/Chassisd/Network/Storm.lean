import Chassisd.Bpdu.Transitions
import Chassisd.Library.MessageNet
import Chassisd.Network.Ageing
import Chassisd.Network.Sound

namespace Chassisd

-- reception without check_rx_bpdu_interval
def rxUnfiltered (bpdu : RstpBpdu) (c : Chassis) : Chassis :=
  if acceptsBpdu bpdu.bpduType RstpBpdu.sizeof ∧ c.usCardNumber % 2 = 1 then
    dispatchBpdu bpdu (quiet c)
  else quiet c

def receive (filtered : Bool) (bpdu : RstpBpdu) (c : Chassis) : Chassis :=
  if filtered then step (.rx bpdu RstpBpdu.sizeof) c else rxUnfiltered bpdu c

def chassisProtocol (filtered : Bool) : MessageNet.Protocol Nat Chassis RstpBpdu where
  tick _ c := (step .tick c, (step .tick c).sent)
  recv _ m c := (receive filtered m c, (receive filtered m c).sent)

abbrev Net := MessageNet.Net Nat Chassis RstpBpdu

def potential : ChassisCtpmState → Nat
  | .forwarding => 2
  | .block => 1
  | _ => 0

structure SameRole (this next : Ctpm) : Prop where
  state : next.state = this.state
  root : this.state = .forwarding → next.rootPrio.rootBridge = this.rootPrio.rootBridge

structure Relaying (k : Nat) (c : Chassis) : Prop where
  number : c.usCardNumber = k
  range : k ≤ 48
  type : c.type = cardTypeOf k
  own : c.ctpm.brId.number = k
  line : k < 33 → Coherent c.ctpm

inductive Answers (k : Nat) (m : RstpBpdu) (this : Ctpm) (a : RstpBpdu) : Prop
  | reply (ht : a.bpduType = bpduTypeReply)
      (hm : m.bpduType = bpduTypeHello ∨ m.bpduType = bpduTypeConfig)
  | relay (ht : a.bpduType = bpduTypeHello) (hslot : a.slotid = k) (hk : k < 33)
      (hm : m.bpduType = bpduTypeHello) (hfrom : 33 ≤ m.slotid) (hroot : m.slotid = m.rootId)
      (hs : this.state = .forwarding) (hown : m.dbridgeId = k)
      (hr : m.rootId = this.rootPrio.rootBridge.number) (ha : a.rootId = m.rootId)
      (had : a.dbridgeId = k)
  | echo (ht : a.bpduType = bpduTypeHello) (hslot : a.slotid = k) (hk : 33 ≤ k)
      (hm : m.bpduType = bpduTypeHello) (hfrom : m.slotid < 33) (hr : m.rootId ≠ k)
      (hd : a.dbridgeId = m.dbridgeId)
  | elect (ht : a.bpduType = bpduTypeHello) (hslot : a.slotid = k) (hk : 33 ≤ k)
      (hm : m.bpduType = bpduTypeFcChange)

inductive Answer (k : Nat) (m : RstpBpdu) (this : Ctpm) (c' : Chassis) : Prop
  | falls (h : potential c'.ctpm.state < potential this.state)
  | silent (hs : SameRole this c'.ctpm) (h : c'.sent = [])
  | speaks (hs : SameRole this c'.ctpm) (a : RstpBpdu) (h : c'.sent = [a])
      (ha : Answers k m this a)

section Receptions

variable {k : Nat} {m : RstpBpdu} {c c' : Chassis}

theorem SameRole.of_ctpm (hs : c'.ctpm.state = c.ctpm.state)
    (hr : c'.ctpm.rootPrio.rootBridge = c.ctpm.rootPrio.rootBridge) : SameRole c.ctpm c'.ctpm :=
  ⟨hs, fun _ => hr⟩

theorem sameRole_adopting (hs : c.ctpm.state = .listening ∨ c.ctpm.state = .learning)
    (hs' : c'.ctpm.state = c.ctpm.state) : SameRole c.ctpm c'.ctpm :=
  ⟨hs', fun hf => by rcases hs with hs | hs <;> simp [hs] at hf⟩

theorem sameRole_sync (hs : c.ctpm.state = .forwarding) :
    SameRole c.ctpm (lcSyncToHello m (restartTimer (inUpdateChassisMember m c))).ctpm := by
  have hctpm := lcSyncToHello_ctpm m (restartTimer (inUpdateChassisMember m c)) hs rfl
  refine .of_ctpm ?_ ?_ <;> rw [hctpm] <;> split_ifs <;> rfl

theorem LineRx.answer (h : LineRx m c c') (hc : Relaying k c) (hk : 1 ≤ k ∧ k < 33)
    (hfrom : 33 ≤ m.slotid) (hsent : c.sent = []) : Answer k m c.ctpm c' := by
  have hmsent : (restartTimer (inUpdateChassisMember m c)).sent = [] := hsent
  cases h with
  | wake hs =>
    refine .falls ?_
    simp only [inUpdateChassisMember_frame, txInfoBpdu_frame, takeTimes_frame, adopt_frame,
      wake_frame, hs]
    decide
  | adopt hs =>
    refine .silent (sameRole_adopting hs ?_) ?_ <;>
      simp only [inUpdateChassisMember_frame, adopt_frame, hsent]
  | agree => exact .silent (.of_ctpm rfl rfl) hsent
  | lcChange hs =>
    refine .falls ?_
    simp only [enterBlock_frame, forgetRootLc_frame, blocked_frame, hs]
    decide
  | sync hs => exact .silent (sameRole_sync hs) (by simpa using hsent)
  | relay hs ht hr hd hown hslot =>
    refine .speaks (.of_ctpm rfl rfl) _ (by rw [(txInfoBpdu_frame _ _).2.2.2.2.2.1, hmsent]; rfl)
      (.relay rfl ?_ hk.2 ht hfrom hslot hs (hown.trans hc.own) hr ?_ ?_)
    · rw [infoBpdu_slotid] <;> simp [hc.number]
      omega
    · rw [infoBpdu_rootId]; exact hr.symm
    · rw [infoBpdu_dbridgeId]
      exact (hc.line hk.2).2.symm.trans (hd.symm.trans (hown.trans hc.own))
  | reply hs ht =>
    exact .speaks (.of_ctpm rfl rfl) _ (by rw [(txInfoBpdu_frame _ _).2.2.2.2.2.1, hmsent]; rfl)
      (.reply rfl (.inl ht))
  | config hs ht =>
    exact .speaks (.of_ctpm rfl rfl) _ (by
      rw [(txInfoBpdu_frame _ _).2.2.2.2.2.1, (inUpdateChassisMember_frame m c).2.2.2.2.2.1, hsent]
      rfl) (.reply rfl (.inr ht))
  | other => exact .silent (.of_ctpm rfl rfl) hsent
  | disabled => exact .silent (.of_ctpm rfl rfl) hsent

theorem FabricRx.answer (h : FabricRx m c c') (hc : Relaying k c) (hk : 33 ≤ k)
    (hfrom : m.slotid < 33) (hsent : c.sent = []) : Answer k m c.ctpm c' := by
  have hrange := hc.range
  have hmsent : (restartTimer (inUpdateChassisMember m c)).sent = [] := hsent
  cases h with
  | wake hs =>
    refine .falls ?_
    simp only [inUpdateChassisMember_frame, takeTimes_frame, adopt_frame, wake_frame, hs]
    decide
  | adopt hs =>
    refine .silent (sameRole_adopting hs ?_) ?_ <;>
      simp only [inUpdateChassisMember_frame, adopt_frame, hsent]
  | agree => exact .silent (.of_ctpm rfl rfl) hsent
  | sync hs => exact .silent (sameRole_sync hs) (by simpa using hsent)
  | echo hs ht hr hd =>
    refine .speaks (.of_ctpm rfl rfl) _ (by rw [(txInfoBpdu_frame _ _).2.2.2.2.2.1, hmsent]; rfl)
      (.echo rfl ?_ hk ht hfrom (fun hh => hr (hh.trans hc.own.symm)) ?_)
    · rw [infoBpdu_slotid] <;> simp [hc.number]
      omega
    · rw [infoBpdu_dbridgeId]; exact hd.symm
  | hear => exact .silent (.of_ctpm rfl rfl) hsent
  | config hs ht =>
    exact .speaks (.of_ctpm rfl rfl) _ (by
      rw [(txInfoBpdu_frame _ _).2.2.2.2.2.1, (inUpdateChassisMember_frame m c).2.2.2.2.2.1, hsent]
      rfl) (.reply rfl (.inr ht))
  | elect hs ht hr i =>
    refine .speaks (.of_ctpm (by simp) (by simp)) _ (by
      rw [(txInfoBpdu_frame _ _).2.2.2.2.2.1, (electLc_frame _ _ _).2.2.2.2.2.1,
        (inUpdateChassisMember_frame m c).2.2.2.2.2.1, hsent]
      rfl) (.elect rfl ?_ hk ht)
    rw [infoBpdu_slotid] <;> simp [hc.number]
    omega
  | alone hs =>
    refine .falls ?_
    simp only [enterBlock_frame, blocked_frame, hs]
    decide
  | lcChange hs =>
    refine .falls ?_
    simp only [enterBlock_frame, blocked_frame, hs]
    decide
  | other => exact .silent (.of_ctpm rfl rfl) hsent
  | disabled => exact .silent (.of_ctpm rfl rfl) hsent

theorem Relaying.of_same (h : Relaying k c) (hsame : SameCard c c')
    (hc : k < 33 → Coherent c'.ctpm) : Relaying k c' :=
  ⟨hsame.number.trans h.number, h.range, hsame.type.trans h.type, by rw [hsame.brId]; exact h.own,
    hc⟩

theorem Relaying.of_sound (h : Sound k c) : Relaying k c :=
  ⟨h.number, h.range, h.type, h.own, fun hl => ⟨h.root, h.line hl⟩⟩

theorem Relaying.isLine (h : Relaying k c) (htype : c.type = .lineCard) : k < 33 := by
  by_contra hk
  rw [h.type, cardTypeOf, if_neg hk] at htype
  cases htype

theorem Relaying.isFabric (h : Relaying k c) (htype : c.type = .fabricCard) : 33 ≤ k := by
  by_contra hk
  rw [h.type, cardTypeOf, if_pos (by omega)] at htype
  cases htype

theorem Dispatched.answer (h : Dispatched m c c') (hc : Relaying k c) (hpos : 1 ≤ k)
    (hsent : c.sent = []) : Answer k m c.ctpm c' ∧ Relaying k c' := by
  cases h with
  | line htype hslot h =>
    have hk := hc.isLine htype
    exact ⟨h.answer hc ⟨hpos, hk⟩ hslot.1 hsent, hc.of_same h.sameCard fun _ =>
      h.coherent (hc.line hk) (hc.own.trans hc.number.symm)⟩
  | fabric htype hslot h =>
    have hk := hc.isFabric htype
    exact ⟨h.answer hc hk (by omega) hsent, hc.of_same h.sameCard fun hl => absurd hl (by omega)⟩
  | ignored => exact ⟨.silent (.of_ctpm rfl rfl) hsent, hc⟩

theorem receive_answer (filtered : Bool) (hc : Relaying k c) (hpos : 1 ≤ k) :
    Answer k m c.ctpm (receive filtered m c) ∧ Relaying k (receive filtered m c) := by
  have hready (rx : List RxHeader) : Relaying k (ready rx c) :=
    ⟨hc.number, hc.range, hc.type, hc.own, hc.line⟩
  cases filtered with
  | false =>
    change Answer k m c.ctpm (rxUnfiltered m c) ∧ Relaying k (rxUnfiltered m c)
    unfold rxUnfiltered
    split_ifs
    · exact (dispatched m (quiet c)).answer (hready _) hpos rfl
    · exact ⟨.silent (.of_ctpm rfl rfl) rfl, hready _⟩
  | true =>
    have h := stepped (.rx m RstpBpdu.sizeof) c
    change Answer k m c.ctpm (step (.rx m RstpBpdu.sizeof) c) ∧
      Relaying k (step (.rx m RstpBpdu.sizeof) c)
    generalize step (.rx m RstpBpdu.sizeof) c = c' at h
    cases h with
    | dropped _ rx => exact ⟨.silent (.of_ctpm rfl rfl) rfl, hready rx⟩
    | line hh htype h =>
      have hslot := hh.2.2.2
      rw [htype] at hslot
      exact (Dispatched.line (c := ready _ c) htype hslot h).answer (hready _) hpos rfl
    | fabric hh htype h =>
      have hslot := hh.2.2.2
      rw [htype] at hslot
      exact (Dispatched.fabric (c := ready _ c) htype hslot h).answer (hready _) hpos rfl

end Receptions

section Ranks

def ForwardsTo (n : Net) (d r : Nat) : Prop :=
  d < 33 ∧ (n.node d).ctpm.state = .forwarding ∧
    (n.node d).ctpm.rootPrio.rootBridge.number = r

instance (n : Net) (d r : Nat) : Decidable (ForwardsTo n d r) :=
  inferInstanceAs (Decidable (_ ∧ _ ∧ _))

def Forwards (n : Net) (d : Nat) : Prop := d < 33 ∧ (n.node d).ctpm.state = .forwarding

instance (n : Net) (d : Nat) : Decidable (Forwards n d) := inferInstanceAs (Decidable (_ ∧ _))

def bpduRank (n : Net) (m : RstpBpdu) : Nat :=
  if m.bpduType = bpduTypeFcChange then 5
  else if m.bpduType = bpduTypeHello then
    if m.slotid < 33 then
      if Forwards n m.dbridgeId ∧ ¬ ForwardsTo n m.dbridgeId m.rootId then 4 else 2
    else if m.slotid = m.rootId ∧ ForwardsTo n m.dbridgeId m.rootId then 3 else 1
  else if m.bpduType = bpduTypeConfig then 1
  else 0

theorem bpduRank_line {n : Net} {m : RstpBpdu} (ht : m.bpduType = bpduTypeHello)
    (hslot : m.slotid < 33) : bpduRank n m =
      if Forwards n m.dbridgeId ∧ ¬ ForwardsTo n m.dbridgeId m.rootId then 4 else 2 := by
  simp [bpduRank, ht, hslot]

theorem bpduRank_fabric {n : Net} {m : RstpBpdu} (ht : m.bpduType = bpduTypeHello)
    (hslot : 33 ≤ m.slotid) : bpduRank n m =
      if m.slotid = m.rootId ∧ ForwardsTo n m.dbridgeId m.rootId then 3 else 1 := by
  rw [bpduRank, ht, if_neg (by decide), if_pos rfl, if_neg (by omega)]

theorem bpduRank_hello {n : Net} {m : RstpBpdu} (ht : m.bpduType = bpduTypeHello) :
    1 ≤ bpduRank n m ∧ bpduRank n m < 5 := by
  rcases Nat.lt_or_ge m.slotid 33 with hslot | hslot
  · rw [bpduRank_line ht hslot]; split_ifs <;> simp
  · rw [bpduRank_fabric ht hslot]; split_ifs <;> simp

theorem bpduRank_answer {k : Nat} {m a : RstpBpdu} {n : Net}
    (ha : Answers k m (n.node k).ctpm a) : bpduRank n a < bpduRank n m := by
  cases ha with
  | reply ht hm =>
    have hzero : bpduRank n a = 0 := by simp [bpduRank, ht]
    rw [hzero]
    rcases hm with hm | hm
    · exact (bpduRank_hello hm).1
    · simp [bpduRank, hm]
  | relay ht hslot hk hm hfrom hroot hs hown hr ha had =>
    have hto : ForwardsTo n k m.rootId := ⟨hk, hs, hr.symm⟩
    rw [bpduRank_line ht (by omega), bpduRank_fabric hm hfrom, hown, had, ha,
      if_neg (fun h => h.2 hto), if_pos ⟨hroot, hto⟩]
    decide
  | echo ht hslot hk hm hfrom hr hd =>
    rw [bpduRank_fabric ht (by omega), bpduRank_line hm hfrom, hslot, hd]
    by_cases hto : k = a.rootId ∧ ForwardsTo n m.dbridgeId a.rootId
    · have hdanger : Forwards n m.dbridgeId ∧ ¬ ForwardsTo n m.dbridgeId m.rootId := by
        refine ⟨⟨hto.2.1, hto.2.2.1⟩, fun hbad => hr ?_⟩
        rw [← hbad.2.2, hto.2.2.2, hto.1]
      rw [if_pos hto, if_pos hdanger]
      decide
    · rw [if_neg hto]
      split_ifs <;> decide
  | elect ht hslot hk hm =>
    have hfive : bpduRank n m = 5 := by simp [bpduRank, hm]
    rw [hfive]
    exact (bpduRank_hello ht).2

theorem bpduRank_congr {n n' : Net}
    (h : ∀ d, SameRole (n.node d).ctpm (n'.node d).ctpm) (m : RstpBpdu) :
    bpduRank n' m = bpduRank n m := by
  have hf (d : Nat) : Forwards n' d ↔ Forwards n d := by
    unfold Forwards; rw [(h d).state]
  have hto (d r : Nat) : ForwardsTo n' d r ↔ ForwardsTo n d r := by
    unfold ForwardsTo
    rw [(h d).state]
    refine and_congr_right fun _ => and_congr_right fun hs => ?_
    rw [(h d).root hs]
  simp only [bpduRank, hf, hto]

variable {cards : List Nat}

def bpduWeight (cards : List Nat) (n : Net) (p : Nat × RstpBpdu) : Nat :=
  (cards.length + 1) ^ bpduRank n p.2

def stormRank (cards : List Nat) (n : Net) : Nat ×ₗ Nat :=
  toLex ((cards.map fun k => potential (n.node k).ctpm.state).sum,
    MessageNet.weight (bpduWeight cards n) n.flight)

theorem potential_sum_lt {n n' : Net} {k : Nat} (hk : k ∈ cards)
    (hother : ∀ j ≠ k, n'.node j = n.node j)
    (hlt : potential (n'.node k).ctpm.state < potential (n.node k).ctpm.state) :
    (cards.map fun j => potential (n'.node j).ctpm.state).sum <
      (cards.map fun j => potential (n.node j).ctpm.state).sum := by
  refine List.sum_lt_sum _ _ (fun j _ => ?_) ⟨k, hk, hlt⟩
  by_cases hjk : j = k
  · rw [hjk]; exact hlt.le
  · rw [hother j hjk]

theorem stormRank_lt {n n' : Net} (hsum : (cards.map fun j => potential (n'.node j).ctpm.state).sum
      ≤ (cards.map fun j => potential (n.node j).ctpm.state).sum)
    (hweight : MessageNet.weight (bpduWeight cards n') n'.flight <
      MessageNet.weight (bpduWeight cards n) n.flight) :
    stormRank cards n' < stormRank cards n := by
  rw [stormRank, stormRank, Prod.Lex.toLex_lt_toLex]
  rcases hsum.lt_or_eq with h | h
  · exact .inl h
  · exact .inr ⟨h, hweight⟩

theorem storm_delivery (filtered : Bool) (hears : Nat → Nat → Bool)
    (hpos : ∀ k ∈ cards, 1 ≤ k) {a b : Net}
    (ha : MessageNet.Local cards Relaying (fun _ _ => True) a)
    (hd : MessageNet.Deliver (chassisProtocol filtered) hears cards a b) :
    MessageNet.Local cards Relaying (fun _ _ => True) b ∧
      stormRank cards b < stormRank cards a := by
  have hclosed : MessageNet.Closed (chassisProtocol filtered) hears cards Relaying
      (fun _ _ => True) :=
    ⟨fun k hk m c hc _ => (receive_answer filtered hc (hpos k hk)).2, fun _ _ _ _ _ _ _ _ _ _ _ =>
      trivial⟩
  refine ⟨hclosed.deliver ha hd, ?_⟩
  cases hd with
  | intro pre suf k m hf =>
    have hk : k ∈ cards := (ha.2 k m (by simp [hf])).1
    obtain ⟨hanswer, -⟩ := receive_answer filtered (m := m) (ha.1 k hk) (hpos k hk)
    set b : Net := ⟨Function.update a.node k ((chassisProtocol filtered).recv k m (a.node k)).1,
      pre ++ suf ++ MessageNet.post (MessageNet.audience hears cards k)
        ((chassisProtocol filtered).recv k m (a.node k)).2⟩ with hb
    have hnode : b.node k = receive filtered m (a.node k) := by simp [hb, chassisProtocol]
    have hother : ∀ j ≠ k, b.node j = a.node j := fun j hj => by
      simp [hb, Function.update_of_ne hj]
    have hsame (hs : SameRole (a.node k).ctpm (receive filtered m (a.node k)).ctpm) (d : Nat) :
        SameRole (a.node d).ctpm (b.node d).ctpm := by
      by_cases hdk : d = k
      · rw [hdk, hnode]; exact hs
      · rw [hother d hdk]; exact ⟨rfl, fun _ => rfl⟩
    have hlight (hs : SameRole (a.node k).ctpm (receive filtered m (a.node k)).ctpm)
        (hnew : MessageNet.weight (bpduWeight cards b)
          (MessageNet.post (MessageNet.audience hears cards k)
            (receive filtered m (a.node k)).sent) < bpduWeight cards a (k, m)) :
        stormRank cards b < stormRank cards a := by
      refine stormRank_lt (le_of_eq ?_) ?_
      · congr 1
        exact List.map_congr_left fun j _ => by rw [(hsame hs j).state]
      · rw [hf]
        refine MessageNet.weight_lt (fun p => le_of_eq ?_) hnew
        rw [bpduWeight, bpduWeight, bpduRank_congr (hsame hs)]
    cases hanswer with
    | falls hlt =>
      refine Prod.Lex.toLex_lt_toLex.mpr (.inl (potential_sum_lt hk hother ?_))
      rw [hnode]; exact hlt
    | silent hs hsent =>
      refine hlight hs ?_
      rw [hsent]
      exact Nat.pow_pos (Nat.succ_pos _)
    | speaks hs ans hsent hans =>
      refine hlight hs ?_
      have hrank : bpduRank b ans < bpduRank a m := by
        rw [bpduRank_congr (hsame hs)]; exact bpduRank_answer hans
      have hlen : (MessageNet.audience hears cards k).length ≤ cards.length :=
        List.length_filter_le _ _
      rw [hsent]
      calc MessageNet.weight (bpduWeight cards b)
            (MessageNet.post (MessageNet.audience hears cards k) [ans])
          ≤ [ans].length * ((MessageNet.audience hears cards k).length *
              (cards.length + 1) ^ bpduRank b ans) := by
            refine MessageNet.weight_post_le fun j _ m' hm' => ?_
            rw [List.mem_singleton.mp hm', bpduWeight]
        _ ≤ cards.length * (cards.length + 1) ^ bpduRank b ans := by
            rw [List.length_singleton, one_mul]
            exact Nat.mul_le_mul_right _ hlen
        _ < (cards.length + 1) ^ (bpduRank b ans + 1) := by
            rw [pow_succ, mul_comm]
            exact Nat.mul_lt_mul_of_pos_left (Nat.lt_succ_self _) (Nat.pow_pos (Nat.succ_pos _))
        _ ≤ (cards.length + 1) ^ bpduRank a m := Nat.pow_le_pow_right (Nat.succ_pos _) hrank

theorem deliveries_terminate (filtered : Bool) (hears : Nat → Nat → Bool)
    (hpos : ∀ k ∈ cards, 1 ≤ k) (n : Net)
    (hn : MessageNet.Local cards Relaying (fun _ _ => True) n) :
    Acc (fun b a => MessageNet.Deliver (chassisProtocol filtered) hears cards a b) n :=
  MessageNet.acc_of_rank (stormRank cards)
    (fun _ _ ha hd => storm_delivery filtered hears hpos ha hd) n hn

theorem sound_reach {topology : Nat → CtpMode} {hwaddr : Nat → Vector UInt8 6}
    (hcards : ∀ k ∈ cards, k % 2 = 1 ∧ k ≤ 48) {cloud : Cloud}
    (hreach : LossyNet.Reach chassisMachine (· ∈ cards) (switchedOn topology hwaddr) cloud) :
    LossyNet.Local (· ∈ cards) Sound SoundFrame cloud := by
  have hclosed : LossyNet.Closed chassisMachine (· ∈ cards) Sound SoundFrame := by
    constructor
    · intro k e c _ hc
      have hstep : Sound k (step e.event c) := by
        refine sound_step hc fun bpdu len he => ?_
        cases e <;> cases he
      exact ⟨hstep, fun m hm => (hstep.sent m hm).1⟩
    · intro k m c _ hc hm
      have hstep : Sound k (step (.rx m RstpBpdu.sizeof) c) := by
        refine sound_step hc fun bpdu len he => ?_
        cases he
        exact hm
      exact ⟨hstep, fun m' hm' => (hstep.sent m' hm').1⟩
  refine hclosed.reach (fun _ h => h) ⟨fun k hk => ?_, by simp [switchedOn]⟩ hreach
  exact sound_startUp (hcards k hk).1 (hcards k hk).2 _ _

theorem no_bpdu_storm (cards : List Nat) (hcards : ∀ k ∈ cards, k % 2 = 1 ∧ k ≤ 48)
    (topology : Nat → CtpMode) (hwaddr : Nat → Vector UInt8 6) (filtered : Bool) (cloud : Cloud)
    (hreach : LossyNet.Reach chassisMachine (· ∈ cards) (switchedOn topology hwaddr) cloud)
    (flight : List (Nat × RstpBpdu))
    (hflight : ∀ p ∈ flight, p.1 ∈ cards ∧ p.2 ∈ cloud.flight) :
    ¬ ∃ run : Nat → Net, run 0 = ⟨cloud.node, flight⟩ ∧
      ∀ t, MessageNet.Deliver (chassisProtocol filtered) (fun j k => decide (j ≠ k)) cards
        (run t) (run (t + 1)) := by
  have hsound := sound_reach hcards hreach
  refine MessageNet.no_infinite_run (deliveries_terminate filtered _ ?_ _ ⟨fun k hk => ?_, ?_⟩)
  · intro k hk
    have := hcards k hk
    omega
  · exact .of_sound (hsound.1 k hk)
  · exact fun j m hjm => ⟨(hflight (j, m) hjm).1, trivial⟩

theorem no_bpdu_storm_two_cards :
    ¬ ∃ run : Nat → Net, run 0 = ⟨configInFlight.node, [(1, configFrame 33)]⟩ ∧
      ∀ t, MessageNet.Deliver (chassisProtocol false) (fun j k => decide (j ≠ k)) [1, 33]
        (run t) (run (t + 1)) :=
  no_bpdu_storm [1, 33] (by simp) (fun _ => .enabled) (fun _ => Vector.replicate 6 0) false
    configInFlight reach_configInFlight [(1, configFrame 33)]
    (by simpa using mem_configInFlight)

end Ranks

end Chassisd
