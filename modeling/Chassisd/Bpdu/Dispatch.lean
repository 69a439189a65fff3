import Chassisd.Bpdu.Identity
import Chassisd.Library.FirstSeen

namespace Chassisd

open RxInterval FirstSeen

def HandedOn (bpdu : RstpBpdu) (c : Chassis) : Prop :=
  c.usCardNumber % 2 = 1 ∧ (checkRxBpduInterval bpdu c.rxBpdu).1 = 0 ∧
    1 ≤ bpdu.slotid ∧ bpdu.slotid ≤ 48

def key (bpdu : RstpBpdu) : Key := (bpdu.slotid, bpdu.bpduType)

-- the keys of the frames that can fill an entry: a zero slot leaves its entry free
def keys (ms : List RstpBpdu) : List Key := (ms.map key).filter fun k => k.1 ≠ 0

-- `seen` fills the front of the table; what follows is free, whatever a zero slot left there.
def Represents (rx : List RxHeader) (seen : List Key) : Prop :=
  (∀ k ∈ seen, k.1 ≠ 0) ∧ ∃ free, rx = seen.map header ++ free ∧
    seen.length + free.length = maximumBpduIntervalSize ∧ ∀ h ∈ free, h.slotid = 0

theorem represents_clear : Represents clearRxBpduInterval [] := by
  refine ⟨fun _ hk => absurd hk List.not_mem_nil, clearRxBpduInterval, rfl, ?_, fun h hh => ?_⟩
  · rw [clearRxBpduInterval, List.length_replicate, List.length_nil, Nat.zero_add]
  · exact congrArg RxHeader.slotid (List.eq_of_mem_replicate hh)

theorem rxBpdu_inRxBpdu (bpdu : RstpBpdu) {c : Chassis} (hodd : c.usCardNumber % 2 = 1) :
    (inRxBpdu bpdu c).usCardNumber = c.usCardNumber ∧
      (inRxBpdu bpdu c).rxBpdu = (checkRxBpduInterval bpdu c.rxBpdu).2 := by
  rw [inRxBpdu, if_neg (by omega)]
  dsimp only
  split_ifs
  · exact ⟨rfl, rfl⟩
  · have hd := dispatched bpdu { c with rxBpdu := (checkRxBpduInterval bpdu c.rxBpdu).2 }
    generalize dispatchBpdu bpdu _ = d at hd ⊢
    cases hd with
    | line _ _ h => exact ⟨h.sameCard.number, h.rxBpdu⟩
    | fabric _ _ h => exact ⟨h.sameCard.number, h.rxBpdu⟩
    | ignored => exact ⟨rfl, rfl⟩

section Table

variable {rx : List RxHeader} {seen : List Key} {bpdu : RstpBpdu}

theorem Represents.check_seen (h : Represents rx seen) (hm : key bpdu ∈ seen) :
    checkRxBpduInterval bpdu rx = (1, rx) := by
  obtain ⟨hne, free, rfl, -, -⟩ := h
  have hs := search_of_mem seen free hne hm
  simp [checkRxBpduInterval, hs]

theorem Represents.check_full (h : Represents rx seen) (hm : key bpdu ∉ seen)
    (hfull : seen.length = maximumBpduIntervalSize) : checkRxBpduInterval bpdu rx = (1, rx) := by
  obtain ⟨hne, free, rfl, hlen, -⟩ := h
  obtain rfl : free = [] := List.length_eq_zero_iff.mp (by omega)
  have hs := search_append seen [] hne hm
  simp only [checkRxBpduInterval, hs, searchRxBpduInterval]
  rfl

theorem Represents.check_new (h : Represents rx seen) (hslot : bpdu.slotid ≠ 0)
    (hm : key bpdu ∉ seen) (hroom : seen.length < maximumBpduIntervalSize) :
    (checkRxBpduInterval bpdu rx).1 = 0 ∧
      Represents (checkRxBpduInterval bpdu rx).2 (seen ++ [key bpdu]) := by
  obtain ⟨hne, free, rfl, hlen, hfree⟩ := h
  obtain ⟨f, free, rfl⟩ : ∃ f rest, free = f :: rest :=
    List.exists_cons_of_length_pos (by omega)
  have hf : f.slotid = 0 := hfree f (by simp)
  have hs : searchRxBpduInterval bpdu.slotid bpdu.bpduType (seen.map header ++ f :: free) = 0 := by
    rw [search_append seen _ hne hm, searchRxBpduInterval,
      if_neg (fun hh => hslot (hh.1.symm.trans hf)), if_pos hf]
  have hcheck : checkRxBpduInterval bpdu (seen.map header ++ f :: free) =
      (0, seen.map header ++ header (key bpdu) :: free) := by
    rw [checkRxBpduInterval, if_pos hs, update_append seen _ hne, updateRxBpduInterval, if_pos hf]
    rfl
  rw [hcheck]
  refine ⟨rfl, fun k hk => ?_, free, by simp, ?_, fun h hh => hfree h (by simp [hh])⟩
  · rcases List.mem_append.mp hk with hk | hk
    · exact hne k hk
    · rw [List.mem_singleton.mp hk]; exact hslot
  · simp only [List.length_append, List.length_cons, List.length_nil] at hlen ⊢
    omega

theorem Represents.check_zero (h : Represents rx seen) (hslot : bpdu.slotid = 0) :
    Represents (checkRxBpduInterval bpdu rx).2 seen := by
  obtain ⟨hne, free, rfl, hlen, hfree⟩ := h
  have hself : Represents (seen.map header ++ free) seen := ⟨hne, free, rfl, hlen, hfree⟩
  unfold checkRxBpduInterval
  split_ifs with hs
  · refine ⟨hne, updateRxBpduInterval bpdu.slotid bpdu.bpduType free,
      update_append seen free hne, ?_, ?_⟩
    · cases free with
      | nil => exact hlen
      | cons f free => rw [updateRxBpduInterval, if_pos (hfree f (by simp))]; exact hlen
    · cases free with
      | nil => simp [updateRxBpduInterval]
      | cons f free =>
        rw [updateRxBpduInterval, if_pos (hfree f (by simp))]
        intro h hh
        rcases List.mem_cons.mp hh with rfl | hh
        · exact hslot
        · exact hfree h (by simp [hh])
  · exact hself

end Table

theorem keys_concat (ms : List RstpBpdu) (m : RstpBpdu) :
    keys (ms ++ [m]) = keys ms ++ if m.slotid = 0 then [] else [key m] := by
  by_cases h : m.slotid = 0 <;> simp [keys, key, h]

theorem mem_keys {ms : List RstpBpdu} {s : Nat} {t : UInt8} (hs : 1 ≤ s) :
    (s, t) ∈ keys ms ↔ ∃ m ∈ ms, m.slotid = s ∧ m.bpduType = t := by
  have hne : s ≠ 0 := by omega
  simp [keys, key, hne]

theorem represents_run {c : Chassis} (hodd : c.usCardNumber % 2 = 1)
    (hclear : c.rxBpdu = clearRxBpduInterval) (ms : List RstpBpdu) :
    (Runs.run inRxBpdu c ms).usCardNumber % 2 = 1 ∧
      Represents (Runs.run inRxBpdu c ms).rxBpdu
        (recordAll maximumBpduIntervalSize (keys ms)) := by
  induction ms using List.reverseRecOn with
  | nil => exact ⟨hodd, hclear ▸ represents_clear⟩
  | append_singleton ms m ih =>
    obtain ⟨hodd', hrep⟩ := ih
    obtain ⟨hnum, hrx⟩ := rxBpdu_inRxBpdu m hodd'
    rw [Runs.run_concat, hnum, hrx, keys_concat]
    refine ⟨hodd', ?_⟩
    by_cases hslot : m.slotid = 0
    · rw [if_pos hslot, List.append_nil]
      exact hrep.check_zero hslot
    · rw [if_neg hslot, recordAll_concat]
      by_cases hm : key m ∈ recordAll maximumBpduIntervalSize (keys ms)
      · rw [record_of_mem hm, hrep.check_seen hm]
        exact hrep
      · by_cases hroom : (recordAll maximumBpduIntervalSize (keys ms)).length <
            maximumBpduIntervalSize
        · rw [record_of_room hm hroom]
          exact (hrep.check_new hslot hm hroom).2
        · have hle := length_recordAll_le maximumBpduIntervalSize (keys ms)
          rw [record_of_full (Nat.le_of_not_lt hroom), hrep.check_full hm (by omega)]
          exact hrep

theorem Represents.handedOn_iff {c : Chassis} {seen : List Key} {m : RstpBpdu}
    (h : Represents c.rxBpdu seen) (hodd : c.usCardNumber % 2 = 1)
    (hs : 1 ≤ m.slotid ∧ m.slotid ≤ 48) (hle : seen.length ≤ maximumBpduIntervalSize) :
    HandedOn m c ↔ key m ∉ seen ∧ seen.length < maximumBpduIntervalSize := by
  constructor
  · rintro ⟨-, hcheck, -⟩
    have hm : key m ∉ seen := fun hm => by
      rw [h.check_seen hm] at hcheck; exact Nat.one_ne_zero hcheck
    refine ⟨hm, Nat.lt_of_le_of_ne hle fun hfull => ?_⟩
    rw [h.check_full hm hfull] at hcheck
    exact Nat.one_ne_zero hcheck
  · rintro ⟨hm, hroom⟩
    exact ⟨hodd, (h.check_new (by omega) hm hroom).1, hs⟩

def FirstOf (s : Nat) (t : UInt8) (pre : List RstpBpdu) : Prop :=
  ∀ m ∈ pre, ¬ (m.slotid = s ∧ m.bpduType = t)

def ExactlyOnce (c : Chassis) (ms : List RstpBpdu) (s : Nat) (t : UInt8) : Prop :=
  ∀ pre m post, ms = pre ++ m :: post → m.slotid = s → m.bpduType = t →
    (HandedOn m (Runs.run inRxBpdu c pre) ↔ FirstOf s t pre)

def HasRoom (ms : List RstpBpdu) (s : Nat) (t : UInt8) : Prop :=
  ∀ pre m post, ms = pre ++ m :: post → m.slotid = s → m.bpduType = t → FirstOf s t pre →
    (keys pre).toFinset.card < maximumBpduIntervalSize

theorem exactlyOnce_iff {c : Chassis} (hodd : c.usCardNumber % 2 = 1)
    (hclear : c.rxBpdu = clearRxBpduInterval) (ms : List RstpBpdu) {s : Nat} (t : UInt8)
    (hs : 1 ≤ s ∧ s ≤ 48) : ExactlyOnce c ms s t ↔ HasRoom ms s t := by
  have hfirst (pre : List RstpBpdu) : FirstOf s t pre ↔ (s, t) ∉ keys pre := by
    rw [mem_keys hs.1]
    simp [FirstOf]
  have hhand (pre : List RstpBpdu) (m : RstpBpdu) (hslot : m.slotid = s) (htype : m.bpduType = t) :
      HandedOn m (Runs.run inRxBpdu c pre) ↔
        (s, t) ∉ recordAll maximumBpduIntervalSize (keys pre) ∧
          (keys pre).toFinset.card < maximumBpduIntervalSize := by
    obtain ⟨hodd', hrep⟩ := represents_run hodd hclear pre
    rw [hrep.handedOn_iff hodd' (by omega) (length_recordAll_le _ _), length_recordAll_lt,
      show key m = (s, t) from Prod.ext hslot htype]
  constructor
  · intro h pre m post hms hslot htype hpre
    exact ((hhand pre m hslot htype).mp ((h pre m post hms hslot htype).mpr hpre)).2
  · intro h pre m post hms hslot htype
    rw [hhand pre m hslot htype, hfirst]
    constructor
    · rintro ⟨hnew, hroom⟩ hmem
      exact hnew (subset_recordAll (length_recordAll_lt.mpr hroom) hmem)
    · intro hnew
      exact ⟨fun hmem => hnew (recordAll_subset _ hmem),
        h pre m post hms hslot htype ((hfirst pre).mpr hnew)⟩

theorem first_frames_handed_on (c : Chassis) (hodd : c.usCardNumber % 2 = 1)
    (hclear : c.rxBpdu = clearRxBpduInterval) (ms : List RstpBpdu) (s : Nat) (t : UInt8)
    (hs : 1 ≤ s ∧ s ≤ 48) : ExactlyOnce c ms s t ↔ HasRoom ms s t :=
  exactlyOnce_iff hodd hclear ms t hs

theorem rxBpdu_startUp (k : Nat) (type : CardType) (topology : CtpMode)
    (hwaddr : Vector UInt8 6) : (startUp k type topology hwaddr).rxBpdu = clearRxBpduInterval := by
  unfold startUp
  dsimp only
  split_ifs <;> simp [writePorts]

theorem configs_handed_on :
    ExactlyOnce (startUp 1 .lineCard .enabled (Vector.replicate 6 0))
      [configFrame 33, configFrame 35, configFrame 33] 33 bpduTypeConfig := by
  refine (first_frames_handed_on _ ?_ (rxBpdu_startUp 1 _ _ _) _ 33 bpduTypeConfig
    (by decide)).mpr fun pre m post hms _ _ _ => ?_
  · rw [(startUp_frame 1 _ _ _).1]
  · have hcard : (keys pre).toFinset.card ≤ pre.length :=
      (List.toFinset_card_le _).trans ((List.length_filter_le _ _).trans (by simp))
    have hlen := congrArg List.length hms
    simp only [List.length_append, List.length_cons, List.length_nil] at hlen
    have hsize : maximumBpduIntervalSize = 1024 := rfl
    omega

def frameOf (k : Key) : RstpBpdu :=
  { (default : RstpBpdu) with
    hdr.bpduType := k.2
    body.portId := #v[0, UInt8.ofNat k.1] }

def strayKeys : List Key :=
  (List.range 207 ×ˢ [bpduTypeConfig, bpduTypeReply, bpduTypeLcChange, bpduTypeFcChange,
    bpduTypeHello]).map fun p => (49 + p.1, p.2)

theorem key_frameOf {k : Key} (h : k.1 < 256) : key (frameOf k) = k := by
  refine Prod.ext ?_ rfl
  change (UInt8.ofNat k.1).toNat = k.1
  rw [UInt8.toNat_ofNat']
  omega

theorem strayKeys_range {k : Key} (h : k ∈ strayKeys) : 49 ≤ k.1 ∧ k.1 < 256 := by
  obtain ⟨p, hp, rfl⟩ := List.mem_map.mp h
  have hlt := List.mem_range.mp (List.mem_product.mp hp).1
  exact ⟨Nat.le_add_right _ _, by change 49 + p.1 < 256; omega⟩

theorem keys_strayKeys : keys (strayKeys.map frameOf) = strayKeys := by
  have hmap : (strayKeys.map frameOf).map key = strayKeys := by
    rw [List.map_map, List.map_congr_left (f := key ∘ frameOf) (g := id) fun k hk =>
      key_frameOf (strayKeys_range hk).2]
    exact List.map_id strayKeys
  rw [keys, hmap]
  exact List.filter_eq_self.mpr fun k hk => decide_eq_true (by have := strayKeys_range hk; omega)

theorem card_strayKeys : strayKeys.toFinset.card = 1035 := by
  have hnodup : strayKeys.Nodup :=
    (List.nodup_range.product (by decide)).map fun p q hpq => by
      rw [Prod.mk.injEq] at hpq
      exact Prod.ext (by omega) hpq.2
  rw [List.toFinset_card_of_nodup hnodup, strayKeys, List.length_map, List.length_product,
    List.length_range]
  rfl

theorem stray_frames_drop_config :
    ¬ ∀ c : Chassis, c.usCardNumber % 2 = 1 → c.rxBpdu = clearRxBpduInterval →
      ∀ ms : List RstpBpdu, (∀ m ∈ ms, acceptsBpdu m.bpduType RstpBpdu.sizeof = true) →
      ∀ (s : Nat) (t : UInt8), 1 ≤ s ∧ s ≤ 48 → ExactlyOnce c ms s t := by
  intro h
  have hodd : (startUp 1 .lineCard .enabled (Vector.replicate 6 0)).usCardNumber % 2 = 1 := by
    rw [(startUp_frame 1 _ _ _).1]
  have hclear := rxBpdu_startUp 1 .lineCard .enabled (Vector.replicate 6 0)
  have honce := h _ hodd hclear (strayKeys.map frameOf ++ [configFrame 33]) ?_ 33 bpduTypeConfig
    (by decide)
  · have hroom := (exactlyOnce_iff hodd hclear _ bpduTypeConfig (by decide)).mp honce
      (strayKeys.map frameOf) (configFrame 33) [] rfl (by decide +kernel) rfl fun m hm hkey => ?_
    · rw [keys_strayKeys, card_strayKeys] at hroom
      exact absurd hroom (by decide)
    · obtain ⟨k, hk, rfl⟩ := List.mem_map.mp hm
      have hrange := strayKeys_range hk
      have hslot : (frameOf k).slotid = k.1 := congrArg Prod.fst (key_frameOf hrange.2)
      omega
  · intro m hm
    rcases List.mem_append.mp hm with hm | hm
    · obtain ⟨k, hk, rfl⟩ := List.mem_map.mp hm
      obtain ⟨p, hp, rfl⟩ := List.mem_map.mp hk
      have htype : ∀ t ∈ [bpduTypeConfig, bpduTypeReply, bpduTypeLcChange, bpduTypeFcChange,
          bpduTypeHello], acceptsBpdu t RstpBpdu.sizeof = true := by decide +kernel
      exact htype p.2 (List.mem_product.mp hp).2
    · rw [List.mem_singleton.mp hm]
      decide +kernel

end Chassisd
