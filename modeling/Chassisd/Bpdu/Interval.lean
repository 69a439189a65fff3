import Chassisd.Bpdu.Types

namespace Chassisd

def searchRxBpduInterval (slotid : Nat) (type : UInt8) : List RxHeader → Nat
  | [] => 2
  | h :: rest =>
    if h.slotid = slotid ∧ h.type = type then 1
    else if h.slotid = 0 then 0
    else searchRxBpduInterval slotid type rest

def updateRxBpduInterval (slotid : Nat) (type : UInt8) : List RxHeader → List RxHeader
  | [] => []
  | h :: rest =>
    if h.slotid = 0 then ⟨slotid, type, 1⟩ :: rest
    else h :: updateRxBpduInterval slotid type rest

def clearRxBpduInterval : List RxHeader :=
  List.replicate maximumBpduIntervalSize RxHeader.zero

def checkRxBpduInterval (bpdu : RstpBpdu) (rx : List RxHeader) : Nat × List RxHeader :=
  if searchRxBpduInterval bpdu.slotid bpdu.bpduType rx = 0 then
    (0, updateRxBpduInterval bpdu.slotid bpdu.bpduType rx)
  else (1, rx)

namespace RxInterval

abbrev Key := Nat × UInt8

def header (k : Key) : RxHeader := ⟨k.1, k.2, 1⟩

-- `rx_bpdu` is filled from the front; a zero slot marks the first free entry.
def Holds (rx : List RxHeader) (seen : List Key) : Prop :=
  (∀ k ∈ seen, k.1 ≠ 0) ∧ seen.length ≤ maximumBpduIntervalSize ∧
    rx = seen.map header ++ List.replicate (maximumBpduIntervalSize - seen.length) RxHeader.zero

def seenOf (rx : List RxHeader) : List Key :=
  (rx.takeWhile (fun h => h.slotid ≠ 0)).map (fun h => (h.slotid, h.type))

theorem holds_clear : Holds clearRxBpduInterval [] := by
  simp [Holds, clearRxBpduInterval]

theorem seenOf_of_holds {rx : List RxHeader} {seen : List Key} (h : Holds rx seen) :
    seenOf rx = seen := by
  obtain ⟨hne, -, rfl⟩ := h
  have hrep (n : Nat) :
      (List.replicate n RxHeader.zero).takeWhile (fun h => h.slotid ≠ 0) = [] := by
    cases n <;> simp [List.replicate_succ, RxHeader.zero]
  have hall : ∀ a ∈ seen.map header, decide (a.slotid ≠ 0) = true := by
    intro a ha
    obtain ⟨b, hb, rfl⟩ := List.mem_map.mp ha
    exact decide_eq_true (hne b hb)
  rw [seenOf, List.takeWhile_append_of_pos hall, hrep]
  simp [header, Function.comp_def]

theorem search_append {slotid : Nat} {type : UInt8} (seen : List Key) (tail : List RxHeader)
    (hne : ∀ k ∈ seen, k.1 ≠ 0) (hn : (slotid, type) ∉ seen) :
    searchRxBpduInterval slotid type (seen.map header ++ tail) =
      searchRxBpduInterval slotid type tail := by
  induction seen with
  | nil => rfl
  | cons k rest ih =>
    have hk : k.1 ≠ 0 := hne k (by simp)
    have hd : ¬ (k.1 = slotid ∧ k.2 = type) := fun hh => hn (by simp [← hh.1, ← hh.2])
    simp only [List.map_cons, List.cons_append, searchRxBpduInterval, header, if_neg hd, if_neg hk]
    exact ih (fun a ha => hne a (by simp [ha])) (fun hh => hn (by simp [hh]))

theorem search_of_mem {slotid : Nat} {type : UInt8} (seen : List Key) (tail : List RxHeader)
    (hne : ∀ k ∈ seen, k.1 ≠ 0) (hm : (slotid, type) ∈ seen) :
    searchRxBpduInterval slotid type (seen.map header ++ tail) = 1 := by
  induction seen with
  | nil => simp at hm
  | cons k rest ih =>
    simp only [List.map_cons, List.cons_append, searchRxBpduInterval, header]
    split
    · rfl
    · rename_i hd
      rw [if_neg (hne k (by simp))]
      rcases List.mem_cons.mp hm with rfl | hm
      · exact absurd ⟨rfl, rfl⟩ hd
      · exact ih (fun a ha => hne a (by simp [ha])) hm

theorem update_append {slotid : Nat} {type : UInt8} (seen : List Key) (tail : List RxHeader)
    (hne : ∀ k ∈ seen, k.1 ≠ 0) :
    updateRxBpduInterval slotid type (seen.map header ++ tail) =
      seen.map header ++ updateRxBpduInterval slotid type tail := by
  induction seen with
  | nil => rfl
  | cons k rest ih =>
    simp only [List.map_cons, List.cons_append, updateRxBpduInterval, header,
      if_neg (hne k (by simp))]
    rw [← ih (fun a ha => hne a (by simp [ha]))]

theorem check_of_mem {bpdu : RstpBpdu} {rx : List RxHeader} {seen : List Key}
    (h : Holds rx seen) (hm : (bpdu.slotid, bpdu.bpduType) ∈ seen) :
    checkRxBpduInterval bpdu rx = (1, rx) := by
  have hs : searchRxBpduInterval bpdu.slotid bpdu.bpduType rx = 1 := by
    rw [h.2.2]; exact search_of_mem seen _ h.1 hm
  simp [checkRxBpduInterval, hs]

theorem check_of_not_mem {bpdu : RstpBpdu} {rx : List RxHeader} {seen : List Key}
    (h : Holds rx seen) (hslot : bpdu.slotid ≠ 0) (hlen : seen.length < maximumBpduIntervalSize)
    (hn : (bpdu.slotid, bpdu.bpduType) ∉ seen) :
    (checkRxBpduInterval bpdu rx).1 = 0 ∧
      Holds (checkRxBpduInterval bpdu rx).2 (seen ++ [(bpdu.slotid, bpdu.bpduType)]) := by
  obtain ⟨hne, -, rfl⟩ := h
  obtain ⟨n, hfree⟩ : ∃ n, maximumBpduIntervalSize - seen.length = n + 1 :=
    ⟨maximumBpduIntervalSize - seen.length - 1, by omega⟩
  have hs : searchRxBpduInterval bpdu.slotid bpdu.bpduType (seen.map header ++
      List.replicate (maximumBpduIntervalSize - seen.length) RxHeader.zero) = 0 := by
    rw [search_append seen _ hne hn, hfree, List.replicate_succ]
    have hd : ¬ (0 = bpdu.slotid ∧ (0 : UInt8) = bpdu.bpduType) := fun hh => hslot hh.1.symm
    simp [searchRxBpduInterval, RxHeader.zero, hd]
  simp only [checkRxBpduInterval, hs, if_true]
  refine ⟨trivial, ?_, ?_, ?_⟩
  · intro k hk
    rcases List.mem_append.mp hk with hk | hk
    · exact hne k hk
    · rw [List.mem_singleton.mp hk]; exact hslot
  · simpa using hlen
  · have hlen' : maximumBpduIntervalSize - (seen ++ [(bpdu.slotid, bpdu.bpduType)]).length = n := by
      rw [List.length_append, List.length_singleton]; omega
    rw [update_append seen _ hne, hfree, List.replicate_succ, hlen']
    simp [updateRxBpduInterval, RxHeader.zero, header]

end RxInterval

end Chassisd
