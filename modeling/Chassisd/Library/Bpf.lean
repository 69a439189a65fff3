import Mathlib

namespace Bpf

structure SockFilter where
  code : UInt16
  jt : Nat
  jf : Nat
  k : Nat
  deriving DecidableEq

abbrev ldWord : UInt16 := 0x20
abbrev ldHalf : UInt16 := 0x28
abbrev jeq : UInt16 := 0x15
abbrev jgt : UInt16 := 0x25
abbrev ret : UInt16 := 0x06

def bigEndian (bytes : List UInt8) : Nat :=
  Nat.ofDigits 256 (bytes.reverse.map UInt8.toNat)

-- A load behind the end of the packet ends the program, and the packet is dropped.
def load (packet : List UInt8) (off n : Nat) : Option Nat :=
  if off + n ≤ packet.length then some (bigEndian ((packet.drop off).take n)) else none

-- The bytes of the packet that the program lets through. skip counts the instructions a jump
-- passes over; jumps go forward only.
def run (packet : List UInt8) : List SockFilter → Nat → Nat → Nat
  | [], _, _ => 0
  | _ :: rest, skip + 1, a => run packet rest skip a
  | i :: rest, 0, a =>
    if i.code = ret then i.k
    else if i.code = jeq then run packet rest (if a = i.k then i.jt else i.jf) a
    else if i.code = jgt then run packet rest (if i.k < a then i.jt else i.jf) a
    else
      let n := if i.code = ldWord then 4 else if i.code = ldHalf then 2 else 1
      (load packet i.k n).elim 0 fun v => run packet rest 0 v

def accepts (prog : List SockFilter) (packet : List UInt8) : Nat := run packet prog 0 0

section Rules

variable (packet : List UInt8) (rest : List SockFilter) (a jt jf k skip : Nat) (i : SockFilter)

@[simp] theorem run_skip : run packet (i :: rest) (skip + 1) a = run packet rest skip a := rfl

@[simp] theorem run_ret : run packet (⟨ret, jt, jf, k⟩ :: rest) 0 a = k := rfl

@[simp] theorem run_jeq : run packet (⟨jeq, jt, jf, k⟩ :: rest) 0 a =
    run packet rest (if a = k then jt else jf) a := rfl

@[simp] theorem run_jgt : run packet (⟨jgt, jt, jf, k⟩ :: rest) 0 a =
    run packet rest (if k < a then jt else jf) a := rfl

theorem run_ldWord : run packet (⟨ldWord, jt, jf, k⟩ :: rest) 0 a =
    (load packet k 4).elim 0 (run packet rest 0) := rfl

theorem run_ldHalf : run packet (⟨ldHalf, jt, jf, k⟩ :: rest) 0 a =
    (load packet k 2).elim 0 (run packet rest 0) := rfl

end Rules

section Bytes

theorem bigEndian_inj {xs ys : List UInt8} (hlen : xs.length = ys.length) :
    bigEndian xs = bigEndian ys ↔ xs = ys := by
  constructor
  · intro h
    have hdigit (zs : List UInt8) : ∀ d ∈ zs.reverse.map UInt8.toNat, d < 256 := by
      intro d hd
      obtain ⟨b, -, rfl⟩ := List.mem_map.mp hd
      exact b.toNat_lt
    have hmap := Nat.ofDigits_inj_of_len_eq (by decide) (by simpa using hlen) (hdigit xs)
      (hdigit ys) h
    have hrev := List.map_injective_iff.mpr (fun _ _ => UInt8.toNat_inj.mp) hmap
    exact List.reverse_injective hrev
  · exact congrArg bigEndian

end Bytes

section EtherDst

-- What tcpdump compiles "ether dst mac" to.
def etherDst (mac : List UInt8) (snap : Nat) : List SockFilter :=
  [⟨ldWord, 0, 0, 2⟩, ⟨jeq, 0, 3, bigEndian (mac.drop 2)⟩, ⟨ldHalf, 0, 0, 0⟩,
    ⟨jeq, 0, 1, bigEndian (mac.take 2)⟩, ⟨ret, 0, 0, snap⟩, ⟨ret, 0, 0, 0⟩]

theorem prefix_iff_halves {mac packet : List UInt8} {m n : Nat} (hmac : mac.length = m + n)
    (hlong : m + n ≤ packet.length) :
    mac <+: packet ↔ packet.take m = mac.take m ∧ (packet.drop m).take n = mac.drop m := by
  have htake : packet.take (m + n) = packet.take m ++ (packet.drop m).take n := List.take_add
  have hlen : (mac.take m).length = (packet.take m).length := by simp; omega
  rw [List.prefix_iff_eq_take, hmac, htake]
  constructor
  · intro h
    rw [← List.take_append_drop m mac] at h
    obtain ⟨hhead, htail⟩ := List.append_inj h hlen
    exact ⟨hhead.symm, htail.symm⟩
  · rintro ⟨hhead, htail⟩
    rw [hhead, htail, List.take_append_drop]

theorem accepts_etherDst {mac : List UInt8} (hmac : mac.length = 6) (snap : Nat)
    (packet : List UInt8) :
    accepts (etherDst mac snap) packet = if mac <+: packet then snap else 0 := by
  rw [accepts, etherDst, run_ldWord]
  rcases Nat.lt_or_ge packet.length 6 with hshort | hlong
  · have hnone : load packet 2 4 = none := if_neg (by omega)
    have hnot : ¬mac <+: packet := fun h => absurd h.length_le (by omega)
    rw [hnone, if_neg hnot]
    rfl
  · have hword : load packet 2 4 = some (bigEndian ((packet.drop 2).take 4)) :=
      if_pos (by omega)
    have hhalf : load packet 0 2 = some (bigEndian (packet.take 2)) := if_pos (by omega)
    have hlow : bigEndian ((packet.drop 2).take 4) = bigEndian (mac.drop 2) ↔
        (packet.drop 2).take 4 = mac.drop 2 := bigEndian_inj (by simp; omega)
    have hhigh : bigEndian (packet.take 2) = bigEndian (mac.take 2) ↔
        packet.take 2 = mac.take 2 := bigEndian_inj (by simp; omega)
    have hsplit := prefix_iff_halves (m := 2) (n := 4) hmac hlong
    rw [hword, Option.elim_some, run_jeq]
    by_cases hl : bigEndian ((packet.drop 2).take 4) = bigEndian (mac.drop 2)
    · rw [if_pos hl, run_ldHalf, hhalf, Option.elim_some, run_jeq]
      by_cases hh : bigEndian (packet.take 2) = bigEndian (mac.take 2)
      · rw [if_pos hh, if_pos (hsplit.mpr ⟨hhigh.mp hh, hlow.mp hl⟩), run_ret]
      · rw [if_neg hh, if_neg fun h => hh (hhigh.mpr (hsplit.mp h).1)]
        rfl
    · rw [if_neg hl, if_neg fun h => hl (hlow.mpr (hsplit.mp h).2)]
      rfl

end EtherDst

end Bpf
