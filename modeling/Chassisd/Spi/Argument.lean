import Chassisd.Spi.Port
import Mathlib

namespace Chassisd

def hexNibble (byte : UInt8) : UInt8 :=
  if '0'.toUInt8 ≤ byte ∧ byte ≤ '9'.toUInt8 then byte - '0'.toUInt8
  else if 'a'.toUInt8 ≤ byte ∧ byte ≤ 'f'.toUInt8 then byte - 'a'.toUInt8 + 10
  else if 'A'.toUInt8 ≤ byte ∧ byte ≤ 'F'.toUInt8 then byte - 'A'.toUInt8 + 10
  else 0

structure Conversion where
  array : Nat → UInt8
  value : UInt8
  reads : List Int
  writes : List Nat

def Conversion.store (c : Conversion) (val : Int → UInt8) (i : Int) (j : Nat) : Conversion :=
  let byte1 := hexNibble (val (i - 1))
  let value := c.value <<< 4 ||| (byte1 &&& 0xF)
  let byte2 := hexNibble (val i)
  let value := value <<< 4 ||| (byte2 &&& 0xF)
  { array := Function.update c.array j value
    value := value
    reads := c.reads ++ [i - 1, i]
    writes := c.writes ++ [j] }

-- for (i; i>=0; i=i-2, j++), with i + 1 characters left
def converLoop (val : Int → UInt8) : Nat → Nat → Conversion → Conversion
  | 0, _, c => c
  | 1, j, c => c.store val 0 j
  | left + 2, j, c => converLoop val left (j + 1) (c.store val (left + 1) j)

def stringAt (text : List UInt8) (outside : Int → UInt8) (i : Int) : UInt8 :=
  if 0 ≤ i ∧ i ≤ text.length then text.getD i.toNat 0 else outside i

-- val_len is cut to len * 2 after i has been set from it, and not read again.
def converStrtoArray (array : Nat → UInt8) (text : List UInt8) (outside : Int → UInt8) (len : Nat) :
    Conversion :=
  let val := stringAt text outside
  let valLen : Int := text.length
  let i := valLen - 1
  let haveX := if val 1 = 'x'.toUInt8 ∨ val 1 = 'X'.toUInt8 then 2 else 0
  let _valLen := if (valLen - haveX).tdiv 2 > len then (len * 2 : Int) else valLen
  converLoop val (i + 1).toNat 0 ⟨array, 0, [1], []⟩

section Number

def IsHexDigit (c : UInt8) : Prop :=
  ('0'.toUInt8 ≤ c ∧ c ≤ '9'.toUInt8) ∨ ('a'.toUInt8 ≤ c ∧ c ≤ 'f'.toUInt8) ∨
    ('A'.toUInt8 ≤ c ∧ c ≤ 'F'.toUInt8)

def digitValue (c : UInt8) : Nat :=
  if c ≤ '9'.toUInt8 then c.toNat - 48 else if c ≤ 'F'.toUInt8 then c.toNat - 55
  else c.toNat - 87

structure RegisterText (len : Nat) where
  marker : Option UInt8
  digits : List UInt8
  isMarker : ∀ x ∈ marker, x = 'x'.toUInt8 ∨ x = 'X'.toUInt8
  hex : ∀ c ∈ digits, IsHexDigit c
  nonempty : digits ≠ []
  fits : digits.length ≤ 2 * len

variable {len : Nat}

def RegisterText.chars (t : RegisterText len) : List UInt8 :=
  t.marker.elim [] (fun x => ['0'.toUInt8, x]) ++ t.digits

def RegisterText.number (t : RegisterText len) : Nat :=
  Nat.ofDigits 16 (t.digits.reverse.map digitValue)

structure Exact (t : RegisterText len) (c : Conversion) : Prop where
  bytes : ∀ k < len, (c.array k).toNat = t.number / 256 ^ k % 256
  reads : ∀ i ∈ c.reads, 0 ≤ i ∧ i ≤ t.chars.length
  writes : ∀ j ∈ c.writes, j < len

end Number

section Store

theorem hexNibble_lt (byte : UInt8) : (hexNibble byte).toNat < 16 :=
  forall_byte byte (by decide)

theorem hexNibble_of_isHexDigit {c : UInt8} (h : IsHexDigit c) :
    (hexNibble c).toNat = digitValue c := by
  revert h
  unfold IsHexDigit
  exact forall_byte c (by decide)

theorem shift_twice (v x : UInt8) : (v <<< 4 ||| x) <<< 4 = x <<< 4 := by
  have hgone : v <<< 4 <<< 4 = 0 := forall_byte v (by decide)
  rw [UInt8.shiftLeft_or, hgone, UInt8.zero_or]

theorem toNat_pack (v : UInt8) {a b : UInt8} (ha : a.toNat < 16) (hb : b.toNat < 16) :
    ((v <<< 4 ||| (a &&& 0xF)) <<< 4 ||| (b &&& 0xF)).toNat = 16 * a.toNat + b.toNat := by
  rw [shift_twice]
  have hall : ∀ m n : Fin 16, ((UInt8.ofNat m &&& 0xF) <<< 4 ||| (UInt8.ofNat n &&& 0xF)).toNat =
      16 * m.val + n.val := by decide
  simpa using hall ⟨a.toNat, ha⟩ ⟨b.toNat, hb⟩

variable (c : Conversion) (val : Int → UInt8) (i : Int) (j : Nat)

theorem toNat_store : ((c.store val i j).array j).toNat =
    16 * (hexNibble (val (i - 1))).toNat + (hexNibble (val i)).toNat := by
  have hself : (c.store val i j).array j = (c.store val i j).value := Function.update_self ..
  rw [hself]
  exact toNat_pack c.value (hexNibble_lt _) (hexNibble_lt _)

theorem array_store_of_ne {k : Nat} (h : k ≠ j) : (c.store val i j).array k = c.array k :=
  Function.update_of_ne h _ _

theorem mem_reads_store {i' : Int} :
    i' ∈ (c.store val i j).reads ↔ i' ∈ c.reads ∨ i' = i - 1 ∨ i' = i := by
  simp [Conversion.store]

theorem mem_writes_store {k : Nat} : k ∈ (c.store val i j).writes ↔ k ∈ c.writes ∨ k = j := by
  simp [Conversion.store]

end Store

section Loop

variable (val : Int → UInt8)

theorem array_converLoop (left j : Nat) (c : Conversion) {k : Nat}
    (h : k < j ∨ j + (left + 1) / 2 ≤ k) : (converLoop val left j c).array k = c.array k := by
  induction left, j, c using converLoop.induct val with
  | case1 j c => rfl
  | case2 j c => exact array_store_of_ne _ _ _ _ (by omega)
  | case3 left j c ih =>
    rw [converLoop, ih (by omega)]
    exact array_store_of_ne _ _ _ _ (by omega)

theorem mem_reads_converLoop (left j : Nat) (c : Conversion) {i : Int} :
    i ∈ (converLoop val left j c).reads ↔
      i ∈ c.reads ∨ (-(left % 2 : Int) ≤ i ∧ i < left) := by
  induction left, j, c using converLoop.induct val with
  | case1 j c =>
    rw [converLoop]
    exact ⟨.inl, fun h => h.resolve_right (by omega)⟩
  | case2 j c =>
    rw [converLoop, mem_reads_store]
    exact or_congr_right (by omega)
  | case3 left j c ih =>
    rw [converLoop, ih, mem_reads_store, or_assoc]
    exact or_congr_right (by push_cast; omega)

theorem mem_writes_converLoop (left j : Nat) (c : Conversion) {k : Nat} :
    k ∈ (converLoop val left j c).writes ↔ k ∈ c.writes ∨ (j ≤ k ∧ k < j + (left + 1) / 2) := by
  induction left, j, c using converLoop.induct val with
  | case1 j c =>
    rw [converLoop]
    exact ⟨.inl, fun h => h.resolve_right (by omega)⟩
  | case2 j c =>
    rw [converLoop, mem_writes_store]
    exact or_congr_right (by omega)
  | case3 left j c ih =>
    rw [converLoop, ih, mem_writes_store, or_assoc]
    exact or_congr_right (by omega)

def Spells (rest : List UInt8) : Prop :=
  ∀ i : Nat, i < rest.length → val i = rest.reverse.getD i 0

def denoted (rest : List UInt8) : Nat := Nat.ofDigits 16 (rest.map fun c => (hexNibble c).toNat)

variable {val}

theorem reverse_pair (a b : UInt8) (rest : List UInt8) :
    (b :: a :: rest).reverse = rest.reverse ++ [a, b] := by simp

theorem Spells.rest {a b : UInt8} {rest : List UInt8} (h : Spells val (b :: a :: rest)) :
    Spells val rest := by
  intro i hi
  rw [h i (by simp; omega), reverse_pair]
  exact List.getD_append _ _ _ _ (by simpa using hi)

theorem Spells.pair {a b : UInt8} {rest : List UInt8} (h : Spells val (b :: a :: rest)) :
    val rest.length = a ∧ val (rest.length + 1) = b := by
  have ha := h rest.length (by simp)
  have hb := h (rest.length + 1) (by simp)
  rw [reverse_pair, List.getD_append_right _ _ _ _ (by simp)] at ha hb
  exact ⟨by simpa using ha, by simpa using hb⟩

theorem denoted_pair (a b : UInt8) (rest : List UInt8) :
    denoted (b :: a :: rest) =
      16 * (hexNibble a).toNat + (hexNibble b).toNat + 256 * denoted rest := by
  simp only [denoted, List.map_cons, Nat.ofDigits_cons]
  ring

-- Only the byte that the first character alone is left for reads in front of the string.
theorem byte_converLoop {rest : List UInt8} (h : Spells val rest) (j : Nat) (c : Conversion)
    {k : Nat} (hk : k < rest.length / 2) :
    ((converLoop val rest.length j c).array (j + k)).toNat = denoted rest / 256 ^ k % 256 := by
  induction rest using List.twoStepInduction generalizing j c k with
  | nil => exact absurd hk (by simp)
  | singleton a => exact absurd hk (by simp)
  | cons_cons b a rest ih _ =>
    have hab := hexNibble_lt a
    have hbb := hexNibble_lt b
    rw [denoted_pair, List.length_cons, List.length_cons, converLoop]
    cases k with
    | zero =>
      rw [array_converLoop val _ _ _ (.inl (by omega)), Nat.add_zero, toNat_store]
      simp only [add_sub_cancel_right, h.pair.1, h.pair.2, pow_zero, Nat.div_one]
      omega
    | succ k =>
      have hk' : k < rest.length / 2 := by simp at hk; omega
      have hdiv : (16 * (hexNibble a).toNat + (hexNibble b).toNat + 256 * denoted rest) /
          256 ^ (k + 1) = denoted rest / 256 ^ k := by
        rw [pow_succ', ← Nat.div_div_eq_div_mul]
        congr 1
        omega
      rw [hdiv, ← ih h.rest (j + 1) _ hk']
      congr 2
      omega

end Loop

section Text

theorem denoted_lt {rest : List UInt8} (heven : Even rest.length) :
    denoted rest < 256 ^ (rest.length / 2) := by
  obtain ⟨m, hm⟩ := heven
  have hlt : denoted rest < 16 ^ (rest.map fun c => (hexNibble c).toNat).length := by
    refine Nat.ofDigits_lt_base_pow_length (by decide) fun d hd => ?_
    obtain ⟨c, -, rfl⟩ := List.mem_map.mp hd
    exact hexNibble_lt c
  rw [List.length_map, hm, ← two_mul, pow_mul] at hlt
  rw [hm, ← two_mul, Nat.mul_div_cancel_left m (by decide)]
  exact hlt

theorem spells_stringAt (text : List UInt8) (outside : Int → UInt8) :
    Spells (stringAt text outside) text.reverse := by
  intro i hi
  rw [List.length_reverse] at hi
  rw [List.reverse_reverse, stringAt, if_pos (by omega), Int.toNat_natCast]

variable {len : Nat} (t : RegisterText len)

theorem length_chars :
    t.chars.length = (if t.marker.isSome then 2 else 0) + t.digits.length := by
  unfold RegisterText.chars
  cases t.marker with
  | none => simp
  | some x => simp [Nat.add_comm 2, Nat.add_assoc]

theorem denoted_chars : denoted t.chars.reverse = t.number := by
  have hdigits : denoted t.digits.reverse = t.number := by
    unfold denoted RegisterText.number
    congr 1
    refine List.map_congr_left fun c hc => ?_
    exact hexNibble_of_isHexDigit (t.hex c (List.mem_reverse.mp hc))
  cases hmarker : t.marker with
  | none => simpa [RegisterText.chars, hmarker] using hdigits
  | some x =>
    have hnone : hexNibble x = 0 := by
      rcases t.isMarker x hmarker with rfl | rfl <;> decide
    have hzero : hexNibble '0'.toUInt8 = 0 := by decide
    have hchars : t.chars.reverse = t.digits.reverse ++ [x, '0'.toUInt8] := by
      simp [RegisterText.chars, hmarker]
    rw [hchars, denoted, List.map_append, Nat.ofDigits_append, ← denoted, hdigits]
    simp [hnone, hzero, Nat.ofDigits]

theorem converStrtoArray_eq (array : Nat → UInt8) (text : List UInt8) (outside : Int → UInt8) :
    converStrtoArray array text outside len =
      converLoop (stringAt text outside) text.length 0 ⟨array, 0, [1], []⟩ := by
  simp [converStrtoArray]

theorem byte_converStrtoArray {array : Nat → UInt8} (outside : Int → UInt8)
    (hzero : ∀ k < len, array k = 0) (heven : Even t.chars.length) {k : Nat} (hk : k < len) :
    ((converStrtoArray array t.chars outside len).array k).toNat = t.number / 256 ^ k % 256 := by
  have heven' : Even t.chars.reverse.length := by rwa [List.length_reverse]
  rw [converStrtoArray_eq, ← denoted_chars]
  rcases Nat.lt_or_ge k (t.chars.reverse.length / 2) with hlt | hge
  · have hbyte := byte_converLoop (spells_stringAt t.chars outside) 0
      ⟨array, 0, [1], []⟩ hlt
    rwa [Nat.zero_add, List.length_reverse] at hbyte
  · have hsmall : denoted t.chars.reverse < 256 ^ k :=
      (denoted_lt heven').trans_le (Nat.pow_le_pow_right (by decide) hge)
    rw [List.length_reverse] at hge
    rw [array_converLoop _ _ _ _ (.inr (by have := heven.two_dvd; omega)),
      Nat.div_eq_of_lt hsmall]
    change (array k).toNat = 0
    rw [hzero k hk]
    rfl

theorem even_chars_iff : Even t.chars.length ↔ Even t.digits.length := by
  rw [length_chars]
  split_ifs <;> simp [Nat.even_add]

theorem reads_inside_iff (array : Nat → UInt8) (outside : Int → UInt8) :
    (∀ i ∈ (converStrtoArray array t.chars outside len).reads, 0 ≤ i ∧ i ≤ t.chars.length) ↔
      Even t.chars.length := by
  have hlength := length_chars t
  have hpos := List.length_pos_iff.mpr t.nonempty
  rw [converStrtoArray_eq, Nat.even_iff]
  constructor
  · intro h
    by_contra hodd
    have hfront := h (-1) ((mem_reads_converLoop _ _ _ _).mpr (.inr (by omega)))
    exact absurd hfront.1 (by decide)
  · intro heven i hi
    rw [mem_reads_converLoop, List.mem_singleton] at hi
    omega

theorem writes_inside_iff (array : Nat → UInt8) (outside : Int → UInt8)
    (heven : Even t.chars.length) :
    (∀ j ∈ (converStrtoArray array t.chars outside len).writes, j < len) ↔
      (t.marker.isSome → t.digits.length + 2 ≤ 2 * len) := by
  have hlength := length_chars t
  have hpos := List.length_pos_iff.mpr t.nonempty
  have htwo := heven.two_dvd
  rw [converStrtoArray_eq]
  constructor
  · intro h hmarker
    have hlast := h (t.chars.length / 2 - 1)
      ((mem_writes_converLoop _ _ _ _).mpr (.inr ⟨Nat.zero_le _, by omega⟩))
    rw [if_pos hmarker] at hlength
    omega
  · intro hroom j hj
    rw [mem_writes_converLoop] at hj
    have hbound := hj.resolve_left List.not_mem_nil
    have hfits := t.fits
    split_ifs at hlength with hmarker
    · have := hroom hmarker
      omega
    · omega

theorem conver_exact_iff {array : Nat → UInt8} (outside : Int → UInt8)
    (hzero : ∀ k < len, array k = 0) :
    Exact t (converStrtoArray array t.chars outside len) ↔
      Even t.digits.length ∧ (t.marker.isSome → t.digits.length + 2 ≤ 2 * len) := by
  rw [← even_chars_iff t]
  constructor
  · intro h
    have heven := (reads_inside_iff t array outside).mp h.reads
    exact ⟨heven, (writes_inside_iff t array outside heven).mp h.writes⟩
  · rintro ⟨heven, hroom⟩
    exact ⟨fun k hk => byte_converStrtoArray t outside hzero heven hk,
      (reads_inside_iff t array outside).mpr heven,
      (writes_inside_iff t array outside heven).mpr hroom⟩

end Text

def twoDigits : RegisterText 1 where
  marker := none
  digits := ['5'.toUInt8, 'a'.toUInt8]
  isMarker := by simp
  hex := by
    simp [IsHexDigit]
    decide
  nonempty := by simp
  fits := by decide

theorem two_digits_exact :
    Exact twoDigits (converStrtoArray (fun _ => 0) ['5'.toUInt8, 'a'.toUInt8] (fun _ => 0) 1) :=
  (conver_exact_iff twoDigits _ fun _ _ => rfl).mpr (by decide)

def prefixedDouble : RegisterText 8 where
  marker := some 'x'.toUInt8
  digits := ['1', '1', '2', '2', '3', '3', '4', '4', '5', '5', '6', '6', '7', '7', '8', '8'].map
    Char.toUInt8
  isMarker := by simp
  hex := by
    simp [IsHexDigit]
    decide
  nonempty := by simp
  fits := by decide

-- The prefix in front of a full register is converted as one more byte.
theorem prefix_written_behind :
    8 ∈ (converStrtoArray (fun _ => 0) prefixedDouble.chars (fun _ => 0) 8).writes ∧
      ¬Exact prefixedDouble
        (converStrtoArray (fun _ => 0) prefixedDouble.chars (fun _ => 0) 8) := by
  have hmem : 8 ∈ (converStrtoArray (fun _ => 0) prefixedDouble.chars (fun _ => 0) 8).writes := by
    decide
  exact ⟨hmem, fun h => absurd (h.writes 8 hmem) (by decide)⟩

end Chassisd
