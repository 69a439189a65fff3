import Mathlib

namespace CString

section Tokens

variable {α : Type*} (delim : α → Bool)

def strtok (text : List α) : Option (List α × List α) :=
  match text.dropWhile delim with
  | [] => none
  | rest@(_ :: _) =>
    some (rest.takeWhile fun c => !delim c, (rest.dropWhile fun c => !delim c).tail)

def Stops (tail : List α) : Prop := ∀ c ∈ tail.head?, delim c = true

def Fields (text a b : List α) : Prop :=
  ∃ lead gap tail, text = lead ++ (a ++ (gap ++ (b ++ tail))) ∧ (∀ c ∈ lead, delim c = true) ∧
    gap ≠ [] ∧ (∀ c ∈ gap, delim c = true) ∧ Stops delim tail

variable {delim}

theorem strtok_append {lead tok tail : List α} (hlead : ∀ c ∈ lead, delim c = true)
    (hne : tok ≠ []) (htok : ∀ c ∈ tok, delim c = false) (htail : Stops delim tail) :
    strtok delim (lead ++ (tok ++ tail)) = some (tok, tail.tail) := by
  obtain ⟨c, tok', rfl⟩ := List.exists_cons_of_ne_nil hne
  have hskip : (lead ++ (c :: tok' ++ tail)).dropWhile delim = c :: tok' ++ tail := by
    rw [List.dropWhile_append_of_pos hlead, List.cons_append,
      List.dropWhile_cons_of_neg (by simp [htok c])]
  have hspan : ∀ x ∈ c :: tok', (!delim x) = true := fun x hx => by simp [htok x hx]
  have htake : tail.takeWhile (fun x => !delim x) = [] ∧
      tail.dropWhile (fun x => !delim x) = tail := by
    cases tail with
    | nil => exact ⟨rfl, rfl⟩
    | cons d tail =>
      have hd : delim d = true := htail d (by simp)
      exact ⟨List.takeWhile_cons_of_neg (by simp [hd]), List.dropWhile_cons_of_neg (by simp [hd])⟩
  unfold strtok
  rw [hskip, List.cons_append]
  simp only [← List.cons_append]
  rw [List.takeWhile_append_of_pos hspan, List.dropWhile_append_of_pos hspan, htake.1, htake.2,
    List.append_nil]

theorem Fields.strtok {text a b : List α} (h : Fields delim text a b) (ha : a ≠ [])
    (hb : b ≠ []) (hda : ∀ c ∈ a, delim c = false) (hdb : ∀ c ∈ b, delim c = false) :
    ∃ rest last, CString.strtok delim text = some (a, rest) ∧
      CString.strtok delim rest = some (b, last) := by
  obtain ⟨lead, gap, tail, rfl, hlead, hgap, hspaces, htail⟩ := h
  obtain ⟨d, gap, rfl⟩ := List.exists_cons_of_ne_nil hgap
  have hstop : Stops delim (d :: gap ++ (b ++ tail)) := by
    intro c hc
    obtain rfl : d = c := by simpa using hc
    exact hspaces d List.mem_cons_self
  refine ⟨gap ++ (b ++ tail), tail.tail, strtok_append hlead ha hda hstop, ?_⟩
  exact strtok_append (fun c hc => hspaces c (List.mem_cons_of_mem d hc)) hb hdb htail

end Tokens

section Numbers

def isspace (c : Char) : Bool := c.toNat = 32 || (9 ≤ c.toNat && c.toNat ≤ 13)

def digits (text : List Char) : Nat := Nat.ofDigitChars 10 (text.takeWhile Char.isDigit) 0

def signed : List Char → Int
  | '-' :: text => -(digits text : Int)
  | '+' :: text => digits text
  | text => digits text

-- A `long` of 64 bits; out of range the result is the nearest bound.
def saturate (x : Int) : Int := max (-2 ^ 63) (min x (2 ^ 63 - 1))

def strtol (text : List Char) : Int := saturate (signed (text.dropWhile isspace))

def toInt (x : Int) : Int := x.bmod (2 ^ 32)

def atoi (text : List Char) : Int := toInt (strtol text)

inductive Denotes : List Char → Int → Prop
  | unsigned {ds : List Char} (hne : ds ≠ []) (hds : ∀ c ∈ ds, c.isDigit = true) :
      Denotes ds (Nat.ofDigitChars 10 ds 0)
  | plus {ds : List Char} (hne : ds ≠ []) (hds : ∀ c ∈ ds, c.isDigit = true) :
      Denotes ('+' :: ds) (Nat.ofDigitChars 10 ds 0)
  | minus {ds : List Char} (hne : ds ≠ []) (hds : ∀ c ∈ ds, c.isDigit = true) :
      Denotes ('-' :: ds) (-(Nat.ofDigitChars 10 ds 0 : Int))

theorem denotes_toDigits (n : Nat) : Denotes (Nat.toDigits 10 n) n := by
  have hds : ∀ c ∈ Nat.toDigits 10 n, c.isDigit = true :=
    fun c hc => Nat.isDigit_of_mem_toDigits (by decide) (by decide) hc
  have h := Denotes.unsigned Nat.toDigits_ne_nil hds
  rwa [Nat.ofDigitChars_ten_toDigits] at h

theorem digits_eq {ds : List Char} (hds : ∀ c ∈ ds, c.isDigit = true) :
    digits ds = Nat.ofDigitChars 10 ds 0 := by
  rw [digits, List.takeWhile_eq_self_iff.mpr hds]

theorem signed_digits {ds : List Char} (hds : ∀ c ∈ ds, c.isDigit = true) :
    signed ds = Nat.ofDigitChars 10 ds 0 := by
  rw [← digits_eq hds]
  unfold signed
  split
  · exact absurd (hds '-' List.mem_cons_self) (by decide)
  · exact absurd (hds '+' List.mem_cons_self) (by decide)
  · rfl

theorem isspace_digit {c : Char} (h : c.isDigit = true) : isspace c = false := by
  have hc : 48 ≤ c.toNat ∧ c.toNat ≤ 57 := by
    simpa [Char.isDigit, UInt32.le_iff_toNat_le] using h
  simp only [isspace, Bool.or_eq_false_iff, decide_eq_false_iff_not, Bool.and_eq_false_iff]
  omega

namespace Denotes

variable {text : List Char} {n : Int}

theorem ne_nil (h : Denotes text n) : text ≠ [] := by
  cases h with
  | unsigned hne _ => exact hne
  | plus | minus => exact List.cons_ne_nil _ _

theorem isspace_of_mem (h : Denotes text n) {c : Char} (hc : c ∈ text) : isspace c = false := by
  cases h with
  | unsigned _ hds => exact isspace_digit (hds c hc)
  | plus _ hds | minus _ hds =>
    rcases List.mem_cons.mp hc with rfl | hc
    · decide
    · exact isspace_digit (hds c hc)

theorem signed (h : Denotes text n) : signed text = n := by
  cases h with
  | unsigned _ hds => exact signed_digits hds
  | plus _ hds => exact congrArg Nat.cast (digits_eq hds)
  | minus _ hds => exact congrArg (fun d : Nat => -(d : Int)) (digits_eq hds)

theorem atoi (h : Denotes text n) : atoi text = toInt (saturate n) := by
  have hskip : text.dropWhile isspace = text :=
    List.dropWhile_eq_self_iff.mpr fun hl => by
      simp [h.isspace_of_mem (List.getElem_mem hl)]
  rw [CString.atoi, strtol, hskip, h.signed]

end Denotes

theorem toInt_saturate {n : Int} (hl : -2 ^ 31 ≤ n) (hu : n < 2 ^ 31) :
    toInt (saturate n) = n := by
  have hs : saturate n = n := by unfold saturate; omega
  rw [hs, toInt, Int.bmod_eq_of_le] <;> omega

end Numbers

end CString
