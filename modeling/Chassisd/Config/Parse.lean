import Chassisd.Config.Search
import Chassisd.Library.Runs
import Chassisd.Library.Scanf
import Chassisd.Tcp.Presence

namespace Chassisd

open TextFile

-- US_CARD_DATA_T; the configuration leaves its mac zero.
structure UsCardData where
  usCardNumber : UInt32
  ipaddress : Vector UInt8 4
  type : CardType
  status : UInt32
  deriving DecidableEq, Repr

structure Config where
  usCardNumber : UInt32
  usCard : Vector UsCardData maximumMicroServerCardNumber
  ipaddress : Vector UInt8 4
  type : CardType
  status : UInt32
  topologyType : Int
  internalTagVlan : Int
  internalUntagVlan : Int
  deriving DecidableEq, Repr

-- The variables a scan assigns keep their values from line to line.
structure Locals where
  usNumber : UInt32
  ipaddr : Vector Int 4
  type : List Char
  deriving DecidableEq, Repr

inductive Damage where
  | usCard (i : Nat)
  | type (length : Nat)
  deriving DecidableEq, Repr

structure Parser where
  config : Config
  locals : Locals
  damage : List Damage
  exited : Bool
  deriving DecidableEq, Repr

def typeSize : Nat := 20

def chassisStrstrip (s : List Char) : List Char :=
  let s := s.dropWhile CString.isspace
  if s.length ≤ 1 then s else s.rdropWhile CString.isspace

def chassisEmpty (s : List Char) : Bool := s.dropWhile CString.isspace = []

inductive ConfigLine where
  | field (name val : List Char)
  | other (s : List Char)
  deriving DecidableEq, Repr

def configLine (line : List Char) : ConfigLine :=
  let s := chassisStrstrip ((line.takeWhile (· ≠ nul)).takeWhile (· ≠ '#'))
  if '=' ∈ s then
    .field (chassisStrstrip (s.takeWhile (· ≠ '='))) (chassisStrstrip (s.dropWhile (· ≠ '=')).tail)
  else .other s

-- "{%d,%d.%d.%d.%d,%s}"
def chassisFormat : List Scanf.Directive :=
  [.lit '{', .int, .lit ',', .int, .lit '.', .int, .lit '.', .int, .lit '.', .int, .lit ',', .word,
    .lit '}']

namespace Locals

def assignOne (l : Locals) : Scanf.Value × Nat → Locals
  | (.int n, 0) => { l with usNumber := UInt32.ofInt n }
  | (.int n, i + 1) => { l with ipaddr := l.ipaddr.setIfInBounds i n }
  | (.word w, _) => { l with type := w }

def assign (values : List Scanf.Value) (l : Locals) : Locals := values.zipIdx.foldl assignOne l

def cardType (type : List Char) : CardType :=
  if ['L', 'C'] <:+: type then .lineCard else .fabricCard

def card (l : Locals) : UsCardData :=
  ⟨l.usNumber, l.ipaddr.map UInt8.ofInt, cardType l.type, 1⟩

end Locals

namespace Config

def storeCard (card : UsCardData) (c : Config) : Config :=
  { c with usCard := c.usCard.setIfInBounds (UdpServer.cardIndex card.usCardNumber) card }

def storeOwn (card : UsCardData) (c : Config) : Config :=
  if c.usCardNumber = card.usCardNumber then
    { c with ipaddress := card.ipaddress, type := card.type, status := card.status }
  else c

end Config

def wordDamage : Scanf.Value → Option Damage
  | .int _ => none
  | .word w => if typeSize ≤ w.length then some (.type w.length) else none

def cardDamage (usNumber : UInt32) : List Damage :=
  let i := UdpServer.cardIndex usNumber
  if i < maximumMicroServerCardNumber then [] else [.usCard i]

namespace Parser

def chassisField (val : List Char) (p : Parser) : Parser :=
  let values := Scanf.sscanf chassisFormat val
  let l := p.locals.assign values
  { p with
    config := (p.config.storeCard l.card).storeOwn l.card
    locals := l
    damage := p.damage ++ (values.filterMap wordDamage ++ cardDamage l.usNumber) }

def topologyField (val : List Char) (p : Parser) : Parser :=
  if val = "static".toList then { p with config := { p.config with topologyType := 0 } }
  else if val = "dynamic".toList then { p with config := { p.config with topologyType := 1 } }
  else p

def field (name val : List Char) (p : Parser) : Parser :=
  if name = "usNumber".toList then p
  else if name = "chassis".toList then p.chassisField val
  else if name = "topology".toList then p.topologyField val
  else if name = "internal_tag_vlan".toList then
    { p with config := { p.config with internalTagVlan := CString.atoi val } }
  else if name = "internal_untag_vlan".toList then
    { p with config := { p.config with internalUntagVlan := CString.atoi val } }
  else p

-- A line that is neither a field nor blank ends the program.
def line (line : List Char) (p : Parser) : Parser :=
  if p.exited then p
  else
    match configLine line with
    | .field name val => p.field name val
    | .other s => if chassisEmpty s then p else { p with exited := true }

end Parser

def zeroConfig (usCardNumber : UInt32) : Config where
  usCardNumber := usCardNumber
  usCard := Vector.replicate _ ⟨0, Vector.replicate _ 0, .fabricCard, 0⟩
  ipaddress := Vector.replicate _ 0
  type := .fabricCard
  status := 0
  topologyType := 0
  internalTagVlan := 0
  internalUntagVlan := 0

-- An `unsigned long` of 64 bits; a sign negates it.
def strtoul (text : List Char) : Nat :=
  let n := CString.signed (text.dropWhile CString.isspace)
  if 2 ^ 64 ≤ n.natAbs then 2 ^ 64 - 1 else (n % 2 ^ 64).toNat

def ownNumber (fopen : String → Option (List Char)) (configUsCardNumber : String) :
    Option UInt32 :=
  match tcpServerDiagFunctionSearchString fopen (some configUsCardNumber) (some slotDelims)
    (some []) maximumBufferLength 1 1 with
  | .returned _ out => some (UInt32.ofNat (strtoul out))
  | _ => none

def startParser (usCardNumber : UInt32) (uninitialized : Locals) : Parser :=
  ⟨zeroConfig usCardNumber, uninitialized, [], false⟩

def parseLines (usCardNumber : UInt32) (uninitialized : Locals) (text : List Char) : Parser :=
  Runs.run Parser.line (startParser usCardNumber uninitialized) (lines newline text)

-- Which file holds the own number depends on the build.
def chassisParseConfigFile (fopen : String → Option (List Char)) (configUsCardNumber : String)
    (uninitialized : Locals) (fn : String) : Option (Int × Parser) :=
  (ownNumber fopen configUsCardNumber).map fun usCardNumber =>
    match fopen fn with
    | none => (-1, startParser usCardNumber uninitialized)
    | some text => (0, parseLines usCardNumber uninitialized text)

section Atomic

variable {p : Parser} {text val : List Char} {card : UsCardData} {c c' : Config} {l : Locals}

def isOctet (n : Int) : Prop := 0 ≤ n ∧ n ≤ 255

instance (n : Int) : Decidable (isOctet n) := inferInstanceAs (Decidable (_ ∧ _))

def wellFormed (val : List Char) : Option UsCardData :=
  match Scanf.sscanf chassisFormat val with
  | [.int n, .int a, .int b, .int c, .int d, .word t] =>
    if (1 ≤ n ∧ n ≤ maximumMicroServerCardNumber) ∧
        (isOctet a ∧ isOctet b ∧ isOctet c ∧ isOctet d) ∧ t.length < typeSize then
      some ⟨UInt32.ofInt n, #v[UInt8.ofInt a, UInt8.ofInt b, UInt8.ofInt c, UInt8.ofInt d],
        Locals.cardType t, 1⟩
    else none
  | _ => none

structure Updated (card : UsCardData) (c c' : Config) : Prop where
  entry : ∀ k ∈ MemberTest.cards, c'.usCard[k - 1]? =
    if k = card.usCardNumber.toNat then some card else c.usCard[k - 1]?
  own : (c'.ipaddress, c'.type, c'.status) =
    if c.usCardNumber = card.usCardNumber then (card.ipaddress, card.type, card.status)
    else (c.ipaddress, c.type, c.status)
  others : (c'.usCardNumber, c'.topologyType, c'.internalTagVlan, c'.internalUntagVlan) =
    (c.usCardNumber, c.topologyType, c.internalTagVlan, c.internalUntagVlan)

def chassisValue (text : List Char) (p : Parser) : Option (List Char) :=
  match configLine text with
  | .field name val => if name = "chassis".toList ∧ p.exited = false then some val else none
  | .other _ => none

def AppliesAtomically (p : Parser) (text : List Char) : Prop :=
  ∀ val ∈ chassisValue text p, (p.line text).damage = p.damage ∧
    match wellFormed val with
    | some card => Updated card p.config (p.line text).config
    | none => (p.line text).config = p.config

structure Harmless (val : List Char) (p : Parser) : Prop where
  word : (Scanf.sscanf chassisFormat val).filterMap wordDamage = []
  number : UdpServer.CardNumber (p.locals.assign (Scanf.sscanf chassisFormat val)).usNumber
  held : p.config.usCard[UdpServer.cardIndex
      (p.locals.assign (Scanf.sscanf chassisFormat val)).usNumber]? =
    some (p.locals.assign (Scanf.sscanf chassisFormat val)).card
  own : p.config.usCardNumber = (p.locals.assign (Scanf.sscanf chassisFormat val)).usNumber →
    (p.config.ipaddress, p.config.type, p.config.status) =
      ((p.locals.assign (Scanf.sscanf chassisFormat val)).card.ipaddress,
        (p.locals.assign (Scanf.sscanf chassisFormat val)).card.type, 1)

def WellFormedOrHarmless (p : Parser) (text : List Char) : Prop :=
  ∀ val ∈ chassisValue text p, wellFormed val = none → Harmless val p

theorem line_chassis (h : chassisValue text p = some val) : p.line text = p.chassisField val := by
  unfold chassisValue at h
  cases hline : configLine text with
  | other s => rw [hline] at h; exact absurd h.symm (Option.some_ne_none val)
  | field name val' =>
    rw [hline] at h
    dsimp only at h
    split_ifs at h with hname
    obtain rfl := Option.some.inj h
    obtain ⟨rfl, hrunning⟩ := hname
    unfold Parser.line
    rw [hrunning, hline]
    rfl

theorem store_usCard : ((c.storeCard card).storeOwn card).usCard =
    c.usCard.setIfInBounds (UdpServer.cardIndex card.usCardNumber) card := by
  unfold Config.storeOwn
  split_ifs <;> rfl

theorem store_own : (((c.storeCard card).storeOwn card).ipaddress,
      ((c.storeCard card).storeOwn card).type, ((c.storeCard card).storeOwn card).status) =
    if c.usCardNumber = card.usCardNumber then (card.ipaddress, card.type, card.status)
    else (c.ipaddress, c.type, c.status) := by
  unfold Config.storeOwn
  by_cases hown : c.usCardNumber = card.usCardNumber
  · have hstored : (c.storeCard card).usCardNumber = card.usCardNumber := hown
    rw [if_pos hstored, if_pos hown]
  · have hstored : ¬ (c.storeCard card).usCardNumber = card.usCardNumber := hown
    rw [if_neg hstored, if_neg hown]
    rfl

theorem store_updated (h : UdpServer.CardNumber card.usCardNumber) :
    Updated card c ((c.storeCard card).storeOwn card) where
  entry k hk := by
    have hk' := MemberTest.mem_cards.mp hk
    have hindex : UdpServer.cardIndex card.usCardNumber = k - 1 ↔
        k = card.usCardNumber.toNat := by
      have hone : (1 : UInt32) ≤ card.usCardNumber := UInt32.le_iff_toNat_le.mpr h.1
      have hsub : UdpServer.cardIndex card.usCardNumber = card.usCardNumber.toNat - 1 :=
        UInt32.toNat_sub_of_le _ _ hone
      have hpos := h.1
      rw [hsub]
      omega
    rw [store_usCard, Vector.getElem?_setIfInBounds]
    simp only [hindex, if_pos ((UdpServer.cardIndex_lt_iff _).mpr h)]
  own := store_own
  others := by
    unfold Config.storeOwn
    split_ifs <;> rfl

theorem store_eq_self_iff (h : UdpServer.CardNumber card.usCardNumber) :
    (c.storeCard card).storeOwn card = c ↔
      c.usCard[UdpServer.cardIndex card.usCardNumber]? = some card ∧
        (c.usCardNumber = card.usCardNumber →
          (c.ipaddress, c.type, c.status) = (card.ipaddress, card.type, card.status)) := by
  have hlt := (UdpServer.cardIndex_lt_iff card.usCardNumber).mpr h
  constructor
  · intro hself
    refine ⟨?_, fun hown => ?_⟩
    · rw [← hself, store_usCard]
      exact Vector.getElem?_setIfInBounds_self_of_lt hlt
    · rw [← hself, store_own, if_pos hown]
  · rintro ⟨hheld, hown⟩
    have hkept : c.storeCard card = c := by
      have hsame : c.usCard.setIfInBounds (UdpServer.cardIndex card.usCardNumber) card =
          c.usCard := by
        refine Vector.ext fun j hj => Option.some.inj ?_
        rw [← Vector.getElem?_eq_getElem hj, ← Vector.getElem?_eq_getElem hj,
          Vector.getElem?_setIfInBounds]
        split_ifs with hij
        · rw [← hij, hheld]
        · rfl
      unfold Config.storeCard
      rw [hsame]
    rw [hkept, Config.storeOwn]
    split_ifs with hnumber
    · obtain ⟨hip, hrest⟩ := Prod.mk.inj (hown hnumber)
      obtain ⟨htype, hstatus⟩ := Prod.mk.inj hrest
      rw [← hip, ← htype, ← hstatus]
    · rfl

theorem cardDamage_eq_nil {usNumber : UInt32} :
    cardDamage usNumber = [] ↔ UdpServer.CardNumber usNumber := by
  rw [← UdpServer.cardIndex_lt_iff]
  unfold cardDamage
  extract_lets i
  split_ifs with hi
  · exact iff_of_true rfl hi
  · exact iff_of_false not_false hi

theorem chassisField_unchanged_iff :
    ((p.chassisField val).damage = p.damage ∧ (p.chassisField val).config = p.config) ↔
      Harmless val p := by
  have hdamage : (p.chassisField val).damage = p.damage ↔
      (Scanf.sscanf chassisFormat val).filterMap wordDamage = [] ∧ UdpServer.CardNumber
        (p.locals.assign (Scanf.sscanf chassisFormat val)).usNumber := by
    rw [← cardDamage_eq_nil, ← List.append_eq_nil_iff]
    exact List.append_right_eq_self
  rw [hdamage]
  constructor
  · rintro ⟨⟨hword, hnumber⟩, hconfig⟩
    obtain ⟨hheld, hown⟩ := (store_eq_self_iff hnumber).mp hconfig
    exact ⟨hword, hnumber, hheld, hown⟩
  · intro h
    exact ⟨⟨h.word, h.number⟩, (store_eq_self_iff h.number).mpr ⟨h.held, h.own⟩⟩

theorem wellFormed_cases (h : wellFormed val = some card) :
    ∃ n a b c d t, Scanf.sscanf chassisFormat val =
        [.int n, .int a, .int b, .int c, .int d, .word t] ∧
      (1 ≤ n ∧ n ≤ 48) ∧ t.length < typeSize ∧
        card = ⟨UInt32.ofInt n, #v[UInt8.ofInt a, UInt8.ofInt b, UInt8.ofInt c, UInt8.ofInt d],
          Locals.cardType t, 1⟩ := by
  unfold wellFormed at h
  split at h
  · next n a b c d t hscan =>
    split_ifs at h with hrange
    exact ⟨n, a, b, c, d, t, hscan, hrange.1, hrange.2.2, (Option.some.inj h).symm⟩
  · exact absurd h.symm (Option.some_ne_none card)

theorem assign_all (n a b c d : Int) (t : List Char) :
    l.assign [.int n, .int a, .int b, .int c, .int d, .word t] =
      ⟨UInt32.ofInt n, #v[a, b, c, d], t⟩ := by
  have haddr : (((l.ipaddr.setIfInBounds 0 a).setIfInBounds 1 b).setIfInBounds 2 c).setIfInBounds
      3 d = #v[a, b, c, d] := by
    refine Vector.ext fun i hi => ?_
    interval_cases i <;> simp
  exact congrArg (fun ipaddr => (⟨UInt32.ofInt n, ipaddr, t⟩ : Locals)) haddr

theorem card_all (n : UInt32) (a b c d : Int) (t : List Char) :
    (⟨n, #v[a, b, c, d], t⟩ : Locals).card =
      ⟨n, #v[UInt8.ofInt a, UInt8.ofInt b, UInt8.ofInt c, UInt8.ofInt d], Locals.cardType t,
        1⟩ := by
  simp [Locals.card]

theorem chassisField_wellFormed (h : wellFormed val = some card) :
    (p.chassisField val).damage = p.damage ∧ Updated card p.config (p.chassisField val).config := by
  obtain ⟨n, a, b, c, d, t, hscan, hn, ht, rfl⟩ := wellFormed_cases h
  have hnumber : UdpServer.CardNumber (UInt32.ofInt n) := by
    have hmod : n % 2 ^ 32 = n := Int.emod_eq_of_lt (by omega) (by omega)
    have hn' : (UInt32.ofInt n).toNat = n.toNat := by
      rw [UInt32.ofInt, hmod]
      exact UInt32.toNat_ofNat_of_lt' (by change n.toNat < 2 ^ 32; omega)
    rw [UdpServer.CardNumber, hn']
    change 1 ≤ n.toNat ∧ n.toNat ≤ 48
    omega
  have hword : [Scanf.Value.int n, .int a, .int b, .int c, .int d, .word t].filterMap wordDamage =
      [] := by
    simp [wordDamage, ht]
  refine ⟨?_, ?_⟩
  · unfold Parser.chassisField
    dsimp only
    rw [hscan, assign_all, hword, cardDamage_eq_nil.mpr hnumber]
    exact List.append_nil _
  · unfold Parser.chassisField
    dsimp only
    rw [hscan, assign_all, card_all]
    refine store_updated ?_
    exact hnumber

theorem appliesAtomically_iff : AppliesAtomically p text ↔ WellFormedOrHarmless p text := by
  refine forall₂_congr fun val hval => ?_
  rw [line_chassis hval]
  cases hscan : wellFormed val with
  | none => exact chassisField_unchanged_iff.trans ⟨fun h _ => h, fun h => h rfl⟩
  | some card =>
    exact iff_of_true (chassisField_wellFormed hscan) fun h => absurd h (Option.some_ne_none card)

theorem config_lines_atomic_iff (usCardNumber : UInt32) (uninitialized : Locals)
    (text : List Char) :
    Runs.Along Parser.line AppliesAtomically (startParser usCardNumber uninitialized)
        (lines newline text) ↔
      Runs.Along Parser.line WellFormedOrHarmless (startParser usCardNumber uninitialized)
        (lines newline text) :=
  Runs.along_iff (I := fun _ => True) (fun _ _ _ _ => trivial)
    (fun _ _ _ => appliesAtomically_iff) trivial

def brokenText : List Char := "chassis=\x7b1,10.0.0.1,LC\x7d\nchassis=\x7b2".toList

def zeroLocals : Locals := ⟨0, Vector.replicate _ 0, []⟩

theorem partial_scan_copies_card :
    ¬ ∀ (usCardNumber : UInt32) (uninitialized : Locals) (text : List Char),
      Runs.Along Parser.line AppliesAtomically (startParser usCardNumber uninitialized)
        (lines newline text) := by
  intro h
  have hlines : lines newline brokenText = ["chassis=\x7b1,10.0.0.1,LC\x7d\n".toList,
      "chassis=\x7b2".toList] := by decide +kernel
  have hall := h 1 zeroLocals brokenText
  rw [hlines] at hall
  obtain ⟨-, hconfig⟩ := hall.2.1 "\x7b2".toList (by decide +kernel)
  have hnone : wellFormed "\x7b2".toList = none := by decide +kernel
  rw [hnone] at hconfig
  exact absurd hconfig (by decide +kernel)

end Atomic

section Table

variable {p : Parser}

def Present (c : Config) : Prop :=
  ∀ (i : Nat) (card : UsCardData), c.usCard[i]? = some card → card.status = 0 ∨ card.status = 1

theorem present_chassisField (h : Present p.config) (val : List Char) :
    Present (p.chassisField val).config := by
  intro i card hcard
  unfold Parser.chassisField at hcard
  dsimp only at hcard
  rw [store_usCard, Vector.getElem?_setIfInBounds] at hcard
  split_ifs at hcard
  · obtain rfl := Option.some.inj hcard
    exact .inr rfl
  · exact h i card hcard

theorem present_field (h : Present p.config) (name val : List Char) :
    Present (p.field name val).config := by
  unfold Parser.field
  split_ifs
  · exact h
  · exact present_chassisField h val
  · unfold Parser.topologyField
    split_ifs <;> exact h
  · exact h
  · exact h
  · exact h

theorem present_line (h : Present p.config) (text : List Char) :
    Present (p.line text).config := by
  unfold Parser.line
  split_ifs
  · exact h
  · cases configLine text with
    | field name val => exact present_field h name val
    | other s =>
      dsimp only
      split_ifs <;> exact h

theorem present_parseLines (usCardNumber : UInt32) (uninitialized : Locals) (text : List Char) :
    Present (parseLines usCardNumber uninitialized text).config := by
  have hstart : Present (startParser usCardNumber uninitialized).config := by
    intro i card hcard
    obtain ⟨hi, rfl⟩ := Vector.getElem?_eq_some_iff.mp hcard
    exact .inl (by simp [startParser, zeroConfig])
  exact Runs.invariant (I := fun p : Parser => Present p.config)
    (fun _ text hp => present_line hp text) hstart _

theorem present_parse {fopen : String → Option (List Char)} {configUsCardNumber fn : String}
    {uninitialized : Locals} {ret : Int}
    (h : chassisParseConfigFile fopen configUsCardNumber uninitialized fn = some (ret, p)) :
    Present p.config := by
  unfold chassisParseConfigFile at h
  obtain ⟨usCardNumber, -, hparse⟩ := Option.map_eq_some_iff.mp h
  cases hopen : fopen fn with
  | none =>
    rw [hopen] at hparse
    rw [← (Prod.mk.inj hparse).2]
    exact present_parseLines usCardNumber uninitialized []
  | some text =>
    rw [hopen] at hparse
    rw [← (Prod.mk.inj hparse).2]
    exact present_parseLines usCardNumber uninitialized text

theorem parsed_table_plain {fopen : String → Option (List Char)} {configUsCardNumber fn : String}
    {uninitialized : Locals} {ret : Int}
    (hparse : chassisParseConfigFile fopen configUsCardNumber uninitialized fn = some (ret, p))
    {c : ChassisData} (h : ∀ i : Nat, c.usCard[i]? =
      p.config.usCard[i]?.map fun card => ⟨card.ipaddress, card.status⟩) : Plain c := by
  intro i card hcard
  rw [h] at hcard
  obtain ⟨entry, hentry, rfl⟩ := Option.map_eq_some_iff.mp hcard
  rcases present_parse hparse i entry hentry with hzero | hone
  · change entry.status &&& chassisIsExist = entry.status
    rw [hzero]
    decide
  · change entry.status &&& chassisIsExist = entry.status
    rw [hone]
    decide

end Table

end Chassisd
