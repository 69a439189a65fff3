import Chassisd.Config.Search
import Chassisd.Spi.Answers
import Chassisd.Spi.Commands

namespace Chassisd

open CommandLine

section Source

-- "%x" of an int
def hexInt (n : Int) : List Char := hexText (n % 2 ^ 32).toNat

def setRegister (offset page length value : List Char) : List Char :=
  "bcm5396 -w ".toList ++ offset ++ " -p ".toList ++ page ++ " -l ".toList ++ length ++
    " -v ".toList ++ value

def vlanGroupLine (tag untag : Int) : List Char :=
  [setRegister "0x61".toList "0x5".toList "2".toList ("0x00".toList ++ hexInt tag),
    setRegister "0x63".toList "0x5".toList "8".toList "00000000007f7fc1".toList,
    setRegister "0x60".toList "0x5".toList "1".toList "0x80".toList,
    setRegister "0x61".toList "0x5".toList "2".toList ("0x00".toList ++ hexInt untag),
    setRegister "0x63".toList "0x5".toList "8".toList "000000ffffffffc1".toList,
    setRegister "0x60".toList "0x5".toList "1".toList "0x80".toList].flatMap (· ++ [';'])

def pvidTexts : List (List Char) :=
  ["0x10", "0x12", "0x14", "0x16", "0x18", "0x1a", "0x1c", "0x1e",
    "0x20", "0x22", "0x24", "0x26", "0x28", "0x2a", "0x2c", "0x2e"].map String.toList

def pvidLine (untag : Int) (registers : List (List Char)) : List Char :=
  (registers.map fun register =>
    setRegister register "0x34".toList "2".toList ("0x00".toList ++ hexInt untag)).flatMap
      (· ++ [';'])

def vlanLines (tag untag : Int) : List (List Char) :=
  [vlanGroupLine tag untag, pvidLine untag (pvidTexts.take 8), pvidLine untag (pvidTexts.drop 8),
    "bcm5396 -w 0x0 -p 0x34 -v 0xe2;".toList]

variable (board : Board) (ioperm : Int32) (outside : Int → UInt8)

def chassisInitialVlan (usNumber : Nat) (tag untag : Int) (trace : List PortEvent) :
    List PortEvent :=
  if 33 ≤ usNumber ∧ usNumber ≤ 48 ∧ usNumber % 2 = 1 then
    (vlanLines tag untag).foldl (fun trace line => system board ioperm outside line trace) trace
  else trace

def chassisParseBcm5396Value (valueString : List Char) : Int :=
  match valueString.dropWhile (· ≠ 'x') with
  | [] => -1
  | _ :: val => CString.toInt (strtol16 val)

def diagDefaultInformatinFile : String := "/tmp/.accton_diag_test_message.txt"

-- What the rest of the host answers, call by call: rm, and ifconfig of the VLAN's interface.
structure Host where
  rm : Nat → Int32
  ifconfig : Nat → Int → Option (List Char)

def searchWord (contents : List Char) (stringNumber : Int) : Lookup :=
  tcpServerDiagFunctionSearchString (fun _ => some contents) (some diagDefaultInformatinFile)
    (some [' ']) (some []) maximumBufferLength 1 stringNumber

-- grep Data | awk '{print $3 $4 " " $5 ...}', up to the last column
def dataColumns (last : Nat) (stdout : List Char) : List Char :=
  (grep "Data".toList stdout).flatMap fun line =>
    column line 3 ++ column line 4 ++
      ((List.range' 5 (last - 4)).flatMap fun n => ' ' :: column line n) ++ ['\n']

def readData (command : List Char) (last : Nat) (trace : List PortEvent) :
    List Char × List PortEvent :=
  let (stdout, trace) := spiProcess board ioperm outside (words command) trace
  (dataColumns last stdout, trace)

-- "%d.%d.%d.%d"
def dotted (address : Vector UInt8 4) : List Char :=
  ['.'].intercalate (address.toList.map fun octet => Nat.toDigits 10 octet.toNat)

-- A null token is undefined.
def validateVlanIp (host : Host) (tag : Int) (address : Vector UInt8 4) : Option Int :=
  if host.rm 0 ≠ 0 then some (-99)
  else if host.ifconfig 0 tag = none then some (-5)
  else
    let stdout := (host.ifconfig 1 tag).getD []
    match searchWord ((grep "inet addr:".toList stdout).flatMap (· ++ ['\n'])) 2 with
    | .returned 0 buf => if dotted address <:+: buf then some 0 else some (-3)
    | .returned _ _ => some (-3)
    | _ => none

-- for(i=0;i<8;i++)
def scanGroup (contents : List Char) : Nat → Option Int
  | 0 => some 0
  | left + 1 =>
    match searchWord contents (8 - left) with
    | .returned 0 _ => scanGroup contents left
    | .returned _ _ => some (-2)
    | _ => none

def groupLine (vlan : Int) : List Char :=
  ["        ".toList ++ setRegister "0x61".toList "0x5".toList "2".toList
      ("0x00".toList ++ hexInt vlan),
    "        ".toList ++ setRegister "0x60".toList "0x5".toList "1".toList
      "0x81".toList].flatMap (· ++ [';'])

def readGroup (vlan : Int) (trace : List PortEvent) : Option Int × List PortEvent :=
  let trace := system board ioperm outside (groupLine vlan) trace
  let (contents, trace) :=
    readData board ioperm outside "        bcm5396 -r 0x63 -p 0x5 -l 8 ".toList 11 trace
  (scanGroup contents 8, trace)

def chassisValidateVlanGroup (host : Host) (tag untag : Int) (trace : List PortEvent) :
    Option Int × List PortEvent :=
  if host.rm 1 ≠ 0 then (some (-99), trace)
  else
    let (code, trace) := readGroup board ioperm outside tag trace
    if code ≠ some 0 then (code, trace) else readGroup board ioperm outside untag trace

def pvidRegisters : List Nat := (List.range 16).map (0x10 + 2 * ·)

def pvidCommand (register : Nat) : List Char :=
  "bcm5396 -r 0x".toList ++ hexText register ++ " -p 0x34 -l 2 ".toList

-- for (i = 0x10,j=0;i<0x30;i=i+2,j=j+1), with the number of the next call of rm
def validatePvids (host : Host) (untag : Int) :
    Nat → List Nat → List PortEvent → Option Int × List PortEvent
  | _, [], trace => (some 0, trace)
  | call, register :: registers, trace =>
    if host.rm call ≠ 0 then (some (-99), trace)
    else
      let (contents, trace) := readData board ioperm outside (pvidCommand register) 5 trace
      match searchWord contents 1 with
      | .returned 0 high =>
        match searchWord contents 2 with
        | .returned 0 low =>
          if chassisParseBcm5396Value high * 256 + chassisParseBcm5396Value low ≠ untag then
            (some (-3), trace)
          else validatePvids host untag (call + 1) registers trace
        | .returned _ _ => (some (-3), trace)
        | _ => (none, trace)
      | .returned _ _ => (some (-3), trace)
      | _ => (none, trace)

-- bcm_value & 0x80
def validateVlanStatus (trace : List PortEvent) : Option Int × List PortEvent :=
  let (contents, trace) := readData board ioperm outside "bcm5396 -r 0x0 -p 0x34  ".toList 5 trace
  match searchWord contents 1 with
  | .returned 0 buf =>
    if (chassisParseBcm5396Value buf).testBit 7 then (some 0, trace) else (some (-5), trace)
  | .returned _ _ => (some (-4), trace)
  | _ => (none, trace)

def chassisValidateVlanConifg (host : Host) (usNumber : Nat) (tag untag : Int)
    (address : Vector UInt8 4) (trace : List PortEvent) : Option Int × List PortEvent :=
  let code := validateVlanIp host tag address
  if code ≠ some 0 then (code, trace)
  else if (usNumber < 33 ∧ 0 < usNumber) ∨ usNumber % 2 = 0 then (some 0, trace)
  else
    let (code, trace) := chassisValidateVlanGroup board ioperm outside host tag untag trace
    if code ≠ some 0 then (code.map fun _ => -2, trace)
    else
      let (code, trace) := validatePvids board ioperm outside host untag 2 pvidRegisters trace
      if code ≠ some 0 then (code, trace) else validateVlanStatus board ioperm outside trace

end Source

section Printed

open TextFile

def printable (c : Char) : Bool := 33 ≤ c.toNat

def byteWord (b : UInt8) : List Char := '0' :: 'x' :: hexText b.toNat

theorem ne_of_printable {c d : Char} (hc : printable c = true) (hd : printable d = false) :
    c ≠ d := by
  rintro rfl
  rw [hc] at hd
  cases hd

theorem isBlank_printable {c : Char} (h : printable c = true) : isBlank c = false := by
  rw [isBlank, Bool.or_eq_false_iff]
  exact ⟨beq_false_of_ne (ne_of_printable h (by decide)),
    beq_false_of_ne (ne_of_printable h (by decide))⟩

theorem printable_of_hexValue {c : Char} (h : (hexValue c).isSome) : printable c = true := by
  have hrange : ∀ d : Char, 33 ≤ d.toNat → d ≤ c → 33 ≤ c.toNat := fun d hd hle =>
    hd.trans (UInt32.le_iff_toNat_le.mp hle)
  refine decide_eq_true ?_
  unfold hexValue at h
  split_ifs at h with h₁ h₂ h₃
  · exact hrange '0' (by decide) h₁.1
  · exact hrange 'a' (by decide) h₂.1
  · exact hrange 'A' (by decide) h₃.1
  · cases h

theorem printable_hexText (n : Nat) : ∀ c ∈ hexText n, printable c = true := fun c hc =>
  printable_of_hexValue (hexText_clean n c hc)

theorem printable_byteWord (b : UInt8) : ∀ c ∈ byteWord b, printable c = true := by
  intro c hc
  rcases List.mem_cons.mp hc with rfl | hc
  · rfl
  · rcases List.mem_cons.mp hc with rfl | hc
    · rfl
    · exact printable_hexText _ c hc

theorem printable_hexByte (b : UInt8) : ∀ c ∈ hexByte b, printable c = true := by
  intro c hc
  unfold hexByte at hc
  dsimp only at hc
  split_ifs at hc
  · simp only [List.mem_cons] at hc
    rcases hc with rfl | rfl | rfl | hc
    · rfl
    · rfl
    · rfl
    · exact printable_hexText _ c hc
  · exact printable_byteWord b c hc

theorem length_byteWord (b : UInt8) : (byteWord b).length ≤ 4 := by
  have hb := b.toNat_lt
  have hdigits : (hexText b.toNat).length ≤ 2 := by
    rw [hexText_eq]
    split_ifs
    · simp
    · rw [hexText_eq, if_pos (by omega)]
      simp
  rw [byteWord, List.length_cons, List.length_cons]
  omega

theorem parse_byteWord (b : UInt8) :
    chassisParseBcm5396Value ("Data=".toList ++ byteWord b) = b.toNat ∧
      chassisParseBcm5396Value (byteWord b ++ ['\n']) = b.toNat :=
  forall_byte b (by decide)

theorem printData_succ (value : Nat → UInt8) (n : Nat) : printData value (n + 1) =
    ' ' :: (byteWord (value n) ++ ' ' :: printData value n) := by
  simp [printData, byteWord]

def valueWords (value : Nat → UInt8) (n : Nat) : List (List Char) :=
  (List.range n).reverse.map fun k => byteWord (value k)

theorem tokens_printData (value : Nat → UInt8) (n : Nat) :
    tokens isBlank (printData value n) = valueWords value n := by
  induction n with
  | zero => rfl
  | succ n ih =>
    have hword : tokens isBlank (byteWord (value n)) = [byteWord (value n)] :=
      tokens_word (List.cons_ne_nil _ _) fun c hc =>
        isBlank_printable (printable_byteWord (value n) c hc)
    rw [printData_succ, tokens_cons rfl, tokens_append rfl, hword, ih, valueWords, valueWords,
      List.range_succ, List.reverse_append]
    rfl

theorem newline_printData (value : Nat → UInt8) (n : Nat) : '\n' ∉ printData value n := by
  induction n with
  | zero => exact List.not_mem_nil
  | succ n ih =>
    have hword : '\n' ∉ byteWord (value n) := fun h =>
      ne_of_printable (printable_byteWord (value n) _ h) (by decide) rfl
    rw [printData_succ]
    simp [hword, ih]

def readLine (d : DiagArgument) (value : Nat → UInt8) : List Char :=
  unwords ["\rpage_num=".toList ++ hexByte d.pageNum ++ [','],
    "reg_num=".toList ++ hexByte d.regNum] ++
      ("Data=".toList ++ printData value d.size.toUInt8.toNat)

theorem printRead_eq (d : DiagArgument) (value : Nat → UInt8) :
    printRead d value = '\n' :: (readLine d value ++ '\n' :: ['\r']) := by
  have hpage : "\n\rpage_num=".toList = '\n' :: "\rpage_num=".toList := rfl
  have hreg : ", reg_num=".toList = ',' :: ' ' :: "reg_num=".toList := rfl
  have hdata : " Data=".toList = ' ' :: "Data=".toList := rfl
  have hend : "\n\r".toList = ['\n', '\r'] := rfl
  unfold printRead readLine unwords
  rw [hpage, hreg, hdata, hend]
  simp only [List.flatMap_cons, List.flatMap_nil, List.append_assoc, List.cons_append,
    List.nil_append]

theorem tokens_readLine (d : DiagArgument) (value : Nat → UInt8) :
    tokens isBlank (readLine d value) =
      ["\rpage_num=".toList ++ hexByte d.pageNum ++ [','], "reg_num=".toList ++ hexByte d.regNum,
        "Data=".toList] ++ valueWords value d.size.toUInt8.toNat := by
  have hbyte : ∀ b, ∀ c ∈ hexByte b, isBlank c = false := fun b c hc =>
    isBlank_printable (printable_hexByte b c hc)
  have hdata : tokens isBlank ("Data=".toList ++ printData value d.size.toUInt8.toNat) =
      "Data=".toList :: tokens isBlank (printData value d.size.toUInt8.toNat) := by
    generalize d.size.toUInt8.toNat = size
    cases size with
    | zero => rfl
    | succ n =>
      rw [printData_succ, tokens_append rfl, tokens_cons rfl]
      rfl
  rw [readLine, tokens_unwords rfl, hdata, tokens_printData]
  · rfl
  · simp
  · have hpage : ∀ c ∈ "\rpage_num=".toList, isBlank c = false := by simp [isBlank]
    have hreg : ∀ c ∈ "reg_num=".toList, isBlank c = false := by simp [isBlank]
    have hcomma : isBlank ',' = false := by decide
    intro w hw c hc
    simp only [List.mem_cons, List.not_mem_nil, or_false] at hw
    rcases hw with rfl | rfl
    · rcases List.mem_append.mp hc with hc | hc
      · exact (List.mem_append.mp hc).elim (hpage c) (hbyte _ c)
      · exact List.mem_singleton.mp hc ▸ hcomma
    · exact (List.mem_append.mp hc).elim (hreg c) (hbyte _ c)

theorem newline_readLine (d : DiagArgument) (value : Nat → UInt8) : '\n' ∉ readLine d value := by
  have hbyte : ∀ b, '\n' ∉ hexByte b := fun b h =>
    ne_of_printable (printable_hexByte b _ h) (by decide) rfl
  have hdata := newline_printData value d.size.toUInt8.toNat
  simp [readLine, unwords, hbyte, hdata]

theorem grep_printRead (d : DiagArgument) (value : Nat → UInt8) :
    grep "Data".toList (printRead d value) = [readLine d value] := by
  have hdata : "Data".toList <:+: readLine d value := by
    refine ⟨unwords ["\rpage_num=".toList ++ hexByte d.pageNum ++ [','],
      "reg_num=".toList ++ hexByte d.regNum], '=' :: printData value d.size.toUInt8.toNat, ?_⟩
    rw [readLine, List.append_assoc]
    rfl
  have hfirst := grep_append "Data".toList [] (readLine d value ++ '\n' :: ['\r'])
  have hsecond := grep_append "Data".toList (readLine d value) ['\r']
  have hblank : grep "Data".toList [] = [] ∧ grep "Data".toList ['\r'] = [] := by decide
  rw [grep_single _ (newline_readLine d value), if_pos hdata, hblank.2] at hsecond
  rw [printRead_eq]
  exact hfirst.trans (by rw [hblank.1, hsecond]; rfl)

theorem dataColumns_printRead (d : DiagArgument) (value : Nat → UInt8) (last : Nat) :
    dataColumns last (printRead d value) =
      "Data=".toList ++ (valueWords value d.size.toUInt8.toNat).getD 0 [] ++
        ((List.range' 5 (last - 4)).flatMap fun n =>
          ' ' :: (valueWords value d.size.toUInt8.toNat).getD (n - 4) []) ++ ['\n'] := by
  have hcolumn : ∀ n, column (readLine d value) (n + 4) =
      (valueWords value d.size.toUInt8.toNat).getD n [] := fun n => by
    rw [column, tokens_readLine]
    rfl
  have hthird : column (readLine d value) 3 = "Data=".toList := by
    rw [column, tokens_readLine]
    rfl
  have hrest : ((List.range' 5 (last - 4)).flatMap fun n => ' ' :: column (readLine d value) n) =
      (List.range' 5 (last - 4)).flatMap fun n =>
        ' ' :: (valueWords value d.size.toUInt8.toNat).getD (n - 4) [] := by
    refine List.flatMap_congr fun n hn => ?_
    obtain ⟨m, rfl⟩ : ∃ m, n = m + 4 := ⟨n - 4, by simp at hn; omega⟩
    rw [hcolumn, Nat.add_sub_cancel]
  rw [dataColumns, grep_printRead, List.flatMap_singleton, hthird, hrest]
  exact congrArg (fun first => _ ++ first ++ _ ++ _) (hcolumn 0)

theorem lines_single {w : List Char} (h : newline ∉ w) :
    lines newline (w ++ [newline]) = [w ++ [newline]] := by
  induction w with
  | nil => rfl
  | cons c w ih =>
    have hc : c ≠ newline := fun heq => h (heq ▸ List.mem_cons_self)
    rw [List.cons_append, lines, if_neg hc, ih fun hw => h (List.mem_cons_of_mem c hw)]
    rfl

theorem searchWord_single {w tok : List Char} (hline : newline ∉ w) (hnul : nul ∉ w)
    (hshort : w.length < 510) {n : Nat}
    (htok : (tokens (isDelim [' ']) (w ++ [newline]))[n]? = some tok) (hlength : tok.length < 511) :
    searchWord (w ++ [newline]) (n + 1) = .returned 0 tok := by
  have hnul' : nul ∉ w ++ [newline] := by
    rw [List.mem_append, List.mem_singleton]
    exact not_or.mpr ⟨hnul, by decide⟩
  have hpiece : pieceAt (w ++ [newline]) 1 = some (w ++ [newline]) := by
    have hpieces : pieces (maximumStringLength - 2) (w ++ [newline]) = [w ++ [newline]] :=
      piecesFrom_short (by simp) (by simpa [maximumStringLength] using hshort)
    rw [pieceAt, filePieces, lines_single hline, List.flatMap_singleton, hpieces]
    rfl
  have hindex : ((n : Int) + 1).toNat - 1 = n := by omega
  have htake : tok.take maximumStringLength = tok :=
    List.take_of_length_le (by simpa [maximumStringLength] using hlength.le)
  rw [searchWord, search_eq_outcome rfl hnul' (by decide) (by decide) (by omega), hpiece, outcome,
    if_neg, token, hindex, htok]
  · exact congrArg (Lookup.returned 0) htake
  · rintro ⟨hnone, -⟩
    rw [hnone] at htok
    cases htok

theorem searchWord_unwords {ws : List (List Char)} {last : List Char}
    (hws : ∀ w ∈ ws, w ≠ [] ∧ ∀ c ∈ w, printable c = true) (hlast : ∀ c ∈ last, printable c = true)
    (hshort : (unwords ws ++ last).length < 510) {n : Nat} {tok : List Char}
    (htok : (ws ++ [last ++ [newline]])[n]? = some tok) (hlength : tok.length < 511) :
    searchWord (unwords ws ++ last ++ [newline]) (n + 1) = .returned 0 tok := by
  have hblank : ∀ c, printable c = true → isDelim [' '] c = false := fun c hc =>
    decide_eq_false fun hmem =>
      ne_of_printable hc (by decide : printable ' ' = false) (List.mem_singleton.mp hmem)
  have hclean : ∀ d, printable d = false → d ≠ ' ' → d ∉ unwords ws ++ last := by
    intro d hd hspace hmem
    rcases List.mem_append.mp hmem with hmem | hmem
    · obtain ⟨w, hw, hc⟩ := List.mem_flatMap.mp hmem
      rcases List.mem_append.mp hc with hc | hc
      · exact ne_of_printable ((hws w hw).2 d hc) hd rfl
      · exact hspace (List.mem_singleton.mp hc)
    · exact ne_of_printable (hlast d hmem) hd rfl
  refine searchWord_single (hclean newline (by decide) (by decide))
    (hclean nul (by decide) (by decide)) hshort ?_ hlength
  rw [List.append_assoc, tokens_unwords rfl (fun w hw => (hws w hw).1)
    fun w hw c hc => hblank c ((hws w hw).2 c hc), tokens_word (by simp), htok]
  intro c hc
  rcases List.mem_append.mp hc with hc | hc
  · exact hblank c (hlast c hc)
  · rw [List.mem_singleton.mp hc]
    decide

def dataWord (b : UInt8) : List Char := "Data=".toList ++ byteWord b

theorem dataWord_spec (b : UInt8) : dataWord b ≠ [] ∧ (∀ c ∈ dataWord b, printable c = true) ∧
    (dataWord b).length ≤ 9 := by
  have hdata : ∀ c ∈ "Data=".toList, printable c = true := by simp [printable]
  have hlength := length_byteWord b
  refine ⟨by simp [dataWord], fun c hc => ?_, ?_⟩
  · exact (List.mem_append.mp hc).elim (hdata c) (printable_byteWord b c)
  · rw [dataWord, List.length_append]
    exact Nat.add_le_add_left hlength 5

variable {d : DiagArgument} (value : Nat → UInt8)

theorem search_two (hsize : d.size.toUInt8.toNat = 2) :
    searchWord (dataColumns 5 (printRead d value)) 1 = .returned 0 (dataWord (value 1)) ∧
      searchWord (dataColumns 5 (printRead d value)) 2 =
        .returned 0 (byteWord (value 0) ++ ['\n']) := by
  have hcolumns : dataColumns 5 (printRead d value) =
      unwords [dataWord (value 1)] ++ byteWord (value 0) ++ [newline] := by
    have hwords : valueWords value 2 = [byteWord (value 1), byteWord (value 0)] := rfl
    rw [dataColumns_printRead, hsize, hwords]
    simp [unwords, dataWord]
  obtain ⟨hne, hprint, hlength⟩ := dataWord_spec (value 1)
  have hlow := length_byteWord (value 0)
  have hws : ∀ w ∈ [dataWord (value 1)], w ≠ [] ∧ ∀ c ∈ w, printable c = true := by
    simpa using ⟨hne, hprint⟩
  have hshort : (unwords [dataWord (value 1)] ++ byteWord (value 0)).length < 510 := by
    simp [unwords]
    omega
  rw [hcolumns]
  exact ⟨@searchWord_unwords _ _ hws (printable_byteWord _) hshort 0 _ rfl (by omega),
    @searchWord_unwords _ _ hws (printable_byteWord _) hshort 1 _ rfl (by simp; omega)⟩

theorem search_one (hsize : d.size.toUInt8.toNat = 1) :
    searchWord (dataColumns 5 (printRead d value)) 1 = .returned 0 (dataWord (value 0)) := by
  have hcolumns : dataColumns 5 (printRead d value) =
      unwords [dataWord (value 0)] ++ [] ++ [newline] := by
    have hwords : valueWords value 1 = [byteWord (value 0)] := rfl
    rw [dataColumns_printRead, hsize, hwords]
    simp [unwords, dataWord]
  obtain ⟨hne, hprint, hlength⟩ := dataWord_spec (value 0)
  have hws : ∀ w ∈ [dataWord (value 0)], w ≠ [] ∧ ∀ c ∈ w, printable c = true := by
    simpa using ⟨hne, hprint⟩
  rw [hcolumns]
  refine @searchWord_unwords _ _ hws (by simp) ?_ 0 _ rfl (by omega)
  simp [unwords]
  omega

theorem scan_eight (hsize : d.size.toUInt8.toNat = 8) :
    scanGroup (dataColumns 11 (printRead d value)) 8 = some 0 := by
  have hcolumns : dataColumns 11 (printRead d value) =
      unwords (dataWord (value 7) :: [6, 5, 4, 3, 2, 1].map fun k => byteWord (value k)) ++
        byteWord (value 0) ++ [newline] := by
    have hwords : valueWords value 8 =
        [7, 6, 5, 4, 3, 2, 1, 0].map fun k => byteWord (value k) := rfl
    rw [dataColumns_printRead, hsize, hwords]
    simp [unwords, dataWord, List.range']
  obtain ⟨hne, hprint, hlength⟩ := dataWord_spec (value 7)
  have hlow : ∀ k, (byteWord (value k)).length ≤ 4 := fun k => length_byteWord (value k)
  generalize hws : (dataWord (value 7) :: [6, 5, 4, 3, 2, 1].map fun k => byteWord (value k)) = ws
    at hcolumns
  have hspec : ∀ w ∈ ws, w ≠ [] ∧ (∀ c ∈ w, printable c = true) ∧ w.length ≤ 9 := by
    rw [← hws]
    intro w hw
    rcases List.mem_cons.mp hw with rfl | hw
    · exact ⟨hne, hprint, hlength⟩
    · obtain ⟨k, -, rfl⟩ := List.mem_map.mp hw
      exact ⟨List.cons_ne_nil _ _, printable_byteWord _, (hlow k).trans (by decide)⟩
  have hcount : ws.length = 7 := by rw [← hws]; rfl
  have hshort : (unwords ws ++ byteWord (value 0)).length < 510 := by
    have hall : (unwords ws).length ≤ ws.length * 10 := by
      rw [unwords, List.length_flatMap]
      refine (List.sum_le_card_nsmul _ 10 fun n hn => ?_).trans (by simp)
      obtain ⟨w, hw, rfl⟩ := List.mem_map.mp hn
      have := (hspec w hw).2.2
      simp
      omega
    have := hlow 0
    rw [List.length_append]
    omega
  have hfound : ∀ n < 8, ∃ tok,
      searchWord (dataColumns 11 (printRead d value)) (n + 1 : Nat) = .returned 0 tok := by
    intro n hn
    obtain ⟨tok, htok⟩ : ∃ tok, (ws ++ [byteWord (value 0) ++ [newline]])[n]? = some tok :=
      ⟨_, List.getElem?_eq_getElem (by simp; omega)⟩
    refine ⟨tok, ?_⟩
    rw [hcolumns, Nat.cast_succ]
    refine searchWord_unwords (fun w hw => ⟨(hspec w hw).1, (hspec w hw).2.1⟩)
      (printable_byteWord _) hshort htok ?_
    rcases List.mem_append.mp (List.mem_of_getElem? htok) with hmem | hmem
    · have := (hspec tok hmem).2.2
      omega
    · have := hlow 0
      rw [List.mem_singleton.mp hmem]
      simp
      omega
  have hscan : ∀ left ≤ 8, scanGroup (dataColumns 11 (printRead d value)) left = some 0 := by
    intro left
    induction left with
    | zero => exact fun _ => rfl
    | succ left ih =>
      intro hle
      obtain ⟨tok, htok⟩ := hfound (7 - left) (by omega)
      rw [scanGroup, show (8 : Int) - left = ((7 - left + 1 : Nat) : Int) by omega, htok]
      exact ih (by omega)
  exact hscan 8 le_rfl

end Printed

section Configured

variable (outside : Int → UInt8)

def PlainWord (w : List Char) : Prop := w ≠ [] ∧ ' ' ∉ w ∧ ';' ∉ w

instance (w : List Char) : Decidable (PlainWord w) := inferInstanceAs (Decidable (_ ∧ _ ∧ _))

theorem plainWord_value (n : Int) : PlainWord ("0x00".toList ++ hexInt n) := by
  have hspace : ' ' ∉ hexInt n := not_mem_hexText (by decide) _
  have hsemicolon : ';' ∉ hexInt n := not_mem_hexText (by decide) _
  exact ⟨by simp, by simp [hspace], by simp [hsemicolon]⟩

theorem lineWrites_flatMap {cs : List (List Char)} (h : ∀ c ∈ cs, ';' ∉ c) :
    lineWrites outside (cs.flatMap (· ++ [';'])) = cs.flatMap (commandWrites outside) := by
  rw [lineWrites, commands_flatMap h, List.flatMap_append]
  exact List.append_nil _

theorem commandWrites_blanks (n : Nat) (command : List Char) :
    commandWrites outside (List.replicate n ' ' ++ command) = commandWrites outside command := by
  induction n with
  | zero => rfl
  | succ n ih =>
    rw [← ih, commandWrites, commandWrites, List.replicate_succ, List.cons_append, words_blank]

variable {offset page length value : List Char}

theorem semicolon_setRegister (ho : PlainWord offset) (hp : PlainWord page)
    (hl : PlainWord length) (hv : PlainWord value) :
    ';' ∉ setRegister offset page length value := by
  unfold setRegister
  simp [ho.2.2, hp.2.2, hl.2.2, hv.2.2]

theorem words_setRegister (ho : PlainWord offset) (hp : PlainWord page) (hl : PlainWord length)
    (hv : PlainWord value) : words (setRegister offset page length value) =
      ["bcm5396".toList, "-w".toList, offset, "-p".toList, page, "-l".toList, length, "-v".toList,
        value] := by
  have hline : setRegister offset page length value =
      unwords ["bcm5396".toList, "-w".toList, offset, "-p".toList, page, "-l".toList, length,
        "-v".toList] ++ value := by
    unfold setRegister
    simp [unwords]
  rw [hline, words_unwords, words_single hv.1 hv.2.1]
  · rfl
  · simp [ho.1, hp.1, hl.1]
  · simp [ho.2.1, hp.2.1, hl.2.1]

theorem getopt_setRegister (offset page length value : List Char) :
    getopt diagLetters ["-w".toList, offset, "-p".toList, page, "-l".toList, length, "-v".toList,
      value] = some [('w', offset), ('p', page), ('l', length), ('v', value)] :=
  (getopt_option (by decide) (by decide) offset _).trans
    (congrArg _ ((getopt_option (by decide) (by decide) page _).trans
      (congrArg _ ((getopt_option (by decide) (by decide) length _).trans
        (congrArg _ (getopt_option (by decide) (by decide) value []))))))

theorem commandWrites_setRegister (ho : PlainWord offset) (hp : PlainWord page)
    (hl : PlainWord length) (hv : PlainWord value)
    (hlength : 0 ≤ (UInt8.ofNat (strtoul16 length)).toInt8) :
    ∃ data, commandWrites outside (setRegister offset page length value) =
        [⟨UInt8.ofNat (strtoul16 page), UInt8.ofNat (strtoul16 offset), data⟩] ∧
      (Fits value (sizeOf length) → data = leBytes (valueOf value) (sizeOf length)) := by
  have hopt : optionsOf (setRegister offset page length value) =
      some [('w', offset), ('p', page), ('l', length), ('v', value)] := by
    rw [optionsOf, words_setRegister ho hp hl hv]
    dsimp only
    rw [if_pos ⟨by decide, by simp⟩]
    exact getopt_setRegister offset page length value
  rw [commandWrites_eq, hopt]
  refine ⟨_, if_pos ⟨hlength, rfl⟩, fun hfits => ?_⟩
  exact map_argument value outside _ hfits

theorem group_page {cs : List (List Char)} (h : ∀ c ∈ cs, ∃ n offset length value,
    c = List.replicate n ' ' ++ setRegister offset "0x5".toList length value ∧
      PlainWord offset ∧ PlainWord length ∧ PlainWord value ∧ strtoul16 offset < 0xFF ∧
      0 ≤ (UInt8.ofNat (strtoul16 length)).toInt8) :
    ∀ w ∈ lineWrites outside (cs.flatMap (· ++ [';'])), w.page = 5 ∧ w.offset ≠ 0xFF := by
  have hpage : PlainWord "0x5".toList := by decide
  have hsemicolon : ∀ c ∈ cs, ';' ∉ c := by
    intro c hc
    obtain ⟨n, offset, length, value, rfl, ho, hl, hv, -⟩ := h c hc
    have hcommand := semicolon_setRegister ho hpage hl hv
    rw [List.mem_append, not_or]
    exact ⟨fun hmem => absurd (List.eq_of_mem_replicate hmem) (by decide), hcommand⟩
  rw [lineWrites_flatMap outside hsemicolon]
  intro w hw
  obtain ⟨c, hc, hw⟩ := List.mem_flatMap.mp hw
  obtain ⟨n, offset, length, value, rfl, ho, hl, hv, hlt, hlength⟩ := h c hc
  obtain ⟨data, hwrites, -⟩ := commandWrites_setRegister outside ho hpage hl hv hlength
  rw [commandWrites_blanks, hwrites, List.mem_singleton] at hw
  rw [hw]
  have hfive : strtoul16 "0x5".toList = 5 := by decide
  refine ⟨congrArg UInt8.ofNat hfive, fun heq => ?_⟩
  have hoffset := congrArg UInt8.toNat heq
  rw [UInt8.toNat_ofNat_of_lt' (show strtoul16 offset < 256 by omega)] at hoffset
  exact hlt.ne hoffset

theorem writes_vlanGroupLine (tag untag : Int) :
    ∀ w ∈ lineWrites outside (vlanGroupLine tag untag), w.page = 5 ∧ w.offset ≠ 0xFF := by
  refine group_page outside fun c hc => ?_
  simp only [List.mem_cons, List.not_mem_nil, or_false] at hc
  rcases hc with rfl | rfl | rfl | rfl | rfl | rfl
  · exact ⟨0, _, _, _, rfl, by decide, by decide, plainWord_value tag, by decide⟩
  · exact ⟨0, _, _, _, rfl, by decide, by decide, by decide, by decide⟩
  · exact ⟨0, _, _, _, rfl, by decide, by decide, by decide, by decide⟩
  · exact ⟨0, _, _, _, rfl, by decide, by decide, plainWord_value untag, by decide⟩
  · exact ⟨0, _, _, _, rfl, by decide, by decide, by decide, by decide⟩
  · exact ⟨0, _, _, _, rfl, by decide, by decide, by decide, by decide⟩

theorem writes_groupLine (vlan : Int) :
    ∀ w ∈ lineWrites outside (groupLine vlan), w.page = 5 ∧ w.offset ≠ 0xFF := by
  refine group_page outside fun c hc => ?_
  simp only [List.mem_cons, List.not_mem_nil, or_false] at hc
  rcases hc with rfl | rfl
  · exact ⟨8, _, _, _, rfl, by decide, by decide, plainWord_value vlan, by decide⟩
  · exact ⟨8, _, _, _, rfl, by decide, by decide, by decide, by decide⟩

def wordOf (n : Int) : Nat := (n % 2 ^ 32).toNat

theorem writes_pvidLine (untag : Int) {registers : List (List Char)}
    (h : ∀ register ∈ registers, register ∈ pvidTexts) :
    lineWrites outside (pvidLine untag registers) = registers.map fun register =>
      ⟨0x34, UInt8.ofNat (strtoul16 register), leBytes (wordOf untag) 2⟩ := by
  have htexts : ∀ register ∈ pvidTexts, PlainWord register := by decide
  have hpage : PlainWord "0x34".toList ∧ PlainWord "2".toList := by decide
  have hvalue := plainWord_value untag
  have hnumber : valueOf ("0x00".toList ++ hexInt untag) = wordOf untag :=
    valueOf_hexText (by decide) _
  have hfits : Fits ("0x00".toList ++ hexInt untag) (sizeOf "2".toList) := by
    have htwo : sizeOf "2".toList = 2 := by decide
    rw [htwo]
    refine .inr ?_
    rw [List.length_append]
    exact (Nat.le_div_iff_mul_le (by decide)).mpr (Nat.le_add_right 4 _)
  have hplace : UInt8.ofNat (strtoul16 "0x34".toList) = 0x34 ∧ sizeOf "2".toList = 2 := by
    decide
  have hsemicolon : ∀ c ∈ registers.map fun register => setRegister register "0x34".toList
      "2".toList ("0x00".toList ++ hexInt untag), ';' ∉ c := by
    intro c hc
    obtain ⟨register, hmem, rfl⟩ := List.mem_map.mp hc
    exact semicolon_setRegister (htexts register (h register hmem)) hpage.1 hpage.2 hvalue
  rw [pvidLine, lineWrites_flatMap outside hsemicolon, List.flatMap_map, List.map_eq_flatMap]
  refine List.flatMap_congr fun register hmem => ?_
  obtain ⟨data, hwrites, hdata⟩ := commandWrites_setRegister outside
    (htexts register (h register hmem)) hpage.1 hpage.2 hvalue (by decide)
  rw [hwrites, hdata hfits, hnumber, hplace.1, hplace.2]

theorem writes_statusLine : lineWrites outside "bcm5396 -w 0x0 -p 0x34 -v 0xe2;".toList =
    [⟨0x34, 0, [0xe2]⟩] := by
  have hoptions : (commands "bcm5396 -w 0x0 -p 0x34 -v 0xe2;".toList).map optionsOf =
      [some [('w', "0x0".toList), ('p', "0x34".toList), ('v', "0xe2".toList)], none] := by
    decide +kernel
  have hdata := @map_argument "0xe2".toList outside 1 1 (.inl (by decide))
  have hbytes : leBytes (valueOf "0xe2".toList) 1 = [0xe2] := by decide
  have hplace : UInt8.ofNat (strtoul16 "0x34".toList) = 0x34 ∧
      UInt8.ofNat (strtoul16 "0x0".toList) = 0 := by decide
  rw [hbytes] at hdata
  rw [lineWrites_eq, hoptions]
  change [(⟨UInt8.ofNat (strtoul16 "0x34".toList), UInt8.ofNat (strtoul16 "0x0".toList), _⟩ :
    RegisterWrite)] = _
  rw [hplace.1, hplace.2]
  exact congrArg (fun data => [(⟨0x34, 0, data⟩ : RegisterWrite)]) hdata

theorem length_value (n : Int) : ("0x00".toList ++ hexInt n).length ≤ 16 := by
  have hdigits : (hexInt n).length ≤ 8 :=
    Nat.toDigits_length 16 _ 8 (by decide) (by omega)
  rw [List.length_append]
  exact Nat.add_le_add (show "0x00".toList.length ≤ 8 by decide) hdigits

def ShortWord (w : List Char) : Prop := PlainWord w ∧ w.length ≤ 16

instance (w : List Char) : Decidable (ShortWord w) := inferInstanceAs (Decidable (_ ∧ _))

structure SetsRegister (command offset page length value : List Char) : Prop where
  line : command = setRegister offset page length value
  offsetWord : ShortWord offset
  pageWord : ShortWord page
  lengthWord : ShortWord length
  valueWord : ShortWord value
  size : (UInt8.ofNat (strtoul16 length)).toInt8 ≤ 8

theorem SetsRegister.words {command : List Char}
    (h : SetsRegister command offset page length value) : words command =
      ["bcm5396".toList, "-w".toList, offset, "-p".toList, page, "-l".toList, length, "-v".toList,
        value] := by
  rw [h.line]
  exact words_setRegister h.offsetWord.1 h.pageWord.1 h.lengthWord.1 h.valueWord.1

theorem SetsRegister.wellCalled {command : List Char}
    (h : SetsRegister command offset page length value) :
    WellCalled (CommandLine.words command) := by
  rw [h.words]
  refine ⟨?_, fun _ options hoptions => ?_⟩
  · simp [h.offsetWord.2, h.pageWord.2, h.lengthWord.2, h.valueWord.2]
  · rw [List.tail_cons, getopt_setRegister] at hoptions
    obtain rfl := Option.some.inj hoptions
    exact ⟨nofun, fun _ => h.size⟩

theorem spares_setRegisters {cs : List (List Char)}
    (hcs : ∀ c ∈ cs, ∃ offset page length value, SetsRegister c offset page length value)
    (hwrites : ∀ w ∈ lineWrites outside (cs.flatMap (· ++ [';'])), w.page ≠ 0 ∧ w.offset ≠ 0xFF)
    (n : Nat) : Spares outside n (cs.flatMap (· ++ [';'])) := by
  have hsemicolon : ∀ c ∈ cs, ';' ∉ c := by
    intro c hc
    obtain ⟨offset, page, length, value, h⟩ := hcs c hc
    rw [h.line]
    exact semicolon_setRegister h.offsetWord.1 h.pageWord.1 h.lengthWord.1 h.valueWord.1
  refine ⟨fun command hcommand => ?_, fun w hw => ?_⟩
  · rw [commands_flatMap hsemicolon] at hcommand
    rcases List.mem_append.mp hcommand with hc | hc
    · obtain ⟨offset, page, length, value, h⟩ := hcs command hc
      refine .inr ⟨?_, h.wellCalled⟩
      rw [h.words]
      exact List.mem_cons_of_mem _ (List.mem_singleton.mpr rfl)
    · exact .inl (by rw [List.mem_singleton.mp hc]; rfl)
  · exact ⟨(hwrites w hw).2, fun hport => (hwrites w hw).1 hport.1⟩

theorem spares_pvidLine (untag : Int) {registers : List (List Char)}
    (h : ∀ register ∈ registers, register ∈ pvidTexts) (n : Nat) :
    Spares outside n (pvidLine untag registers) := by
  have htexts : ∀ register ∈ pvidTexts, ShortWord register ∧
      UInt8.ofNat (strtoul16 register) ≠ 0xFF := by decide
  refine spares_setRegisters outside (fun c hc => ?_) (fun w hw => ?_) n
  · obtain ⟨register, hmem, rfl⟩ := List.mem_map.mp hc
    exact ⟨_, _, _, _, rfl, (htexts register (h register hmem)).1, by decide, by decide,
      ⟨plainWord_value untag, length_value untag⟩, by decide⟩
  · change w ∈ lineWrites outside (pvidLine untag registers) at hw
    rw [writes_pvidLine outside untag h] at hw
    obtain ⟨register, hmem, rfl⟩ := List.mem_map.mp hw
    exact ⟨show (0x34 : UInt8) ≠ 0 by decide, (htexts register (h register hmem)).2⟩

-- None of the lines of chassis_initial_vlan is for the page of the port registers.
theorem spares_vlanLines (tag untag : Int) (n : Nat) {text : List Char}
    (htext : text ∈ vlanLines tag untag) : Spares outside n text := by
  simp only [vlanLines, List.mem_cons, List.not_mem_nil, or_false] at htext
  rcases htext with rfl | rfl | rfl | rfl
  · refine spares_setRegisters outside (fun c hc => ?_) (fun w hw => ?_) n
    · have hvalue (vlan : Int) : ShortWord ("0x00".toList ++ hexInt vlan) :=
        ⟨plainWord_value vlan, length_value vlan⟩
      simp only [List.mem_cons, List.not_mem_nil, or_false] at hc
      rcases hc with rfl | rfl | rfl | rfl | rfl | rfl
      · exact ⟨_, _, _, _, rfl, by decide, by decide, by decide, hvalue tag, by decide⟩
      · exact ⟨_, _, _, _, rfl, by decide, by decide, by decide, by decide, by decide⟩
      · exact ⟨_, _, _, _, rfl, by decide, by decide, by decide, by decide, by decide⟩
      · exact ⟨_, _, _, _, rfl, by decide, by decide, by decide, hvalue untag, by decide⟩
      · exact ⟨_, _, _, _, rfl, by decide, by decide, by decide, by decide, by decide⟩
      · exact ⟨_, _, _, _, rfl, by decide, by decide, by decide, by decide, by decide⟩
    · obtain ⟨hpage, hoffset⟩ := writes_vlanGroupLine outside tag untag w hw
      rw [hpage]
      exact ⟨by decide, hoffset⟩
  · exact spares_pvidLine outside untag (fun _ => List.mem_of_mem_take) n
  · exact spares_pvidLine outside untag (fun _ => List.mem_of_mem_drop) n
  · have hcalled : Spares (fun _ => 0) 0 "bcm5396 -w 0x0 -p 0x34 -v 0xe2;".toList := by
      decide +kernel
    refine ⟨hcalled.1, fun w hw => ?_⟩
    rw [writes_statusLine, List.mem_singleton] at hw
    rw [hw]
    exact ⟨by decide, fun hport => absurd hport.1 (by decide)⟩

end Configured

section Validated

variable {c : Chip} {init : UInt16 → UInt32} {inb : List PortEvent → UInt16 → UInt8}
variable {ioperm : Int32} {outside : Int → UInt8} {trace : List PortEvent} {host : Host}

theorem writes_eq_of_mem (file : RegisterFile) {ws : List RegisterWrite} {w : RegisterWrite}
    (hw : w ∈ ws) (h : ∀ v ∈ ws, w.page = v.page ∧ w.offset = v.offset → v.data = w.data) :
    (file.writes ws) w.page w.offset = w.data := by
  induction ws using List.reverseRecOn with
  | nil => exact absurd hw List.not_mem_nil
  | append_singleton ws v ih =>
    have hlast : (file.writes (ws ++ [v])) = (file.writes ws).write v := by
      rw [writes_append, writes_cons, writes_nil]
    rw [hlast]
    by_cases hsame : w.page = v.page ∧ w.offset = v.offset
    · rw [hsame.1, hsame.2, write_self]
      exact h v (List.mem_append_right _ List.mem_cons_self) hsame
    · rw [write_of_ne _ hsame]
      refine ih ?_ fun v' hv' => h v' (List.mem_append_left _ hv')
      rcases List.mem_append.mp hw with hw | hw
      · exact hw
      · exact absurd (List.mem_singleton.mp hw ▸ ⟨rfl, rfl⟩) hsame

theorem foldl_system_writes (hio : ¬ioperm < 0) {lines : List (List Char)}
    (hpage : ∀ line ∈ lines, ∀ w ∈ lineWrites outside line, w.offset ≠ 0xFF)
    (hidle : BusIdle trace) (regs : Registers) :
    let trace' := lines.foldl (fun trace line =>
      system (latchBoard init inb) ioperm outside line trace) trace
    BusIdle trace' ∧ registersAfter regs trace' =
      (registersAfter regs trace).writes (lines.flatMap (lineWrites outside)) := by
  induction lines generalizing trace with
  | nil => exact ⟨hidle, rfl⟩
  | cons line lines ih =>
    obtain ⟨hnext, hfirst⟩ := @system_writes init inb ioperm outside trace regs hio line
      (hpage line List.mem_cons_self) hidle
    obtain ⟨hlast, hrest⟩ := ih (fun l hl => hpage l (List.mem_cons_of_mem line hl)) hnext
    refine ⟨hlast, ?_⟩
    rw [List.flatMap_cons, writes_append, ← hfirst]
    exact hrest

def HoldsVlan (untag : Int) (file : RegisterFile) : Prop :=
  (∀ register ∈ pvidRegisters, file 0x34 (UInt8.ofNat register) = leBytes (wordOf untag) 2) ∧
    file 0x34 0 = [0xe2]

theorem holdsVlan_initial (hio : ¬ioperm < 0) (hidle : BusIdle trace) {usNumber : Nat}
    (hk : 33 ≤ usNumber ∧ usNumber ≤ 48 ∧ usNumber % 2 = 1) (tag untag : Int) (regs : Registers) :
    let trace' := chassisInitialVlan (latchBoard init inb) ioperm outside usNumber tag untag trace
    BusIdle trace' ∧ HoldsVlan untag (registersAfter regs trace') := by
  have hfirst := @writes_pvidLine outside untag (pvidTexts.take 8)
    fun _ => List.mem_of_mem_take
  have hsecond := @writes_pvidLine outside untag (pvidTexts.drop 8)
    fun _ => List.mem_of_mem_drop
  have hstatus := writes_statusLine outside
  have hgroup := writes_vlanGroupLine outside tag untag
  have hnumbers : pvidTexts.map strtoul16 = pvidRegisters := by decide
  have hoffsets : ∀ register ∈ pvidRegisters, UInt8.ofNat register ≠ 0xFF ∧
      UInt8.ofNat register ≠ 0 := by decide
  have hwrites : ∃ group, (vlanLines tag untag).flatMap (lineWrites outside) = group ++
        (pvidRegisters.map fun register =>
          ⟨0x34, UInt8.ofNat register, leBytes (wordOf untag) 2⟩) ++ [⟨0x34, 0, [0xe2]⟩] ∧
      ∀ w ∈ group, w.page = 5 ∧ w.offset ≠ 0xFF := by
    refine ⟨_, ?_, hgroup⟩
    rw [vlanLines, List.flatMap_cons, List.flatMap_cons, List.flatMap_cons, List.flatMap_singleton,
      hfirst, hsecond, hstatus, ← hnumbers, List.map_map, List.append_assoc]
    congr 1
  obtain ⟨group, hflat, hpages⟩ := hwrites
  have hall : ∀ w ∈ (vlanLines tag untag).flatMap (lineWrites outside), w.offset ≠ 0xFF := by
    rw [hflat]
    intro w hw
    rcases List.mem_append.mp hw with hw | hw
    · rcases List.mem_append.mp hw with hw | hw
      · exact (hpages w hw).2
      · obtain ⟨register, hmem, rfl⟩ := List.mem_map.mp hw
        exact (hoffsets register hmem).1
    · rw [List.mem_singleton.mp hw]
      decide
  obtain ⟨hidle', hfile⟩ := @foldl_system_writes init inb ioperm outside trace hio
    (vlanLines tag untag) (fun line hl w hw => hall w (List.mem_flatMap.mpr ⟨line, hl, hw⟩))
    hidle regs
  intro trace'
  have htrace : trace' = (vlanLines tag untag).foldl (fun trace line =>
      system (latchBoard init inb) ioperm outside line trace) trace := if_pos hk
  rw [htrace]
  refine ⟨hidle', ?_⟩
  rw [hfile, hflat]
  have hlist : ∀ v ∈ group ++ (pvidRegisters.map fun register =>
      (⟨0x34, UInt8.ofNat register, leBytes (wordOf untag) 2⟩ : RegisterWrite)) ++
        [⟨0x34, 0, [0xe2]⟩], v.page = 0x34 →
      (v.offset = 0 → v.data = [0xe2]) ∧ (v.offset ≠ 0 → v.data = leBytes (wordOf untag) 2) := by
    intro v hv hpage
    rcases List.mem_append.mp hv with hv | hv
    · rcases List.mem_append.mp hv with hv | hv
      · rw [(hpages v hv).1] at hpage
        exact absurd hpage (by decide)
      · obtain ⟨register, hmem, rfl⟩ := List.mem_map.mp hv
        exact ⟨fun h => absurd h (hoffsets register hmem).2, fun _ => rfl⟩
    · rw [List.mem_singleton.mp hv]
      exact ⟨fun _ => rfl, fun h => absurd rfl h⟩
  refine ⟨fun register hmem => ?_, ?_⟩
  · refine @writes_eq_of_mem _ _ ⟨0x34, UInt8.ofNat register, leBytes (wordOf untag) 2⟩ ?_
      fun v hv hsame => ?_
    · exact List.mem_append_left _ (List.mem_append_right _ (List.mem_map_of_mem hmem))
    · exact (hlist v hv hsame.1.symm).2 fun h => (hoffsets register hmem).2 (hsame.2.trans h)
  · refine @writes_eq_of_mem _ _ ⟨0x34, 0, [0xe2]⟩ ?_ fun v hv hsame => ?_
    · exact List.mem_append_right _ List.mem_cons_self
    · exact (hlist v hv hsame.1.symm).1 hsame.2.symm

theorem readOf_options {argv : List (List Char)} {offset page length : List Char}
    (hargc : 2 < argv.length) (hlength : 0 ≤ (UInt8.ofNat (strtoul16 length)).toInt8)
    (hopt : getopt diagLetters argv.tail = some [('r', offset), ('p', page), ('l', length)]) :
    ∃ d, readOf outside argv = some d ∧ d.pageNum = UInt8.ofNat (strtoul16 page) ∧
      d.regNum = UInt8.ofNat (strtoul16 offset) ∧
      d.size.toUInt8.toNat = sizeOf length := by
  refine ⟨⟨_, _, fun _ => 0, _, some .read⟩, ?_, rfl, rfl, rfl⟩
  rw [readOf, if_neg (by omega), hopt]
  exact if_pos ⟨hlength, rfl⟩

theorem readOf_default {argv : List (List Char)} {offset page : List Char}
    (hargc : 2 < argv.length)
    (hopt : getopt diagLetters argv.tail = some [('r', offset), ('p', page)]) :
    ∃ d, readOf outside argv = some d ∧ d.pageNum = UInt8.ofNat (strtoul16 page) ∧
      d.regNum = UInt8.ofNat (strtoul16 offset) ∧ d.size.toUInt8.toNat = 1 := by
  refine ⟨⟨_, _, fun _ => 0, 1, some .read⟩, ?_, rfl, rfl, rfl⟩
  rw [readOf, if_neg (by omega), hopt]
  exact if_pos ⟨show (0 : Int8) ≤ 1 by decide, rfl⟩

theorem readData_eq (board : Board) (command : List Char) (last : Nat) :
    readData board ioperm outside command last trace =
      (dataColumns last (spiProcess board ioperm outside (words command) trace).1,
        (spiProcess board ioperm outside (words command) trace).2) := by
  unfold readData
  generalize spiProcess board ioperm outside (words command) trace = run
  rfl

theorem scanGroup_readGroup (hio : ¬ioperm < 0) (hidle : BusIdle trace) (vlan : Int) {untag : Int}
    {regs : Registers} (hvlan : HoldsVlan untag (registersAfter regs trace)) :
    ∃ trace', readGroup (latchBoard init inb) ioperm outside vlan trace = (some 0, trace') ∧
      BusIdle trace' ∧ HoldsVlan untag (registersAfter regs trace') := by
  have hwrites := writes_groupLine outside vlan
  have hline := @system_writes init inb ioperm outside trace regs hio (groupLine vlan)
    (fun w hw => (hwrites w hw).2) hidle
  obtain ⟨d, hread, -, -, hsize⟩ := @readOf_options outside
    (words "        bcm5396 -r 0x63 -p 0x5 -l 8 ".toList) "0x63".toList "0x5".toList "8".toList
    (by decide +kernel) (by decide) (by decide +kernel)
  have height : sizeOf "8".toList = 8 := by decide
  obtain ⟨⟨value, hvalue⟩, hidle', hsame⟩ := @process_reads init inb ioperm _ outside _ _ hline.1
    hio hread
  unfold readGroup
  dsimp only
  rw [readData_eq]
  generalize spiProcess (latchBoard init inb) ioperm outside _ _ = run at hvalue hidle' hsame ⊢
  dsimp only
  rw [hvalue, scan_eight value (hsize.trans height)]
  refine ⟨_, rfl, hidle', ?_⟩
  have hfile : ∀ offset, registersAfter regs (system (latchBoard init inb) ioperm outside
      (groupLine vlan) trace) 0x34 offset = registersAfter regs trace 0x34 offset := by
    intro offset
    rw [hline.2]
    refine writes_of_ne _ fun w hw hplace => ?_
    rw [(hwrites w hw).1] at hplace
    exact absurd hplace.1 (by decide)
  rw [hsame]
  exact ⟨fun register hmem => (hfile _).trans (hvlan.1 register hmem),
    (hfile 0).trans hvlan.2⟩

theorem validateVlanGroup_passes (hio : ¬ioperm < 0) (hidle : BusIdle trace) (hrm : host.rm 1 = 0)
    (tag untag : Int) {regs : Registers} (hvlan : HoldsVlan untag (registersAfter regs trace)) :
    ∃ trace', chassisValidateVlanGroup (latchBoard init inb) ioperm outside host tag untag trace =
        (some 0, trace') ∧ BusIdle trace' ∧ HoldsVlan untag (registersAfter regs trace') := by
  obtain ⟨_, hfirst, hidle', hvlan'⟩ :=
    @scanGroup_readGroup init inb ioperm outside trace hio hidle tag _ _ hvlan
  unfold chassisValidateVlanGroup
  rw [if_neg (not_not.mpr hrm), hfirst]
  dsimp only
  rw [if_neg (not_not.mpr rfl)]
  exact scanGroup_readGroup hio hidle' untag hvlan'

theorem readData_pvid (hchip : AnswersReads c 0x34 inb) (hio : ¬ioperm < 0)
    (hidle : BusIdle trace) {register : Nat} (hmem : register ∈ pvidRegisters) {n : Nat}
    (hfile : registersAfter c.regs trace 0x34 (UInt8.ofNat register) = leBytes n 2) :
    ∃ contents trace', readData (latchBoard init inb) ioperm outside (pvidCommand register) 5
        trace = (contents, trace') ∧
      searchWord contents 1 = .returned 0 (dataWord (UInt8.ofNat (n / 256))) ∧
      searchWord contents 2 = .returned 0 (byteWord (UInt8.ofNat n) ++ ['\n']) ∧
      BusIdle trace' ∧ registersAfter c.regs trace' = registersAfter c.regs trace := by
  have hwords : ∀ register ∈ pvidRegisters, 2 < (words (pvidCommand register)).length ∧
      getopt diagLetters (words (pvidCommand register)).tail =
        some [('r', '0' :: 'x' :: hexText register), ('p', "0x34".toList), ('l', "2".toList)] ∧
      strtoul16 ('0' :: 'x' :: hexText register) = register ∧ UInt8.ofNat register ≠ 0xFE ∧
      UInt8.ofNat register ≠ 0xF0 := by decide +kernel
  have hplace : UInt8.ofNat (strtoul16 "0x34".toList) = 0x34 ∧ sizeOf "2".toList = 2 := by
    decide
  obtain ⟨hargc, hopt, hnumber, hfe, hf0⟩ := hwords register hmem
  obtain ⟨d, hread, hpage, hreg, hsize⟩ := @readOf_options outside _ _ _ _ hargc (by decide) hopt
  rw [hplace.1] at hpage
  rw [hnumber] at hreg
  obtain ⟨-, hidle', hsame⟩ := @process_reads init inb ioperm trace outside _ d hidle hio hread
  have hprint := @process_prints c init inb ioperm trace outside _ d (hpage ▸ hchip) hidle hio
    hread (hreg ▸ ⟨hfe, hf0⟩)
  rw [hpage, hreg, hfile] at hprint
  obtain ⟨hhigh, hlow⟩ := @search_two d (fun k => (leBytes n 2).getD k 0) (hsize.trans hplace.2)
  have hbytes : (leBytes n 2).getD 1 0 = UInt8.ofNat (n / 256) ∧
      (leBytes n 2).getD 0 0 = UInt8.ofNat n := by
    simp [leBytes, List.range_succ]
  rw [hbytes.1] at hhigh
  rw [hbytes.2] at hlow
  rw [readData_eq, hprint]
  exact ⟨_, _, rfl, hhigh, hlow, hidle', hsame c.regs⟩

theorem pvid_value (n : Nat) : chassisParseBcm5396Value (dataWord (UInt8.ofNat (n / 256))) * 256 +
    chassisParseBcm5396Value (byteWord (UInt8.ofNat n) ++ ['\n']) = (n % 2 ^ 16 : Nat) := by
  rw [dataWord, (parse_byteWord _).1, (parse_byteWord _).2, UInt8.toNat_ofNat', UInt8.toNat_ofNat']
  omega

theorem validatePvids_iff (hchip : AnswersReads c 0x34 inb) (hio : ¬ioperm < 0)
    {untag : Int} {registers : List Nat} (hregs : ∀ register ∈ registers, register ∈ pvidRegisters)
    (call : Nat) (hidle : BusIdle trace) (hvlan : HoldsVlan untag (registersAfter c.regs trace)) :
    ∃ code trace', validatePvids (latchBoard init inb) ioperm outside host untag call registers
        trace = (code, trace') ∧
      (code = some 0 ↔ ∀ i < registers.length,
        ((wordOf untag % 2 ^ 16 : Nat) : Int) = untag ∧ host.rm (call + i) = 0) ∧
      BusIdle trace' ∧ HoldsVlan untag (registersAfter c.regs trace') := by
  induction registers generalizing trace call with
  | nil =>
    exact ⟨some 0, trace, rfl, iff_of_true rfl fun i hi => absurd hi (Nat.not_lt_zero i), hidle,
      hvlan⟩
  | cons register registers ih =>
    have hmem := hregs register List.mem_cons_self
    rw [validatePvids]
    by_cases hrm : host.rm call = 0
    · obtain ⟨contents, trace', hread, hhigh, hlow, hidle', hsame⟩ :=
        @readData_pvid c init inb ioperm outside trace hchip hio hidle register hmem _
          (hvlan.1 register hmem)
      have hvlan' : HoldsVlan untag (registersAfter c.regs trace') := hsame ▸ hvlan
      rw [if_neg (not_not.mpr hrm), hread]
      dsimp only
      rw [hhigh, hlow]
      change ∃ code trace'', (if chassisParseBcm5396Value _ * 256 + chassisParseBcm5396Value _ ≠
        untag then (some (-3), trace') else _) = _ ∧ _
      rw [pvid_value]
      by_cases hfits : ((wordOf untag % 2 ^ 16 : Nat) : Int) = untag
      · obtain ⟨code, trace'', hrest, hcode, hidle'', hvlan''⟩ :=
          ih (fun r hr => hregs r (List.mem_cons_of_mem register hr)) (call + 1) hidle' hvlan'
        rw [if_neg (not_not.mpr hfits), hrest]
        refine ⟨code, trace'', rfl, ?_, hidle'', hvlan''⟩
        rw [hcode, List.length_cons, Nat.forall_lt_succ_left, and_iff_right ⟨hfits, hrm⟩]
        exact forall₂_congr fun i _ => by rw [Nat.add_assoc, Nat.add_comm 1 i]
      · rw [if_pos hfits]
        exact ⟨_, trace', rfl, iff_of_false (by decide) fun h =>
          hfits (h 0 (Nat.succ_pos _)).1, hidle', hvlan'⟩
    · rw [if_pos hrm]
      exact ⟨_, trace, rfl, iff_of_false (by decide) fun h => hrm (h 0 (Nat.succ_pos _)).2, hidle,
        hvlan⟩

theorem validateVlanStatus_passes (hchip : AnswersReads c 0x34 inb) (hio : ¬ioperm < 0)
    (hidle : BusIdle trace) {untag : Int} (hvlan : HoldsVlan untag (registersAfter c.regs trace)) :
    ∃ trace', validateVlanStatus (latchBoard init inb) ioperm outside trace = (some 0, trace') := by
  have hargc : 2 < (words "bcm5396 -r 0x0 -p 0x34  ".toList).length := by decide
  have hopt : getopt diagLetters (words "bcm5396 -r 0x0 -p 0x34  ".toList).tail =
      some [('r', "0x0".toList), ('p', "0x34".toList)] := by decide +kernel
  have hplace : UInt8.ofNat (strtoul16 "0x34".toList) = 0x34 ∧
      UInt8.ofNat (strtoul16 "0x0".toList) = 0 := by decide
  obtain ⟨d, hread, hpage, hreg, hsize⟩ := @readOf_default outside _ _ _ hargc hopt
  rw [hplace.1] at hpage
  rw [hplace.2] at hreg
  have hprint := @process_prints c init inb ioperm trace outside _ d (hpage ▸ hchip) hidle hio
    hread (hreg ▸ by decide)
  rw [hpage, hreg, hvlan.2] at hprint
  have hword := search_one (fun k => [0xe2].getD k 0) hsize
  have hvalue : chassisParseBcm5396Value (dataWord 0xe2) = 0xe2 := (parse_byteWord 0xe2).1
  have hbit : (0xe2 : Int).testBit 7 = true := by decide
  have hfirst : ([0xe2] : List UInt8).getD 0 0 = 0xe2 := rfl
  rw [hfirst] at hword
  unfold validateVlanStatus
  rw [readData_eq, hprint]
  dsimp only
  rw [hword]
  change ∃ trace', (if (chassisParseBcm5396Value _).testBit 7 then _ else _) = _
  rw [hvalue, if_pos hbit]
  exact ⟨_, rfl⟩

theorem rm_of_validateVlanIp {tag : Int} {address : Vector UInt8 4}
    (h : validateVlanIp host tag address = some 0) : host.rm 0 = 0 := by
  by_contra hrm
  unfold validateVlanIp at h
  rw [if_pos hrm] at h
  exact absurd (Option.some.inj h) (by decide)

theorem rm_calls_iff {P : Prop} (hip : host.rm 0 = 0) (hgroup : host.rm 1 = 0) :
    (∀ i < pvidRegisters.length, P ∧ host.rm (2 + i) = 0) ↔
      (∀ call < 18, host.rm call = 0) ∧ P := by
  constructor
  · intro h
    refine ⟨fun call hcall => ?_, (h 0 (by decide)).1⟩
    match call, hcall with
    | 0, _ => exact hip
    | 1, _ => exact hgroup
    | i + 2, hi =>
      rw [Nat.add_comm]
      exact (h i (Nat.lt_of_add_lt_add_right hi)).2
  · exact fun h i hi => ⟨h.2, h.1 (2 + i) (Nat.add_lt_add_left hi 2)⟩

theorem vlan_validated_iff (hchip : AnswersReads c 0x34 inb) (init : UInt16 → UInt32)
    (hio : ¬ioperm < 0) (outside : Int → UInt8) (hidle : BusIdle trace) (host : Host)
    {usNumber : Nat} (hk : 33 ≤ usNumber ∧ usNumber ≤ 48 ∧ usNumber % 2 = 1) (tag untag : Int)
    (address : Vector UInt8 4) :
    (chassisValidateVlanConifg (latchBoard init inb) ioperm outside host usNumber tag untag address
      (chassisInitialVlan (latchBoard init inb) ioperm outside usNumber tag untag trace)).1 =
        some 0 ↔
      validateVlanIp host tag address = some 0 ∧ (∀ call < 18, host.rm call = 0) ∧
        0 ≤ untag ∧ untag < 2 ^ 16 := by
  have hfits : ((wordOf untag % 2 ^ 16 : Nat) : Int) = untag ↔ 0 ≤ untag ∧ untag < 2 ^ 16 := by
    rw [wordOf]
    omega
  obtain ⟨hset, hvlan⟩ := @holdsVlan_initial init inb ioperm outside trace hio hidle usNumber hk
    tag untag c.regs
  generalize chassisInitialVlan (latchBoard init inb) ioperm outside usNumber tag untag trace =
    trace' at hset hvlan ⊢
  unfold chassisValidateVlanConifg
  by_cases hip : validateVlanIp host tag address = some 0
  · have hip' := rm_of_validateVlanIp hip
    rw [if_neg (not_not.mpr hip), if_neg (by omega), ← hfits]
    by_cases hrm : host.rm 1 = 0
    · obtain ⟨_, hgroup, hidle₁, hvlan₁⟩ :=
        @validateVlanGroup_passes init inb ioperm outside trace' host hio hset hrm tag untag _ hvlan
      obtain ⟨code, _, hpvids, hcode, hidle₂, hvlan₂⟩ :=
        @validatePvids_iff c init inb ioperm outside _ host hchip hio untag pvidRegisters
          (fun _ h => h) 2 hidle₁ hvlan₁
      obtain ⟨_, hstatus⟩ := @validateVlanStatus_passes c init inb ioperm outside _ hchip hio
        hidle₂ untag hvlan₂
      rw [hgroup]
      dsimp only
      rw [if_neg (not_not.mpr rfl), hpvids, ← rm_calls_iff hip' hrm, ← hcode, and_iff_right hip]
      dsimp only
      by_cases hzero : code = some 0
      · rw [if_neg (not_not.mpr hzero), hstatus]
        exact iff_of_true rfl hzero
      · rw [if_pos hzero]
    · have hgroup : chassisValidateVlanGroup (latchBoard init inb) ioperm outside host tag untag
          trace' = (some (-99), trace') := if_pos hrm
      rw [hgroup]
      dsimp only
      rw [if_pos (by decide)]
      exact iff_of_false (fun h => absurd (Option.some.inj h) (by decide)) fun h =>
        hrm (h.2.1 1 (by decide))
  · rw [if_pos hip]
    exact iff_of_false hip fun h => hip h.1

def fabricHost : Host where
  rm _ := 0
  ifconfig _ _ := some
    "ma1.4094 Link encap:Ethernet\n          inet addr:127.2.4.33  Mask:255.0.0.0\n".toList

theorem vlan_validated_fabric :
    (chassisValidateVlanConifg (latchBoard (fun _ => 0) blankChip.inb) 0 (fun _ => 0) fabricHost 33
      4094 1 ⟨#[127, 2, 4, 33], rfl⟩
      (chassisInitialVlan (latchBoard (fun _ => 0) blankChip.inb) 0 (fun _ => 0) 33 4094 1 [])).1 =
        some 0 :=
  (vlan_validated_iff (answersReads_inb blankChip 0x34) (fun _ => 0) (by decide) (fun _ => 0)
    ⟨[], rfl⟩ fabricHost (by decide) 4094 1 ⟨#[127, 2, 4, 33], rfl⟩).mpr
      ⟨by decide +kernel, fun _ _ => rfl, by decide, by decide⟩

end Validated

end Chassisd
