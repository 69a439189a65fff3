import Chassisd.Library.TextFile

namespace Chassisd

open TextFile

abbrev maximumBufferLength : Int := 512
abbrev maximumStringLength : Nat := 511

abbrev nul : Char := Char.ofNat 0
abbrev newline : Char := Char.ofNat 10

-- What the call comes to, with the text left in out_string_buf. A null token handed to
-- strncpy and an overflow of the line counter are undefined.
inductive Lookup where
  | returned (code : Int) (out : List Char)
  | nullToken
  | overflow
  deriving DecidableEq, Repr

section Loops

variable (delim : Char → Bool)

-- The do-while over the tokens of one read: ptr and what strtok keeps for the next call.
def scanTokens (wanted : Int → Bool) : Nat → Int → Option (List Char × List Char) →
    Option (Option (List Char))
  | fuel, number, ptr =>
    if wanted number then some (ptr.map Prod.fst)
    else
      match fuel with
      | 0 => none
      | fuel + 1 =>
        match CString.strtok delim ((ptr.map Prod.snd).getD []) with
        | none => none
        | some next => scanTokens wanted fuel (number + 1) (some next)

def searchReads (stringLine stringNumber : Int) : Int → List (List Char) → Lookup
  | _, [] => .returned (-4) []
  | line, read :: reads =>
    let text := read.takeWhile (· ≠ nul)
    let wanted := fun number => line = stringLine ∧ number = stringNumber
    match scanTokens delim (fun number => wanted number) text.length 1
        (CString.strtok delim text) with
    | some (some ptr) => .returned 0 (ptr.take maximumStringLength)
    | some none => .nullToken
    | none =>
      if line = 2 ^ 31 - 1 then .overflow
      else searchReads stringLine stringNumber (line + 1) reads

end Loops

def tcpServerDiagFunctionSearchString (fopen : String → Option (List Char))
    (fileName : Option String) (delim : Option (List Char)) (outStringBuf : Option (List Char))
    (bufMaxLen stringLine stringNumber : Int) : Lookup :=
  match fileName, delim, outStringBuf with
  | some fileName, some delim, some out =>
    if bufMaxLen ≠ maximumBufferLength then .returned (-1) out
    else if stringLine < 1 ∨ stringNumber < 1 then .returned (-2) out
    else
      match fopen fileName with
      | none => .returned (-3) []
      | some contents =>
        searchReads (fun c => c ∈ delim) stringLine stringNumber 1
          (reads newline maximumStringLength contents)
  | _, _, out => .returned (-1) (out.getD [])

section Tokens

variable {delim : Char → Bool} {wanted : Int → Bool}

def token (delim : Char → Bool) (stringNumber : Int) (text : List Char) : Option (List Char) :=
  (tokens delim text)[stringNumber.toNat - 1]?

theorem scanTokens_unwanted (h : ∀ number, wanted number = false) (fuel : Nat) (number : Int)
    (ptr : Option (List Char × List Char)) : scanTokens delim wanted fuel number ptr = none := by
  induction fuel generalizing number ptr with
  | zero => rw [scanTokens, h]; rfl
  | succ fuel ih =>
    rw [scanTokens, h, if_neg Bool.false_ne_true]
    cases CString.strtok delim ((ptr.map Prod.snd).getD []) with
    | none => rfl
    | some next => exact ih (number + 1) (some next)

theorem scanTokens_hit (number : Int) (fuel : Nat) (tok rest : List Char) :
    scanTokens delim (fun n => n = number) fuel number (some (tok, rest)) = some (some tok) := by
  cases fuel <;> simp [scanTokens]

theorem scanTokens_some {stringNumber number : Int} (h : number ≤ stringNumber) {fuel : Nat}
    {tok rest : List Char} (hfuel : rest.length ≤ fuel) :
    scanTokens delim (fun n => n = stringNumber) fuel number (some (tok, rest)) =
      ((tok :: tokens delim rest)[(stringNumber - number).toNat]?).map some := by
  induction fuel generalizing number tok rest with
  | zero =>
    obtain rfl := List.length_eq_zero_iff.mp (Nat.le_zero.mp hfuel)
    rcases h.eq_or_lt with rfl | hlt
    · rw [scanTokens_hit]
      simp
    · rw [scanTokens, if_neg (by simpa using hlt.ne),
        show (stringNumber - number).toNat = (stringNumber - (number + 1)).toNat + 1 by omega]
      rfl
  | succ fuel ih =>
    rcases h.eq_or_lt with rfl | hlt
    · rw [scanTokens_hit]
      simp
    · rw [scanTokens, if_neg (by simpa using hlt.ne),
        show (stringNumber - number).toNat = (stringNumber - (number + 1)).toNat + 1 by omega,
        List.getElem?_cons_succ]
      dsimp only [Option.map_some, Option.getD_some]
      cases hnext : CString.strtok delim rest with
      | none => rw [tokens_of_strtok_none hnext]; rfl
      | some next =>
        obtain ⟨tok', rest'⟩ := next
        obtain ⟨htokens, hshorter⟩ := tokens_of_strtok hnext
        rw [htokens]
        exact ih (by omega) (by omega)

theorem scanTokens_line {stringNumber : Int} (h : 1 ≤ stringNumber) (text : List Char) :
    scanTokens delim (fun n => n = stringNumber) text.length 1 (CString.strtok delim text) =
      if tokens delim text = [] ∧ stringNumber = 1 then some none
      else (token delim stringNumber text).map some := by
  cases hfirst : CString.strtok delim text with
  | none =>
    have hnone := tokens_of_strtok_none hfirst
    rw [hnone, token, hnone]
    by_cases hone : stringNumber = 1
    · subst hone
      rw [if_pos ⟨rfl, rfl⟩]
      cases text.length <;> rfl
    · rw [if_neg fun hboth => hone hboth.2]
      cases text.length with
      | zero => rw [scanTokens, if_neg (by simpa using fun heq => hone heq.symm)]; rfl
      | succ fuel => rw [scanTokens, if_neg (by simpa using fun heq => hone heq.symm)]; rfl
  | some first =>
    obtain ⟨tok, rest⟩ := first
    obtain ⟨htokens, hlt⟩ := tokens_of_strtok hfirst
    rw [if_neg fun hboth => absurd (htokens.symm.trans hboth.1) (List.cons_ne_nil _ _), token,
      htokens, scanTokens_some h hlt.le]
    congr 2
    omega

end Tokens

section Search

variable {delim : Char → Bool} {stringLine stringNumber : Int}

def ending (total : Int) : Lookup := if 2 ^ 31 ≤ total then .overflow else .returned (-4) []

def outcome (delim : Char → Bool) (stringNumber total : Int) : Option (List Char) → Lookup
  | none => ending total
  | some text =>
    if tokens delim text = [] ∧ stringNumber = 1 then .nullToken
    else
      match token delim stringNumber text with
      | some tok => .returned 0 (tok.take maximumStringLength)
      | none => ending total

theorem searchReads_other {line : Int} (h : line ≠ stringLine) (read : List Char)
    (rs : List (List Char)) :
    searchReads delim stringLine stringNumber line (read :: rs) =
      if line = 2 ^ 31 - 1 then .overflow
      else searchReads delim stringLine stringNumber (line + 1) rs := by
  have hunwanted : ∀ number : Int, decide (line = stringLine ∧ number = stringNumber) = false :=
    fun number => decide_eq_false fun hboth => h hboth.1
  rw [searchReads]
  dsimp only
  rw [scanTokens_unwanted hunwanted]

theorem searchReads_past {line : Int} (h : stringLine < line) (hline : line < 2 ^ 31)
    (rs : List (List Char)) :
    searchReads delim stringLine stringNumber line rs = ending (line + rs.length) := by
  induction rs generalizing line with
  | nil => exact (if_neg (by simpa using hline)).symm
  | cons read rs ih =>
    rw [searchReads_other h.ne', List.length_cons]
    split_ifs with hlast
    · exact (if_pos (by omega)).symm
    · rw [ih (h.trans (Int.lt_succ line)) (by omega)]
      congr 1
      omega

theorem searchReads_here {line : Int} (hnumber : 1 ≤ stringNumber) (hline : line < 2 ^ 31)
    {read : List Char} (hnul : nul ∉ read) (rs : List (List Char)) :
    searchReads delim line stringNumber line (read :: rs) =
      outcome delim stringNumber (line + (read :: rs).length) (some read) := by
  have htext : read.takeWhile (· ≠ nul) = read :=
    List.takeWhile_eq_self_iff.mpr fun c hc => decide_eq_true fun heq => hnul (heq ▸ hc)
  have hwanted : (fun number : Int => decide (line = line ∧ number = stringNumber)) =
      fun number => decide (number = stringNumber) := by simp
  rw [searchReads]
  dsimp only
  rw [htext, hwanted, scanTokens_line hnumber, outcome]
  by_cases hblank : tokens delim read = [] ∧ stringNumber = 1
  · rw [if_pos hblank, if_pos hblank]
  · rw [if_neg hblank, if_neg hblank]
    cases token delim stringNumber read with
    | some tok => rfl
    | none =>
      dsimp only [Option.map_none]
      rw [List.length_cons]
      split_ifs with hlast
      · exact (if_pos (by omega)).symm
      · rw [searchReads_past (Int.lt_succ line) (by omega)]
        congr 1
        omega

theorem searchReads_eq (hnumber : 1 ≤ stringNumber) (hlimit : stringLine < 2 ^ 31) {line : Int}
    (hline : line ≤ stringLine) {rs : List (List Char)} (hnul : ∀ r ∈ rs, nul ∉ r) :
    searchReads delim stringLine stringNumber line rs =
      outcome delim stringNumber (line + rs.length) rs[(stringLine - line).toNat]? := by
  induction rs generalizing line with
  | nil => exact (if_neg (by simpa using hline.trans_lt hlimit)).symm
  | cons read rs ih =>
    by_cases hhere : line = stringLine
    · subst hhere
      rw [searchReads_here hnumber hlimit (hnul read List.mem_cons_self), sub_self]
      rfl
    · obtain ⟨i, hi⟩ : ∃ i, (stringLine - line).toNat = i + 1 :=
        ⟨(stringLine - line).toNat - 1, by omega⟩
      have hindex : (stringLine - (line + 1)).toNat = i := by omega
      have htotal : line + 1 + rs.length = line + (read :: rs).length := by
        rw [List.length_cons]
        omega
      rw [searchReads_other hhere, if_neg (by omega), hi, List.getElem?_cons_succ, ← htotal,
        ← hindex]
      exact ih (by omega) fun r hr => hnul r (List.mem_cons_of_mem _ hr)

end Search

section Exactness

variable {delim : List Char} {contents : List Char} {stringLine stringNumber : Int}

def isDelim (delim : List Char) (c : Char) : Bool := c ∈ delim

def lineAt (contents : List Char) (stringLine : Int) : Option (List Char) :=
  (lines newline contents)[stringLine.toNat - 1]?.map fun line => line.takeWhile (· ≠ newline)

def lineToken (delim contents : List Char) (stringLine stringNumber : Int) :
    Option (List Char) :=
  ((lineAt contents stringLine).bind (token (isDelim delim) stringNumber)).map
    (List.take maximumStringLength)

-- The file cut after every newline and after 510 bytes without one.
def filePieces (contents : List Char) : List (List Char) :=
  (lines newline contents).flatMap (pieces (maximumStringLength - 2))

def pieceAt (contents : List Char) (stringLine : Int) : Option (List Char) :=
  (filePieces contents)[stringLine.toNat - 1]?

def pieceToken (delim contents : List Char) (stringLine stringNumber : Int) :
    Option (List Char) :=
  ((pieceAt contents stringLine).bind (token (isDelim delim) stringNumber)).map
    (List.take maximumStringLength)

structure Readable (delim contents : List Char) (stringLine stringNumber : Int) : Prop where
  aligned : pieceToken delim contents stringLine stringNumber =
    lineToken delim contents stringLine stringNumber
  token : stringNumber = 1 → ∀ piece ∈ pieceAt contents stringLine,
    tokens (isDelim delim) piece ≠ []
  count : lineToken delim contents stringLine stringNumber = none →
    (filePieces contents).length < 2 ^ 31 - 1

def found : Option (List Char) → Lookup
  | some tok => .returned 0 tok
  | none => .returned (-4) []

theorem search_eq_outcome {fopen : String → Option (List Char)} {fileName : String}
    {out : List Char} (hopen : fopen fileName = some contents) (hnul : nul ∉ contents)
    (hline : 1 ≤ stringLine) (hlimit : stringLine < 2 ^ 31) (hnumber : 1 ≤ stringNumber) :
    tcpServerDiagFunctionSearchString fopen (some fileName) (some delim) (some out)
        maximumBufferLength stringLine stringNumber =
      outcome (isDelim delim) stringNumber (1 + (filePieces contents).length)
        (pieceAt contents stringLine) := by
  unfold tcpServerDiagFunctionSearchString
  dsimp only
  have hrange : ¬ (stringLine < 1 ∨ stringNumber < 1) := by omega
  have hindex : (stringLine - 1).toNat = stringLine.toNat - 1 := by omega
  rw [if_neg (not_not.mpr rfl), if_neg hrange, hopen]
  dsimp only
  rw [show maximumStringLength = maximumStringLength - 2 + 2 from rfl, reads_eq_pieces,
    searchReads_eq hnumber hlimit hline, hindex]
  · rfl
  · exact fun piece hpiece hmem => hnul (mem_of_mem_pieces hpiece hmem)

theorem ending_eq_found_iff {total : Int} {wanted : Option (List Char)} :
    ending total = found wanted ↔ none = wanted ∧ (wanted = none → total < 2 ^ 31) := by
  unfold ending
  cases wanted with
  | none =>
    split_ifs with hlarge
    · exact iff_of_false Lookup.noConfusion fun h => absurd (h.2 rfl) (not_lt.mpr hlarge)
    · exact iff_of_true rfl ⟨rfl, fun _ => not_le.mp hlarge⟩
  | some tok =>
    refine iff_of_false ?_ fun h => Option.some_ne_none tok h.1.symm
    split_ifs
    · exact Lookup.noConfusion
    · exact fun h => absurd (Lookup.returned.inj h).1 (by decide)

theorem returned_eq_found_iff {total : Int} {tok : List Char} {wanted : Option (List Char)} :
    Lookup.returned 0 tok = found wanted ↔
      some tok = wanted ∧ (wanted = none → total < 2 ^ 31) := by
  cases wanted with
  | none =>
    refine iff_of_false (fun h => ?_) fun h => Option.some_ne_none _ h.1
    exact absurd (Lookup.returned.inj h).1 (by decide)
  | some tok' =>
    refine ⟨fun h => ⟨congrArg some (Lookup.returned.inj h).2, fun hnone => ?_⟩,
      fun h => congrArg (Lookup.returned 0) (Option.some.inj h.1)⟩
    exact absurd hnone (Option.some_ne_none tok')

theorem outcome_eq_found_iff {total : Int} {piece wanted : Option (List Char)} :
    outcome (isDelim delim) stringNumber total piece = found wanted ↔
      (piece.bind (token (isDelim delim) stringNumber)).map (List.take maximumStringLength) =
          wanted ∧
        (stringNumber = 1 → ∀ text ∈ piece, tokens (isDelim delim) text ≠ []) ∧
        (wanted = none → total < 2 ^ 31) := by
  cases piece with
  | none =>
    refine ending_eq_found_iff.trans (and_congr_right fun _ => ?_)
    exact (and_iff_right fun _ _ h => absurd h (by simp)).symm
  | some text =>
    rw [outcome, Option.bind_some]
    by_cases hblank : tokens (isDelim delim) text = [] ∧ stringNumber = 1
    · rw [if_pos hblank]
      refine iff_of_false (by cases wanted <;> exact Lookup.noConfusion) fun h => ?_
      exact h.2.1 hblank.2 text rfl hblank.1
    · have htokens : stringNumber = 1 → ∀ t ∈ some text, tokens (isDelim delim) t ≠ [] := by
        rintro hone _ ⟨⟩ hnil
        exact hblank ⟨hnil, hone⟩
      rw [if_neg hblank, and_iff_right htokens]
      cases token (isDelim delim) stringNumber text with
      | none => exact ending_eq_found_iff
      | some tok => exact returned_eq_found_iff

theorem search_exact_iff (fopen : String → Option (List Char)) (fileName : String)
    (out : List Char) (hopen : fopen fileName = some contents) (hnul : nul ∉ contents)
    (hline : 1 ≤ stringLine) (hlimit : stringLine < 2 ^ 31) (hnumber : 1 ≤ stringNumber) :
    tcpServerDiagFunctionSearchString fopen (some fileName) (some delim) (some out)
        maximumBufferLength stringLine stringNumber =
          found (lineToken delim contents stringLine stringNumber) ↔
      Readable delim contents stringLine stringNumber := by
  rw [search_eq_outcome hopen hnul hline hlimit hnumber, outcome_eq_found_iff]
  refine ⟨fun h => ⟨h.1, h.2.1, fun hnone => ?_⟩, fun h => ⟨h.aligned, h.token, fun hnone => ?_⟩⟩
  · have hcount := h.2.2 hnone
    omega
  · have hcount := h.count hnone
    omega

theorem tokens_takeWhile (hdelim : newline ∈ delim) {line : List Char}
    (h : line ∈ lines newline contents) :
    tokens (isDelim delim) (line.takeWhile (· ≠ newline)) = tokens (isDelim delim) line := by
  obtain ⟨-, w, hw, hline⟩ := mem_lines h
  have hne : ∀ c ∈ w, decide (c ≠ newline) = true :=
    fun c hc => decide_eq_true fun heq => hw (heq ▸ hc)
  rcases hline with rfl | rfl
  · rw [List.takeWhile_eq_self_iff.mpr hne]
  · have hcut : (w ++ [newline]).takeWhile (· ≠ newline) = w := by
      rw [List.takeWhile_append_of_pos hne]
      simp
    have hnewline : isDelim delim newline = true := decide_eq_true hdelim
    rw [hcut, tokens_concat hnewline]

theorem readable_of_short (hdelim : newline ∈ delim) (hline : 1 ≤ stringLine)
    (hshort : ∀ line ∈ (lines newline contents).take stringLine.toNat,
      line.length < maximumStringLength)
    (hblank : stringNumber = 1 → ∀ line ∈ lineAt contents stringLine,
      tokens (isDelim delim) line ≠ [])
    (hcount : (filePieces contents).length < 2 ^ 31 - 1) :
    Readable delim contents stringLine stringNumber := by
  have hsucc : stringLine.toNat - 1 + 1 = stringLine.toNat := by omega
  have hpiece : pieceAt contents stringLine =
      (lines newline contents)[stringLine.toNat - 1]? := by
    refine pieces_getElem? fun line hmem => ?_
    rw [hsucc] at hmem
    exact Nat.le_of_lt_succ (hshort line hmem)
  cases hthere : (lines newline contents)[stringLine.toNat - 1]? with
  | none =>
    rw [hthere] at hpiece
    have hlineAt : lineAt contents stringLine = none := by rw [lineAt, hthere]; rfl
    refine ⟨by rw [pieceToken, lineToken, hpiece, hlineAt], fun _ piece hp => ?_, fun _ => hcount⟩
    rw [hpiece] at hp
    exact absurd hp.symm (Option.some_ne_none piece)
  | some line =>
    rw [hthere] at hpiece
    have hmem := List.mem_of_getElem? hthere
    have hlineAt : lineAt contents stringLine = some (line.takeWhile (· ≠ newline)) := by
      rw [lineAt, hthere]
      rfl
    have htokens := tokens_takeWhile hdelim hmem
    refine ⟨?_, fun hone piece hp => ?_, fun _ => hcount⟩
    · rw [pieceToken, lineToken, hpiece, hlineAt, Option.bind_some, Option.bind_some,
        Chassisd.token, Chassisd.token, htokens]
    · rw [hpiece] at hp
      obtain rfl := Option.some.inj hp
      rw [← htokens]
      exact hblank hone _ hlineAt

def slotDelims : List Char := [' ', ':', ',', Char.ofNat 13, newline]

theorem slot_number_found :
    tcpServerDiagFunctionSearchString (fun _ => some ['3', '3', newline]) (some "us_card_number")
        (some slotDelims) (some []) maximumBufferLength 1 1 =
      found (lineToken slotDelims ['3', '3', newline] 1 1) :=
  (search_exact_iff _ _ _ rfl (by decide) (by decide) (by decide) (by decide)).mpr
    (readable_of_short (by decide) (by decide) (by decide +kernel)
      (fun _ line hline => by
        obtain rfl : ['3', '3'] = line := Option.some.inj
          ((by decide +kernel : some ['3', '3'] = lineAt ['3', '3', newline] 1).trans hline)
        decide +kernel)
      (by decide +kernel))

theorem blank_line_null_token :
    ¬ ∀ (fopen : String → Option (List Char)) (fileName : String)
      (delim out contents : List Char) (stringLine stringNumber : Int),
      fopen fileName = some contents → nul ∉ contents → newline ∈ delim → 1 ≤ stringLine →
        stringLine < 2 ^ 31 → 1 ≤ stringNumber →
          tcpServerDiagFunctionSearchString fopen (some fileName) (some delim) (some out)
              maximumBufferLength stringLine stringNumber =
            found (lineToken delim contents stringLine stringNumber) := by
  intro h
  have hblank := h (fun _ => some [newline]) "us_card_number" slotDelims [] [newline] 1 1 rfl
    (by decide) (by decide) (by decide) (by decide) (by decide)
  have hnull : tcpServerDiagFunctionSearchString (fun _ => some [newline]) (some "us_card_number")
      (some slotDelims) (some []) maximumBufferLength 1 1 = .nullToken := by decide +kernel
  rw [hnull] at hblank
  cases hfound : lineToken slotDelims [newline] 1 1 with
  | none => rw [hfound] at hblank; exact Lookup.noConfusion hblank
  | some tok => rw [hfound] at hblank; exact Lookup.noConfusion hblank

end Exactness

end Chassisd
