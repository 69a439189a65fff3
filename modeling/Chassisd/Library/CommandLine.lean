import Chassisd.Library.TextFile

namespace CommandLine

section Words

-- A line of plain words: nothing in it is quoted, expanded or redirected.
def commands (line : List Char) : List (List Char) := line.splitOnP (· == ';')

def words (command : List Char) : List (List Char) :=
  (command.splitOnP (· == ' ')).filter (· ≠ [])

def unwords (ws : List (List Char)) : List Char := ws.flatMap fun w => w ++ [' ']

theorem commands_append (line rest : List Char) :
    commands (line ++ ';' :: rest) = commands line ++ commands rest :=
  List.splitOnP_append_cons line rest rfl

theorem commands_single {line : List Char} (h : ';' ∉ line) : commands line = [line] :=
  List.splitOnP_eq_singleton fun c hc => by
    rw [beq_eq_false_iff_ne]
    rintro rfl
    exact h hc

theorem words_append (command rest : List Char) :
    words (command ++ ' ' :: rest) = words command ++ words rest := by
  rw [words, List.splitOnP_append_cons command rest rfl, List.filter_append]
  rfl

theorem words_single {w : List Char} (hne : w ≠ []) (h : ' ' ∉ w) : words w = [w] := by
  have hsplit : w.splitOnP (· == ' ') = [w] :=
    List.splitOnP_eq_singleton fun c hc => by
      rw [beq_eq_false_iff_ne]
      rintro rfl
      exact h hc
  rw [words, hsplit, List.filter_singleton, decide_eq_true hne]
  rfl

theorem words_cons {w : List Char} (hne : w ≠ []) (h : ' ' ∉ w) (rest : List Char) :
    words (w ++ ' ' :: rest) = w :: words rest := by
  rw [words_append, words_single hne h]
  rfl

theorem words_unwords (ws : List (List Char)) (hne : ∀ w ∈ ws, w ≠ []) (h : ∀ w ∈ ws, ' ' ∉ w)
    (last : List Char) : words (unwords ws ++ last) = ws ++ words last := by
  induction ws with
  | nil => rfl
  | cons w ws ih =>
    have hrest := ih (fun v hv => hne v (List.mem_cons_of_mem w hv))
      fun v hv => h v (List.mem_cons_of_mem w hv)
    have hsplit : unwords (w :: ws) ++ last = w ++ ' ' :: (unwords ws ++ last) := by
      simp [unwords]
    rw [hsplit, words_cons (hne w List.mem_cons_self) (h w List.mem_cons_self), hrest]
    rfl

end Words

section Options

-- getopt with every letter followed by ':', to the end of the words: operands are passed over, and
-- none is the '?' of an unknown letter or a missing argument.
def getopt (letters : List Char) : List (List Char) → Option (List (Char × List Char))
  | [] => some []
  | word :: rest =>
    match word with
    | '-' :: c :: arg =>
      if c = '-' ∧ arg = [] then some []
      else if c ∈ letters then
        match arg, rest with
        | [], [] => none
        | [], next :: rest => (getopt letters rest).map ((c, next) :: ·)
        | d :: arg, rest => (getopt letters rest).map ((c, d :: arg) :: ·)
      else none
    | _ => getopt letters rest

variable {letters : List Char}

theorem getopt_option {c : Char} (hc : c ∈ letters) (hdash : c ≠ '-') (arg : List Char)
    (rest : List (List Char)) :
    getopt letters (['-', c] :: arg :: rest) = (getopt letters rest).map ((c, arg) :: ·) := by
  simp only [getopt]
  rw [if_neg fun h => hdash h.1, if_pos hc]

end Options

section Filters

def grep (pattern text : List Char) : List (List Char) :=
  (text.splitOnP (· == '\n')).filter fun line => decide (pattern <:+: line)

def isBlank (c : Char) : Bool := c == ' ' || c == '\t'

def column (line : List Char) (n : Nat) : List Char :=
  (TextFile.tokens isBlank line).getD (n - 1) []

theorem grep_append (pattern text rest : List Char) :
    grep pattern (text ++ '\n' :: rest) = grep pattern text ++ grep pattern rest := by
  rw [grep, List.splitOnP_append_cons text rest rfl, List.filter_append]
  rfl

theorem grep_single (pattern : List Char) {line : List Char} (h : '\n' ∉ line) :
    grep pattern line = if pattern <:+: line then [line] else [] := by
  have hsplit : line.splitOnP (· == '\n') = [line] :=
    List.splitOnP_eq_singleton fun c hc => by
      rw [beq_eq_false_iff_ne]
      rintro rfl
      exact h hc
  rw [grep, hsplit, List.filter_singleton]
  split_ifs with hin
  · rw [decide_eq_true hin]
    rfl
  · rw [decide_eq_false hin]
    rfl

theorem words_blank (rest : List Char) : words (' ' :: rest) = words rest := words_append [] rest

theorem commands_flatMap {cs : List (List Char)} (h : ∀ c ∈ cs, ';' ∉ c) :
    commands (cs.flatMap (· ++ [';'])) = cs ++ [[]] := by
  induction cs with
  | nil => rfl
  | cons c cs ih =>
    have hsplit : (c :: cs).flatMap (· ++ [';']) = c ++ ';' :: cs.flatMap (· ++ [';']) := by simp
    rw [hsplit, commands_append, commands_single (h c List.mem_cons_self),
      ih fun d hd => h d (List.mem_cons_of_mem c hd)]
    rfl

theorem tokens_unwords {delim : Char → Bool} (hblank : delim ' ' = true) {ws : List (List Char)}
    (hne : ∀ w ∈ ws, w ≠ []) (h : ∀ w ∈ ws, ∀ c ∈ w, delim c = false) (last : List Char) :
    TextFile.tokens delim (unwords ws ++ last) = ws ++ TextFile.tokens delim last := by
  induction ws with
  | nil => rfl
  | cons w ws ih =>
    have hsplit : unwords (w :: ws) ++ last = w ++ ' ' :: (unwords ws ++ last) := by
      simp [unwords]
    rw [hsplit, TextFile.tokens_append hblank,
      TextFile.tokens_word (hne w List.mem_cons_self) (h w List.mem_cons_self),
      ih (fun v hv => hne v (List.mem_cons_of_mem w hv))
        fun v hv => h v (List.mem_cons_of_mem w hv)]
    rfl

end Filters

section Numbers

def hexValue (c : Char) : Option Nat :=
  if '0' ≤ c ∧ c ≤ '9' then some (c.toNat - '0'.toNat)
  else if 'a' ≤ c ∧ c ≤ 'f' then some (c.toNat - 'a'.toNat + 10)
  else if 'A' ≤ c ∧ c ≤ 'F' then some (c.toNat - 'A'.toNat + 10)
  else none

def hexDigits : List Char → Nat → Nat
  | [], n => n
  | c :: text, n =>
    match hexValue c with
    | some d => hexDigits text (16 * n + d)
    | none => n

def skipBase : List Char → List Char
  | '0' :: x :: d :: text =>
    if (x = 'x' ∨ x = 'X') ∧ (hexValue d).isSome then d :: text else '0' :: x :: d :: text
  | text => text

-- strtoul(text, NULL, 16) of a 64-bit unsigned long
def strtoul16 (text : List Char) : Nat :=
  let text := text.dropWhile CString.isspace
  let magnitude := fun text => min (hexDigits (skipBase text) 0) (2 ^ 64 - 1)
  match text with
  | '-' :: text => (2 ^ 64 - magnitude text) % 2 ^ 64
  | '+' :: text => magnitude text
  | text => magnitude text

-- strtol(text, NULL, 16) of a 64-bit long
def strtol16 (text : List Char) : Int :=
  let text := text.dropWhile CString.isspace
  let magnitude := fun text => (hexDigits (skipBase text) 0 : Int)
  CString.saturate (match text with
    | '-' :: text => -magnitude text
    | '+' :: text => magnitude text
    | text => magnitude text)

-- "%x"
def hexText (n : Nat) : List Char := Nat.toDigits 16 n

theorem hexValue_digitChar : ∀ d < 16, hexValue (Nat.digitChar d) = some d := by decide

theorem hexDigits_append {digits : List Char} {ds : List Nat}
    (h : digits.map hexValue = ds.map some) (rest : List Char) (n : Nat) :
    hexDigits (digits ++ rest) n = hexDigits rest (ds.foldl (fun n d => 16 * n + d) n) := by
  induction digits generalizing ds n with
  | nil =>
    obtain rfl : ds = [] := by simpa using h.symm
    rfl
  | cons c digits ih =>
    cases ds with
    | nil => simp at h
    | cons d ds =>
      rw [List.map_cons, List.map_cons, List.cons.injEq] at h
      rw [List.cons_append, hexDigits, h.1, List.foldl_cons]
      exact ih h.2 _

theorem hexText_eq (n : Nat) : hexText n =
    if n < 16 then [Nat.digitChar n] else hexText (n / 16) ++ [Nat.digitChar (n % 16)] :=
  Nat.toDigits_eq_if (by decide)

theorem hexText_spec (n : Nat) : ∃ ds : List Nat, (hexText n).map hexValue = ds.map some ∧
    ds.foldl (fun n d => 16 * n + d) 0 = n ∧ hexText n ≠ [] := by
  induction n using Nat.strong_induction_on with
  | _ n ih =>
    rw [hexText_eq]
    split_ifs with hn
    · exact ⟨[n], by simp [hexValue_digitChar n hn], by simp, by simp⟩
    · obtain ⟨ds, hdigits, hvalue, -⟩ := ih (n / 16) (by omega)
      refine ⟨ds ++ [n % 16], ?_, ?_, by simp⟩
      · simp [hdigits, hexValue_digitChar (n % 16) (Nat.mod_lt _ (by decide))]
      · rw [List.foldl_append, hvalue, List.foldl_cons, List.foldl_nil]
        omega

theorem hexDigits_hexText (n : Nat) : hexDigits (hexText n) 0 = n := by
  obtain ⟨ds, hdigits, hvalue, -⟩ := hexText_spec n
  have h := hexDigits_append hdigits [] 0
  rw [List.append_nil, hexDigits, hvalue] at h
  exact h

theorem hexText_cons (n : Nat) : ∃ c digits, hexText n = c :: digits ∧ (hexValue c).isSome := by
  obtain ⟨ds, hdigits, -, hne⟩ := hexText_spec n
  obtain ⟨c, digits, heq⟩ := List.exists_cons_of_ne_nil hne
  rw [heq] at hdigits
  cases ds with
  | nil => simp at hdigits
  | cons d ds =>
    rw [List.map_cons, List.map_cons, List.cons.injEq] at hdigits
    exact ⟨c, digits, heq, by rw [hdigits.1]; rfl⟩

theorem strtoul16_hexText {n : Nat} (hn : n < 2 ^ 64) :
    strtoul16 ('0' :: 'x' :: hexText n) = n := by
  obtain ⟨c, digits, heq, hc⟩ := hexText_cons n
  have hskip : skipBase ('0' :: 'x' :: hexText n) = hexText n := by
    rw [heq, skipBase, if_pos ⟨.inl rfl, hc⟩]
  have hvalue : min (hexDigits (skipBase ('0' :: 'x' :: hexText n)) 0) (2 ^ 64 - 1) = n := by
    rw [hskip, hexDigits_hexText]
    omega
  rw [strtoul16, List.dropWhile_cons_of_neg (by decide)]
  exact hvalue

end Numbers

end CommandLine
