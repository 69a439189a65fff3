import Chassisd.Library.CString

namespace TextFile

section Tokens

variable {α : Type*} (delim : α → Bool)

def tokens (text : List α) : List (List α) := (text.splitOnP delim).filter fun w => !w.isEmpty

variable {delim}

@[simp] theorem tokens_nil : tokens delim [] = [] := rfl

theorem tokens_append {c : α} (hc : delim c = true) (x y : List α) :
    tokens delim (x ++ c :: y) = tokens delim x ++ tokens delim y := by
  rw [tokens, List.splitOnP_append_cons x y hc, List.filter_append]
  rfl

theorem tokens_cons {c : α} (hc : delim c = true) (y : List α) :
    tokens delim (c :: y) = tokens delim y := tokens_append hc [] y

theorem tokens_concat {c : α} (hc : delim c = true) (x : List α) :
    tokens delim (x ++ [c]) = tokens delim x := by
  rw [tokens_append hc, tokens_nil, List.append_nil]

theorem tokens_word {w : List α} (hne : w ≠ []) (h : ∀ c ∈ w, delim c = false) :
    tokens delim w = [w] := by
  rw [tokens, List.splitOnP_eq_singleton fun c hc => h c hc]
  simp [hne]

theorem tokens_dropWhile (text : List α) :
    tokens delim (text.dropWhile delim) = tokens delim text := by
  induction text with
  | nil => rfl
  | cons c text ih =>
    by_cases hc : delim c = true
    · rw [List.dropWhile_cons_of_pos hc, ih, tokens_cons hc]
    · rw [List.dropWhile_cons_of_neg hc]

theorem tokens_of_strtok_none {text : List α} (h : CString.strtok delim text = none) :
    tokens delim text = [] := by
  rw [← tokens_dropWhile]
  unfold CString.strtok at h
  split at h
  · next hnil => rw [hnil, tokens_nil]
  · exact absurd h (Option.some_ne_none _)

theorem not_of_dropWhile_eq_cons {p : α → Bool} {text s : List α} {c : α}
    (h : text.dropWhile p = c :: s) : p c = false := by
  have hhead := List.head_dropWhile_not (l := text) p (by simp [h])
  simpa [h] using hhead

theorem tokens_of_strtok {text tok rest : List α}
    (h : CString.strtok delim text = some (tok, rest)) :
    tokens delim text = tok :: tokens delim rest ∧ rest.length < text.length := by
  unfold CString.strtok at h
  split at h
  · exact absurd h.symm (Option.some_ne_none _)
  · next c s hcons =>
    obtain ⟨rfl, rfl⟩ := Prod.mk.inj (Option.some.inj h)
    have hc : delim c = false := not_of_dropWhile_eq_cons hcons
    have hword : ∀ x ∈ (c :: s).takeWhile (fun x => !delim x), delim x = false := by
      intro x hx
      simpa using List.mem_takeWhile_imp hx
    have hne : (c :: s).takeWhile (fun x => !delim x) ≠ [] := by simp [hc]
    have hsplit := List.takeWhile_append_dropWhile (p := fun x => !delim x) (l := c :: s)
    have hlength : (c :: s).length ≤ text.length := by
      rw [← hcons]
      exact List.length_dropWhile_le delim text
    rw [← tokens_dropWhile, hcons]
    cases hrest : (c :: s).dropWhile (fun x => !delim x) with
    | nil =>
      rw [hrest, List.append_nil] at hsplit
      refine ⟨?_, (Nat.zero_lt_succ s.length).trans_le hlength⟩
      conv_lhs => rw [← hsplit]
      rw [tokens_word hne hword]
      rfl
    | cons d tail =>
      have hd : delim d = true := by simpa using not_of_dropWhile_eq_cons hrest
      rw [hrest] at hsplit
      refine ⟨?_, ?_⟩
      · conv_lhs => rw [← hsplit]
        rw [tokens_append hd, tokens_word hne hword]
        rfl
      · have hsum := congrArg List.length hsplit
        rw [List.length_append, List.length_cons] at hsum
        rw [List.tail_cons]
        omega

end Tokens

section Pieces

variable {α : Type*}

def consHead (c : α) : List (List α) → List (List α)
  | [] => [[c]]
  | l :: ls => (c :: l) :: ls

-- A line cut after every k + 1 bytes; room + 1 bytes come before the first cut.
def piecesFrom (k : Nat) : Nat → List α → List (List α)
  | _, [] => []
  | 0, c :: s => [c] :: piecesFrom k k s
  | room + 1, c :: s => consHead c (piecesFrom k room s)

def pieces (k : Nat) (l : List α) : List (List α) := piecesFrom k k l

def restPieces (k room : Nat) : List (List α) → List (List α)
  | [] => []
  | l :: ls => piecesFrom k room l ++ ls.flatMap (pieces k)

theorem consHead_append (c : α) {l ls : List (List α)} (h : l ≠ []) :
    consHead c (l ++ ls) = consHead c l ++ ls := by
  obtain ⟨w, ws, rfl⟩ := List.exists_cons_of_ne_nil h
  rfl

theorem piecesFrom_ne_nil {k room : Nat} {l : List α} (h : l ≠ []) : piecesFrom k room l ≠ [] := by
  obtain ⟨c, s, rfl⟩ := List.exists_cons_of_ne_nil h
  cases room with
  | zero => exact List.cons_ne_nil _ _
  | succ room =>
    rw [piecesFrom]
    cases piecesFrom k room s <;> exact List.cons_ne_nil _ _

theorem restPieces_full (k : Nat) (ls : List (List α)) :
    restPieces k k ls = ls.flatMap (pieces k) := by
  cases ls <;> rfl

theorem flatten_consHead (c : α) (l : List (List α)) :
    (consHead c l).flatten = c :: l.flatten := by
  cases l <;> rfl

theorem flatten_piecesFrom (k room : Nat) (l : List α) : (piecesFrom k room l).flatten = l := by
  induction l generalizing room with
  | nil => cases room <;> rfl
  | cons c l ih =>
    cases room with
    | zero => exact congrArg (c :: ·) (ih k)
    | succ room => rw [piecesFrom, flatten_consHead, ih]

theorem piecesFrom_short {k room : Nat} {l : List α} (hne : l ≠ []) (h : l.length ≤ room + 1) :
    piecesFrom k room l = [l] := by
  induction l generalizing room with
  | nil => exact absurd rfl hne
  | cons c l ih =>
    cases l with
    | nil => cases room <;> rfl
    | cons d l =>
      cases room with
      | zero => exact absurd h (by simp)
      | succ room =>
        rw [piecesFrom, ih (List.cons_ne_nil d l) (Nat.le_of_succ_le_succ h)]
        rfl

end Pieces

section Lines

variable {α : Type*} [DecidableEq α] (nl : α)

def lines : List α → List (List α)
  | [] => []
  | c :: s => if c = nl then [c] :: lines s else consHead c (lines s)

def through : Nat → List α → List α × List α
  | 0, s => ([], s)
  | _ + 1, [] => ([], [])
  | room + 1, c :: s =>
    if c = nl then ([c], s) else (c :: (through room s).1, (through room s).2)

def fgets (size : Nat) : List α → Option (List α × List α)
  | [] => none
  | c :: s => some (through nl (size - 1) (c :: s))

-- What `while (fgets(...))` reads; every read takes a byte, so the file's length is fuel enough.
def readsWithin (size : Nat) : Nat → List α → List (List α)
  | 0, _ => []
  | fuel + 1, s =>
    match fgets nl size s with
    | none => []
    | some (read, rest) => read :: readsWithin size fuel rest

def reads (size : Nat) (s : List α) : List (List α) := readsWithin nl size s.length s

variable {nl}

theorem mem_lines {s l : List α} (h : l ∈ lines nl s) :
    l ≠ [] ∧ ∃ w, nl ∉ w ∧ (l = w ∨ l = w ++ [nl]) := by
  induction s generalizing l with
  | nil => exact absurd h List.not_mem_nil
  | cons c s ih =>
    rw [lines] at h
    split_ifs at h with hc
    · rcases List.mem_cons.mp h with rfl | htail
      · exact ⟨List.cons_ne_nil _ _, [], List.not_mem_nil, .inr (by rw [hc]; rfl)⟩
      · exact ih htail
    · have hcons : ∀ w : List α, nl ∉ w → nl ∉ c :: w := fun w hw hmem =>
        (List.mem_cons.mp hmem).elim (fun heq => hc heq.symm) hw
      cases htail : lines nl s with
      | nil =>
        rw [htail] at h
        obtain rfl := List.mem_singleton.mp h
        exact ⟨List.cons_ne_nil _ _, [c], hcons [] List.not_mem_nil, .inl rfl⟩
      | cons l' ls =>
        rw [htail] at h ih
        rcases List.mem_cons.mp h with rfl | hrest
        · obtain ⟨-, w, hw, hl⟩ := ih List.mem_cons_self
          refine ⟨List.cons_ne_nil _ _, c :: w, hcons w hw, ?_⟩
          exact hl.imp (congrArg (c :: ·)) (congrArg (c :: ·))
        · exact ih (List.mem_cons_of_mem _ hrest)

theorem flatten_lines (s : List α) : (lines nl s).flatten = s := by
  induction s with
  | nil => rfl
  | cons c s ih =>
    rw [lines]
    split_ifs
    · exact congrArg (c :: ·) ih
    · rw [flatten_consHead, ih]

theorem mem_of_mem_pieces {k : Nat} {s p : List α} {c : α}
    (hp : p ∈ (lines nl s).flatMap (pieces k)) (hc : c ∈ p) : c ∈ s := by
  obtain ⟨l, hl, hpl⟩ := List.mem_flatMap.mp hp
  have hlines : (lines nl s).flatten = s := flatten_lines s
  rw [← hlines]
  refine List.mem_flatten.mpr ⟨l, hl, ?_⟩
  rw [← flatten_piecesFrom k k l]
  exact List.mem_flatten.mpr ⟨p, hpl, hc⟩

theorem lines_eq_nil {s : List α} : lines nl s = [] ↔ s = [] := by
  cases s with
  | nil => exact iff_of_true rfl rfl
  | cons c s =>
    refine iff_of_false ?_ (List.cons_ne_nil c s)
    rw [lines]
    split_ifs
    · exact not_false
    · cases lines nl s <;> exact List.cons_ne_nil _ _

theorem restPieces_lines (k room : Nat) {s : List α} (h : s ≠ []) :
    restPieces k room (lines nl s) =
      (through nl (room + 1) s).1 ::
        (lines nl (through nl (room + 1) s).2).flatMap (pieces k) := by
  induction s generalizing room with
  | nil => exact absurd rfl h
  | cons c s ih =>
    rw [lines, through]
    split_ifs with hc
    · cases room <;> rfl
    · cases room with
      | zero =>
        rw [through]
        cases lines nl s with
        | nil => rfl
        | cons l ls => rfl
      | succ room =>
        by_cases hs : s = []
        · subst hs
          rfl
        · have hstep := ih room hs
          cases hlines : lines nl s with
          | nil => exact absurd (lines_eq_nil.mp hlines) hs
          | cons l ls =>
            have hl : l ≠ [] := (mem_lines (hlines ▸ List.mem_cons_self)).1
            rw [hlines] at hstep
            have hhead : consHead c (piecesFrom k room l ++ ls.flatMap (pieces k)) =
                consHead c (piecesFrom k room l) ++ ls.flatMap (pieces k) :=
              consHead_append c (piecesFrom_ne_nil hl)
            calc restPieces k (room + 1) (consHead c (l :: ls))
                = consHead c (piecesFrom k room l) ++ ls.flatMap (pieces k) := rfl
              _ = consHead c (restPieces k room (l :: ls)) := hhead.symm
              _ = _ := by rw [hstep]; rfl

theorem through_length (room : Nat) (s : List α) :
    (through nl room s).2.length ≤ s.length := by
  induction s generalizing room with
  | nil => cases room <;> exact le_refl 0
  | cons c s ih =>
    cases room with
    | zero => exact le_refl _
    | succ room =>
      rw [through]
      split_ifs
      · exact Nat.le_succ _
      · exact (ih room).trans (Nat.le_succ _)

theorem through_length_lt (room : Nat) (c : α) (s : List α) :
    (through nl (room + 1) (c :: s)).2.length ≤ s.length := by
  rw [through]
  split_ifs
  · exact le_refl _
  · exact through_length room s

theorem reads_eq_pieces (k : Nat) (s : List α) :
    reads nl (k + 2) s = (lines nl s).flatMap (pieces k) := by
  have hwithin : ∀ fuel (s : List α), s.length ≤ fuel →
      readsWithin nl (k + 2) fuel s = (lines nl s).flatMap (pieces k) := by
    intro fuel
    induction fuel with
    | zero =>
      intro s hs
      obtain rfl := List.length_eq_zero_iff.mp (Nat.le_zero.mp hs)
      rfl
    | succ fuel ih =>
      intro s hs
      cases s with
      | nil => rfl
      | cons c s =>
        have hrest : (through nl (k + 1) (c :: s)).2.length ≤ fuel :=
          (through_length_lt k c s).trans (Nat.le_of_succ_le_succ hs)
        rw [← restPieces_full, restPieces_lines k k (List.cons_ne_nil c s), ← ih _ hrest]
        rfl
  exact hwithin s.length s (le_refl _)

theorem pieces_getElem? {k i : Nat} {s : List α}
    (h : ∀ l ∈ (lines nl s).take (i + 1), l.length ≤ k + 1) :
    ((lines nl s).flatMap (pieces k))[i]? = (lines nl s)[i]? := by
  have hall : ∀ (i : Nat) (ls : List (List α)), (∀ l ∈ ls, l ≠ []) →
      (∀ l ∈ ls.take (i + 1), l.length ≤ k + 1) → (ls.flatMap (pieces k))[i]? = ls[i]? := by
    intro i ls hne hshort
    induction ls generalizing i with
    | nil => rfl
    | cons l ls ih =>
      have hl : pieces k l = [l] :=
        piecesFrom_short (hne l List.mem_cons_self) (hshort l List.mem_cons_self)
      rw [List.flatMap_cons, hl]
      cases i with
      | zero => rfl
      | succ i =>
        exact ih i (fun l' hl' => hne l' (List.mem_cons_of_mem _ hl'))
          fun l' hl' => hshort l' (List.mem_cons_of_mem _ hl')
  exact hall i _ (fun l hl => (mem_lines hl).1) h

end Lines

end TextFile
