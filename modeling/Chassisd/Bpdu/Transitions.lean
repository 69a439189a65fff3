import Chassisd.Bpdu.Identity

namespace Chassisd

inductive Legal : ChassisCtpmState → ChassisCtpmState → Prop
  | stay (s : ChassisCtpmState) : Legal s s
  | hear : Legal .block .listening
  | learn : Legal .listening .learning
  | forward : Legal .learning .forwarding
  | fall : Legal .forwarding .block

inductive Reaction (c c' : Chassis) : Prop
  | wakes (hs : c.ctpm.state = .block) (hs' : c'.ctpm.state = .listening)
      (ht : c'.ctpm.timeSinceTopoChange = 0)
  | stays (hs : c'.ctpm.state = c.ctpm.state)
      (ht : c.ctpm.state = .forwarding ∨
        c'.ctpm.timeSinceTopoChange = c.ctpm.timeSinceTopoChange)
  | falls (hs : c.ctpm.state = .forwarding) (hs' : c'.ctpm.state = .block)

section Reactions

variable (bpdu : RstpBpdu) (c : Chassis)

theorem lcSyncToHello_state (hs : c.ctpm.state = .forwarding) :
    (lcSyncToHello bpdu c).ctpm.state = .forwarding := by
  unfold lcSyncToHello
  dsimp only
  split_ifs <;> simp [hs]

variable {bpdu c}

theorem LineRx.reaction {c' : Chassis} (h : LineRx bpdu c c') : Reaction c c' := by
  cases h with
  | wake hs =>
    refine .wakes hs ?_ ?_ <;>
      simp only [inUpdateChassisMember_frame, txInfoBpdu_frame, takeTimes_frame,
        adopt_frame, wake_frame]
  | adopt hs hcheck =>
    refine .stays ?_ (.inr ?_) <;>
      simp only [inUpdateChassisMember_frame, adopt_frame]
  | agree => exact .stays rfl (.inr rfl)
  | lcChange hs ht => exact .falls hs (by simp)
  | sync hs ht hr hd =>
    have hkeep := lcSyncToHello_state bpdu (restartTimer (inUpdateChassisMember bpdu c)) hs
    exact .stays (hkeep.trans hs.symm) (.inl hs)
  | relay hs => exact .stays rfl (.inl hs)
  | reply hs => exact .stays rfl (.inl hs)
  | config hs => exact .stays rfl (.inl hs)
  | other hs => exact .stays rfl (.inl hs)
  | disabled => exact .stays rfl (.inr rfl)

theorem FabricRx.reaction {c' : Chassis} (h : FabricRx bpdu c c') : Reaction c c' := by
  cases h with
  | wake hs =>
    refine .wakes hs ?_ ?_ <;>
      simp only [inUpdateChassisMember_frame, takeTimes_frame, adopt_frame,
        wake_frame]
  | adopt hs hcheck =>
    refine .stays ?_ (.inr ?_) <;>
      simp only [inUpdateChassisMember_frame, adopt_frame]
  | agree => exact .stays rfl (.inr rfl)
  | sync hs ht hr hd =>
    have hkeep := lcSyncToHello_state bpdu (restartTimer (inUpdateChassisMember bpdu c)) hs
    exact .stays (hkeep.trans hs.symm) (.inl hs)
  | echo hs => exact .stays rfl (.inl hs)
  | hear hs => exact .stays rfl (.inl hs)
  | config hs => exact .stays rfl (.inl hs)
  | elect hs => exact .stays (by simp) (.inl hs)
  | alone hs => exact .falls hs (by simp)
  | lcChange hs => exact .falls hs (by simp)
  | other hs => exact .stays rfl (.inl hs)
  | disabled => exact .stays rfl (.inr rfl)

theorem Reaction.legal {c' : Chassis} (h : Reaction c c') :
    Legal c.ctpm.state c'.ctpm.state := by
  cases h with
  | wakes hs hs' => rw [hs, hs']; exact .hear
  | stays hs => rw [hs]; exact .stay _
  | falls hs hs' => rw [hs, hs']; exact .fall

theorem step_rx_reaction (bpdu : RstpBpdu) (len : Nat) (c : Chassis) :
    Reaction c (step (.rx bpdu len) c) := by
  have h := stepped (.rx bpdu len) c
  generalize step (.rx bpdu len) c = c' at h
  cases h with
  | dropped _ rx => exact .stays rfl (.inr rfl)
  | line _ _ h =>
    cases h.reaction with
    | wakes hs hs' ht => exact .wakes hs hs' ht
    | stays hs ht => exact .stays hs ht
    | falls hs hs' => exact .falls hs hs'
  | fabric _ _ h =>
    cases h.reaction with
    | wakes hs hs' ht => exact .wakes hs hs' ht
    | stays hs ht => exact .stays hs ht
    | falls hs hs' => exact .falls hs hs'

theorem Ticked.legal {c' : Chassis} (h : Ticked c c') : Legal c.ctpm.state c'.ctpm.state := by
  cases h with
  | learn hs => rw [hs]; exact .learn
  | forward hs => rw [hs]; exact .forward
  | alone hs => rw [hs]; simpa using Legal.fall
  | lost hs => rw [hs]; simpa using Legal.fall
  | _ => exact .stay _

theorem Ticked.block {c' : Chassis} (h : Ticked c c') (hs : c.ctpm.state = .block) :
    c'.ctpm.state = .block := by
  cases h with
  | config | blockTimeout | blockLine => exact hs
  | learn hs' | listenFabric hs' | listenLine hs' | learning hs' | forward hs' | elect hs'
  | alone hs' | hello hs' | lost hs' | wait hs' | disabled hs' =>
    rw [hs] at hs'; cases hs'

end Reactions

section Delays

def Event.isTick : Event → Bool
  | .tick => true
  | _ => false

def ticks (es : List Event) : Nat := es.countP Event.isTick

def listeningDwell : Nat := defaultForwardDelay.toNat + 2

def learningDwell (type : CardType) : Nat :=
  match type with
  | .fabricCard => defaultForwardDelay.toNat + 1
  | .lineCard => 2 * defaultForwardDelay.toNat + 2

structure Dwelling (k n : Nat) (c : Chassis) : Prop where
  number : c.usCardNumber = k
  admin : c.ctpm.adminState = .enabled
  listening : n < 5 → c.ctpm.state = .listening ∧ c.ctpm.timeSinceTopoChange = n
  learning : 5 ≤ n → c.ctpm.state = .learning ∧ c.ctpm.timeSinceTopoChange = n - 5
  short : n ≤ 5 + learningTicks k

theorem Dwelling.rx {k n : Nat} {c : Chassis} (h : Dwelling k n c) (bpdu : RstpBpdu)
    (len : Nat) : Dwelling k n (step (.rx bpdu len) c) := by
  have hsame := sameCard_step (.rx bpdu len) c
  have hstate : c.ctpm.state = .listening ∨ c.ctpm.state = .learning := by
    rcases Nat.lt_or_ge n 5 with hn | hn
    · exact .inl (h.listening hn).1
    · exact .inr (h.learning hn).1
  have hkeep : (step (.rx bpdu len) c).ctpm.state = c.ctpm.state ∧
      (step (.rx bpdu len) c).ctpm.timeSinceTopoChange = c.ctpm.timeSinceTopoChange := by
    cases step_rx_reaction bpdu len c with
    | wakes hs => simp [hs] at hstate
    | stays hs ht =>
      refine ⟨hs, ?_⟩
      rcases ht with hf | ht
      · simp [hf] at hstate
      · exact ht
    | falls hs => simp [hs] at hstate
  exact ⟨hsame.number.trans h.number, hsame.admin.trans h.admin,
    fun hn => ⟨hkeep.1.trans (h.listening hn).1, hkeep.2.trans (h.listening hn).2⟩,
    fun hn => ⟨hkeep.1.trans (h.learning hn).1, hkeep.2.trans (h.learning hn).2⟩, h.short⟩

theorem step_tick {c : Chassis} (hadmin : c.ctpm.adminState = .enabled) :
    Ticked (ready clearRxBpduInterval c) (step .tick c) := by
  have h := stepped .tick c
  generalize step .tick c = c' at h
  cases h with
  | idle hn => exact absurd hadmin hn
  | tick _ h => exact h

theorem Dwelling.tick {k n : Nat} {c : Chassis} (h : Dwelling k n c) :
    Dwelling k (n + 1) (step .tick c) ∨
      n = 5 + learningTicks k ∧ (step .tick c).ctpm.state = .forwarding := by
  have hsame := sameCard_step .tick c
  have hnum : (step .tick c).usCardNumber = k := hsame.number.trans h.number
  have hadmin : (step .tick c).ctpm.adminState = .enabled := hsame.admin.trans h.admin
  have hshort := h.short
  have ht := step_tick h.admin
  generalize step .tick c = c' at hnum hadmin ht
  rcases Nat.lt_or_ge n 5 with hn | hn
  · obtain ⟨hs, htime⟩ := h.listening hn
    refine .inl ⟨hnum, hadmin, ?_, ?_, by omega⟩
    · intro hn'
      cases ht with
      | learn hs' ht' => simp [htime] at ht'; omega
      | listenFabric | listenLine => simp [hs, htime]
      | config hs' | blockTimeout hs' | blockLine hs' | learning hs' | forward hs' | elect hs'
      | alone hs' | hello hs' | lost hs' | wait hs' | disabled hs' => simp [hs] at hs'
    · intro hn'
      obtain rfl : n = 4 := by omega
      cases ht with
      | learn hs' ht' => simp
      | listenFabric _ _ ht' | listenLine _ _ ht' => simp [htime] at ht'
      | config hs' | blockTimeout hs' | blockLine hs' | learning hs' | forward hs' | elect hs'
      | alone hs' | hello hs' | lost hs' | wait hs' | disabled hs' => simp [hs] at hs'
  · obtain ⟨hs, htime⟩ := h.learning hn
    cases ht with
    | learning hs' ht' =>
      have hlt : n - 5 < learningTicks k := by simpa [htime, h.number] using ht'
      refine .inl ⟨hnum, hadmin, fun hn' => by omega, fun _ => ?_, by omega⟩
      have hsub : n - 5 + 1 = n + 1 - 5 := by omega
      simp [hs, htime, hsub]
    | forward hs' ht' =>
      have hge : learningTicks k ≤ n - 5 := by simpa [htime, h.number] using ht'
      exact .inr ⟨by omega, by simp⟩
    | config hs' | blockTimeout hs' | blockLine hs' | learn hs' | listenFabric hs'
    | listenLine hs' | elect hs' | alone hs' | hello hs' | lost hs' | wait hs' | disabled hs' =>
      simp [hs] at hs'

theorem Dwelling.run {k n : Nat} (es : List Event) (hes : Event.exit ∉ es) :
    ∀ {c : Chassis}, Dwelling k n c → n + ticks es ≤ 5 + learningTicks k →
      Dwelling k (n + ticks es) (Runs.run step c es) := by
  induction es generalizing n with
  | nil => intro c h _; exact h
  | cons e es ih =>
    intro c h hle
    have hrest : Event.exit ∉ es := fun hmem => hes (by simp [hmem])
    cases e with
    | exit => simp at hes
    | rx bpdu len =>
      have hcount : ticks (.rx bpdu len :: es) = ticks es := rfl
      rw [hcount] at hle ⊢
      exact ih hrest (h.rx bpdu len) hle
    | tick =>
      have hcount : ticks (.tick :: es) = ticks es + 1 :=
        List.countP_cons_of_pos rfl
      rw [hcount] at hle ⊢
      rcases h.tick with h' | ⟨hn, -⟩
      · have hsum : n + (ticks es + 1) = n + 1 + ticks es := by omega
        rw [hsum] at hle ⊢
        exact ih hrest h' hle
      · omega

theorem learningDwell_eq (k : Nat) (hk : k ≤ 48) :
    learningDwell (cardTypeOf k) = learningTicks k + 1 := by
  have hF : defaultForwardDelay.toNat = 3 := rfl
  unfold learningDwell cardTypeOf learningTicks
  rw [hF]
  by_cases h : k < 33
  · rw [if_pos h, if_neg (by omega)]
  · rw [if_neg h, if_pos (by omega)]

theorem wakes_by_opposite {c : Chassis} {e : Event} (hadmin : c.ctpm.adminState = .enabled)
    (he : e ≠ .exit) (hs : c.ctpm.state = .block) (hs' : (step e c).ctpm.state ≠ .block) :
    ∃ bpdu len, e = .rx bpdu len ∧ opposite c.type bpdu.slotid := by
  cases e with
  | tick => exact absurd ((step_tick hadmin).block hs) hs'
  | exit => exact absurd rfl he
  | rx bpdu len =>
    refine ⟨bpdu, len, rfl, ?_⟩
    by_contra hslot
    have h := stepped (.rx bpdu len) c
    generalize step (.rx bpdu len) c = c' at h hs'
    cases h with
    | dropped => exact hs' hs
    | line hh | fabric hh => exact hslot hh.2.2.2

theorem dwelling_of_wake {k : Nat} {c : Chassis} {e : Event} (hnum : c.usCardNumber = k)
    (hadmin : c.ctpm.adminState = .enabled) (he : e ≠ .exit) (hs : c.ctpm.state = .block)
    (hs' : (step e c).ctpm.state = .listening) : Dwelling k 0 (step e c) := by
  have hsame := sameCard_step e c
  refine ⟨hsame.number.trans hnum, hsame.admin.trans hadmin, fun _ => ⟨hs', ?_⟩, by omega,
    by omega⟩
  cases e with
  | tick => rw [(step_tick hadmin).block hs] at hs'; cases hs'
  | exit => exact absurd rfl he
  | rx bpdu len =>
    cases step_rx_reaction bpdu len c with
    | wakes _ _ ht => exact ht
    | stays hstay => rw [hstay, hs] at hs'; cases hs'
    | falls hf => rw [hf] at hs; cases hs

theorem start_up_delays (k : Nat) (hodd : k % 2 = 1) (hk : k ≤ 48) (hwaddr : Vector UInt8 6)
    (es : List Event) :
    let c := Runs.run step (startUp k (cardTypeOf k) .enabled hwaddr) es
    (∀ e, e ≠ .exit → Legal c.ctpm.state (step e c).ctpm.state) ∧
    (∀ e, e ≠ .exit → c.ctpm.state = .block → (step e c).ctpm.state ≠ .block →
      ∃ bpdu len, e = .rx bpdu len ∧ opposite (cardTypeOf k) bpdu.slotid) ∧
    (∀ e, e ≠ .exit → c.ctpm.state = .block → (step e c).ctpm.state = .listening →
      ∀ fs, Event.exit ∉ fs →
        let d := Runs.run step (step e c) fs
        (ticks fs < listeningDwell → d.ctpm.state = .listening) ∧
        (listeningDwell ≤ ticks fs →
          ticks fs < listeningDwell + learningDwell (cardTypeOf k) → d.ctpm.state = .learning) ∧
        (ticks fs + 1 = listeningDwell + learningDwell (cardTypeOf k) →
          (step .tick d).ctpm.state = .forwarding)) := by
  intro c
  have hsame : SameCard (startUp k (cardTypeOf k) .enabled hwaddr) c := sameCard_run es _
  have hnum : c.usCardNumber = k := by simpa using hsame.number
  have htype : c.type = cardTypeOf k := by simpa using hsame.type
  have hadmin : c.ctpm.adminState = .enabled := by simpa [hodd] using hsame.admin
  refine ⟨?_, ?_, ?_⟩
  · intro e he
    cases e with
    | tick => exact (step_tick hadmin).legal
    | rx bpdu len => exact (step_rx_reaction bpdu len c).legal
    | exit => exact absurd rfl he
  · intro e he hs hs'
    rw [← htype]
    exact wakes_by_opposite hadmin he hs hs'
  · intro e he hs hs' fs hfs d
    have hstart := dwelling_of_wake hnum hadmin he hs hs'
    have hrun (hle : ticks fs ≤ 5 + learningTicks k) : Dwelling k (ticks fs) d := by
      simpa using hstart.run fs hfs (by omega)
    rw [learningDwell_eq k hk, show listeningDwell = 5 from rfl]
    refine ⟨fun hlt => ((hrun (by omega)).listening hlt).1,
      fun hge hlt => ((hrun (by omega)).learning hge).1, fun heq => ?_⟩
    rcases (hrun (by omega)).tick with h' | ⟨-, hf⟩
    · have := h'.short
      omega
    · exact hf

theorem start_up_delays_line_card :
    (step .tick (Runs.run step (step (.rx (configFrame 33) RstpBpdu.sizeof)
      (startUp 1 (cardTypeOf 1) .enabled (Vector.replicate 6 0)))
      (List.replicate 12 .tick))).ctpm.state = .forwarding := by
  have h := (start_up_delays 1 (by decide) (by decide) (Vector.replicate 6 0) []).2.2
  simp only [Runs.run_nil] at h
  have hwake := h (.rx (configFrame 33) RstpBpdu.sizeof) (by simp) (by decide +kernel)
    (by decide +kernel)
  exact (hwake (List.replicate 12 .tick) (by simp)).2.2 (by decide)

end Delays

end Chassisd
