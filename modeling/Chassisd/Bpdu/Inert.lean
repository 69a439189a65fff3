import Chassisd.Bpdu.Transitions

namespace Chassisd

structure Inert (c c' : Chassis) : Prop where
  state : c'.ctpm.state = c.ctpm.state
  rootPortId : c'.ctpm.rootPortId = c.ctpm.rootPortId
  rootLCPortId : c'.ctpm.rootLCPortId = c.ctpm.rootLCPortId
  rootPrio : c'.ctpm.rootPrio = c.ctpm.rootPrio
  chassisExist : c'.ctpm.chassisExist = c.ctpm.chassisExist
  port : c'.switch.port = c.switch.port
  writes : c'.switch.writes = []
  sent : c'.sent = []

def HandledEvent (c : Chassis) : Event → Prop
  | .rx bpdu len => Handled bpdu len c
  | _ => False

theorem inert_ready (rx : List RxHeader) (c : Chassis) : Inert c (ready rx c) :=
  ⟨rfl, rfl, rfl, rfl, rfl, rfl, rfl, rfl⟩

theorem LineRx.of_block {bpdu : RstpBpdu} {c c' : Chassis} (h : LineRx bpdu c c')
    (hs : c.ctpm.state = .block) : c'.ctpm.state = .listening := by
  cases h with
  | wake =>
    simp only [inUpdateChassisMember_frame, txInfoBpdu_frame, takeTimes_frame, adopt_frame,
      wake_frame]
  | adopt hs' | agree hs' | lcChange hs' | sync hs' | relay hs' | reply hs' | config hs'
  | other hs' | disabled hs' => simp [hs] at hs'

theorem FabricRx.of_block {bpdu : RstpBpdu} {c c' : Chassis} (h : FabricRx bpdu c c')
    (hs : c.ctpm.state = .block) : c'.ctpm.state = .listening := by
  cases h with
  | wake => simp only [inUpdateChassisMember_frame, takeTimes_frame, adopt_frame, wake_frame]
  | adopt hs' | agree hs' | sync hs' | echo hs' | hear hs' | config hs' | elect hs'
  | alone hs' | lcChange hs' | other hs' | disabled hs' => simp [hs] at hs'

theorem inert_iff_not_handled {c : Chassis} {e : Event} (hadmin : c.ctpm.adminState = .disabled)
    (hs : c.ctpm.state = .block) (he : e ≠ .exit) :
    Inert c (step e c) ↔ ¬ HandledEvent c e := by
  have h := stepped e c
  generalize step e c = c' at h
  cases h with
  | idle => exact iff_of_true (inert_ready _ c) id
  | tick hen => rw [hadmin] at hen; cases hen
  | dropped hn rx => exact iff_of_true (inert_ready rx c) hn
  | line hh _ h =>
    have hwake := h.of_block hs
    exact iff_of_false (fun hi => by rw [hi.state, hs] at hwake; cases hwake) (fun hn => hn hh)
  | fabric hh _ h =>
    have hwake := h.of_block hs
    exact iff_of_false (fun hi => by rw [hi.state, hs] at hwake; cases hwake) (fun hn => hn hh)
  | exit => exact absurd rfl he

theorem inert_iff_no_frame_handled (usNumber : Nat) (type : CardType) (topology : CtpMode)
    (hwaddr : Vector UInt8 6)
    (hadmin : (startUp usNumber type topology hwaddr).ctpm.adminState = .disabled)
    (es : List Event) (hes : Event.exit ∉ es) :
    Runs.Along step (fun c e => Inert c (step e c)) (startUp usNumber type topology hwaddr) es ↔
      Runs.Along step (fun c e => ¬ HandledEvent c e) (startUp usNumber type topology hwaddr)
        es := by
  have hs : (startUp usNumber type topology hwaddr).ctpm.state = .block := by simp
  generalize startUp usNumber type topology hwaddr = c at hadmin hs
  induction es generalizing c with
  | nil => exact Iff.rfl
  | cons e es ih =>
    have he : e ≠ .exit := fun h => hes (by simp [h])
    have hrest : Event.exit ∉ es := fun h => hes (by simp [h])
    have hiff := inert_iff_not_handled hadmin hs he
    simp only [Runs.Along, hiff]
    refine and_congr_right fun hn => ?_
    exact ih hrest (step e c) ((sameCard_step e c).admin.trans hadmin)
      ((hiff.mpr hn).state.trans hs)

theorem static_card_wakes :
    ¬ ∀ (usNumber : Nat) (type : CardType) (topology : CtpMode) (hwaddr : Vector UInt8 6),
      (startUp usNumber type topology hwaddr).ctpm.adminState = .disabled →
      ∀ es : List Event, Event.exit ∉ es →
        Runs.Along step (fun c e => Inert c (step e c))
          (startUp usNumber type topology hwaddr) es := by
  intro h
  have hrun := h 1 .lineCard .disabled (Vector.replicate 6 0) (by decide +kernel)
    [.rx (configFrame 33) RstpBpdu.sizeof] (by simp)
  have hstate := hrun.1.state
  revert hstate
  decide +kernel

theorem inert_static_card :
    Runs.Along step (fun c e => Inert c (step e c))
      (startUp 1 .lineCard .disabled (Vector.replicate 6 0))
      [.tick, .rx (configFrame 3) RstpBpdu.sizeof] := by
  refine (inert_iff_no_frame_handled 1 .lineCard .disabled (Vector.replicate 6 0)
    (by decide +kernel) _ (by simp)).mpr ⟨id, ?_, trivial⟩
  rintro ⟨-, -, -, hslot⟩
  revert hslot
  decide +kernel

end Chassisd
