import Chassisd.Library.Runs

namespace Chassisd

structure Timeval where
  tvSec : Int64
  tvUsec : Int64
  deriving DecidableEq

-- DEFAULT_ADJUST_TIME*DEFAULT_HELLO_TIME*1000
def defaultIntervalTime : Int64 := 1 * 200 * 1000

def epollLoopTimeDiff (second first : Timeval) : Int32 :=
  ((second.tvSec - first.tvSec) * 1000 + (second.tvUsec - first.tvUsec) / 1000).toInt32

structure Turn where
  now : Timeval
  ran : Bool
  timeout : Int32
  deriving DecidableEq

structure EpollLoop (σ : Type*) where
  daemon : σ
  nexttimeout : Timeval
  turns : List Turn

-- events is none where epoll_wait fails with an error other than EINTR
structure Round (ε : Type*) where
  now : Timeval
  events : Option (List ε)

section Loop

variable {σ ε : Type*} (step : ε → σ → σ) (oneSecond : ε)

-- With ONLP 0 the body of epoll_loop_run_thermal_plan is empty.
def epollLoopRunTimeouts (s : EpollLoop σ) : EpollLoop σ :=
  { s with
    daemon := step oneSecond s.daemon
    nexttimeout.tvUsec := s.nexttimeout.tvUsec + defaultIntervalTime }

def epollLoopTurn (now : Timeval) (s : EpollLoop σ) : EpollLoop σ :=
  let timeout := epollLoopTimeDiff s.nexttimeout now
  if timeout < 0 then
    { epollLoopRunTimeouts step oneSecond s with turns := s.turns ++ [⟨now, true, 0⟩] }
  else { s with turns := s.turns ++ [⟨now, false, timeout⟩] }

def epollLoopRounds : EpollLoop σ → List (Round ε) → EpollLoop σ × Option Int
  | s, [] => (s, none)
  | s, r :: rounds =>
    let s := epollLoopTurn step oneSecond r.now s
    match r.events with
    | none => (s, some (-1))
    | some events => epollLoopRounds { s with daemon := Runs.run step s.daemon events } rounds

def epollLoopMainLoop (start : Timeval) (daemon : σ) (rounds : List (Round ε)) :
    EpollLoop σ × Option Int :=
  epollLoopRounds step oneSecond ⟨daemon, ⟨start.tvSec + 1, start.tvUsec⟩, []⟩ rounds

variable {step oneSecond}

theorem epollLoopRounds_invariant {I : EpollLoop σ → Prop}
    (hturn : ∀ now s, I s → I (epollLoopTurn step oneSecond now s))
    (hevents : ∀ s events, I s → I { s with daemon := Runs.run step s.daemon events })
    (rounds : List (Round ε)) {s : EpollLoop σ} (h : I s) :
    I (epollLoopRounds step oneSecond s rounds).1 := by
  induction rounds generalizing s with
  | nil => exact h
  | cons r rounds ih =>
    rw [epollLoopRounds]
    have hnext := hturn r.now s h
    cases r.events with
    | none => exact hnext
    | some events => exact ih (hevents _ events hnext)

theorem epollLoop_daemon (start : Timeval) (daemon : σ) (rounds : List (Round ε)) :
    ∃ events, (epollLoopMainLoop step oneSecond start daemon rounds).1.daemon =
      Runs.run step daemon events := by
  refine epollLoopRounds_invariant (I := fun s => ∃ events, s.daemon = Runs.run step daemon events)
    ?_ ?_ rounds ⟨[], rfl⟩
  · rintro now s ⟨events, hevents⟩
    unfold epollLoopTurn
    dsimp only
    split_ifs
    · refine ⟨events ++ [oneSecond], ?_⟩
      rw [Runs.run_concat, ← hevents]
      rfl
    · exact ⟨events, hevents⟩
  · rintro s more ⟨events, hevents⟩
    refine ⟨events ++ more, ?_⟩
    rw [Runs.run_append, ← hevents]

end Loop

section Deadline

def ticksRun (turns : List Turn) : Nat := turns.countP (·.ran)

def deadlineAfter (start : Timeval) : Nat → Timeval
  | 0 => ⟨start.tvSec + 1, start.tvUsec⟩
  | n + 1 =>
    { deadlineAfter start n with tvUsec := (deadlineAfter start n).tvUsec + defaultIntervalTime }

def turnAt (deadline now : Timeval) : Turn :=
  if epollLoopTimeDiff deadline now < 0 then ⟨now, true, 0⟩
  else ⟨now, false, epollLoopTimeDiff deadline now⟩

structure Scheduled (start : Timeval) {σ : Type*} (s : EpollLoop σ) : Prop where
  nexttimeout : s.nexttimeout = deadlineAfter start (ticksRun s.turns)
  turns : ∀ pre turn post, s.turns = pre ++ turn :: post →
    turn = turnAt (deadlineAfter start (ticksRun pre)) turn.now

variable {σ ε : Type*} {step : ε → σ → σ} {oneSecond : ε} {start : Timeval}

theorem turns_epollLoopTurn (now : Timeval) (s : EpollLoop σ) :
    (epollLoopTurn step oneSecond now s).turns = s.turns ++ [turnAt s.nexttimeout now] := by
  unfold epollLoopTurn turnAt
  dsimp only
  split_ifs <;> rfl

theorem Scheduled.turn {s : EpollLoop σ} (h : Scheduled start s) (now : Timeval) :
    Scheduled start (epollLoopTurn step oneSecond now s) where
  nexttimeout := by
    rw [turns_epollLoopTurn]
    unfold epollLoopTurn turnAt ticksRun
    dsimp only
    split_ifs
    · simp [epollLoopRunTimeouts, h.nexttimeout, ticksRun, deadlineAfter]
    · simp [h.nexttimeout, ticksRun]
  turns := by
    intro pre turn post heq
    rw [turns_epollLoopTurn] at heq
    rcases List.eq_nil_or_concat post with rfl | ⟨post, last, rfl⟩
    · obtain ⟨hpre, hturn⟩ := List.append_inj' heq rfl
      obtain rfl : turnAt s.nexttimeout now = turn := by simpa using hturn
      have hnow : (turnAt s.nexttimeout now).now = now := by
        unfold turnAt
        split_ifs <;> rfl
      rw [hnow, ← hpre, ← h.nexttimeout]
    · have hsplit : s.turns ++ [turnAt s.nexttimeout now] = (pre ++ turn :: post) ++ [last] := by
        simpa using heq
      exact h.turns pre turn post (List.append_inj' hsplit rfl).1

theorem scheduled_mainLoop (step : ε → σ → σ) (oneSecond : ε) (start : Timeval) (daemon : σ)
    (rounds : List (Round ε)) :
    Scheduled start (epollLoopMainLoop step oneSecond start daemon rounds).1 :=
  epollLoopRounds_invariant (fun now _ h => h.turn now)
    (fun _ _ h => ⟨h.nexttimeout, h.turns⟩) rounds ⟨rfl, fun pre turn post h => by simp at h⟩

end Deadline

end Chassisd
