import Mathlib.Data.List.Basic

namespace Spi

structure Frame where
  mosi : List Bool
  miso : List Bool
  deriving DecidableEq

def Frame.empty : Frame := ⟨[], []⟩

def Frame.shift (f : Frame) (mosi miso : List Bool) : Frame := ⟨f.mosi ++ mosi, f.miso ++ miso⟩

@[simp] theorem Frame.empty_shift (mosi miso : List Bool) :
    Frame.empty.shift mosi miso = ⟨mosi, miso⟩ := rfl

@[simp] theorem Frame.shift_shift (f : Frame) (a b c d : List Bool) :
    (f.shift a b).shift c d = f.shift (a ++ c) (b ++ d) := by
  simp [Frame.shift, List.append_assoc]

inductive Event where
  | level (clock mosi cs : Bool)
  | miso (bit : Bool)
  deriving DecidableEq

-- A device selected by a low cs that samples mosi at rising edges of the clock. It keeps the frames
-- it has seen, and with each frame what the master read from it.
structure Device where
  clock : Bool
  cs : Bool
  frame : Frame
  frames : List Frame
  deriving DecidableEq

def Device.step (d : Device) : Event → Device
  | .level clock _ true =>
    ⟨clock, true, .empty, if d.cs then d.frames else d.frames ++ [d.frame]⟩
  | .level clock mosi false =>
    ⟨clock, false, if !d.clock && clock then d.frame.shift [mosi] [] else d.frame, d.frames⟩
  | .miso bit => if d.cs then d else { d with frame := d.frame.shift [] [bit] }

def Device.watch (d : Device) (events : List Event) : Device := events.foldl Device.step d

def idle (frames : List Frame) : Device := ⟨true, true, .empty, frames⟩

def selected (frames : List Frame) (frame : Frame) : Device := ⟨true, false, frame, frames⟩

variable (frames : List Frame) (frame : Frame) (mosi : Bool)

theorem watch_append (d : Device) (xs ys : List Event) :
    d.watch (xs ++ ys) = (d.watch xs).watch ys := List.foldl_append

theorem watch_select : (idle frames).watch [.level true mosi false] = selected frames .empty := rfl

theorem watch_deselect :
    (selected frames frame).watch [.level true mosi true] = idle (frames ++ [frame]) := rfl

theorem watch_write (bit : Bool) :
    (selected frames frame).watch [.level false mosi false, .level false bit false,
      .level true bit false, .level true bit false] = selected frames (frame.shift [bit] []) := rfl

theorem watch_read (bit : Bool) :
    (selected frames frame).watch [.level false mosi false, .miso bit, .level true mosi false] =
      selected frames (frame.shift [mosi] [bit]) := by
  simp [Device.watch, Device.step, selected]

def Device.behind (earlier : List Frame) (d : Device) : Device :=
  { d with frames := earlier ++ d.frames }

theorem watch_behind (earlier : List Frame) (d : Device) (events : List Event) :
    (d.behind earlier).watch events = (d.watch events).behind earlier := by
  induction events generalizing d with
  | nil => rfl
  | cons e events ih =>
    have hstep : (d.behind earlier).step e = (d.step e).behind earlier := by
      cases e with
      | level clock mosi cs =>
        cases cs <;> cases hcs : d.cs <;> simp [Device.step, Device.behind, hcs]
      | miso bit => cases hcs : d.cs <;> simp [Device.step, Device.behind, hcs]
    rw [Device.watch, List.foldl_cons, hstep]
    exact ih (d.step e)

theorem watch_idle (earlier : List Frame) {events : List Event}
    (h : (idle []).watch events = idle frames) :
    (idle earlier).watch events = idle (earlier ++ frames) := by
  have hbehind := watch_behind earlier (idle []) events
  rw [h] at hbehind
  rw [← List.append_nil earlier]
  exact hbehind.trans (by rw [List.append_nil]; rfl)

end Spi
