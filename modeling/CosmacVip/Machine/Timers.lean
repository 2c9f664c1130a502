import CosmacVip.Machine.State

/-!
The timers, which the host counts down sixty times in a second.

* `Machine.tick`: both timers count down, and the host is told when the tone starts and stops.
-/

namespace CosmacVip

/-- What the host is told about the tone. -/
inductive Tone where
  | start
  | stop
deriving DecidableEq, Repr

namespace Machine

variable {size : Display.Size}

/-- A timer one beat later; it stays at zero. -/
def countdown (t : UInt8) : UInt8 := if t = 0 then 0 else t - 1

/-- Tells the tone to start if the sound timer runs and the tone is off. -/
def startTone (m : Machine size) : List Tone × Machine size :=
  if m.sound ≠ 0 ∧ m.toneOn = false then ([.start], { m with toneOn := true }) else ([], m)

/-- Tells the tone to stop if the sound timer is at zero and the tone is on. -/
def stopTone (m : Machine size) : List Tone × Machine size :=
  if m.sound = 0 ∧ m.toneOn = true then ([.stop], { m with toneOn := false }) else ([], m)

/-- One beat of both timers. The tone starts before and stops after the count, so that a sound timer
of one sounds for a single beat. -/
def tick (m : Machine size) : List Tone × Machine size :=
  let (starts, m) := m.startTone
  let (stops, m) := stopTone { m with delay := countdown m.delay, sound := countdown m.sound }
  (starts ++ stops, m)

end Machine

end CosmacVip
