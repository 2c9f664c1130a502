/-!
Frequencies, the intervals between their beats, and a clock that is polled.

* `Frequency.interval`: the time of one beat, in nanoseconds;
* `Frequency.stepsPerFrame`: how many instructions belong to one frame;
* `Clock.tick`: whether an interval has gone by.
-/

namespace CosmacVip

/-- How often something happens in a second. -/
structure Frequency where
  hertz : Nat
deriving DecidableEq, Repr

namespace Frequency

/-- The frequency of the timers and of the frames. -/
def frames : Frequency := ⟨60⟩

/-- The frequency of instructions where none is configured. -/
def standard : Frequency := ⟨500⟩

/-- The whole nanoseconds between two beats; none at frequency zero. -/
def interval (f : Frequency) : Nat := 1000000000 / f.hertz

/-- The number of instructions that a frame runs: at least one. -/
def stepsPerFrame (f : Frequency) : Nat := max (f.hertz / frames.hertz) 1

end Frequency

/-- An interval timer; times are nanoseconds since an arbitrary start. -/
structure Clock where
  interval : Nat
  last : Nat
deriving DecidableEq

namespace Clock

/-- The time left until the next beat. -/
def remaining (c : Clock) (now : Nat) : Nat := c.interval - (now - c.last)

/-- The clock with the current time as its last beat. -/
def reset (c : Clock) (now : Nat) : Clock := { c with last := now }

/-- Whether a whole interval has gone by, and the clock after that is taken notice of: the next beat
follows one interval after the last one, or after now when two intervals or more were missed. -/
def tick (c : Clock) (now : Nat) : Bool × Clock :=
  let elapsed := now - c.last
  if elapsed < c.interval then (false, c)
  else if 2 * c.interval ≤ elapsed then (true, c.reset now)
  else (true, { c with last := c.last + c.interval })

end Clock

end CosmacVip
