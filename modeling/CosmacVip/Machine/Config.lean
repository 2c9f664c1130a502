import CosmacVip.Display
import CosmacVip.Frequency

/-!
What a machine is made from: the size of its display, a seed, and the frequency at which a host
should run it.
-/

namespace CosmacVip.Machine

/-- The wishes for a machine. A width or height of zero is kept here, but no display has it. -/
structure Config where
  clockFrequency : Option Frequency := none
  width : Nat := 64
  height : Nat := 32
  seed : Option UInt64 := none
deriving DecidableEq

namespace Config

/-- The configuration with the display sized after a screen. -/
def withScreen (c : Config) (width height : Nat) : Config := { c with width, height }

/-- The frequency at which the machine should run. -/
def frequency (c : Config) : Frequency := c.clockFrequency.getD .standard

/-- The size of the display. -/
def displaySize (c : Config) : Display.Size := .atLeastOne c.width c.height

end Config

end CosmacVip.Machine
