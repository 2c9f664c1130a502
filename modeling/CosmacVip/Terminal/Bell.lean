import CosmacVip.Machine.Timers

/-!
The terminal's bell as a tone: it rings once when a tone starts, and stopping is silent.
-/

namespace CosmacVip.Terminal

/-- Whether a tone sounds. -/
structure Bell where
  ringing : Bool := false
deriving DecidableEq

namespace Bell

/-- What to write when told about a tone, and the bell after that. -/
def hear (_ : Bell) : Tone → String × Bell
  | .start => ("\x07", ⟨true⟩)
  | .stop => ("", ⟨false⟩)

/-- What to write when told about several tones in turn, and the bell after that. -/
def hearAll (b : Bell) : List Tone → String × Bell
  | [] => ("", b)
  | t :: tones =>
    let (out, b) := b.hear t
    let (rest, b) := b.hearAll tones
    (out ++ rest, b)

end Bell

end CosmacVip.Terminal
