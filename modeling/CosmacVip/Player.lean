import CosmacVip.Machine.Step
import CosmacVip.Preferences
import CosmacVip.Terminal.Bell
import CosmacVip.Terminal.Screen

/-!
The player: a machine with its program, a screen, a bell and controls.

* `Player.load`, `Player.loadFile`, `Player.restart`: a new program, and the current one from its start;
* `Player.update`, `Player.tick`, `Player.present`, `Player.render`: the parts of a frame;
* `Player.handle`, `Player.handleAll`: what input events do;
* `Player.frame`: one frame, from the passing of time to what is written to the terminal.

The machine is run in frames, sixty in a second. A halted machine and one that waits for a key are
left alone by `update`.
-/

namespace CosmacVip

open Terminal (Screen Bell)

/-- The state of the player. -/
structure Player where
  screen : Screen
  bell : Bell
  machine : Machine .standard
  controls : Controls
  /-- The program that was last loaded. -/
  rom : Array UInt8
  /-- The number of instructions in a frame. -/
  stepsPerFrame : Nat
  /-- Whether the program has come to its end. -/
  halted : Bool

namespace Player

/-- A player without a program. -/
def new (p : Preferences) (entropy : ChaCha.Key) : Player where
  screen := .ofSize Display.Size.standard.width Display.Size.standard.height
  bell := {}
  machine := .fresh .standard Memory.initial (.ofSeed? p.seed entropy)
  controls := p.controls
  rom := #[]
  stepsPerFrame := (p.machineConfig 64 32).frequency.stepsPerFrame
  halted := false

/-- The player with a new program; one that the machine refuses changes nothing. -/
def load (p : Player) (program : Array UInt8) : Except Fault Player := do
  let machine ← p.machine.load program
  return { p with machine, rom := program, halted := false }

/-- The player with the program of a file; one that cannot be read or is refused changes nothing. -/
def loadFile (p : Player) (contents : Except FileError ByteArray) : Except Failure Player :=
  match contents with
  | .ok bytes => (p.load bytes.data).mapError .machine
  | .error e => .error (.file e)

/-- The player with its program at the start and no key held. -/
def restart (p : Player) : Except Fault Player := do
  let machine ← p.machine.load p.rom
  return { p with machine, controls := p.controls.clear, halted := false }

/-- Runs the instructions of one frame. A recoverable fault ends the frame and nothing more. -/
def update (p : Player) : Except Fault Unit × Player :=
  if p.halted || p.machine.isWaiting then (.ok (), p)
  else
    let (outcome, machine) := Machine.run p.stepsPerFrame p.machine
    let p := { p with machine }
    match outcome with
    | .ok .halt => (.ok (), { p with halted := true })
    | .ok _ => (.ok (), p)
    | .error fault => (if fault.recoverable then .ok () else .error fault, p)

/-- Counts the timers down, and what the bell writes. -/
def tick (p : Player) : String × Player :=
  let (tones, machine) := p.machine.tick
  let (out, bell) := p.bell.hearAll tones
  (out, { p with machine, bell })

/-- Draws the display on the screen if it may have changed, and tells whether it did. -/
def present (p : Player) : Bool × Player :=
  match p.machine.present p.screen.width p.screen.height with
  | (some display, machine) =>
    match p.screen.draw? display.cells.toArray with
    | some screen => (true, { p with machine, screen })
    | none => (false, p)
  | (none, machine) => (false, { p with machine })

/-- The status line. -/
def status (p : Player) : String :=
  if p.halted then "halted, backspace to restart, esc to exit"
  else if p.machine.isWaiting then "waiting for key"
  else if p.bell.ringing then "beep"
  else ""

/-- What to write so that the terminal shows the screen and the status line. -/
def render (p : Player) : String × Player :=
  let (out, screen) := p.screen.render p.status
  (out, { p with screen })

/-! ### Input -/

/-- What an event does; none if it ends the program. Actions without a meaning do nothing. -/
def handle (p : Player) : InputEvent → Except Fault (Option Player)
  | .key k down => .ok (some { p with machine := p.machine.setKey k down })
  | .action name =>
    if name = KeyDefinition.exitAction then .ok none
    else if name = KeyDefinition.resetAction then p.restart.map some
    else .ok (some p)

/-- What events do in turn; none if one of them ends the program. -/
def handleAll (p : Player) : List InputEvent → Except Fault (Option Player)
  | [] => .ok (some p)
  | e :: events => do
    match ← p.handle e with
    | some p => p.handleAll events
    | none => return none

/-- Releases the keys whose hold time is over, and does what the pending events ask for. -/
def input (p : Player) (now : Nat) : Except Fault (Option Player) :=
  let (events, controls) := (p.controls.expire now).drain
  handleAll { p with controls } events

/-- One frame: input, instructions, timers, screen. What to write, and the player after it; none if the
program ends. -/
def frame (p : Player) (now : Nat) : Except Fault (Option (String × Player)) := do
  match ← p.input now with
  | none => return none
  | some p =>
    let (outcome, p) := p.update
    outcome
    let (beep, p) := p.tick
    let (_, p) := p.present
    let (page, p) := p.render
    return some (beep ++ page, p)

end Player

end CosmacVip
