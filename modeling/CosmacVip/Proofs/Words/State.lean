import CosmacVip.Keypad
import CosmacVip.Machine.Config
import CosmacVip.Machine.Fault
import CosmacVip.Machine.Timers
import CosmacVip.Memory
import CosmacVip.Proofs.Words.Checked
import CosmacVip.Random.Stream

/-!
The machine in words of fixed width, and what its host does with it between instructions.

No field is in range by its type: addresses stand in sixteen bits, the depth of the stack and
the numbers of registers in eight, and the display is an array of bytes beside its size. Every
access and every sum is checked where it is made.

* `Words.State`: the machine;
* `Words.State.new`, `Words.State.reset`, `Words.State.load`: switching on, and a program;
* `Words.State.setKey`, `Words.State.tick`, `Words.State.present`: keypad, timers, screen;
* `Words.State.pixel`, `Words.State.rowTexts`: views of the display.
-/

namespace CosmacVip.Words

/-- Whether the machine runs, or waits for a key that goes to a register. -/
inductive Mode where
  | running
  | waiting (x : UInt8)
deriving DecidableEq

/-- The machine in words. -/
@[ext]
structure State where
  pc : UInt16
  /-- The number of frames on the stack. -/
  sp : UInt8
  stack : Vector UInt16 16
  v : Vector UInt8 16
  index : UInt16
  delay : UInt8
  sound : UInt8
  toneOn : Bool
  mode : Mode
  /-- One bit for each key. -/
  keys : UInt16
  memory : Vector UInt8 4096
  /-- One byte for each cell, row by row. -/
  display : Array UInt8
  width : Nat
  height : Nat
  redraw : Bool
  random : RandomStream

namespace State

/-! ### Switching on, and programs -/

/-- All memories at zero. -/
def clearMemory (w : State) : State :=
  { w with
    memory := Vector.replicate 4096 0
    stack := Vector.replicate 16 0
    display := Array.replicate w.display.size 0 }

/-- The font copied to its place. -/
def loadFont (w : State) : Checked State := do
  return { w with memory := ← copyInto w.memory 0 Memory.font.toArray }

/-- The machine as it is switched on, with the random stream where it is. -/
def reset (w : State) : Checked State := do
  let w ← w.clearMemory.loadFont
  return { w with
    pc := 0x200, sp := 0, v := Vector.replicate 16 0, index := 0, delay := 0, sound := 0
    toneOn := false, mode := .running, keys := 0, redraw := false }

/-- A new machine; a width or height of zero is taken as one. -/
def new (width height : Nat) (random : RandomStream) : Checked State := do
  let width := max width 1
  let height := max height 1
  let cells ← times width height
  reset {
    pc := 0x200, sp := 0, stack := Vector.replicate 16 0, v := Vector.replicate 16 0, index := 0
    delay := 0, sound := 0, toneOn := false, mode := .running, keys := 0
    memory := Vector.replicate 4096 0, display := Array.replicate cells 0, width, height
    redraw := false, random }

/-- The machine as it is switched on, with a program; one that has no room is refused. -/
def load (w : State) (program : Array UInt8) : Checked (Except Fault Unit × State) := do
  if program.size ≤ Memory.programCapacity then
    let w ← w.reset
    return (.ok (), { w with memory := ← copyInto w.memory 0x200 program })
  else return (.error (.programTooLarge program.size), w)

/-! ### Memory -/

/-- An address reduced to twelve bits. -/
def wrapAddress (a : Nat) : UInt16 := .ofNat (a &&& 0xFFF)

/-- The byte at an address, which wraps. -/
def read (w : State) (a : Nat) : Checked UInt8 := get w.memory (a &&& 0xFFF)

/-- The machine after a byte is written at an address, which wraps. -/
def write (w : State) (a : Nat) (b : UInt8) : Checked State := do
  return { w with memory := ← set w.memory (a &&& 0xFFF) b }

/-! ### Keypad -/

/-- Whether a key is down. -/
def isDown (w : State) (k : Key) : Checked Bool := do
  return 0 < (w.keys &&& (← bitAt k)).toNat

/-- The machine with the bit of a key set or cleared. -/
def setBit (w : State) (k : Key) (down : Bool) : Checked State := do
  let bit ← bitAt k
  return { w with keys := if down then w.keys ||| bit else w.keys &&& ~~~bit }

/-- The machine after a key goes down or up; a key going down ends a wait. -/
def setKey (w : State) (k : Key) (down : Bool) : Checked State := do
  let w ← w.setBit k down
  match w.mode, down with
  | .waiting x, true => return { w with v := ← set w.v x.toNat (.ofNat k), mode := .running }
  | _, _ => return w

/-- The machine with all keys up. -/
def clearKeys (w : State) : State := { w with keys := 0 }

/-! ### Timers and screen -/

/-- One beat of both timers, and what the host is told about the tone. -/
def tick (w : State) : List Tone × State :=
  let starts := 0 < w.sound ∧ w.toneOn = false
  let w := if starts then { w with toneOn := true } else w
  -- a timer at zero stays there
  let w := { w with delay := .ofNat (w.delay.toNat - 1), sound := .ofNat (w.sound.toNat - 1) }
  let stops := w.sound = 0 ∧ w.toneOn = true
  let w := if stops then { w with toneOn := false } else w
  ((if starts then [.start] else []) ++ (if stops then [.stop] else []), w)

/-- The cells for a screen of the given size, if they may have changed and the sizes agree. -/
def present (w : State) (width height : Nat) : Option (Array UInt8) × State :=
  if w.redraw = false then (none, w)
  else if width = w.width ∧ height = w.height then
    (some w.display, { w with redraw := false })
  else (none, w)

/-- The cell at coordinates that wrap. -/
def pixel (w : State) (x y : Nat) : Checked UInt8 := do
  let column ← modulo x w.width
  let row ← modulo y w.height
  let i ← plus column (← times row w.width)
  get w.display.toVector i

/-- The character of a cell in plain text. -/
def markAt (w : State) (y x : Nat) : Checked Char := do
  let i ← plus x (← times y w.width)
  return Display.mark ((← get w.display.toVector i) != 0)

/-- The rows as plain text. -/
def rowTexts (w : State) : Checked (List String) :=
  (List.range w.height).mapM fun y => do
    return String.ofList (← (List.range w.width).mapM (w.markAt y))

end State

end CosmacVip.Words
