import CosmacVip.CallStack
import CosmacVip.Display
import CosmacVip.Instruction
import CosmacVip.Keypad
import CosmacVip.Machine.Config
import CosmacVip.Machine.Fault
import CosmacVip.Memory
import CosmacVip.Random.Stream

/-!
The machine and what its host does with it between instructions.

* `Machine.fresh`: the machine as it is switched on;
* `Machine.reset`, `Machine.load`: that state again, with the random stream where it is;
* `Machine.setKey`, `Machine.clearKeys`: the keypad;
* `Machine.present`: handing a changed display to a screen.
-/

namespace CosmacVip

/-- Whether the machine runs, or waits for a key that goes to a register. -/
inductive Mode where
  | running
  | waiting (x : Register)
deriving DecidableEq

/-- The state of a machine whose display has the given size. -/
structure Machine (size : Display.Size) where
  /-- The address of the next instruction. -/
  pc : Address
  /-- The return addresses of the open calls. -/
  stack : CallStack
  /-- The registers `V0` to `VF`. -/
  v : Vector UInt8 16
  /-- The register `I`. -/
  index : Address
  /-- The delay timer. -/
  delay : UInt8
  /-- The sound timer. -/
  sound : UInt8
  /-- Whether the host was told to sound the tone. -/
  toneOn : Bool
  mode : Mode
  /-- The keys that are down. -/
  keys : KeySet
  memory : Memory
  display : Display size
  /-- Whether the display may have changed since it was last presented. -/
  redraw : Bool
  random : RandomStream
deriving DecidableEq

namespace Machine

variable {size : Display.Size}

/-- The machine as it is switched on, with the given memory. -/
def fresh (size : Display.Size) (memory : Memory) (random : RandomStream) : Machine size where
  pc := Address.programStart
  stack := CallStack.empty
  v := Vector.replicate 16 0
  index := Address.ofNat 0
  delay := 0
  sound := 0
  toneOn := false
  mode := .running
  keys := KeySet.empty
  memory := memory
  display := Display.dark
  redraw := false
  random := random

/-- A new machine; `entropy` is the source of its random bytes where no seed is configured. -/
def ofConfig (c : Config) (entropy : ChaCha.Key) : Machine c.displaySize :=
  fresh c.displaySize Memory.initial (.ofSeed? c.seed entropy)

/-- The machine as it is switched on, without a program; the random stream goes on. -/
def reset (m : Machine size) : Machine size := fresh size Memory.initial m.random

/-- The machine as it is switched on, with a program; one that has no room is refused. -/
def load (m : Machine size) (program : Array UInt8) : Except Fault (Machine size) :=
  if program.size ≤ Memory.programCapacity then
    .ok (fresh size (Memory.withProgram program) m.random)
  else .error (.programTooLarge program.size)

/-- The value of a register. -/
def getV (m : Machine size) (x : Register) : UInt8 := m.v[x]

/-- The machine with a register set. -/
def setV (m : Machine size) (x : Register) (b : UInt8) : Machine size := { m with v := m.v.set x b }

/-- Setting a register leaves the others alone. -/
theorem getV_setV (m : Machine size) (x y : Register) (b : UInt8) :
    (m.setV x b).getV y = if y = x then b else m.getV y := by
  by_cases h : y = x
  · subst h
    simp [getV, setV]
  · have hval : x.val ≠ y.val := fun e => h (Fin.ext e.symm)
    simp [getV, setV, h, hval]

/-- Whether the machine waits for a key. -/
def isWaiting (m : Machine size) : Bool := m.mode != .running

/-- The machine after a key goes down or up; a key going down ends a wait. -/
def setKey (m : Machine size) (k : Key) (down : Bool) : Machine size :=
  let m := { m with keys := m.keys.set k down }
  match m.mode, down with
  | .waiting x, true => { m.setV x (UInt8.ofNat k) with mode := .running }
  | _, _ => m

/-- The machine with all keys up. -/
def clearKeys (m : Machine size) : Machine size := { m with keys := KeySet.empty }

/-- The cells to show on a screen of the given size, if they may have changed and the screen has the
display's size, and the machine after that. -/
def present (m : Machine size) (width height : Nat) : Option (Display size) × Machine size :=
  if m.redraw && width == size.width && height == size.height then
    (some m.display, { m with redraw := false })
  else (none, m)

end Machine

end CosmacVip
