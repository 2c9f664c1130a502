import CosmacVip.Machine.State

/-!
Running instructions.

* `Arith.apply`, `Shift.apply`: results and flags of the register operations;
* `Machine.execute`: one instruction;
* `Machine.step`: fetch and execute, unless the machine waits or has reached the end of its program;
* `Machine.run`: up to a number of steps, ending early at a halt, a wait or a fault.
-/

namespace CosmacVip

/-- What a step tells the host. -/
inductive Signal where
  /-- Nothing of note. -/
  | next
  /-- The word at the program counter is zero: the end of the program. -/
  | halt
  /-- The program counter was set. -/
  | jump
  /-- The display was drawn to. -/
  | draw
  /-- The sound timer was set. -/
  | sound
  /-- The machine waits for a key. -/
  | keyWait
deriving DecidableEq, Repr

namespace Signal

/-- Whether a run ends at the signal. -/
def stops : Signal → Bool
  | halt => true
  | keyWait => true
  | _ => false

end Signal

/-- One or zero. -/
def flagByte (b : Bool) : UInt8 := if b then 1 else 0

namespace Arith

/-- The result of an operation on two bytes, and the flag if it sets one: the carry of a sum, or that
a difference needs no borrow. -/
def apply (op : Arith) (a b : UInt8) : UInt8 × Option UInt8 :=
  match op with
  | load => (b, none)
  | or => (a ||| b, none)
  | and => (a &&& b, none)
  | xor => (a ^^^ b, none)
  | add => (a + b, some (flagByte (256 ≤ a.toNat + b.toNat)))
  | sub => (a - b, some (flagByte (b ≤ a)))
  | subFrom => (b - a, some (flagByte (a ≤ b)))

end Arith

namespace Shift

/-- The byte shifted by one bit, and the bit that was pushed out. -/
def apply (op : Shift) (a : UInt8) : UInt8 × UInt8 :=
  match op with
  | right => (a >>> 1, a &&& 1)
  | left => (a <<< 1, a >>> 7)

end Shift

namespace Machine

variable {size : Display.Size}

/-- The three decimal digits of a byte. -/
def decimalDigits (b : UInt8) : List UInt8 := [b / 100 % 10, b / 10 % 10, b % 10]

/-- The word at the program counter, its high byte first. -/
def word (m : Machine size) : UInt16 :=
  UInt16.ofNat ((m.memory.read m.pc).toNat * 256 + (m.memory.read (m.pc.offset 1)).toNat)

/-- The machine with the program counter past the instruction. -/
def advance (m : Machine size) : Machine size := { m with pc := m.pc.offset 2 }

/-- The machine with the program counter past the instruction, and past the next one if asked. -/
def skipIf (m : Machine size) (b : Bool) : Machine size :=
  { m with pc := m.pc.offset (if b then 4 else 2) }

/-- The machine with the flag register set, and after it a register, which wins if it is the same. -/
def setFlagged (m : Machine size) (x : Register) (b flag : UInt8) : Machine size :=
  (m.setV flagRegister flag).setV x b

/-- The registers `V0` to `Vx`. -/
def registersTo (m : Machine size) (x : Register) : List UInt8 := m.v.toList.take (x.val + 1)

/-- The machine after the instruction at its program counter, and what that tells the host. A fault
of the call stack leaves the machine as it was; an unknown word is passed over. -/
def execute (m : Machine size) : Instruction → Except Fault Signal × Machine size
  | .clearScreen => (.ok .draw, { m.advance with display := Display.dark, redraw := true })
  | .ret =>
    match m.stack.pop? with
    | some (target, stack) => (.ok .jump, { m with pc := target, stack := stack })
    | none => (.error (.stackUnderflow m.pc), m)
  | .system _ => (.ok .next, m.advance)
  | .jump target => (.ok .jump, { m with pc := target })
  | .call target =>
    match m.stack.push? (m.pc.offset 2) with
    | some stack => (.ok .jump, { m with pc := target, stack := stack })
    | none => (.error (.stackOverflow m.pc), m)
  | .skipIfByte x kk => (.ok .next, m.skipIf (m.getV x == kk))
  | .skipUnlessByte x kk => (.ok .next, m.skipIf (m.getV x != kk))
  | .skipIfSame x y => (.ok .next, m.skipIf (m.getV x == m.getV y))
  | .loadByte x kk => (.ok .next, m.advance.setV x kk)
  | .addByte x kk => (.ok .next, m.advance.setV x (m.getV x + kk))
  | .arith op x y =>
    match op.apply (m.getV x) (m.getV y) with
    | (b, none) => (.ok .next, m.advance.setV x b)
    | (b, some flag) => (.ok .next, m.advance.setFlagged x b flag)
  | .shift op x =>
    let (b, flag) := op.apply (m.getV x)
    (.ok .next, m.advance.setFlagged x b flag)
  | .skipUnlessSame x y => (.ok .next, m.skipIf (m.getV x != m.getV y))
  | .loadIndex target => (.ok .next, { m.advance with index := target })
  | .jumpPlus target => (.ok .jump, { m with pc := target.offset (m.getV offsetRegister).toNat })
  | .random x kk =>
    (.ok .next, { m.advance.setV x (kk &&& m.random.byte) with random := m.random.advance })
  | .draw x y n =>
    let (erased, display) :=
      m.display.drawSprite (m.getV x).toNat (m.getV y).toNat (m.memory.slice m.index n)
    (.ok .draw,
      { m.advance.setV flagRegister (flagByte erased) with display := display, redraw := true })
  | .skipIfPressed x => (.ok .next, m.skipIf (m.keys.isDown (.ofNibble (m.getV x))))
  | .skipUnlessPressed x => (.ok .next, m.skipIf (!m.keys.isDown (.ofNibble (m.getV x))))
  | .readDelay x => (.ok .next, m.advance.setV x m.delay)
  | .awaitKey x => (.ok .keyWait, { m.advance with mode := .waiting x })
  | .setDelay x => (.ok .next, { m.advance with delay := m.getV x })
  | .setSound x => (.ok .sound, { m.advance with sound := m.getV x })
  | .addIndex x => (.ok .next, { m.advance with index := m.index.offset (m.getV x).toNat })
  | .loadGlyph x =>
    (.ok .next, { m.advance with index := .ofNat ((m.getV x).toNat * Memory.glyphHeight) })
  | .storeDecimal x =>
    (.ok .next, { m.advance with memory := m.memory.store m.index (decimalDigits (m.getV x)) })
  | .storeRegisters x =>
    (.ok .next, { m.advance with memory := m.memory.store m.index (m.registersTo x) })
  | .loadRegisters x =>
    (.ok .next, { m.advance with
      v := Vector.ofFn fun i =>
        if i ≤ x then m.memory.read (m.index.offset i) else m.getV i })
  | .unknown word => (.error (.unknownWord word m.pc), m.advance)

/-- Fetches and executes one instruction. A waiting machine goes on waiting, and a machine at a zero
word stays there. -/
def step (m : Machine size) : Except Fault Signal × Machine size :=
  match m.mode with
  | .waiting _ => (.ok .keyWait, m)
  | .running => if m.word = 0 then (.ok .halt, m) else m.execute (.decode m.word)

/-- Whether a run ends at the outcome of a step. -/
def ends : Except Fault Signal → Bool
  | .ok s => s.stops
  | .error _ => true

/-- Takes up to the given number of steps; the first outcome that ends the run is its outcome. -/
def run : Nat → Machine size → Except Fault Signal × Machine size
  | 0, m => (.ok .next, m)
  | n + 1, m =>
    let (outcome, after) := m.step
    if ends outcome then (outcome, after) else run n after

end Machine

end CosmacVip
