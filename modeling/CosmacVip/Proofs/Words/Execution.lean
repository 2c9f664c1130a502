import CosmacVip.Machine.Step
import CosmacVip.Proofs.Calls
import CosmacVip.Proofs.Words.Operation
import CosmacVip.Proofs.Words.State

/-!
Running instructions on the machine in words.

The program counter moves on before an instruction is carried out, and two groups of operations have
procedures of their own that know no other operation.

* `Words.State.executeMath`, `Words.State.executeDevice`: the two groups;
* `Words.State.draw`: a sprite, bit by bit;
* `Words.State.execute`, `Words.State.step`, `Words.State.run`: one operation, one step, several;
* `Words.State.perform`, `Words.State.performAll`: the calls of a host.
-/

namespace CosmacVip.Words.State

/-- The machine past one more instruction. -/
def skip (w : State) : Checked State := do
  return { w with pc := wrapAddress (← plus w.pc.toNat 2) }

/-- The machine past one more instruction if asked. -/
def skipWhen (w : State) (b : Bool) : Checked State := if b then w.skip else return w

/-- The value of a register. -/
def getV (w : State) (x : UInt8) : Checked UInt8 := get w.v x.toNat

/-- The machine with a register set. -/
def setV (w : State) (x b : UInt8) : Checked State := do
  return { w with v := ← set w.v x.toNat b }

/-- The number of the flag register. -/
def flagNumber : UInt8 := 15

/-- The machine with the flag register set, and after it another register. -/
def setFlagged (w : State) (x b flag : UInt8) : Checked State := do
  (← w.setV flagNumber flag).setV x b

/-! ### Operations on registers -/

/-- Carries out an operation of the forms `8xyn`. -/
def executeMath (w : State) : Operation → Checked State
  | .load x y => do w.setV x (← w.getV y)
  | .or x y => do w.setV x ((← w.getV x) ||| (← w.getV y))
  | .and x y => do w.setV x ((← w.getV x) &&& (← w.getV y))
  | .xor x y => do w.setV x ((← w.getV x) ^^^ (← w.getV y))
  | .add x y => do
    let a ← w.getV x
    let b ← w.getV y
    w.setFlagged x (a + b) (flagByte (256 ≤ a.toNat + b.toNat))
  | .sub x y => do
    let a ← w.getV x
    let b ← w.getV y
    w.setFlagged x (a - b) (flagByte (b ≤ a))
  | .shiftRight x => do
    let a ← w.getV x
    w.setFlagged x (a >>> 1) (a &&& 1)
  | .subFrom x y => do
    let a ← w.getV x
    let b ← w.getV y
    w.setFlagged x (b - a) (flagByte (a ≤ b))
  | .shiftLeft x => do
    let a ← w.getV x
    w.setFlagged x (a <<< 1) (a >>> 7)
  | _ => throw .unreachable

/-! ### Drawing -/

/-- Inverts the cell under one bit of a sprite row; the flag tells whether a cell was lit so far. -/
def drawBit (width x py : Nat) (row : UInt8) (state : Bool × Array UInt8) (c : Nat) :
    Checked (Bool × Array UInt8) := do
  if row &&& (← bitFromTop c) = 0 then return state
  let px ← modulo (← plus x c) width
  let i ← plus px (← times py width)
  let cell ← get state.2.toVector i
  return (state.1 || cell == 1, (← set state.2.toVector i (cell ^^^ 1)).toArray)

/-- Draws one row of a sprite. -/
def drawRow (w : State) (x y base : Nat) (state : Bool × Array UInt8) (r : Nat) :
    Checked (Bool × Array UInt8) := do
  let row ← w.read (← plus base r)
  let py ← modulo (← plus y r) w.height
  (List.range 8).foldlM (drawBit w.width x py row) state

/-- Draws a sprite at the coordinates in two registers. -/
def draw (w : State) (x y n : UInt8) : Checked State := do
  let left ← w.getV x
  let top ← w.getV y
  let (erased, display) ← (List.range n.toNat).foldlM
    (w.drawRow left.toNat top.toNat w.index.toNat) (false, w.display)
  let w ← w.setV flagNumber (flagByte erased)
  return { w with display, redraw := true }

/-! ### Keypad, timers and memory -/

/-- Writes one register of those that go to memory. -/
def storeRegister (base : Nat) (w : State) (k : Nat) : Checked State := do
  w.write (← plus base k) (← get w.v k)

/-- Reads one register of those that come from memory. -/
def loadRegister (base : Nat) (w : State) (k : Nat) : Checked State := do
  return { w with v := ← set w.v k (← w.read (← plus base k)) }

/-- Carries out an operation on the keypad, the timers or memory. -/
def executeDevice (w : State) : Operation → Checked (Signal × State)
  | .skipIfPressed x => do
    return (.next, ← w.skipWhen (← w.isDown (.ofNibble (← w.getV x))))
  | .skipUnlessPressed x => do
    return (.next, ← w.skipWhen (!(← w.isDown (.ofNibble (← w.getV x)))))
  | .readDelay x => do return (.next, ← w.setV x w.delay)
  | .awaitKey x => return (.keyWait, { w with mode := .waiting x })
  | .setDelay x => do return (.next, { w with delay := ← w.getV x })
  | .setSound x => do return (.sound, { w with sound := ← w.getV x })
  | .addIndex x => do
    return (.next, { w with index := wrapAddress (← plus w.index.toNat (← w.getV x).toNat) })
  | .loadGlyph x => do
    let distance ← fit (2 ^ 16) ((← w.getV x).toNat * Memory.glyphHeight)
    return (.next, { w with index := .ofNat (← fit (2 ^ 16) (0 + distance)) })
  | .storeDecimal x => do
    let a := w.index.toNat
    let b ← w.getV x
    let w ← w.write a (b / 100 % 10)
    let w ← w.write (← plus a 1) (b / 10 % 10)
    let w ← w.write (← plus a 2) (b % 10)
    return (.next, w)
  | .storeRegisters x => do
    return (.next, ← (List.range (x.toNat + 1)).foldlM (storeRegister w.index.toNat) w)
  | .loadRegisters x => do
    return (.next, ← (List.range (x.toNat + 1)).foldlM (loadRegister w.index.toNat) w)
  | _ => throw .unreachable

/-! ### Steps -/

/-- What a step returns: the outcome and the machine. -/
abbrev Stepped := Except Fault Signal × State

/-- Carries out an operation; the program counter is past it already, and it stood at the given
address. -/
def execute (w : State) (op : Operation) (address : UInt16) : Checked Stepped :=
  match op with
  | .clearScreen =>
    return (.ok .draw, { w with display := Array.replicate w.display.size 0, redraw := true })
  | .ret => do
    if w.sp = 0 then return (.error (.stackUnderflow address.toNat), { w with pc := address })
    let sp ← less w.sp.toNat 1
    return (.ok .jump, { w with sp := .ofNat sp, pc := ← get w.stack sp })
  | .system _ => return (.ok .next, w)
  | .jump target => return (.ok .jump, { w with pc := target })
  | .call target => do
    if 16 ≤ w.sp.toNat then
      return (.error (.stackOverflow address.toNat), { w with pc := address })
    let stack ← set w.stack w.sp.toNat w.pc
    let sp ← fit (2 ^ 8) (w.sp.toNat + 1)
    return (.ok .jump, { w with stack, sp := .ofNat sp, pc := target })
  | .skipIfByte x kk => do return (.ok .next, ← w.skipWhen ((← w.getV x) == kk))
  | .skipUnlessByte x kk => do return (.ok .next, ← w.skipWhen ((← w.getV x) != kk))
  | .skipIfSame x y => do return (.ok .next, ← w.skipWhen ((← w.getV x) == (← w.getV y)))
  | .loadByte x kk => do return (.ok .next, ← w.setV x kk)
  | .addByte x kk => do return (.ok .next, ← w.setV x ((← w.getV x) + kk))
  | .load .. | .or .. | .and .. | .xor .. | .add .. | .sub .. | .shiftRight _ | .subFrom ..
  | .shiftLeft _ => do return (.ok .next, ← w.executeMath op)
  | .skipUnlessSame x y => do return (.ok .next, ← w.skipWhen ((← w.getV x) != (← w.getV y)))
  | .loadIndex target => return (.ok .next, { w with index := target })
  | .jumpPlus target => do
    return (.ok .jump, { w with pc := wrapAddress (← plus target.toNat (← w.getV 0).toNat) })
  | .random x kk => do
    let w ← w.setV x (kk &&& w.random.byte)
    return (.ok .next, { w with random := w.random.advance })
  | .draw x y n => do return (.ok .draw, ← w.draw x y n)
  | .skipIfPressed _ | .skipUnlessPressed _ | .readDelay _ | .awaitKey _ | .setDelay _
  | .setSound _ | .addIndex _ | .loadGlyph _ | .storeDecimal _ | .storeRegisters _
  | .loadRegisters _ => do
    let (signal, w) ← w.executeDevice op
    return (.ok signal, w)
  | .unknown word => return (.error (.unknownWord word address.toNat), w)

/-- The word at the program counter, its high byte first. -/
def word (w : State) : Checked UInt16 := do
  let high ← w.read w.pc.toNat
  let low ← w.read (← plus w.pc.toNat 1)
  return .ofNat (high.toNat * 256 + low.toNat)

/-- Fetches and carries out one instruction. -/
def step (w : State) : Checked Stepped :=
  match w.mode with
  | .waiting _ => return (.ok .keyWait, w)
  | .running => do
    let word ← w.word
    if word = 0 then return (.ok .halt, w)
    (← w.skip).execute (.decode word) w.pc

/-- Takes up to the given number of steps; the first outcome that ends the run is its outcome. -/
def run : Nat → State → Checked Stepped
  | 0, w => return (.ok .next, w)
  | n + 1, w => do
    let (outcome, w) ← w.step
    if Machine.ends outcome then return (outcome, w)
    run n w

/-! ### Calls -/

/-- The machine after a call of its host. -/
def perform (w : State) : Machine.Call → Checked State
  | .load program => do return (← w.load program).2
  | .reset => w.reset
  | .step => do return (← w.step).2
  | .run steps => do return (← run steps w).2
  | .setKey k down => w.setKey k down
  | .clearKeys => return w.clearKeys
  | .tick => return w.tick.2
  | .present width height => return (w.present width height).2

/-- The machine after calls in turn. -/
def performAll (w : State) (calls : List Machine.Call) : Checked State := calls.foldlM perform w

end CosmacVip.Words.State
