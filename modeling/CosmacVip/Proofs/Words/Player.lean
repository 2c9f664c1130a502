import CosmacVip.Proofs.Player.Calls
import CosmacVip.Proofs.Words.Host

/-!
A player whose machine is written out in words, and how it comes by a program.

What is assigned before a failure stays assigned, so that it matters in which order the file is
read, the machine takes the program, and the player keeps it.

* `Words.Player`, `Words.Player.ofPlayer`: the player;
* `Words.Player.loadFile`, `Words.Player.restart`: one assignment after the other;
* `Words.Player.loadFile_ofPlayer`, `Words.Player.restart_ofPlayer`: no trap is met, and a failure
  has assigned nothing.
-/

namespace CosmacVip.Words

open Terminal (Screen Bell)

/-- A player with a machine in words. -/
structure Player where
  screen : Screen
  bell : Bell
  machine : State
  controls : Controls
  rom : Array UInt8
  stepsPerFrame : Nat
  halted : Bool

namespace Player

/-- The player with its machine written out. -/
def ofPlayer (p : CosmacVip.Player) : Player where
  screen := p.screen
  bell := p.bell
  machine := .ofMachine p.machine
  controls := p.controls
  rom := p.rom
  stepsPerFrame := p.stepsPerFrame
  halted := p.halted

/-- Whether a file was loaded, and the player after that. -/
def loadFile (p : Player) (contents : Except FileError ByteArray) :
    Checked (Except Failure Unit × Player) := do
  match contents with
  | .error e => return (.error (.file e), p)
  | .ok bytes =>
    let (outcome, machine) ← p.machine.load bytes.data
    let p := { p with machine }
    match outcome with
    | .error fault => return (.error (.machine fault), p)
    | .ok () =>
      let p := { p with rom := bytes.data }
      return (.ok (), { p with halted := false })

/-- Whether the program was started over, and the player after that. -/
def restart (p : Player) : Checked (Except Fault Unit × Player) := do
  let (outcome, machine) ← p.machine.load p.rom
  let p := { p with machine }
  match outcome with
  | .error fault => return (.error fault, p)
  | .ok () =>
    let p := { p with controls := p.controls.clear }
    return (.ok (), { p with halted := false })

/-- What becomes of the machine in words when it is given a program. -/
lemma load_machine (p : CosmacVip.Player) (program : Array UInt8) :
    (ofPlayer p).machine.load program =
      pure (if program.size ≤ Memory.programCapacity then
        (.ok (), (ofPlayer (p.started program)).machine)
      else (.error (.programTooLarge program.size), (ofPlayer p).machine)) := by
  have hload : (ofPlayer p).machine.load program = _ := State.load_ofMachine p.machine program
  rw [hload, Machine.load]
  by_cases hfits : program.size ≤ Memory.programCapacity
  · rw [if_pos hfits, if_pos hfits]
    rfl
  · rw [if_neg hfits, if_neg hfits]
    rfl

/-- A file that is loaded assignment by assignment is loaded as a whole, and one that is refused has changed
nothing. -/
theorem loadFile_ofPlayer (p : CosmacVip.Player) (contents : Except FileError ByteArray) :
    (ofPlayer p).loadFile contents = pure (match p.loadFile contents with
      | .ok q => (.ok (), ofPlayer q)
      | .error e => (.error e, ofPlayer p)) := by
  cases contents with
  | error e => rfl
  | ok bytes =>
      rw [loadFile, CosmacVip.Player.loadFile, load_machine, pure_bind, CosmacVip.Player.load_eq]
      by_cases hfits : bytes.data.size ≤ Memory.programCapacity
      · rw [if_pos hfits, if_pos hfits]
        rfl
      · rw [if_neg hfits, if_neg hfits]
        rfl

/-- A restart assignment by assignment is a restart as a whole, and one that is refused has changed
nothing. -/
theorem restart_ofPlayer (p : CosmacVip.Player) :
    (ofPlayer p).restart = pure (match p.restart with
      | .ok q => (.ok (), ofPlayer q)
      | .error fault => (.error fault, ofPlayer p)) := by
  have hload : (ofPlayer p).machine.load (ofPlayer p).rom = _ := load_machine p p.rom
  rw [restart, hload, pure_bind, CosmacVip.Player.restart_eq]
  by_cases hfits : p.rom.size ≤ Memory.programCapacity
  · rw [if_pos hfits, if_pos hfits]
    rfl
  · rw [if_neg hfits, if_neg hfits]

end Player

end CosmacVip.Words
