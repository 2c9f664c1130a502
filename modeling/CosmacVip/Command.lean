import CosmacVip.Machine.View
import CosmacVip.Player
import CosmacVip.Text.Milliseconds

/-!
The command line.

* `Command.parse?`: the command that arguments state;
* `Command.exec`: a program without a terminal, for a number of steps;
* `Command.perform`: a command, on a host that reads files and measures time.
-/

namespace CosmacVip

/-- What the program is asked to do. -/
inductive Command where
  /-- Plays a program file, with the preferences of another file. -/
  | run (rom : String) (config : Option String)
  /-- Runs a program file for a number of steps and prints the display. -/
  | exec (rom : String) (steps : Nat)
deriving DecidableEq, Repr

/-- What a finished program leaves behind. -/
structure Outcome where
  code : UInt32
  stdout : String
  stderr : String
deriving DecidableEq

namespace Command

/-! ### Arguments -/

/-- The number of steps where none is given. -/
def defaultSteps : Nat := 1000

/-- A number of steps: decimal digits, a plus sign before them if wanted, below
`Yaml.numberLimit`. -/
def steps? (arg : String) : Option Nat :=
  let digits := match arg.toList with
    | '+' :: rest => rest
    | cs => cs
  (Yaml.digits? 10 digits).filter (· < Yaml.numberLimit)

/-- The command that arguments state; those it does not need are passed over. -/
def parse? : List String → Option Command
  | "run" :: rom :: rest => some (run rom rest.head?)
  | ["exec", rom] => some (exec rom defaultSteps)
  | "exec" :: rom :: steps :: _ => (steps? steps).map (exec rom)
  | _ => none

/-! ### Texts -/

/-- The number of the version. -/
def version : String := "0.4.0"

/-- How to use the program. -/
def usageLines : List String := [
  "",
  "usage: chip8 CMD FILE [ARG]",
  "",
  "commands:",
  "    run     Run the target ROM file in the terminal, with an optional YAML config",
  "    exec    Execute the target ROM headless for a number of steps (default 1000),",
  "            then print the display",
  "",
  "examples:",
  "    chip8 run breakout.rom",
  "    chip8 run breakout.rom config.yaml",
  "    chip8 exec maze.rom 2000",
  "",
  "environment:",
  "    RUST_LOG    log level filter, logs are written to stderr",
  ""]

/-- What is printed where the arguments state no command. -/
def usage : Outcome where
  code := 64
  stdout := Machine.unlines (("Chip8 v" ++ version) :: usageLines)
  stderr := ""

/-- What is left behind by a failure after some output. -/
def failure (stdout : String) (f : Failure) : Outcome where
  code := 1
  stdout := stdout
  stderr := "Error: " ++ f.diagnostic ++ "\n"

/-! ### Running without a terminal -/

/-- Takes up to the given number of steps, the next one being number `k`, and counts the timers down after
every step whose number `interval` divides. The end of the program, a wait for a key and a fault that
is not recoverable end it before that. -/
def runTimed {size : Display.Size} (interval : Nat) :
    Nat → Nat → Machine size → Option Fault × Machine size
  | 0, _, m => (none, m)
  | n + 1, k, m =>
    let (outcome, m) := m.step
    let stopped : Option (Option Fault) := match outcome with
      | .ok s => if s.stops then some none else none
      | .error fault => if fault.recoverable then none else some (some fault)
    match stopped with
    | some fault => (fault, m)
    | none => runTimed interval n (k + 1) (if k % interval = 0 then m.tick.2 else m)

/-- The fault that ended a program, if one did, and the machine after its steps. -/
def headless (program : Array UInt8) (steps : Nat) (entropy : ChaCha.Key) :
    Except Fault (Option Fault × Machine .standard) := do
  let m ← (Machine.fresh .standard Memory.initial (.ofKey entropy)).load program
  return runTimed Frequency.standard.stepsPerFrame steps 1 m

/-- What is left behind by a program that was run without a terminal for a time in nanoseconds. -/
def report (elapsed : Nat) (fault : Option Fault) (m : Machine .standard) : Outcome :=
  let time := (Milliseconds.ofNanoseconds elapsed).text
  let stdout := "time taken: " ++ time ++ "ms\n" ++ m.picture ++ "\n"
  match fault with
  | none => ⟨0, stdout, ""⟩
  | some fault => failure stdout (.machine fault)

/-! ### Performing commands -/

/-- What commands need of their host. -/
structure Host (M : Type → Type) where
  /-- The contents of a file. -/
  read : String → M (Except FileError ByteArray)
  /-- A time in nanoseconds since an arbitrary start. -/
  now : M Nat
  /-- The key of the random stream where no seed is configured. -/
  entropy : ChaCha.Key

/-- What comes of a command: the program is over, or a player is ready. -/
inductive Result where
  | finished (outcome : Outcome)
  | playing (player : Player)

/-- The preferences of a file, or the usual ones. -/
def preferences {M : Type → Type} [Monad M] (host : Host M) :
    Option String → M (Except Failure Preferences)
  | none => return .ok {}
  | some path => return Preferences.ofFile (← host.read path)

/-- A player with a program file loaded. The preferences are read first. -/
def play {M : Type → Type} [Monad M] (host : Host M) (rom : String) (config : Option String) :
    M (Except Failure Player) := do
  match ← preferences host config with
  | .error f => return .error f
  | .ok p => return (Player.new p host.entropy).loadFile (← host.read rom)

/-- Runs a program file without a terminal. -/
def execFile {M : Type → Type} [Monad M] (host : Host M) (rom : String) (steps : Nat) :
    M Outcome := do
  match ← host.read rom with
  | .error e => return failure "" (.file e)
  | .ok bytes =>
    let start ← host.now
    match headless bytes.data steps host.entropy with
    | .error fault => return failure "" (.machine fault)
    | .ok (fault, m) =>
      let stop ← host.now
      return report (stop - start) fault m

/-- Does what the arguments ask for. -/
def perform {M : Type → Type} [Monad M] (host : Host M) (args : List String) : M Result := do
  match parse? args with
  | none => return .finished usage
  | some (exec rom steps) => return .finished (← execFile host rom steps)
  | some (run rom config) =>
    match ← play host rom config with
    | .error f => return .finished (failure "" f)
    | .ok p => return .playing p

end Command

end CosmacVip
