import CosmacVip.Command
import CosmacVip.Terminal.KeyReport

/-!
The command line program. Files, time, entropy and the terminal are its own; what it does with them is
decided by `Command` and `Player`.
-/

open CosmacVip

namespace CosmacVip.CommandLine

/-- The reason for which a file was not read. -/
def fileError : IO.Error → FileError
  | .noFileOrDirectory .. => .notFound
  | .permissionDenied .. => .permissionDenied
  | .inappropriateType .. => .isDirectory
  | e => ⟨5, "Uncategorized", e.toString⟩

/-- The contents of a file. -/
def readContents (path : String) : IO (Except FileError ByteArray) := do
  try
    return .ok (← IO.FS.readBinFile path)
  catch e =>
    return .error (fileError e)

/-- Four bytes as a word, the low one first. -/
def wordOf (bytes : ByteArray) (k : Nat) : UInt32 :=
  (List.range 4).foldr (fun i w => w * 256 + (bytes.get! (4 * k + i)).toUInt32) 0

/-- The host that the program runs on. -/
def host : IO (Command.Host IO) := do
  let bytes ← IO.getRandomBytes 32
  return ⟨readContents, IO.monoNanosNow, Vector.ofFn fun i => wordOf bytes i⟩

/-- Collects what is typed until the input ends. -/
partial def collect (input : IO.FS.Stream) (typed : IO.Ref (List Char)) : IO Unit := do
  let line ← input.getLine
  if line.isEmpty then return
  typed.modify (· ++ line.toList)
  collect input typed

/-- The controls after characters were typed. -/
def report (c : Controls) (typed : List Char) (now : Nat) : Controls :=
  typed.foldl
    (fun c ch =>
      match Terminal.KeyReport.event? ⟨.ofInput ch, .press⟩ with
      | some (k, down) => c.push k down now
      | none => c)
    c

/-- Plays frame after frame, until the player leaves or a fault ends the program. -/
partial def playOn (output : IO.FS.Stream) (typed : IO.Ref (List Char)) (clock : Clock) (p : Player) :
    IO (Except Fault Unit) := do
  let now ← IO.monoNanosNow
  IO.sleep (UInt32.ofNat (clock.remaining now / 1000000))
  let now ← IO.monoNanosNow
  let (due, clock) := clock.tick now
  if due then
    let ms := now / 1000000
    let chars ← typed.modifyGet fun cs => (cs, [])
    match Player.frame { p with controls := report p.controls chars ms } ms with
    | .error fault => return .error fault
    | .ok none => return .ok ()
    | .ok (some (page, p)) =>
      output.putStr page
      output.flush
      playOn output typed clock p
  else playOn output typed clock p

/-- Plays on the alternate screen of the terminal, without a cursor. -/
def play (p : Player) : IO Outcome := do
  let output ← IO.getStdout
  let typed ← IO.mkRef []
  let _ ← IO.asTask (collect (← IO.getStdin) typed) .dedicated
  output.putStr "\x1b[?1049h\x1b[?25l"
  let ending ← playOn output typed ⟨Frequency.frames.interval, ← IO.monoNanosNow⟩ p
  output.putStr "\x1b[?25h\x1b[?1049l"
  output.flush
  match ending with
  | .ok () => return ⟨0, "", ""⟩
  | .error fault => return Command.failure "" (.machine fault)

end CosmacVip.CommandLine

def main (args : List String) : IO UInt32 := do
  let result ← Command.perform (← CommandLine.host) args
  let outcome ← match result with
    | .finished outcome => pure outcome
    | .playing player => CommandLine.play player
  IO.print outcome.stdout
  IO.eprint outcome.stderr
  return outcome.code
