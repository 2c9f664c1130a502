import CosmacVip.Player
import CosmacVip.Proofs.Controls
import CosmacVip.Proofs.Fetch

/-!
What can be done with a player, one call after the other.

* `Player.Call`: the parts of a frame, the loading of files, and input, each with its arguments;
* `Player.perform`, `Player.performAll`: the player after a call, and after several in turn;
* `Player.loadFile_cases`, `Player.restart_eq`, `Player.update_frame`, `Player.present_frame`: what
  a program from its start, the instructions of a frame and a screen change;
* `Player.Call.starts`: the calls that put a program at its start;
* `Player.perform_of_starts`, `Player.perform_frame`: what they do, and what the others leave as it
  is.
-/

namespace CosmacVip.Player

/-- One operation on a player. -/
inductive Call where
  /-- Loads what was read of a file. -/
  | load (contents : Except FileError ByteArray)
  | restart
  | update
  | tick
  | present
  | render
  | setKey (k : Key) (down : Bool)
  /-- A report of a host key, with its time. -/
  | push (k : HostKey) (down : Bool) (now : Nat)
  | expire (now : Nat)
  | drain

/-- The player that an operation gives; one that fails leaves the player as it was. -/
def orKeep {ε : Type} (p : Player) : Except ε Player → Player
  | .ok q => q
  | .error _ => p

/-- The player after a call. -/
def perform (p : Player) : Call → Player
  | .load contents => p.orKeep (p.loadFile contents)
  | .restart => p.orKeep p.restart
  | .update => p.update.2
  | .tick => p.tick.2
  | .present => p.present.2
  | .render => p.render.2
  | .setKey k down => { p with machine := p.machine.setKey k down }
  | .push k down now => { p with controls := p.controls.push k down now }
  | .expire now => { p with controls := p.controls.expire now }
  | .drain => { p with controls := p.controls.drain.2 }

/-- The player after calls in turn. -/
def performAll (p : Player) (calls : List Call) : Player := calls.foldl perform p

lemma performAll_cons (p : Player) (call : Call) (calls : List Call) :
    p.performAll (call :: calls) = (p.perform call).performAll calls := rfl

lemma performAll_append (p : Player) (calls more : List Call) :
    p.performAll (calls ++ more) = (p.performAll calls).performAll more :=
  List.foldl_append

/-! ### Programs -/

/-- The player with a program at its start. -/
def started (p : Player) (program : Array UInt8) : Player :=
  { p with
    machine := .fresh .standard (Memory.withProgram program) p.machine.random
    rom := program
    halted := false }

lemma load_eq (p : Player) (program : Array UInt8) :
    p.load program =
      if program.size ≤ Memory.programCapacity then .ok (p.started program)
      else .error (.programTooLarge program.size) := by
  rw [load, Machine.load]
  split <;> rfl

/-- The player with its program at the start again, and its controls cleared. -/
def restarted (p : Player) : Player := { p.started p.rom with controls := p.controls.clear }

lemma restart_eq (p : Player) :
    p.restart =
      if p.rom.size ≤ Memory.programCapacity then .ok p.restarted
      else .error (.programTooLarge p.rom.size) := by
  rw [restart, Machine.load]
  split <;> rfl

lemma perform_restart {p : Player} (h : p.rom.size ≤ Memory.programCapacity) :
    p.perform .restart = p.restarted := by
  rw [perform, restart_eq, if_pos h]
  rfl

lemma loadFile_of_le (p : Player) {bytes : ByteArray}
    (h : bytes.data.size ≤ Memory.programCapacity) :
    p.loadFile (.ok bytes) = .ok (p.started bytes.data) := by
  rw [loadFile, load_eq, if_pos h]
  rfl

/-- A file that is read and has room is started; any other is refused. -/
lemma loadFile_cases (p : Player) (contents : Except FileError ByteArray) :
    (∃ bytes, contents = .ok bytes ∧ bytes.data.size ≤ Memory.programCapacity ∧
      p.loadFile contents = .ok (p.started bytes.data)) ∨
      ∃ e, p.loadFile contents = .error e := by
  cases contents with
  | error e => exact .inr ⟨_, rfl⟩
  | ok bytes =>
      by_cases h : bytes.data.size ≤ Memory.programCapacity
      · exact .inl ⟨bytes, rfl, h, p.loadFile_of_le h⟩
      · exact .inr ⟨_, by rw [loadFile, load_eq, if_neg h]; rfl⟩

lemma perform_load (p : Player) {bytes : ByteArray} (h : bytes.data.size ≤ Memory.programCapacity) :
    p.perform (.load (.ok bytes)) = p.started bytes.data := by
  rw [perform, p.loadFile_of_le h]
  rfl

/-! ### Parts of a frame -/

/-- Nothing happens while the program is at its end or the machine waits. -/
lemma update_of_idle {p : Player} (h : (p.halted || p.machine.isWaiting) = true) :
    p.update = (.ok (), p) := by
  rw [update, if_pos h]

/-- What becomes of a frame whose instructions come to an outcome and a machine. -/
def afterRun (p : Player) : Except Fault Signal × Machine .standard → Except Fault Unit × Player
  | (.ok .halt, m) => (.ok (), { p with machine := m, halted := true })
  | (.ok _, m) => (.ok (), { p with machine := m })
  | (.error fault, m) => (if fault.recoverable then .ok () else .error fault, { p with machine := m })

/-- Otherwise the machine runs. -/
lemma update_of_run {p : Player} (h : (p.halted || p.machine.isWaiting) = false) :
    p.update = p.afterRun (Machine.run p.stepsPerFrame p.machine) := by
  rw [update, if_neg (by simp [h])]
  cases Machine.run p.stepsPerFrame p.machine with
  | mk o n =>
      cases o with
      | ok signal => cases signal <;> rfl
      | error fault => rfl

/-- At most the note of the program's end is changed besides. -/
lemma update_of_active {p : Player} (h : (p.halted || p.machine.isWaiting) = false) :
    ∃ halted, p.update.2 =
      { p with machine := (Machine.run p.stepsPerFrame p.machine).2, halted := halted } := by
  rw [update_of_run h]
  cases Machine.run p.stepsPerFrame p.machine with
  | mk o n =>
      cases o with
      | ok signal => exact ⟨p.halted || signal == .halt, by cases signal <;> simp [afterRun]⟩
      | error fault => exact ⟨p.halted, rfl⟩

/-- The instructions of a frame change the machine by a run, and whether the program is at its
end. -/
lemma update_frame (p : Player) :
    ∃ n halted, p.update.2 =
      { p with machine := (Machine.run n p.machine).2, halted := halted } := by
  cases h : p.halted || p.machine.isWaiting with
  | true => exact ⟨0, p.halted, by rw [update_of_idle h]; rfl⟩
  | false => exact ⟨_, update_of_active h⟩

/-- A screen changes nothing of the player but the picture and what the machine does for it. -/
lemma present_cases (p : Player) :
    ∃ screen machine, p.present.2 = { p with screen := screen, machine := machine } ∧
      (machine = p.machine ∨
        machine = (p.machine.present p.screen.width p.screen.height).2) := by
  rw [present]
  split
  · rename_i display machine h
    split
    · exact ⟨_, machine, rfl, .inr (by rw [h])⟩
    · exact ⟨p.screen, p.machine, rfl, .inl rfl⟩
  · rename_i machine h
    exact ⟨p.screen, machine, rfl, .inr (by rw [h])⟩

/-- A screen changes nothing of the machine but the mark of a changed display. -/
lemma present_frame (p : Player) :
    ∃ screen redraw, p.present.2 =
      { p with screen := screen, machine := { p.machine with redraw := redraw } } := by
  obtain ⟨screen, machine, hp, rfl | rfl⟩ := p.present_cases
  · exact ⟨screen, p.machine.redraw, hp⟩
  · obtain ⟨redraw, hm⟩ := p.machine.present_frame p.screen.width p.screen.height
    exact ⟨screen, redraw, hm ▸ hp⟩

/-! ### Calls that start a program, and the others -/

/-- Whether a call loads a program that the machine accepts. -/
def Call.loads : Call → Bool
  | .load (.ok bytes) => bytes.data.size ≤ Memory.programCapacity
  | _ => false

/-- Whether a call puts a program at its start, a new one or the current one. -/
def Call.starts : Call → Bool
  | .restart => true
  | call => call.loads

lemma Call.loads_eq_true_iff {call : Call} :
    call.loads = true ↔
      ∃ bytes : ByteArray, bytes.data.size ≤ Memory.programCapacity ∧ call = .load (.ok bytes) := by
  constructor
  · intro h
    cases call with
    | load contents =>
        cases contents with
        | ok bytes => exact ⟨bytes, of_decide_eq_true h, rfl⟩
        | error e => contradiction
    | _ => contradiction
  · rintro ⟨bytes, h, rfl⟩
    exact decide_eq_true h

/-- A file that is not read or has no room leaves the player as it was. -/
lemma perform_load_of_refused (p : Player) {contents : Except FileError ByteArray}
    (h : (Call.load contents).loads = false) : p.perform (.load contents) = p := by
  rcases p.loadFile_cases contents with ⟨bytes, rfl, hfits, -⟩ | ⟨e, he⟩
  · have hloads : (Call.load (.ok bytes)).loads = true := decide_eq_true hfits
    simp [hloads] at h
  · rw [perform, he]
    rfl

/-- A program that is started has room, and besides it at most the controls are touched. -/
lemma perform_of_starts {p : Player} (hfits : p.rom.size ≤ Memory.programCapacity) {call : Call}
    (h : call.starts = true) :
    ∃ program controls, program.size ≤ Memory.programCapacity ∧
      p.perform call = { p.started program with controls := controls } ∧
        controls.clear = p.controls.clear := by
  cases call with
  | restart => exact ⟨p.rom, p.controls.clear, hfits, perform_restart hfits, rfl⟩
  | load contents =>
      obtain ⟨bytes, hbytes, hcall⟩ := Call.loads_eq_true_iff.1 h
      rw [hcall, p.perform_load hbytes]
      exact ⟨bytes.data, p.controls, hbytes, rfl, rfl⟩
  | _ => contradiction

/-- Every other call leaves the program, the number of instructions in a frame and the bindings of
the controls as they are. It does with the machine what a host can do without a restart, and only
a frame takes note of the end of the program. -/
lemma perform_frame (p : Player) {call : Call} (h : call.starts = false) :
    ∃ screen bell machineCalls controls halted,
      p.perform call =
          { p with
            screen := screen
            bell := bell
            machine := p.machine.performAll machineCalls
            controls := controls
            halted := halted } ∧
        (∀ c ∈ machineCalls, c.restarts = false) ∧ controls.clear = p.controls.clear ∧
          (halted = p.halted ∨ call = .update) := by
  cases call with
  | load contents =>
      exact ⟨_, _, [], _, _, p.perform_load_of_refused h, by simp, rfl, .inl rfl⟩
  | restart => contradiction
  | update =>
      obtain ⟨n, halted, hp⟩ := p.update_frame
      exact ⟨_, _, [.run n], _, halted, hp, by simp [Machine.Call.restarts], rfl, .inr rfl⟩
  | tick => exact ⟨_, _, [.tick], _, _, rfl, by simp [Machine.Call.restarts], rfl, .inl rfl⟩
  | present =>
      obtain ⟨screen, machine, hp, rfl | rfl⟩ := p.present_cases
      · exact ⟨screen, _, [], _, _, hp, by simp, rfl, .inl rfl⟩
      · exact ⟨screen, _, [.present _ _], _, _, hp, by simp [Machine.Call.restarts], rfl, .inl rfl⟩
  | render => exact ⟨_, _, [], _, _, rfl, by simp, rfl, .inl rfl⟩
  | setKey k down =>
      exact ⟨_, _, [.setKey k down], _, _, rfl, by simp [Machine.Call.restarts], rfl, .inl rfl⟩
  | push k down now =>
      exact ⟨_, _, [], _, _, rfl, by simp, p.controls.clear_perform (.push k down now), .inl rfl⟩
  | expire now =>
      exact ⟨_, _, [], _, _, rfl, by simp, p.controls.clear_perform (.expire now), .inl rfl⟩
  | drain => exact ⟨_, _, [], _, _, rfl, by simp, p.controls.clear_perform .drain, .inl rfl⟩

end CosmacVip.Player
