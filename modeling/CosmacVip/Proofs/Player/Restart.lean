import CosmacVip.Proofs.Words.Player
import Mathlib.Data.List.DropRight

/-!
A restart brings back the program that was loaded last.

* `Machine.performAll_randomKey`: whatever is done with a machine, it draws on one stream of random
  bytes;
* `Player.Kept`, `Player.kept_performAll`: what every call on a player keeps;
* `Player.refusal?`: why a file is not loaded;
* `Player.upToLoad`, `Player.rom_upToLoad`, `Player.machine_upToLoad`: the calls up to the last file
  that was loaded, and the program then;
* `Player.restart_after_loads`: a file that is refused changes nothing, and a restart always leads
  back to the last one that was not.
-/

namespace CosmacVip

namespace Machine

variable {size : Display.Size}

lemma perform_randomKey (m : Machine size) (call : Call) :
    (m.perform call).random.key = m.random.key := by
  cases call with
  | load program =>
      rw [perform, loadOrKeep, load]
      split_ifs <;> rfl
  | step => exact (step_sameHost m).randomKey
  | run steps => exact (run_sameHost steps m).randomKey
  | setKey k down =>
      obtain ⟨v, mode, hm⟩ := m.setKey_frame k down
      rw [perform, hm]
  | tick => rw [perform, tick_machine]
  | present width height =>
      obtain ⟨redraw, hm⟩ := m.present_frame width height
      rw [perform, hm]
  | reset | clearKeys => rfl

/-- The stream of random bytes is the same one after any calls. -/
lemma performAll_randomKey (m : Machine size) (calls : List Call) :
    (m.performAll calls).random.key = m.random.key := by
  induction calls generalizing m with
  | nil => rfl
  | cons call calls ih => rw [performAll_cons, ih, perform_randomKey]

end Machine

namespace Player

variable {p : Player}

/-! ### What calls keep -/

/-- Of two players, one of which comes from the other: the later program has room, and the number of
instructions in a frame, the bindings of keys and the stream of random bytes are the same. -/
structure Kept (p q : Player) : Prop where
  fits : q.rom.size ≤ Memory.programCapacity
  stepsPerFrame : q.stepsPerFrame = p.stepsPerFrame
  controls : q.controls.clear = p.controls.clear
  randomKey : q.machine.random.key = p.machine.random.key

lemma kept_perform (hfits : p.rom.size ≤ Memory.programCapacity) (call : Call) :
    p.Kept (p.perform call) := by
  cases hcall : call.starts with
  | true =>
      obtain ⟨program, controls, hprogram, hp, hcontrols⟩ := perform_of_starts hfits hcall
      rw [hp]
      exact ⟨hprogram, rfl, hcontrols, rfl⟩
  | false =>
      obtain ⟨_, _, machineCalls, controls, _, hp, -, hcontrols, -⟩ := p.perform_frame hcall
      rw [hp]
      exact ⟨hfits, rfl, hcontrols, Machine.performAll_randomKey p.machine machineCalls⟩

lemma Kept.trans {q r : Player} (h : p.Kept q) (g : q.Kept r) : p.Kept r where
  fits := g.fits
  stepsPerFrame := g.stepsPerFrame.trans h.stepsPerFrame
  controls := g.controls.trans h.controls
  randomKey := g.randomKey.trans h.randomKey

lemma kept_performAll (hfits : p.rom.size ≤ Memory.programCapacity) (calls : List Call) :
    p.Kept (p.performAll calls) := by
  induction calls generalizing p with
  | nil => exact ⟨hfits, rfl, rfl, rfl⟩
  | cons call calls ih =>
      have hcall := kept_perform hfits call
      exact hcall.trans (ih hcall.fits)

/-! ### The last program -/

/-- The program stays until a file is loaded. -/
lemma rom_perform (hfits : p.rom.size ≤ Memory.programCapacity) {call : Call}
    (hcall : call.loads = false) : (p.perform call).rom = p.rom := by
  cases hstarts : call.starts with
  | true =>
      cases call with
      | restart => rw [perform_restart hfits]; rfl
      | load contents => simp [Call.starts, hcall] at hstarts
      | _ => contradiction
  | false =>
      obtain ⟨_, _, _, _, _, hp, -⟩ := p.perform_frame hstarts
      rw [hp]

lemma rom_performAll (hfits : p.rom.size ≤ Memory.programCapacity) {calls : List Call}
    (hcalls : ∀ call ∈ calls, call.loads = false) : (p.performAll calls).rom = p.rom := by
  induction calls generalizing p with
  | nil => rfl
  | cons call calls ih =>
      obtain ⟨hhead, hrest⟩ := List.forall_mem_cons.1 hcalls
      rw [performAll_cons, ih (kept_perform hfits call).fits hrest, rom_perform hfits hhead]

/-- Calls up to the last one that loads a file; none if none does. -/
def upToLoad (calls : List Call) : List Call := calls.rdropWhile fun call => !call.loads

/-- The calls that follow load no file, so that the program is the same after them. -/
lemma rom_upToLoad (hfits : p.rom.size ≤ Memory.programCapacity) (calls : List Call) :
    (p.performAll calls).rom = (p.performAll (upToLoad calls)).rom := by
  let later := calls.rtakeWhile fun call => !call.loads
  have hcalls : upToLoad calls ++ later = calls := List.rdropWhile_append_rtakeWhile
  have hlater (call : Call) (h : call ∈ later) : call.loads = false := by
    simpa using List.mem_rtakeWhile_imp h
  have hloaded := (kept_performAll hfits (upToLoad calls)).fits
  rw [← hcalls, performAll_append, rom_performAll hloaded hlater, hcalls]

lemma loads_of_upToLoad {calls before : List Call} {call : Call}
    (h : upToLoad calls = before ++ [call]) : call.loads = true := by
  have hne : upToLoad calls ≠ [] := by simp [h]
  have hlast : ¬ (!((upToLoad calls).getLast hne).loads) = true :=
    List.rdropWhile_last_not _ calls hne
  simpa [h] using hlast

/-- Right after the last load, and before the first, the machine is as it is switched on. -/
lemma machine_upToLoad (prefs : Preferences) (entropy : ChaCha.Key) (calls : List Call) :
    let loaded := (new prefs entropy).performAll (upToLoad calls)
    loaded.machine =
      .fresh .standard (Memory.withProgram loaded.rom) loaded.machine.random := by
  rcases List.eq_nil_or_concat' (upToLoad calls) with hnone | ⟨before, call, hsome⟩
  · rw [hnone]
    rfl
  · obtain ⟨bytes, hbytes, rfl⟩ := Call.loads_eq_true_iff.1 (loads_of_upToLoad hsome)
    have hload : (new prefs entropy).performAll (upToLoad calls) =
        ((new prefs entropy).performAll before).started bytes.data := by
      rw [hsome, performAll_append, performAll_cons, perform_load _ hbytes]
      rfl
    rw [hload]
    rfl

/-! ### Files that are refused, and restarts -/

/-- Why a file is not loaded, if it is not: it cannot be read, or has no room. -/
def refusal? : Except FileError ByteArray → Option Failure
  | .error e => some (.file e)
  | .ok bytes =>
    if bytes.data.size ≤ Memory.programCapacity then none
    else some (.machine (.programTooLarge bytes.data.size))

lemma loadFile_eq (p : Player) (contents : Except FileError ByteArray) :
    p.loadFile contents =
      match refusal? contents with
      | some e => .error e
      | none => .ok (p.perform (.load contents)) := by
  cases contents with
  | error e => rfl
  | ok bytes =>
      by_cases hfits : bytes.data.size ≤ Memory.programCapacity
      · rw [refusal?, if_pos hfits, p.perform_load hfits, p.loadFile_of_le hfits]
      · rw [refusal?, if_neg hfits, loadFile, load_eq, if_neg hfits]
        rfl

/-- A restart leaves the screen, the bell and the place in the stream of random bytes as they are, and
all else as it was right after the last file was loaded. -/
lemma restarted_eq (prefs : Preferences) (entropy : ChaCha.Key) (calls : List Call) :
    let p := (new prefs entropy).performAll calls
    let loaded := (new prefs entropy).performAll (upToLoad calls)
    p.restarted =
      { new prefs entropy with
        screen := p.screen
        bell := p.bell
        rom := loaded.rom
        machine :=
          { loaded.machine with
            random := { loaded.machine.random with taken := p.machine.random.taken } } } := by
  intro p loaded
  have hfits : (new prefs entropy).rom.size ≤ Memory.programCapacity := Nat.zero_le _
  have hp : (new prefs entropy).Kept p := kept_performAll hfits calls
  have hloaded : (new prefs entropy).Kept loaded := kept_performAll hfits (upToLoad calls)
  have hrom : p.rom = loaded.rom := rom_upToLoad hfits calls
  have hfresh : loaded.machine =
      .fresh .standard (Memory.withProgram loaded.rom) loaded.machine.random :=
    machine_upToLoad prefs entropy calls
  -- the streams are one stream, of which more may have been taken since
  have hrandom : p.machine.random = ⟨loaded.machine.random.key, p.machine.random.taken⟩ := by
    rw [hloaded.randomKey, ← hp.randomKey]
  have hmachine : p.restarted.machine =
      { loaded.machine with
        random := { loaded.machine.random with taken := p.machine.random.taken } } :=
    calc p.restarted.machine
        = .fresh .standard (Memory.withProgram loaded.rom) p.machine.random := by rw [← hrom]; rfl
      _ = { loaded.machine with random := p.machine.random } := by rw [hfresh]; rfl
      _ = _ := congrArg (fun random => { loaded.machine with random := random }) hrandom
  calc p.restarted
      = { screen := p.screen
          bell := p.bell
          machine := p.restarted.machine
          controls := p.controls.clear
          rom := p.rom
          stepsPerFrame := p.stepsPerFrame
          halted := false } := rfl
    _ = _ := by
      rw [hmachine, hp.controls, hrom, hp.stepsPerFrame]
      rfl

/-- **Restarts.** Whatever was done with a player: a file that cannot be read or has no room is
refused for that reason, and nothing is changed by it. A restart is never refused. It leads to the
machine right after the last file that was loaded, or to a new one if there was none, with no key
held and no event pending; only the screen, the bell and the place in the stream of random bytes
stay as they were. -/
theorem restart_after_loads (prefs : Preferences) (entropy : ChaCha.Key) (calls : List Call) :
    let p := (new prefs entropy).performAll calls
    let loaded := (new prefs entropy).performAll (upToLoad calls)
    let q := p.perform .restart
    (∀ contents e, refusal? contents = some e →
      p.loadFile contents = .error e ∧ p.perform (.load contents) = p ∧
        (Words.Player.ofPlayer p).loadFile contents = pure (.error e, .ofPlayer p)) ∧
      (∀ contents, refusal? contents = none →
        (Words.Player.ofPlayer p).loadFile contents =
          pure (.ok (), .ofPlayer (p.perform (.load contents)))) ∧
      p.restart = .ok q ∧
      (Words.Player.ofPlayer p).restart = pure (.ok (), .ofPlayer q) ∧
      q = { new prefs entropy with
        screen := p.screen
        bell := p.bell
        rom := loaded.rom
        machine :=
          { loaded.machine with
            random := { loaded.machine.random with taken := p.machine.random.taken } } } ∧
      q.halted = false ∧ (∀ k, q.controls.isHeld k = false) ∧ q.controls.pending = [] := by
  intro p loaded q
  have hfits : p.rom.size ≤ Memory.programCapacity := (kept_performAll (Nat.zero_le _) calls).fits
  have hq : q = p.restarted := perform_restart hfits
  have hrestart : p.restart = .ok q := by rw [restart_eq, if_pos hfits, hq]
  refine ⟨fun contents e he => ?_, fun contents hnone => ?_, hrestart, ?_, ?_, ?_, ?_, ?_⟩
  · have hload : p.loadFile contents = .error e := by rw [loadFile_eq, he]
    refine ⟨hload, by rw [perform, hload]; rfl, ?_⟩
    rw [Words.Player.loadFile_ofPlayer, hload]
  · rw [Words.Player.loadFile_ofPlayer, loadFile_eq, hnone]
  · rw [Words.Player.restart_ofPlayer, hrestart]
  · rw [hq]
    exact restarted_eq prefs entropy calls
  · rw [hq]
    rfl
  · rw [hq]
    intro k
    simp [restarted, Controls.clear, Controls.isHeld]
  · rw [hq]
    rfl

/-- A program that takes a random byte is loaded and runs, a key is held, and two files are refused,
one that is not there and one that is a byte too long: a restart starts the program over. -/
theorem restart_after_loads_refused :
    let random : ByteArray := ⟨#[0xC0, 0xFF]⟩
    let long : ByteArray := ⟨Array.replicate 3585 0⟩
    let calls : List Call :=
      [.load (.ok random), .update, .push (.char 'q') true 0, .load (.error .notFound)]
    let p := (new {} (Vector.replicate 8 0)).performAll calls
    refusal? (.ok long) = some (.machine (.programTooLarge 3585)) ∧
      p.perform (.load (.ok long)) = p ∧
      (Words.Player.ofPlayer p).loadFile (.ok long) =
        pure (.error (.machine (.programTooLarge 3585)), .ofPlayer p) ∧
      refusal? (.ok random) = none ∧
      (Words.Player.ofPlayer p).loadFile (.ok random) =
        pure (.ok (), .ofPlayer (p.perform (.load (.ok random)))) ∧
      upToLoad calls = [.load (.ok random)] ∧
      p.restart = .ok (p.perform .restart) ∧
      (p.perform .restart).rom = #[0xC0, 0xFF] ∧
      (p.perform .restart).controls.isHeld 4 = false := by
  intro random long calls p
  have hlong : refusal? (.ok long) = some (.machine (.programTooLarge 3585)) := by
    simp [refusal?, long, Memory.programCapacity]
  have hrandom : refusal? (.ok random) = none := rfl
  have hcalls : upToLoad calls = [.load (.ok random)] := rfl
  obtain ⟨hrefused, hloaded, hrestart, -, hq, -, hheld, -⟩ :=
    restart_after_loads {} (Vector.replicate 8 0) calls
  obtain ⟨-, hsame, hwords⟩ := hrefused _ _ hlong
  rw [hcalls] at hq
  exact ⟨hlong, hsame, hwords, hrandom, hloaded _ hrandom, hcalls, hrestart, by rw [hq]; rfl, hheld 4⟩

end Player

end CosmacVip
