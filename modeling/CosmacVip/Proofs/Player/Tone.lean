import CosmacVip.Proofs.Frame
import CosmacVip.Proofs.Player.Calls
import CosmacVip.Proofs.Programs
import CosmacVip.Proofs.Tone

/-!
The tone, which the machine's sound timer, the machine's note of what it told the bell, and the
bell itself record.

* `Player.sounds`, `Player.tuned_performAll`: a player's calls have a history of the tone;
* `Player.bell_follows_sound`: after a beat, the bell rings exactly while the sound timer runs
  unless the last tone was cut off, and starts and stops alternate unless there was a start
  after a tone that was cut off.
-/

namespace CosmacVip

open SoundEvent (told cutOff tones)

/-! ### Histories of a player -/

namespace Player

/-- What happens to the tone when the machine gets a new program or refuses it. -/
def soundsOfProgram {ε : Type} (p : Player) : Except ε Player → List SoundEvent
  | .ok _ => if p.machine.toneOn then [cutOff] else []
  | .error _ => []

/-- What happens to the tone at a call. -/
def soundsOf (p : Player) : Call → List SoundEvent
  | .load contents => p.soundsOfProgram (p.loadFile contents)
  | .restart => p.soundsOfProgram p.restart
  | .tick => p.machine.tick.1.map told
  | _ => []

/-- What happens to the tone at calls in turn. -/
def sounds (p : Player) : List Call → List SoundEvent
  | [] => []
  | call :: calls => p.soundsOf call ++ (p.perform call).sounds calls

lemma tuned_perform {p : Player} {log : List SoundEvent}
    (h : Tuned log p.machine.toneOn p.bell.ringing) (call : Call) :
    Tuned (log ++ p.soundsOf call) (p.perform call).machine.toneOn
      (p.perform call).bell.ringing := by
  cases call with
  | load contents =>
      simp only [soundsOf, perform]
      rcases p.loadFile_cases contents with ⟨bytes, -, -, hload⟩ | ⟨e, hload⟩
      · rw [hload]
        exact h.takenOff
      · rw [hload]
        simpa [soundsOfProgram, orKeep] using h
  | restart =>
      simp only [soundsOf, perform, restart_eq]
      split
      · exact h.takenOff
      · simpa [soundsOfProgram, orKeep] using h
  | update =>
      obtain ⟨n, halted, hp⟩ := p.update_frame
      simpa [soundsOf, perform, hp, (Machine.run_sameHost n p.machine).toneOn] using h
  | tick => exact h.tick
  | present =>
      obtain ⟨screen, redraw, hp⟩ := p.present_frame
      simpa [soundsOf, perform, hp] using h
  | render => simpa [soundsOf, perform, render] using h
  | setKey k down =>
      obtain ⟨v, mode, hm⟩ := p.machine.setKey_frame k down
      simpa [soundsOf, perform, hm] using h
  | push k down now => simpa [soundsOf, perform] using h
  | expire now => simpa [soundsOf, perform] using h
  | drain => simpa [soundsOf, perform] using h

lemma tuned_performAll {p : Player} {log : List SoundEvent}
    (h : Tuned log p.machine.toneOn p.bell.ringing) (calls : List Call) :
    Tuned (log ++ p.sounds calls) (p.performAll calls).machine.toneOn
      (p.performAll calls).bell.ringing := by
  induction calls generalizing p log with
  | nil => simpa [sounds, performAll] using h
  | cons call calls ih =>
      rw [sounds, ← List.append_assoc]
      exact ih (tuned_perform h call)

lemma tuned_new (prefs : Preferences) (entropy : ChaCha.Key) (calls : List Call) :
    Tuned ((new prefs entropy).sounds calls) ((new prefs entropy).performAll calls).machine.toneOn
      ((new prefs entropy).performAll calls).bell.ringing :=
  tuned_performAll (p := new prefs entropy) .silent calls

lemma status_eq_beep_iff (p : Player) :
    p.status = "beep" ↔ p.halted = false ∧ p.machine.isWaiting = false ∧ p.bell.ringing = true := by
  cases hh : p.halted <;> cases hw : p.machine.isWaiting <;> cases hr : p.bell.ringing <;>
    simp [status, hh, hw, hr]

/-- After a beat the tone is on exactly if the sound timer runs. -/
lemma toneOn_tick_iff (p : Player) :
    (p.performAll [.tick]).machine.toneOn = true ↔ (p.performAll [.tick]).machine.sound ≠ 0 := by
  have hm : (p.performAll [.tick]).machine = p.machine.tick.2 := rfl
  rw [hm, Machine.tick_machine]
  exact bne_iff_ne

/-! ### A restart while the tone sounds -/

/-- A beat while nothing sounds. -/
lemma tick_of_silent {p : Player} (hsound : p.machine.sound = 0) (hoff : p.machine.toneOn = false) :
    p.tick.2.bell = p.bell ∧ p.tick.2.machine.sound = 0 := by
  constructor
  · have h : p.machine.tick.1 = [] := by
      simp [Machine.tick, Machine.startTone, Machine.stopTone, hsound, hoff]
    show (p.bell.hearAll p.machine.tick.1).2 = p.bell
    rw [h]
    rfl
  · show p.machine.tick.2.sound = 0
    rw [Machine.tick_machine, hsound]
    rfl

/-- A beat that starts the tone. -/
lemma ringing_tick {p : Player} (hsound : Machine.countdown p.machine.sound ≠ 0)
    (hoff : p.machine.toneOn = false) : p.tick.2.bell.ringing = true := by
  have hs := Machine.ne_zero_of_countdown hsound
  have h : p.machine.tick.1 = [.start] := by
    simp [Machine.tick, Machine.startTone, Machine.stopTone, hs, hoff, hsound]
  show (p.bell.hearAll p.machine.tick.1).2.ringing = true
  rw [h]
  rfl

/-- A restart while the tone sounds: the next beat finds the bell ringing and the sound timer at
zero. -/
lemma ringing_of_restart {p : Player} (hrom : p.rom.size ≤ Memory.programCapacity)
    (hsound : Machine.countdown p.machine.sound ≠ 0) (hoff : p.machine.toneOn = false) :
    (p.performAll [.tick, .restart, .tick]).bell.ringing = true ∧
      (p.performAll [.tick, .restart, .tick]).machine.sound = 0 := by
  have hrestart : p.tick.2.perform .restart = p.tick.2.restarted := perform_restart hrom
  have hsilent := tick_of_silent (p := p.tick.2.restarted) rfl rfl
  have hcalls : p.performAll [.tick, .restart, .tick] = p.tick.2.restarted.tick.2 := by
    rw [← hrestart]
    rfl
  rw [hcalls, hsilent.1, hsilent.2]
  exact ⟨ringing_tick hsound hoff, rfl⟩

/-- A byte is loaded into a register, and the sound timer is set to the register. -/
lemma sound_of_run {size : Display.Size} {m : Machine size} {x : Register} {b : UInt8}
    (hload : m.step = m.execute (.loadByte x b))
    (hset : (m.advance.setV x b).step = (m.advance.setV x b).execute (.setSound x)) :
    (Machine.run 2 m).2.sound = b := by
  rw [Machine.run_succ, hload]
  show (Machine.run 1 (m.advance.setV x b)).2.sound = b
  rw [Machine.run_succ, hset]
  show (m.advance.setV x b).getV x = b
  simp [Machine.getV, Machine.setV]

/-- As above, from the loading of a program on that sets the sound timer. -/
lemma ringing_of_load (p : Player) {bytes : ByteArray} {m : Machine .standard}
    (hfits : bytes.data.size ≤ Memory.programCapacity) (hm : (p.started bytes.data).machine = m)
    (hsound : Machine.countdown (Machine.run p.stepsPerFrame m).2.sound ≠ 0) :
    (p.performAll [.load (.ok bytes), .update, .tick, .restart, .tick]).bell.ringing = true ∧
      (p.performAll [.load (.ok bytes), .update, .tick, .restart, .tick]).machine.sound = 0 := by
  obtain ⟨halted, hupdate⟩ := update_of_active (p := p.started bytes.data) rfl
  have hoff : (p.started bytes.data).update.2.machine.toneOn = false := by
    rw [hupdate]
    exact (Machine.run_sameHost _ _).toneOn
  have hcalls : p.performAll [.load (.ok bytes), .update, .tick, .restart, .tick] =
      (p.started bytes.data).update.2.performAll [.tick, .restart, .tick] := by
    rw [performAll_cons, perform_load p hfits, performAll_cons, perform]
  rw [hcalls]
  apply ringing_of_restart
  · rw [hupdate]
    exact hfits
  · rw [hupdate, hm]
    exact hsound
  · exact hoff

/-! ### The bell after any calls -/

/-- **When the bell follows the sound timer.** Starts and stops alternate, whatever is done with
the player and in whatever order, exactly if the bell is told nothing after a tone is cut off.
Right after a beat the machine has the tone on exactly if its sound timer runs; the bell rings
exactly then if a tone being cut off was not the last event, and otherwise it rings, and the
status may say so, while the timer is at zero. -/
theorem bell_follows_sound (prefs : Preferences) (entropy : ChaCha.Key) (calls : List Call) :
    let log := (new prefs entropy).sounds calls
    let after := (new prefs entropy).performAll (calls ++ [.tick])
    let logAfter := (new prefs entropy).sounds (calls ++ [.tick])
    (Alternating (tones log) ↔ cutOff ∉ log.dropLast) ∧
      (after.machine.toneOn = true ↔ after.machine.sound ≠ 0) ∧
      (after.bell.ringing = after.machine.toneOn ↔ logAfter.getLast? ≠ some cutOff) ∧
      (after.status = "beep" ∧ after.machine.sound = 0 ↔
        logAfter.getLast? = some cutOff ∧ after.halted = false ∧
          after.machine.isWaiting = false) := by
  intro log after logAfter
  have hlog : Tuned log _ _ := tuned_new prefs entropy calls
  have hafter : Tuned logAfter after.machine.toneOn after.bell.ringing :=
    tuned_new prefs entropy (calls ++ [.tick])
  have hon : after.machine.toneOn = true ↔ after.machine.sound ≠ 0 := by
    have h := toneOn_tick_iff ((new prefs entropy).performAll calls)
    rwa [← performAll_append] at h
  have hoff : after.machine.toneOn = false ↔ after.machine.sound = 0 := by
    rw [← Bool.not_eq_true, hon, not_not]
  refine ⟨hlog.alternating_iff, hon, hafter.ringing_eq_iff, ?_⟩
  rw [← hafter.rings_on_iff, hoff, status_eq_beep_iff]
  tauto

/-- A program that sounds, and a restart before its sound is over: the bell goes on ringing,
although neither the machine's note nor its sound timer says so. -/
theorem rings_on_after_restart :
    let after := (new { clockFrequency := some ⟨120⟩ } (Vector.replicate 8 0)).performAll
      ([.load (.ok ⟨#[0x60, 0x05, 0xF0, 0x18]⟩), .update, .tick, .restart] ++ [.tick])
    after.bell.ringing = true ∧ after.machine.sound = 0 := by
  intro after
  let p := new { clockFrequency := some ⟨120⟩ } (Vector.replicate 8 0)
  let m := (p.started #[0x60, 0x05, 0xF0, 0x18]).machine
  have hload : m.step = m.execute (.loadByte 0 5) :=
    Machine.step_fresh #[0x60, 0x05, 0xF0, 0x18] _ (w := 0x6005) rfl (by decide)
  have hset : (m.advance.setV 0 5).step = (m.advance.setV 0 5).execute (.setSound 0) :=
    Machine.step_program #[0x60, 0x05, 0xF0, 0x18] 2 (w := 0xF018) rfl rfl rfl (by decide) rfl
      (by decide)
  have hsound : Machine.countdown (Machine.run p.stepsPerFrame m).2.sound ≠ 0 := by
    have hsteps : p.stepsPerFrame = 2 := rfl
    rw [hsteps, sound_of_run hload hset]
    decide
  have hcalls : after = p.performAll
      [.load (.ok ⟨#[0x60, 0x05, 0xF0, 0x18]⟩), .update, .tick, .restart, .tick] := rfl
  rw [hcalls]
  have hm : (p.started (ByteArray.mk #[0x60, 0x05, 0xF0, 0x18]).data).machine = m := rfl
  exact ringing_of_load p (by decide) hm hsound

end Player

end CosmacVip
