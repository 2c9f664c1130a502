import CosmacVip.Proofs.Player.Calls
import CosmacVip.Proofs.Stops

/-!
Frames in which there is nothing to run.

A player leaves out the instructions of a frame if its machine waits for a key or its program has
come to its end. Of the end it keeps a note, which only the start of a program takes back.

* `Machine.stopped_of_run_halt`: a run that halts leaves the machine at a zero word;
* `Player.updateAlways`: a frame that runs its instructions in any case;
* `Player.Coherent`: if there is a note of the program's end, the machine is at the end;
* `Player.coherent_new`, `Player.Coherent.perform`: so it is with a new player, and after every call;
* `Player.Coherent.update_eq`, `Player.Coherent.halted_update_iff`: a frame is the same if its
  instructions are run in any case, and notes exactly their halt;
* `Player.idle_frames_left_out`: it makes no difference what is left out, and the note stays until
  a program is started.
-/

namespace CosmacVip

/-- A run that halts leaves the machine at the end of its program. -/
lemma Machine.stopped_of_run_halt {size : Display.Size} {n : Nat} {m : Machine size}
    (h : (run n m).1 = .ok .halt) : (run n m).2.Stopped (.ok .halt) := by
  have hends : ends (run n m).1 = true := by rw [h]; rfl
  obtain ⟨s, -, hs⟩ := exists_stepped_of_ends hends
  have hstop : s.Stopped (.ok .halt) := stopped_of_halt (by rw [hs, h])
  rwa [← hs, hstop.step]

namespace Player

variable {p : Player} {call : Call}

/-- A frame that runs its instructions whether or not there is anything to run. -/
def updateAlways (p : Player) : Except Fault Unit × Player :=
  p.afterRun (Machine.run p.stepsPerFrame p.machine)

/-! ### The note of the program's end -/

lemma machine_afterRun (p : Player) (result : Except Fault Signal × Machine .standard) :
    (p.afterRun result).2.machine = result.2 := by
  obtain ⟨o, m⟩ := result
  cases o with
  | ok signal => cases signal <;> rfl
  | error fault => rfl

/-- A frame takes note of a halt and of nothing else. -/
lemma halted_afterRun_iff {result : Except Fault Signal × Machine .standard} :
    (p.afterRun result).2.halted = true ↔ p.halted = true ∨ result.1 = .ok .halt := by
  obtain ⟨o, m⟩ := result
  cases o with
  | ok signal => cases signal <;> simp [afterRun]
  | error fault => simp [afterRun]

/-- The note stays until a program is started. -/
lemma halted_perform (h : p.halted = true) (hcall : call.starts = false) :
    (p.perform call).halted = true := by
  obtain ⟨screen, bell, machineCalls, controls, halted, hp, -, -, rfl | rfl⟩ :=
    p.perform_frame hcall
  · rw [hp]
    exact h
  · rw [perform, update_of_idle (by rw [h, Bool.true_or])]
    exact h

lemma halted_performAll (h : p.halted = true) {calls : List Call}
    (hcalls : ∀ call ∈ calls, call.starts = false) : (p.performAll calls).halted = true := by
  induction calls generalizing p with
  | nil => exact h
  | cons call calls ih =>
      obtain ⟨hhead, hrest⟩ := List.forall_mem_cons.1 hcalls
      exact ih (halted_perform h hhead) hrest

/-! ### The note and the machine -/

/-- The program has room, a frame has instructions, and the machine of a player with the note is at
the end of its program. -/
structure Coherent (p : Player) : Prop where
  fits : p.rom.size ≤ Memory.programCapacity
  steps : 0 < p.stepsPerFrame
  stopped : p.halted = true → p.machine.Stopped (.ok .halt)

lemma coherent_new (prefs : Preferences) (entropy : ChaCha.Key) : (new prefs entropy).Coherent where
  fits := Nat.zero_le _
  steps := le_max_right _ 1
  stopped h := Bool.noConfusion h

/-- The note is taken at the end of a frame whose run has halted, or was there before. -/
lemma Coherent.stopped_update (h : p.Coherent) (hhalted : p.update.2.halted = true) :
    p.update.2.machine.Stopped (.ok .halt) := by
  cases hidle : p.halted || p.machine.isWaiting with
  | true =>
      rw [update_of_idle hidle] at hhalted ⊢
      exact h.stopped hhalted
  | false =>
      obtain ⟨hnote, -⟩ := Bool.or_eq_false_iff.1 hidle
      rw [update_of_run hidle] at hhalted ⊢
      rcases halted_afterRun_iff.1 hhalted with hbefore | hrun
      · simp [hnote] at hbefore
      · rw [machine_afterRun]
        exact Machine.stopped_of_run_halt hrun

lemma Coherent.perform (h : p.Coherent) (call : Call) : (p.perform call).Coherent := by
  cases hcall : call.starts with
  | true =>
      obtain ⟨program, controls, hfits, hp, -⟩ := perform_of_starts h.fits hcall
      rw [hp]
      exact ⟨hfits, h.steps, fun hhalted => Bool.noConfusion hhalted⟩
  | false =>
      obtain ⟨screen, bell, machineCalls, controls, halted, hp, hmachine, -, hnote⟩ :=
        p.perform_frame hcall
      have hstopped (hhalted : (p.perform call).halted = true) :
          (p.perform call).machine.Stopped (.ok .halt) := by
        -- only a frame takes the note; no other call gets a machine away from its end
        rcases hnote with rfl | rfl
        · rw [hp] at hhalted ⊢
          exact (h.stopped hhalted).performAll hmachine
        · exact h.stopped_update hhalted
      refine ⟨?_, ?_, hstopped⟩ <;> rw [hp]
      · exact h.fits
      · exact h.steps

lemma Coherent.performAll (h : p.Coherent) (calls : List Call) : (p.performAll calls).Coherent := by
  induction calls generalizing p with
  | nil => exact h
  | cons call calls ih => exact ih (h.perform call)

/-! ### Frames -/

lemma Coherent.exists_steps (h : p.Coherent) : ∃ n, p.stepsPerFrame = n + 1 :=
  Nat.exists_eq_succ_of_ne_zero h.steps.ne'

lemma Coherent.run_of_halted (h : p.Coherent) (hhalted : p.halted = true) (n : Nat) :
    Machine.run (n + 1) p.machine = (.ok .halt, p.machine) :=
  (h.stopped hhalted).run n

/-- Whether there is anything to run or not, a frame is the same if its instructions are run. -/
lemma Coherent.update_eq (h : p.Coherent) : p.update = p.updateAlways := by
  obtain ⟨n, hn⟩ := h.exists_steps
  cases hidle : p.halted || p.machine.isWaiting with
  | false => exact update_of_run hidle
  | true =>
      rw [update_of_idle hidle, updateAlways, hn]
      rcases Bool.or_eq_true_iff.1 hidle with hhalted | hwaiting
      · have hsame : { p with halted := true } = p := by rw [← hhalted]
        rw [h.run_of_halted hhalted]
        exact congrArg (Prod.mk _) hsame.symm
      · rw [Machine.run_of_isWaiting hwaiting]
        rfl

/-- After a frame there is a note of the end exactly if a run of its instructions halts. -/
lemma Coherent.halted_update_iff (h : p.Coherent) :
    p.update.2.halted = true ↔ (Machine.run p.stepsPerFrame p.machine).1 = .ok .halt := by
  rw [h.update_eq, updateAlways, halted_afterRun_iff]
  refine ⟨fun hnote => ?_, .inr⟩
  rcases hnote with hbefore | hrun
  · obtain ⟨n, hn⟩ := h.exists_steps
    rw [hn, h.run_of_halted hbefore]
  · exact hrun

/-- A frame at an instruction that waits for a key ends with it. -/
lemma Coherent.machine_update_of_await (h : p.Coherent) {x : Register}
    (hstep : p.machine.step = p.machine.execute (.awaitKey x)) :
    p.update.2.machine = { p.machine.advance with mode := .waiting x } := by
  obtain ⟨n, hn⟩ := h.exists_steps
  rw [h.update_eq, updateAlways, machine_afterRun, hn, Machine.run_succ, hstep]
  rfl

/-- A frame at the end of the program takes note of it. -/
lemma Coherent.halted_update_of_zero (h : p.Coherent) (hmode : p.machine.mode = .running)
    (hword : p.machine.word = 0) : p.update.2.halted = true := by
  obtain ⟨n, hn⟩ := h.exists_steps
  have hstop : p.machine.Stopped (.ok .halt) := .halt hmode hword
  rw [h.halted_update_iff, hn, hstop.run]

/-- If the program ends right after the instruction that waits, a key and one more frame bring it to
its end. -/
lemma Coherent.halted_after_await (h : p.Coherent) {x : Register}
    (hstep : p.machine.step = p.machine.execute (.awaitKey x))
    (hword : p.machine.advance.word = 0) (k : Key) :
    (p.performAll [.update]).machine.isWaiting = true ∧
      (p.performAll [.update, .setKey k true, .update]).halted = true := by
  have hwaiting : (p.performAll [.update]).machine = { p.machine.advance with mode := .waiting x } :=
    h.machine_update_of_await hstep
  have hpressed : (p.performAll [.update, .setKey k true]).machine =
      { p.machine.advance.setV x (UInt8.ofNat k) with
        keys := p.machine.keys.set k true
        mode := .running } := by
    show (p.performAll [.update]).machine.setKey k true = _
    rw [hwaiting, Machine.setKey_of_waiting rfl]
    rfl
  constructor
  · rw [hwaiting]
    rfl
  · apply (h.performAll [.update, .setKey k true]).halted_update_of_zero
    · rw [hpressed]
    · rw [hpressed]
      exact hword

/-- **Idle frames.** Whatever was done with a player: if it has the note of its program's end, every
run of one step or more halts, and if its machine waits for a key, every such run signals the
wait, and neither changes anything. Hence a frame that leaves out its instructions in these cases
is the same as one that runs them, and after it there is the note exactly if such a run halts. The
note stays until a program is loaded or restarted, which takes it back. -/
theorem idle_frames_left_out (prefs : Preferences) (entropy : ChaCha.Key) (calls : List Call) :
    let p := (new prefs entropy).performAll calls
    (p.halted = true → ∀ n, Machine.run (n + 1) p.machine = (.ok .halt, p.machine)) ∧
      (p.machine.isWaiting = true →
        ∀ n, Machine.run (n + 1) p.machine = (.ok .keyWait, p.machine)) ∧
      p.update = p.updateAlways ∧
      (p.update.2.halted = true ↔
        (Machine.run p.stepsPerFrame p.machine).1 = .ok .halt) ∧
      (p.halted = true → ∀ more : List Call, (∀ call ∈ more, call.starts = false) →
        (p.performAll more).halted = true) ∧
      ∀ call : Call, call.starts = true → (p.perform call).halted = false := by
  intro p
  have hp : p.Coherent := (coherent_new prefs entropy).performAll calls
  refine ⟨hp.run_of_halted, fun hwaiting _ => Machine.run_of_isWaiting hwaiting, hp.update_eq,
    hp.halted_update_iff, fun hhalted _ => halted_performAll hhalted, fun call hcall => ?_⟩
  obtain ⟨program, controls, -, hstarted, -⟩ := perform_of_starts hp.fits hcall
  rw [hstarted]
  rfl

/-- A player with a program that waits for a key and then ends. -/
def awaiting : Player := (new {} (Vector.replicate 8 0)).perform (.load (.ok ⟨#[0xF0, 0x0A]⟩))

lemma performAll_awaiting (calls : List Call) :
    (new {} (Vector.replicate 8 0)).performAll (.load (.ok ⟨#[0xF0, 0x0A]⟩) :: calls) =
      awaiting.performAll calls := performAll_cons _ _ _

/-- While the program waits a frame changes nothing; after the key it has come to its end, which
beats, keys and a file that is not there do not change. -/
theorem idle_frames_left_out_awaiting :
    let first : List Call := [.update]
    let second : List Call := [.update, .setKey 5 true, .update]
    let more : List Call := [.tick, .setKey 3 true, .load (.error .notFound), .update]
    (awaiting.performAll first).machine.isWaiting = true ∧
      Machine.run 3 (awaiting.performAll first).machine =
        (.ok .keyWait, (awaiting.performAll first).machine) ∧
      (awaiting.performAll first).update = (awaiting.performAll first).updateAlways ∧
      (awaiting.performAll second).halted = true ∧
      Machine.run 3 (awaiting.performAll second).machine =
        (.ok .halt, (awaiting.performAll second).machine) ∧
      ((awaiting.performAll second).performAll more).halted = true ∧
      ((awaiting.performAll second).perform .restart).halted = false := by
  intro first second more
  have hcoherent : awaiting.Coherent := (coherent_new {} (Vector.replicate 8 0)).perform _
  have hstep : awaiting.machine.step = awaiting.machine.execute (.awaitKey 0) :=
    Machine.step_fresh #[0xF0, 0x0A] _ (w := 0xF00A) rfl (by decide)
  have hword : awaiting.machine.advance.word = 0 :=
    Machine.word_program #[0xF0, 0x0A] 2 rfl rfl (by decide) rfl
  obtain ⟨hwait, hended⟩ := hcoherent.halted_after_await hstep hword 5
  have hfirst := idle_frames_left_out {} (Vector.replicate 8 0)
    (.load (.ok ⟨#[0xF0, 0x0A]⟩) :: first)
  have hsecond := idle_frames_left_out {} (Vector.replicate 8 0)
    (.load (.ok ⟨#[0xF0, 0x0A]⟩) :: second)
  rw [performAll_awaiting] at hfirst hsecond
  obtain ⟨-, hwaits, hframe, -⟩ := hfirst
  obtain ⟨hhalts, -, -, -, hstays, hstarts⟩ := hsecond
  have hmore : ∀ call ∈ more, call.starts = false := by
    simp [more, Call.starts, Call.loads]
  exact ⟨hwait, hwaits hwait 2, hframe, hended, hhalts hended 2, hstays hended more hmore,
    hstarts .restart rfl⟩

end Player

end CosmacVip
