import CosmacVip.Command
import CosmacVip.Proofs.Player.Calls
import CosmacVip.Proofs.Stops
import CosmacVip.Proofs.Views
import Mathlib.Data.List.FinRange

/-!
A program runs the same with a terminal and without one.

* `Command.steppedTimed`: the machines of which a run without a terminal takes a step, in turn;
* `Player.rounds`: the instructions and the timers of frames, one frame after the other;
* `Command.runTimed_frame`: the steps from one beat of the timers to the next are those of a frame;
* `Player.rounds_agree`: frame by frame, both come to the same display and the same fault;
* `Command.printed`, `Command.EndsAs`: what is printed for a display, and with what code and error text
  a program ends;
* `Command.exists_endsAs_runTimed`: a run without a terminal ends well or with a fault of the stack;
* `Command.exec_agrees_with_rounds`: what is printed without a terminal is what a player shows
  after as many frames, unless an unknown word is executed.

A player gives up the rest of a frame at an unknown word, where a run without a terminal goes on.
-/

namespace CosmacVip

namespace Machine

variable {size : Display.Size}

/-- The next instruction, if there is one, is not an unknown word. -/
def Known (m : Machine size) : Prop := ∀ w, m.fetch? ≠ some (.unknown w)

/-- A fault of a known instruction is not recoverable. -/
lemma Known.recoverable_eq_false {m : Machine size} (h : m.Known) {fault : Fault}
    (ho : m.step.1 = .error fault) : fault.recoverable = false := by
  rcases step_error ho with hstop | ⟨hf, -, -⟩
  · cases hstop <;> rfl
  · exact absurd hf (h m.word)

/-- Only an instruction that waits for a key signals it. -/
lemma execute_keyWait {m : Machine size} {i : Instruction} (h : (m.execute i).1 = .ok .keyWait) :
    (m.execute i).2.isWaiting = true := by
  cases i with
  | awaitKey x => rfl
  | ret => cases hs : m.stack.pop? <;> simp [execute, hs] at h
  | call target => cases hs : m.stack.push? (m.pc.offset 2) <;> simp [execute, hs] at h
  | arith op x y => cases op <;> simp [execute, Arith.apply] at h
  | _ => simp [execute] at h

/-- After a step that signals a wait the machine waits. -/
lemma isWaiting_of_keyWait {m : Machine size} (h : m.step.1 = .ok .keyWait) :
    m.step.2.isWaiting = true := by
  rcases m.step_fetch_cases with ⟨x, hx, hstep⟩ | ⟨-, -, hstep⟩ | ⟨i, -, hstep⟩ <;> rw [hstep] at h ⊢
  · rw [isWaiting, hx]
    rfl
  · simp at h
  · exact execute_keyWait h

/-- A machine that jumps to where it is stays as it is. -/
lemma step_of_jump_here {m : Machine size} {target : Address}
    (h : m.fetch? = some (.jump target)) (hpc : m.pc = target) : m.step = (.ok .jump, m) := by
  subst hpc
  rw [step_of_fetch h]
  rfl

/-- A beat changes nothing when both timers are at zero and the tone is off. -/
lemma tick_of_still {m : Machine size} (hdelay : m.delay = 0) (hsound : m.sound = 0)
    (htone : m.toneOn = false) : m.tick.2 = m := by
  obtain ⟨_, _, _, _, delay, sound, toneOn⟩ := m
  obtain rfl : delay = 0 := hdelay
  obtain rfl : sound = 0 := hsound
  obtain rfl : toneOn = false := htone
  rw [tick_machine]
  rfl

/-- A sprite changes nothing but the display and the flag. -/
lemma execute_draw_frame (m : Machine size) (x y : Register) (n : Fin 16) :
    ∃ v display, m.execute (.draw x y n) =
      (.ok .draw, { m with pc := m.pc.offset 2, v := v, display := display, redraw := true }) :=
  ⟨_, _, rfl⟩

/-- The picture of a machine, a mark for each column of each row. -/
lemma picture_eq (m : Machine size) :
    m.picture = String.join ((List.range size.height).map fun y =>
      String.ofList ((List.range size.width).map fun x => if m.display.pixel x y then '#' else '.') ++
        "\n") := by
  rw [picture, unlines, Display.rowTexts, Display.rows, ← List.map_coe_finRange_eq_range,
    ← List.map_coe_finRange_eq_range]
  simp only [List.map_map, Function.comp_def, Display.pixel_fin, Display.mark]

end Machine

namespace Command

open Machine

variable {size : Display.Size}

/-! ### Runs without a terminal -/

/-- Whether the outcome of a step ends a run without a terminal, and the fault it ends with. -/
def verdict : Except Fault Signal → Option (Option Fault)
  | .ok signal => if signal.stops then some none else none
  | .error fault => if fault.recoverable then none else some (some fault)

/-- The fault of an outcome, if it has one. -/
def fault? : Except Fault Signal → Option Fault
  | .ok _ => none
  | .error fault => some fault

/-- The machines of which a run without a terminal takes a step, in turn. -/
def steppedTimed (interval : Nat) : Nat → Nat → Machine size → List (Machine size)
  | 0, _, _ => []
  | n + 1, k, m =>
    m :: match verdict m.step.1 with
      | some _ => []
      | none =>
        steppedTimed interval n (k + 1) (if k % interval = 0 then m.step.2.tick.2 else m.step.2)

lemma runTimed_succ (interval n k : Nat) (m : Machine size) :
    runTimed interval (n + 1) k m =
      match verdict m.step.1 with
      | some fault => (fault, m.step.2)
      | none =>
        runTimed interval n (k + 1) (if k % interval = 0 then m.step.2.tick.2 else m.step.2) := by
  rw [runTimed]
  cases m.step with
  | mk outcome after => cases outcome <;> rfl

/-- Unless a word is unknown, a run without a terminal ends at the outcomes at which a frame does. -/
lemma verdict_of_known {m : Machine size} (h : m.Known) :
    verdict m.step.1 = if ends m.step.1 then some (fault? m.step.1) else none := by
  cases ho : m.step.1 with
  | ok signal => rfl
  | error fault =>
      rw [verdict, h.recoverable_eq_false ho]
      rfl

lemma steppedTimed_succ {interval n k : Nat} {m : Machine size} (h : m.Known) :
    steppedTimed interval (n + 1) k m =
      m :: if ends m.step.1 then [] else
        steppedTimed interval n (k + 1)
          (if k % interval = 0 then m.step.2.tick.2 else m.step.2) := by
  rw [steppedTimed, verdict_of_known h]
  by_cases he : ends m.step.1
  · rw [if_pos he, if_pos he]
  · rw [if_neg he, if_neg he]

lemma runTimed_succ_of_known {interval n k : Nat} {m : Machine size} (h : m.Known) :
    runTimed interval (n + 1) k m =
      if ends m.step.1 then (fault? m.step.1, m.step.2)
      else runTimed interval n (k + 1)
        (if k % interval = 0 then m.step.2.tick.2 else m.step.2) := by
  rw [runTimed_succ, verdict_of_known h]
  by_cases he : ends m.step.1
  · rw [if_pos he, if_pos he]
  · rw [if_neg he, if_neg he]

/-- The steps up to the next beat of the timers are those of a frame. Either one of them ends the
run, or the timers count down and the run goes on. -/
lemma runTimed_frame {interval r k : Nat} (rest : Nat) {m : Machine size}
    (hbetween : ∀ j < r, (k + j) % interval ≠ 0) (hbeat : (k + r) % interval = 0)
    (hknown : ∀ s ∈ steppedTimed interval (rest + r + 1) k m, s.Known) :
    steppedTimed interval (rest + r + 1) k m =
        steppedInRun (r + 1) m ++ (if ends (Machine.run (r + 1) m).1 then [] else
          steppedTimed interval rest (k + r + 1) (Machine.run (r + 1) m).2.tick.2) ∧
      runTimed interval (rest + r + 1) k m =
        if ends (Machine.run (r + 1) m).1 then
          (fault? (Machine.run (r + 1) m).1, (Machine.run (r + 1) m).2)
        else runTimed interval rest (k + r + 1) (Machine.run (r + 1) m).2.tick.2 := by
  induction r generalizing k m with
  | zero =>
      have hm : m.Known := hknown m List.mem_cons_self
      rw [Nat.add_zero] at hbeat
      rw [Nat.add_zero, steppedTimed_succ hm, runTimed_succ_of_known hm, if_pos hbeat, steppedInRun,
        run_succ]
      by_cases he : ends m.step.1
      · simp [he]
      · have hnext : ends (.ok .next) = false := rfl
        simp [he, hnext, steppedInRun, Machine.run]
  | succ r ih =>
      have hm : m.Known := hknown m List.mem_cons_self
      have hk : k % interval ≠ 0 := hbetween 0 (Nat.succ_pos r)
      rw [steppedTimed_succ hm, if_neg hk] at hknown ⊢
      rw [runTimed_succ_of_known hm, if_neg hk, steppedInRun, run_succ]
      by_cases he : ends m.step.1
      · simp [he]
      · have hshift (j : Nat) : k + 1 + j = k + (j + 1) := by omega
        rw [if_neg he] at hknown
        simp only [if_neg he]
        obtain ⟨hstepped, hrun⟩ := ih (k := k + 1) (m := m.step.2)
          (fun j hj => hshift j ▸ hbetween (j + 1) (Nat.succ_lt_succ hj)) (hshift r ▸ hbeat)
          (fun s hs => hknown s (List.mem_cons_of_mem _ hs))
        rw [← Nat.add_assoc rest, hstepped, hrun, hshift]
        exact ⟨rfl, rfl⟩

/-- A run none of whose steps ends it has no fault. -/
lemma runTimed_fst_of_not_ends {interval n k : Nat} {m : Machine size}
    (h : ∀ s ∈ steppedTimed interval n k m, ends s.step.1 = false) :
    (runTimed interval n k m).1 = none := by
  have hverdict {o : Except Fault Signal} (ho : ends o = false) : verdict o = none := by
    cases o with
    | ok signal => exact if_neg (by simpa [ends] using ho)
    | error fault => contradiction
  induction n generalizing k m with
  | zero => rfl
  | succ n ih =>
      have hfirst := hverdict (h m (by rw [steppedTimed]; exact List.mem_cons_self))
      rw [steppedTimed, hfirst] at h
      rw [runTimed_succ, hfirst]
      exact ih fun s hs => h s (List.mem_cons_of_mem _ hs)

/-- A machine that each step and each beat leave as it is takes every step of a run there. -/
lemma eq_of_mem_steppedTimed {m s : Machine size} {interval n k : Nat}
    (hstep : m.step = (.ok .jump, m)) (htick : m.tick.2 = m)
    (h : s ∈ steppedTimed interval n k m) : s = m := by
  induction n generalizing k with
  | zero => simp [steppedTimed] at h
  | succ n ih =>
      have hverdict : verdict m.step.1 = none := by rw [hstep]; rfl
      have hnext : (if k % interval = 0 then m.step.2.tick.2 else m.step.2) = m := by
        rw [hstep, htick, ite_self]
      rw [steppedTimed, hverdict, hnext] at h
      rcases List.mem_cons.1 h with rfl | h
      · rfl
      · exact ih h

end Command

namespace Player

open Command Machine

/-! ### Frames -/

/-- The instructions and the timers of frames in turn, without input. The first frame whose
instructions fail is the last one, and its fault is handed on. -/
def rounds : Nat → Player → Option Fault × Player
  | 0, p => (none, p)
  | k + 1, p =>
    match p.update with
    | (.ok (), p) => rounds k p.tick.2
    | (.error fault, p) => (some fault, p)

lemma isWaiting_tick {size : Display.Size} (m : Machine size) :
    m.tick.2.isWaiting = m.isWaiting := by
  rw [tick_machine]
  rfl

lemma display_tick {size : Display.Size} (m : Machine size) : m.tick.2.display = m.display := by
  rw [tick_machine]

/-- A frame whose instructions do not fail is followed by the next one, in which the timers have
counted down. -/
lemma rounds_succ_of_ok (k : Nat) {p q : Player} (h : p.update = (.ok (), q)) :
    ∃ next : Player, next.machine = q.machine.tick.2 ∧ next.stepsPerFrame = q.stepsPerFrame ∧
      next.halted = q.halted ∧ rounds (k + 1) p = rounds k next :=
  ⟨q.tick.2, rfl, rfl, rfl, by rw [rounds, h]⟩

/-- Frames in which nothing is executed leave the display as it is. -/
lemma rounds_of_idle (k : Nat) {p : Player} (h : (p.halted || p.machine.isWaiting) = true) :
    none = (rounds k p).1 ∧ p.machine.display = (rounds k p).2.machine.display := by
  induction k generalizing p with
  | zero => exact ⟨rfl, rfl⟩
  | succ k ih =>
      obtain ⟨next, hmachine, -, hhalted, hround⟩ := rounds_succ_of_ok k (update_of_idle h)
      have hnext := ih (p := next) (by rwa [hhalted, hmachine, isWaiting_tick])
      rw [hmachine, display_tick] at hnext
      rwa [hround]

lemma afterRun_of_not_ends (p : Player) {o : Except Fault Signal} (n : Machine .standard)
    (he : ends o = false) : p.afterRun (o, n) = (.ok (), { p with machine := n }) := by
  cases o with
  | ok signal => cases signal <;> first | contradiction | rfl
  | error fault => contradiction

/-- If nothing is executed after the first frame, the display is what that one left. -/
lemma rounds_of_update_idle (k : Nat) {p q : Player} (hupdate : p.update = (.ok (), q))
    (h : (q.halted || q.machine.isWaiting) = true) :
    none = (rounds (k + 1) p).1 ∧ q.machine.display = (rounds (k + 1) p).2.machine.display := by
  obtain ⟨next, hmachine, -, hhalted, hround⟩ := rounds_succ_of_ok k hupdate
  have hnext := rounds_of_idle k (p := next) (by rwa [hhalted, hmachine, isWaiting_tick])
  rw [hmachine, display_tick] at hnext
  rwa [hround]

section

variable {p : Player} {o : Except Fault Signal} {n : Machine .standard} {r : Nat}

/-- In a frame whose instructions come to an end, and in those after it, the display is what they
left, and their fault is handed on. -/
lemma rounds_of_ends (k : Nat) (hsteps : p.stepsPerFrame = r + 1) (hhalted : p.halted = false)
    (hrun : Machine.run (r + 1) p.machine = (o, n)) (he : ends o = true)
    {s : Machine .standard} (hknown : s.Known) (hstep : s.step = (o, n)) :
    fault? o = (rounds (k + 1) p).1 ∧ n.display = (rounds (k + 1) p).2.machine.display := by
  cases hw : p.machine.isWaiting with
  | true =>
      obtain ⟨rfl, rfl⟩ : .ok .keyWait = o ∧ p.machine = n := by
        simpa [run_of_isWaiting hw] using hrun
      exact rounds_of_idle (k + 1) (by simp [hw])
  | false =>
      have hupdate : p.update = p.afterRun (o, n) := by
        rw [update_of_run (by simp [hhalted, hw]), hsteps, hrun]
      cases o with
      | ok signal =>
          cases signal with
          | halt => exact rounds_of_update_idle k hupdate rfl
          | keyWait =>
              have hwaits : s.step.2.isWaiting = true := isWaiting_of_keyWait (by rw [hstep])
              rw [hstep] at hwaits
              exact rounds_of_update_idle k hupdate (by simp [hwaits])
          | next | jump | draw | sound => contradiction
      | error fault =>
          have hfinal : fault.recoverable = false := hknown.recoverable_eq_false (by rw [hstep])
          rw [rounds, hupdate]
          simp [afterRun, hfinal, fault?]

/-- A frame whose instructions do not come to an end is followed by the next one. -/
lemma rounds_of_not_ends (k : Nat) (hsteps : p.stepsPerFrame = r + 1) (hhalted : p.halted = false)
    (hrun : Machine.run (r + 1) p.machine = (o, n)) (he : ends o = false) :
    ∃ next : Player, next.machine = n.tick.2 ∧ next.stepsPerFrame = r + 1 ∧ next.halted = false ∧
      rounds (k + 1) p = rounds k next := by
  have hw : p.machine.isWaiting = false := by
    cases hw : p.machine.isWaiting with
    | false => rfl
    | true =>
        rw [run_of_isWaiting hw] at hrun
        obtain ⟨rfl, -⟩ := Prod.mk.inj hrun
        contradiction
  have hframe : Machine.run p.stepsPerFrame p.machine = (o, n) := by rw [hsteps, hrun]
  have hupdate : p.update = (.ok (), { p with machine := n }) := by
    rw [update_of_run (by simp [hhalted, hw]), hframe, p.afterRun_of_not_ends n he]
  obtain ⟨next, hmachine, hnextSteps, hnextHalted, hround⟩ := rounds_succ_of_ok k hupdate
  exact ⟨next, hmachine, hnextSteps.trans hsteps, hnextHalted.trans hhalted, hround⟩

end

/-- After whole frames, the numbers of steps begin again from one, but for a multiple of the steps in a
frame. -/
lemma step_number_mod (r q j : Nat) : ((r + 1) * q + 1 + j) % (r + 1) = (j + 1) % (r + 1) := by
  rw [Nat.add_assoc, Nat.mul_add_mod, Nat.add_comm 1]

/-- Frame by frame, a player and a run without a terminal go together. The induction is on the frames;
`q` of them have passed. -/
lemma rounds_agree {r : Nat} (k q : Nat) {p : Player} (hsteps : p.stepsPerFrame = r + 1)
    (hhalted : p.halted = false)
    (hknown : ∀ s ∈ steppedTimed (r + 1) ((r + 1) * k) ((r + 1) * q + 1) p.machine, s.Known) :
    let timed := runTimed (r + 1) ((r + 1) * k) ((r + 1) * q + 1) p.machine
    timed.1 = (rounds k p).1 ∧ timed.2.display = (rounds k p).2.machine.display ∧
      ((∀ s ∈ steppedTimed (r + 1) ((r + 1) * k) ((r + 1) * q + 1) p.machine,
        ends s.step.1 = false) → timed.2 = (rounds k p).2.machine) := by
  induction k generalizing q p with
  | zero => exact ⟨rfl, rfl, fun _ => rfl⟩
  | succ k ih =>
      obtain ⟨o, n, hrun⟩ : ∃ o n, Machine.run (r + 1) p.machine = (o, n) := ⟨_, _, rfl⟩
      obtain ⟨hstepped, htimed⟩ := runTimed_frame ((r + 1) * k) (k := (r + 1) * q + 1)
        (fun j hj => by
          rw [step_number_mod, Nat.mod_eq_of_lt (Nat.succ_lt_succ hj)]
          exact Nat.succ_ne_zero j)
        (by rw [step_number_mod, Nat.mod_self]) hknown
      have hnext : (r + 1) * q + 1 + r + 1 = (r + 1) * (q + 1) + 1 := by rw [Nat.mul_succ]; omega
      have hcount : (r + 1) * (k + 1) = (r + 1) * k + r + 1 := rfl
      rw [hrun, hnext] at hstepped htimed
      rw [hcount, hstepped] at hknown
      rw [hcount, hstepped, htimed]
      cases he : ends o with
      | true =>
          obtain ⟨s, hs, hstep⟩ : ∃ s ∈ steppedInRun (r + 1) p.machine, s.step = (o, n) := by
            rw [← hrun]
            exact exists_stepped_of_ends (by rwa [hrun])
          simp only [he, if_true, List.append_nil] at hknown ⊢
          obtain ⟨hfault, hdisplay⟩ :=
            rounds_of_ends k hsteps hhalted hrun he (hknown s hs) hstep
          refine ⟨hfault, hdisplay, fun hall => ?_⟩
          have hfalse := hall s hs
          rw [hstep, he] at hfalse
          contradiction
      | false =>
          simp only [he, if_false, Bool.false_eq_true] at hknown ⊢
          obtain ⟨next, hmachine, hnextSteps, hnextHalted, hround⟩ :=
            rounds_of_not_ends k hsteps hhalted hrun he
          rw [← hmachine] at hknown ⊢
          rw [hround]
          obtain ⟨hfault, hdisplay, hsame⟩ := ih (q + 1) hnextSteps hnextHalted
            fun s hs => hknown s (List.mem_append_right _ hs)
          exact ⟨hfault, hdisplay,
            fun hall => hsame fun s hs => hall s (List.mem_append_right _ hs)⟩

end Player

namespace Command

open Machine

/-! ### What is left behind -/

/-- What is printed after a time in nanoseconds: a line with the time, a line for each row of a display,
in which marks tell of each column whether it is lit, and a line with nothing. -/
def printed (elapsed : Nat) (d : Display size) : String :=
  "time taken: " ++ (Milliseconds.ofNanoseconds elapsed).text ++ "ms\n" ++
    String.join ((List.range size.height).map fun y =>
      String.ofList ((List.range size.width).map fun x => if d.pixel x y then '#' else '.') ++ "\n") ++
    "\n"

/-- What is told of a fault of the stack, with the address of the call or the return. -/
def stackFaultText (name : String) (address : Nat) : String :=
  "Error: AppError \x7b kind: Chip8(" ++ name ++ " \x7b address: " ++ address.repr ++ " \x7d) \x7d\n"

/-- A program ends with a code and an error text: all went well, or a call found its stack full, or a
return found it empty. -/
inductive EndsAs : Option Fault → UInt32 → String → Prop
  | well : EndsAs none 0 ""
  | overflow (address : Nat) :
      EndsAs (some (.stackOverflow address)) 1 (stackFaultText "StackOverflow" address)
  | underflow (address : Nat) :
      EndsAs (some (.stackUnderflow address)) 1 (stackFaultText "StackUnderflow" address)

lemma stackFaultText_eq (name : String) (address : Nat) :
    "Error: " ++ Record.text "AppError"
        [("kind", Record.wrapped "Chip8" (Record.ofNats name [("address", address)]))] ++ "\n" =
      stackFaultText name address := by
  have hopen : "Error: AppError \x7b kind: Chip8(" =
      "Error: " ++ ("AppError" ++ " \x7b " ++ ("kind" ++ ": " ++ ("Chip8" ++ "("))) := rfl
  have hfield : " \x7b address: " = " \x7b " ++ ("address" ++ ": ") := rfl
  have hclose : " \x7d) \x7d\n" = " \x7d" ++ (")" ++ " \x7d" ++ "\n") := rfl
  unfold stackFaultText
  rw [hopen, hfield, hclose]
  simp only [Record.text, Record.wrapped, Record.ofNats, List.map_cons, List.map_nil,
    String.intercalate_singleton, String.append_assoc]

/-- The report of a run that ends in one of these ways. -/
lemma EndsAs.report_eq {fault : Option Fault} {code : UInt32} {stderr : String}
    (h : EndsAs fault code stderr) (elapsed : Nat) (m : Machine .standard) :
    report elapsed fault m = ⟨code, printed elapsed m.display, stderr⟩ := by
  rw [printed, ← picture_eq]
  cases h with
  | well => rfl
  | overflow address | underflow address =>
      rw [← stackFaultText_eq]
      rfl

/-- A step after which a run does not go on ends it in one of these ways. -/
lemma exists_endsAs_of_verdict {m : Machine size} {fault : Option Fault}
    (h : verdict m.step.1 = some fault) : ∃ code stderr, EndsAs fault code stderr := by
  cases ho : m.step.1 with
  | ok signal =>
      rw [ho, verdict, Option.ite_none_right_eq_some] at h
      obtain ⟨-, ⟨⟩⟩ := h
      exact ⟨_, _, .well⟩
  | error e =>
      rw [ho, verdict, Option.ite_none_left_eq_some] at h
      obtain ⟨hfinal, ⟨⟩⟩ := h
      rcases step_error ho with hstop | ⟨-, rfl, -⟩
      · cases hstop with
        | overflow => exact ⟨_, _, .overflow m.pc⟩
        | underflow => exact ⟨_, _, .underflow m.pc⟩
      · exact absurd rfl hfinal

/-- A run ends in one of these ways. -/
lemma exists_endsAs_runTimed (interval n k : Nat) (m : Machine size) :
    ∃ code stderr, EndsAs (runTimed interval n k m).1 code stderr := by
  induction n generalizing k m with
  | zero => exact ⟨_, _, .well⟩
  | succ n ih =>
      rw [runTimed_succ]
      cases hverdict : verdict m.step.1 with
      | some fault => exact exists_endsAs_of_verdict hverdict
      | none => exact ih _ _

/-! ### Programs with and without a terminal -/

/-- A program that has room is run from a fresh machine. -/
lemma headless_of_le {program : Array UInt8} (h : program.size ≤ Memory.programCapacity) (steps : Nat)
    (entropy : ChaCha.Key) :
    headless program steps entropy = .ok (runTimed Frequency.standard.stepsPerFrame steps 1
      (fresh .standard (Memory.withProgram program) (.ofKey entropy))) := by
  rw [headless, load, if_pos h]
  rfl

/-- The fault of a program that has room is that of its run. -/
lemma runTimed_fst_of_headless {program : Array UInt8} (hfits : program.size ≤ Memory.programCapacity)
    {steps : Nat} {entropy : ChaCha.Key} {fault : Option Fault} {m : Machine .standard}
    (h : headless program steps entropy = .ok (fault, m)) :
    (runTimed Frequency.standard.stepsPerFrame steps 1
      (fresh .standard (Memory.withProgram program) (.ofKey entropy))).1 = fault := by
  rw [headless_of_le hfits] at h
  exact congrArg Prod.fst (Except.ok.inj h)

/-- A host on which every file has the same bytes and no time passes. -/
def Host.still (bytes : ByteArray) (entropy : ChaCha.Key) : Host Id where
  read _ := .ok bytes
  now := 0
  entropy := entropy

/-- A program that draws a row of a glyph and then jumps to where it is. -/
def drawOnce : ByteArray := ⟨#[0xD0, 0x01, 0x12, 0x02]⟩

/-- A program that draws a row of a glyph and then returns from nowhere. -/
def drawAndReturn : ByteArray := ⟨#[0xD0, 0x01, 0x00, 0xEE]⟩

/-- The first step of a program that begins with a drawing. -/
lemma exists_step_draw {program : Array UInt8} {m : Machine .standard}
    (hmemory : m.memory = Memory.withProgram program) (hmode : m.mode = .running)
    (hpc : m.pc = Address.programStart) (hhigh : program[0]?.getD 0 = 0xD0)
    (hlow : program[1]?.getD 0 = 0x01) :
    m.fetch? = some (.draw 0 0 1) ∧ ∃ v display, m.step =
      (.ok .draw, { m with pc := m.pc.offset 2, v := v, display := display, redraw := true }) := by
  have hfetch : m.fetch? = some (.decode 0xD001) :=
    fetch?_program program 0 hmemory hmode (by rw [hpc]; rfl) (by decide) (by rw [hhigh, hlow]; rfl)
      (by decide)
  obtain ⟨v, display, hdraw⟩ := execute_draw_frame m 0 0 1
  exact ⟨hfetch, v, display, by rw [step_of_fetch hfetch]; exact hdraw⟩

/-- No step of the program ends it or is at an unknown word. -/
lemma steppedTimed_drawOnce (random : RandomStream) :
    ∀ s ∈ steppedTimed 8 16 1 (fresh .standard (Memory.withProgram drawOnce.data) random),
      s.Known ∧ ends s.step.1 = false := by
  intro s hs
  obtain ⟨hfetch, v, display, hstep⟩ := exists_step_draw
    (m := fresh .standard (Memory.withProgram drawOnce.data) random) rfl rfl rfl rfl rfl
  set m : Machine .standard := fresh .standard (Memory.withProgram drawOnce.data) random
  let drawn : Machine .standard :=
    { m with pc := m.pc.offset 2, v := v, display := display, redraw := true }
  have hstay : drawn.fetch? = some (.jump 0x202) :=
    fetch?_program drawOnce.data 2 (w := 0x1202) rfl rfl rfl (by decide) rfl (by decide)
  have hloop : drawn.step = (.ok .jump, drawn) := step_of_jump_here hstay rfl
  have hverdict : verdict m.step.1 = none := by rw [hstep]; rfl
  rw [steppedTimed, hverdict] at hs
  rcases List.mem_cons.1 hs with rfl | hs
  · rw [Known, hfetch, hstep]
    exact ⟨fun w => by simp, rfl⟩
  · rw [hstep] at hs
    rw [eq_of_mem_steppedTimed hloop (tick_of_still rfl rfl rfl) hs, Known, hstay, hloop]
    exact ⟨fun w => by simp, rfl⟩

/-- The second step of the program ends it with a fault, and neither is at an unknown word. -/
lemma run_drawAndReturn (random : RandomStream) :
    let m : Machine .standard := fresh .standard (Memory.withProgram drawAndReturn.data) random
    (∀ s ∈ steppedTimed 8 8 1 m, s.Known) ∧ (runTimed 8 8 1 m).1 = some (.stackUnderflow 514) := by
  intro m
  obtain ⟨hfetch, v, display, hstep⟩ := exists_step_draw (m := m) rfl rfl rfl rfl rfl
  let drawn : Machine .standard :=
    { m with pc := m.pc.offset 2, v := v, display := display, redraw := true }
  have hret : drawn.fetch? = some .ret :=
    fetch?_program drawAndReturn.data 2 (w := 0x00EE) rfl rfl rfl (by decide) rfl (by decide)
  have hfault : drawn.step = (.error (.stackUnderflow 514), drawn) := by
    rw [step_of_fetch hret]
    rfl
  have hnext : verdict m.step.1 = none := by rw [hstep]; rfl
  have hlast : verdict drawn.step.1 = some (some (.stackUnderflow 514)) := by rw [hfault]; rfl
  have hdrawn : (if 1 % 8 = 0 then m.step.2.tick.2 else m.step.2) = drawn := by rw [hstep]; rfl
  constructor
  · have hstepped : steppedTimed 8 8 1 m = [m, drawn] := by
      rw [steppedTimed, hnext, hdrawn, steppedTimed, hlast]
    intro s hs
    rw [hstepped] at hs
    rcases List.mem_pair.1 hs with hs | hs
    · rw [hs, Known, hfetch]
      exact fun w => by simp
    · rw [hs, Known, hret]
      exact fun w => by simp
  · rw [runTimed_succ, hnext, hdrawn, runTimed_succ, hlast]

/-- **A program shows the same without a terminal as with one.** Both load every program that has
room, with the same source of random bytes. Eight steps without a terminal for each frame of the player
come to a machine, and perhaps a fault of its stack. What is printed shows the display of that machine,
and the code and the error text are those of the fault. Unless a word that was executed is unknown, the
frames of the player, up to the first one that fails, come to the same display and to the same fault, if
there is one. If moreover no step halts, waits for a key or fails, the machines are the same as a whole. -/
theorem exec_agrees_with_rounds {M : Type → Type} [Monad M] [LawfulMonad M] (host : Host M)
    {rom : String} {bytes : ByteArray} (hread : host.read rom = pure (.ok bytes))
    (hfits : bytes.data.size ≤ Memory.programCapacity) (k : Nat) :
    ∃ (p : Player) (fault : Option Fault) (m : Machine .standard) (code : UInt32) (stderr : String),
      (Player.new {} host.entropy).loadFile (.ok bytes) = .ok p ∧
      headless bytes.data (8 * k) host.entropy = .ok (fault, m) ∧
      EndsAs fault code stderr ∧
      execFile host rom (8 * k) = (do
        let start ← host.now
        let stop ← host.now
        return ⟨code, printed (stop - start) m.display, stderr⟩) ∧
      ((∀ s ∈ steppedTimed Frequency.standard.stepsPerFrame (8 * k) 1 p.machine, s.Known) →
        fault = (p.rounds k).1 ∧ m.display = (p.rounds k).2.machine.display ∧
        ((∀ s ∈ steppedTimed Frequency.standard.stepsPerFrame (8 * k) 1 p.machine,
          ends s.step.1 = false) → m = (p.rounds k).2.machine)) := by
  let p := (Player.new {} host.entropy).started bytes.data
  have hload : (Player.new {} host.entropy).loadFile (.ok bytes) = .ok p :=
    Player.loadFile_of_le _ hfits
  have hsteps : Frequency.standard.stepsPerFrame = 7 + 1 := rfl
  have hheadless : headless bytes.data (8 * k) host.entropy =
      .ok (runTimed Frequency.standard.stepsPerFrame (8 * k) 1 p.machine) := headless_of_le hfits _ _
  obtain ⟨code, stderr, hends⟩ :=
    exists_endsAs_runTimed Frequency.standard.stepsPerFrame (8 * k) 1 p.machine
  refine ⟨p, _, _, code, stderr, hload, hheadless, hends, ?_, ?_⟩
  · rw [execFile, hread, pure_bind]
    simp only [hheadless, hends.report_eq]
  · rw [hsteps]
    exact Player.rounds_agree k 0 (p := p) hsteps rfl

/-- Two frames of a program that draws, none of whose steps ends it, and a frame of one that draws and
fails. -/
theorem exec_agrees_with_rounds_drawing :
    let still (bytes : ByteArray) : Host Id := Host.still bytes (Vector.replicate 8 0)
    let loaded (bytes : ByteArray) := (Player.new {} (Vector.replicate 8 0)).loadFile (.ok bytes)
    (∃ p, loaded drawOnce = .ok p ∧ (p.rounds 2).1 = none ∧
      execFile (still drawOnce) "" 16 = ⟨0, printed 0 (p.rounds 2).2.machine.display, ""⟩ ∧
      ∃ m, headless drawOnce.data 16 (Vector.replicate 8 0) = .ok (none, m) ∧
        m = (p.rounds 2).2.machine) ∧
    (∃ p, loaded drawAndReturn = .ok p ∧ (p.rounds 1).1 = some (.stackUnderflow 514) ∧
      execFile (still drawAndReturn) "" 8 = ⟨1, printed 0 (p.rounds 1).2.machine.display,
        "Error: AppError \x7b kind: Chip8(StackUnderflow \x7b address: 514 \x7d) \x7d\n"⟩) := by
  intro still loaded
  constructor
  · have hread : (still drawOnce).read "" = pure (.ok drawOnce) := rfl
    obtain ⟨p, fault, m, code, stderr, hload, hheadless, hends, hexec, hagree⟩ :=
      exec_agrees_with_rounds (still drawOnce) hread (by decide) 2
    have hp : (Player.new {} (Vector.replicate 8 0)).started drawOnce.data = p :=
      Except.ok.inj ((Player.loadFile_of_le _ (by decide)).symm.trans hload)
    have hstepped := steppedTimed_drawOnce (.ofKey (Vector.replicate 8 0))
    obtain ⟨hfault, -, hsame⟩ := hagree (hp ▸ fun s hs => (hstepped s hs).1)
    have hm := hsame (hp ▸ fun s hs => (hstepped s hs).2)
    have hnone := runTimed_fst_of_not_ends fun s hs => (hstepped s hs).2
    obtain rfl : none = fault := hnone.symm.trans (runTimed_fst_of_headless (by decide) hheadless)
    cases hends
    exact ⟨p, hload, hfault.symm, hm ▸ hexec, m, hheadless, hm⟩
  · have hread : (still drawAndReturn).read "" = pure (.ok drawAndReturn) := rfl
    obtain ⟨p, fault, m, code, stderr, hload, hheadless, hends, hexec, hagree⟩ :=
      exec_agrees_with_rounds (still drawAndReturn) hread (by decide) 1
    have hp : (Player.new {} (Vector.replicate 8 0)).started drawAndReturn.data = p :=
      Except.ok.inj ((Player.loadFile_of_le _ (by decide)).symm.trans hload)
    obtain ⟨hknown, hfails⟩ := run_drawAndReturn (.ofKey (Vector.replicate 8 0))
    obtain ⟨hfault, hdisplay, -⟩ := hagree (hp ▸ hknown)
    obtain rfl : some (.stackUnderflow 514) = fault :=
      hfails.symm.trans (runTimed_fst_of_headless (by decide) hheadless)
    cases hends
    exact ⟨p, hload, hfault.symm, hdisplay ▸ hexec⟩

end Command

end CosmacVip
