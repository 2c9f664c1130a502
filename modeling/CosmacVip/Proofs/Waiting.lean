import CosmacVip.Proofs.Interleaving

/-!
Waiting for a key.

* `Machine.SameProgram`: all that belongs to a program is the same;
* `Machine.WaitsSince`: a machine waits as another one was made to by its last instruction;
* `Machine.perform_of_waiting`, `Machine.performAll_of_waiting`: what is done with a waiting machine
  leaves its program alone until a key goes down;
* `Machine.perform_waiting`: only that instruction makes a machine wait;
* `Machine.AwaitsPress`: the wait and its end;
* `Machine.first_press_ends_wait`: every machine that waits does so since it executed the
  instruction, and the first key that goes down is stored and ends the wait.
-/

namespace CosmacVip.Machine

variable {size : Display.Size} {m : Machine size} {x : Register}

/-! ### While no key goes down -/

/-- All that belongs to a program is the same; the timers, the keypad and the tone may differ, and
whether the display was presented. -/
structure SameProgram (m n : Machine size) : Prop where
  pc : n.pc = m.pc
  stack : n.stack = m.stack
  v : n.v = m.v
  index : n.index = m.index
  mode : n.mode = m.mode
  memory : n.memory = m.memory
  display : n.display = m.display
  random : n.random = m.random

lemma SameProgram.refl (m : Machine size) : m.SameProgram m := ⟨rfl, rfl, rfl, rfl, rfl, rfl, rfl, rfl⟩

lemma SameProgram.trans {a b c : Machine size} (h : a.SameProgram b) (g : b.SameProgram c) :
    a.SameProgram c where
  pc := g.pc.trans h.pc
  stack := g.stack.trans h.stack
  v := g.v.trans h.v
  index := g.index.trans h.index
  mode := g.mode.trans h.mode
  memory := g.memory.trans h.memory
  display := g.display.trans h.display
  random := g.random.trans h.random

/-- Whether a call reports that a key went down. -/
def Call.presses : Call → Bool
  | .setKey _ down => down
  | _ => false

lemma run_of_waiting (h : m.mode = .waiting x) (n : Nat) : run (n + 1) m = (.ok .keyWait, m) :=
  run_of_isWaiting (by rw [isWaiting, h]; rfl)

/-- A call on a waiting machine that neither presses a key nor restarts leaves the program alone. -/
lemma perform_of_waiting (h : m.mode = .waiting x) {call : Call} (hpress : call.presses = false)
    (hrestart : call.restarts = false) : m.SameProgram (m.perform call) := by
  cases call with
  | load program =>
      rw [perform_load_of_refused m hrestart]
      exact .refl m
  | reset => contradiction
  | step =>
      rw [perform, step_of_waiting h]
      exact .refl m
  | run steps =>
      cases steps with
      | zero => exact .refl m
      | succ n =>
          rw [perform, run_of_waiting h]
          exact .refl m
  | setKey k down =>
      obtain rfl : down = false := hpress
      rw [perform, setKey_false]
      exact ⟨rfl, rfl, rfl, rfl, rfl, rfl, rfl, rfl⟩
  | clearKeys => exact ⟨rfl, rfl, rfl, rfl, rfl, rfl, rfl, rfl⟩
  | tick =>
      rw [perform, tick_machine]
      exact ⟨rfl, rfl, rfl, rfl, rfl, rfl, rfl, rfl⟩
  | present width height =>
      obtain ⟨redraw, hm⟩ := m.present_frame width height
      rw [perform, hm]
      exact ⟨rfl, rfl, rfl, rfl, rfl, rfl, rfl, rfl⟩

lemma performAll_of_waiting (h : m.mode = .waiting x) {calls : List Call}
    (hcalls : ∀ call ∈ calls, call.presses = false ∧ call.restarts = false) :
    m.SameProgram (m.performAll calls) := by
  induction calls generalizing m with
  | nil => exact .refl m
  | cons call calls ih =>
      obtain ⟨⟨hpress, hrestart⟩, hrest⟩ := List.forall_mem_cons.1 hcalls
      have hfirst := perform_of_waiting h hpress hrestart
      exact hfirst.trans (ih (hfirst.mode.trans h) hrest)

/-! ### How a wait begins -/

/-- The machine waits as another one was made to by its last instruction. -/
structure WaitsSince (s : Machine size) (x : Register) (m : Machine size) : Prop where
  fetch : s.fetch? = some (.awaitKey x)
  same : s.step.2.SameProgram m

lemma step_of_awaitKey (h : m.fetch? = some (.awaitKey x)) :
    m.step = (.ok .keyWait, { m with pc := m.pc.offset 2, mode := .waiting x }) :=
  step_of_fetch h

/-- A step that makes a machine wait executes the instruction for that, and a run ends there. -/
lemma step_waiting (h : m.step.2.mode = .waiting x) :
    ends m.step.1 = true ∧ (m.mode = .waiting x ∨ m.fetch? = some (.awaitKey x)) := by
  rcases m.step_fetch_cases with ⟨y, hy, hstep⟩ | ⟨hrunning, -, hstep⟩ | ⟨i, hi, hstep⟩ <;>
    rw [hstep] at h ⊢
  · exact ⟨rfl, .inl h⟩
  · exact ⟨rfl, .inl h⟩
  · by_cases hawait : ∃ y, i = .awaitKey y
    · obtain ⟨y, rfl⟩ := hawait
      obtain rfl : y = x := Mode.waiting.inj h
      exact ⟨rfl, .inr hi⟩
    · rw [execute_mode m (not_exists.1 hawait), (fetch?_eq_some_iff.1 hi).1] at h
      contradiction

lemma run_waiting {n : Nat} (h : (run n m).2.mode = .waiting x) :
    m.mode = .waiting x ∨
      ∃ s ∈ steppedInRun n m, s.fetch? = some (.awaitKey x) ∧ (run n m).2 = s.step.2 := by
  induction n generalizing m with
  | zero => exact .inl h
  | succ n ih =>
      rw [steppedInRun]
      rw [run_succ] at h ⊢
      by_cases he : ends m.step.1
      · simp only [if_pos he] at h ⊢
        exact (step_waiting h).2.imp_right fun hf => ⟨m, List.mem_cons_self, hf, rfl⟩
      · simp only [if_neg he] at h ⊢
        rcases ih h with hwaiting | ⟨s, hs, hf, hlast⟩
        · -- a run does not go on after a step that makes the machine wait
          exact absurd (step_waiting hwaiting).1 he
        · exact .inr ⟨s, List.mem_cons_of_mem _ hs, hf, hlast⟩

/-- A machine that waits after a call waited before, or the call's last step made it. -/
lemma perform_waiting {call : Call} (h : (m.perform call).mode = .waiting x) :
    (m.mode = .waiting x ∧ call.presses = false ∧ call.restarts = false) ∨
      ∃ s ∈ m.stepped call, s.fetch? = some (.awaitKey x) ∧ m.perform call = s.step.2 := by
  cases call with
  | load program =>
      cases hrestart : (Call.load program).restarts with
      | true =>
          rw [perform, loadOrKeep_of_le m (of_decide_eq_true hrestart)] at h
          contradiction
      | false =>
          rw [perform_load_of_refused m hrestart] at h
          exact .inl ⟨h, rfl, rfl⟩
  | reset => contradiction
  | step =>
      exact (step_waiting h).2.imp (⟨·, rfl, rfl⟩) fun hf => ⟨m, List.mem_singleton_self m, hf, rfl⟩
  | run steps => exact (run_waiting h).imp_left (⟨·, rfl, rfl⟩)
  | setKey k down =>
      cases down with
      | false =>
          rw [perform, setKey_false] at h
          exact .inl ⟨h, rfl, rfl⟩
      | true =>
          rw [perform] at h
          cases hm : m.mode with
          | running => simp [setKey_of_running hm, hm] at h
          | waiting y => simp [setKey_of_waiting hm] at h
  | clearKeys => exact .inl ⟨h, rfl, rfl⟩
  | tick =>
      rw [perform, tick_machine] at h
      exact .inl ⟨h, rfl, rfl⟩
  | present width height =>
      obtain ⟨redraw, hm⟩ := m.present_frame width height
      rw [perform, hm] at h
      exact .inl ⟨h, rfl, rfl⟩

/-- If a wait began at one of some earlier machines, then after further calls it began at one of
those or at one that was stepped since. -/
lemma exists_waitsSince (past : List (Machine size))
    (h : ∀ x, m.mode = .waiting x → ∃ s ∈ past, s.WaitsSince x m) (calls : List Call) :
    ∀ x, (m.performAll calls).mode = .waiting x →
      ∃ s ∈ past ++ m.steppedAll calls, s.WaitsSince x (m.performAll calls) := by
  induction calls generalizing m past with
  | nil =>
      rw [steppedAll, List.append_nil]
      exact h
  | cons call calls ih =>
      rw [steppedAll, ← List.append_assoc]
      refine ih _ fun x hx => ?_
      rcases perform_waiting hx with ⟨hm, hpress, hrestart⟩ | ⟨s, hs, hf, hlast⟩
      · obtain ⟨s, hs, hsince⟩ := h x hm
        have hsame := perform_of_waiting hm hpress hrestart
        exact ⟨s, List.mem_append_left _ hs, hsince.fetch, hsince.same.trans hsame⟩
      · refine ⟨s, List.mem_append_right _ hs, hf, ?_⟩
        rw [hlast]
        exact .refl _

/-! ### After a key went down -/

/-- A running machine runs on as long as the instruction that waits for a key is not executed. -/
lemma performAll_running (h : m.mode = .running) {calls : List Call}
    (hcalls : ∀ s ∈ m.steppedAll calls, ∀ y, s.fetch? ≠ some (.awaitKey y)) :
    (m.performAll calls).mode = .running := by
  induction calls generalizing m with
  | nil => exact h
  | cons call calls ih =>
      obtain ⟨hfirst, hrest⟩ := List.forall_mem_append.1 hcalls
      refine ih ?_ hrest
      cases hm : (m.perform call).mode with
      | running => rfl
      | waiting y =>
          rcases perform_waiting hm with ⟨hwaiting, -⟩ | ⟨s, hs, hf, -⟩
          · rw [h] at hwaiting
            contradiction
          · exact absurd hf (hfirst s hs y)

/-- No report of a key and no beat changes a register. -/
def RegistersSettled (m : Machine size) : Prop :=
  (∀ k down, (m.setKey k down).v = m.v) ∧ m.clearKeys.v = m.v ∧ m.tick.2.v = m.v

lemma registersSettled_of_running (h : m.mode = .running) : m.RegistersSettled := by
  refine ⟨fun k down => ?_, rfl, ?_⟩
  · rw [setKey_of_running h]
  · rw [tick_machine]

/-- The machine waits for a key that goes to a register. -/
structure AwaitsPress (m : Machine size) (x : Register) : Prop where
  /-- While no key goes down, every step and every run waits, and the program is left alone. -/
  idle {calls : List Call} : (∀ call ∈ calls, call.presses = false ∧ call.restarts = false) →
    let w := m.performAll calls
    m.SameProgram w ∧ w.step = (.ok .keyWait, w) ∧ ∀ n, run (n + 1) w = (.ok .keyWait, w)
  /-- The first key that goes down goes to the register, and the program goes on where it was. -/
  press {calls : List Call} (k : Key) :
    (∀ call ∈ calls, call.presses = false ∧ call.restarts = false) →
    let r := (m.performAll calls).setKey k true
    r.mode = .running ∧ r.v = (m.setV x (UInt8.ofNat k)).v ∧ r.pc = m.pc ∧ r.stack = m.stack ∧
      r.index = m.index ∧ r.memory = m.memory ∧ r.display = m.display
  /-- From then on keys leave the registers alone until the machine is made to wait again. -/
  settled {calls : List Call} (later : List Call) (k : Key) :
    (∀ call ∈ calls, call.presses = false ∧ call.restarts = false) →
    let r := (m.performAll calls).setKey k true
    (∀ s ∈ r.steppedAll later, ∀ y, s.fetch? ≠ some (.awaitKey y)) →
    (r.performAll later).RegistersSettled

lemma awaitsPress (h : m.mode = .waiting x) : m.AwaitsPress x where
  idle hcalls := by
    have hsame := performAll_of_waiting h hcalls
    have hwaiting := hsame.mode.trans h
    exact ⟨hsame, step_of_waiting hwaiting, run_of_waiting hwaiting⟩
  press k hcalls := by
    have hsame := performAll_of_waiting h hcalls
    rw [setKey_of_waiting (hsame.mode.trans h)]
    refine ⟨rfl, ?_, hsame.pc, hsame.stack, hsame.index, hsame.memory, hsame.display⟩
    simp only [setV, hsame.v]
  settled later k hcalls hlater := by
    have hsame := performAll_of_waiting h hcalls
    refine registersSettled_of_running (performAll_running ?_ hlater)
    rw [setKey_of_waiting (hsame.mode.trans h)]

/-- **Waiting for a key.** A machine is switched on, and its host makes any calls. The instruction
that waits for a key goes on to the next one and makes the machine wait, whatever keys are down. If
the machine waits, then since that instruction was executed its program was left alone, and it is so
until the first key goes down, which is stored and ends the wait. Nothing else makes a machine
wait. -/
theorem first_press_ends_wait (c : Config) (entropy : ChaCha.Key) (calls : List Call) :
    let start : Machine c.displaySize := ofConfig c entropy
    let m := start.performAll calls
    (∀ x, m.fetch? = some (.awaitKey x) →
      m.step = (.ok .keyWait, { m with pc := m.pc.offset 2, mode := .waiting x })) ∧
    (∀ x, m.mode = .waiting x →
      (∃ s ∈ start.steppedAll calls, s.WaitsSince x m ∧ m.pc = s.pc.offset 2) ∧ m.AwaitsPress x) ∧
    ∀ call x, (m.perform call).mode = .waiting x →
      m.mode = .waiting x ∨
        ∃ s ∈ m.stepped call, s.fetch? = some (.awaitKey x) ∧ m.perform call = s.step.2 := by
  intro start m
  refine ⟨fun x => step_of_awaitKey, fun x hx => ⟨?_, awaitsPress hx⟩, fun call x h => ?_⟩
  · have hrunning : start.mode = .running := rfl
    obtain ⟨s, hs, hsince⟩ := exists_waitsSince (m := start) []
      (fun y hy => by rw [hrunning] at hy; contradiction) calls x hx
    have hpc := hsince.same.pc
    rw [step_of_awaitKey hsince.fetch] at hpc
    exact ⟨s, hs, hsince, hpc⟩
  · exact (perform_waiting h).imp_left And.left

/-- A program waits while key 5 is down already. That key coming up does not end the wait, nor does
anything else, until key 7 goes down; key 9, which goes down next, is not stored. -/
theorem first_press_ends_wait_held_key :
    let m := (ofConfig {} (Vector.replicate 8 0)).performAll
      ([.load #[0xF3, 0x0A], .setKey 5 true] ++ [.step])
    let r := (m.performAll [.step, .setKey 5 false, .tick, .run 3]).setKey 7 true
    m.mode = .waiting 3 ∧ r.mode = .running ∧ r.v = (m.setV 3 7).v ∧
      ((r.performAll [.tick]).setKey 9 true).v = (r.performAll [.tick]).v := by
  let s : Machine (Config.displaySize {}) :=
    (ofConfig {} (Vector.replicate 8 0)).performAll [.load #[0xF3, 0x0A], .setKey 5 true]
  have hf : s.fetch? = some (.awaitKey 3) :=
    fetch?_program #[0xF3, 0x0A] 0 (w := 0xF30A) rfl rfl rfl (by decide) rfl (by decide)
  obtain ⟨henter, -, -⟩ := first_press_ends_wait {} (Vector.replicate 8 0)
    [.load #[0xF3, 0x0A], .setKey 5 true]
  obtain ⟨-, hwaits, -⟩ := first_press_ends_wait {} (Vector.replicate 8 0)
    ([.load #[0xF3, 0x0A], .setKey 5 true] ++ [.step])
  -- the machine is named only now, so that nothing below computes it
  generalize hm : (ofConfig {} (Vector.replicate 8 0)).performAll
    ([.load #[0xF3, 0x0A], .setKey 5 true] ++ [.step]) = m at hwaits ⊢
  have hmode : m.mode = .waiting 3 := by
    rw [← hm, performAll_append, performAll_cons, perform, henter 3 hf]
    rfl
  have hawaits := (hwaits 3 hmode).2
  have hidle : ∀ call ∈ [Call.step, .setKey 5 false, .tick, .run 3],
      call.presses = false ∧ call.restarts = false := by decide
  obtain ⟨hrunning, hv, -⟩ := hawaits.press 7 hidle
  have hsettled := hawaits.settled [.tick] 7 hidle (by simp [steppedAll, stepped])
  exact ⟨hmode, hrunning, hv, hsettled.1 9 true⟩

end CosmacVip.Machine
