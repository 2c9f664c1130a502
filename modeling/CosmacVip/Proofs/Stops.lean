import CosmacVip.Proofs.Subroutines
import Mathlib.Tactic.SplitIfs

/-!
Halts and faults.

* `Machine.step_error`: the faults of a step, and what each leaves behind;
* `Machine.Stopped`: the machine is at the end of its program, or at a call or a return that its
  stack refuses;
* `Machine.stopped_of_final`: it is after each step that halts or has a fault of the stack;
* `Machine.Stopped.performAll`: only a restart gets it out of there;
* `Machine.final_outcome_repeats`: a step that halts or fails changes nothing, but to pass over a
  word that is no instruction, and unless it did that, every later step has its outcome.
-/

namespace CosmacVip

/-! ### Unknown words -/

namespace Instruction

variable {w v : UInt16}

lemma decodeSystem_ne_unknown (nnn : Address) : decodeSystem nnn ≠ unknown v := by
  unfold decodeSystem
  split_ifs <;> exact Instruction.noConfusion

lemma eq_of_decodeArith_unknown {x y : Register} {n : Nat}
    (h : decodeArith w x y n = unknown v) : v = w := by
  unfold decodeArith at h
  split at h <;> cases h
  rfl

lemma eq_of_decodePressed_unknown {x : Register} {kk : Nat}
    (h : decodePressed w x kk = unknown v) : v = w := by
  unfold decodePressed at h
  split_ifs at h
  exact (unknown.inj h).symm

lemma eq_of_decodeDevice_unknown {x : Register} {kk : Nat}
    (h : decodeDevice w x kk = unknown v) : v = w := by
  unfold decodeDevice at h
  split_ifs at h
  exact (unknown.inj h).symm

/-- Only a word itself is an unknown word. -/
lemma eq_of_decode_unknown (h : decode w = unknown v) : v = w := by
  simp only [decode] at h
  split at h
  case h_1 => exact absurd h (decodeSystem_ne_unknown _)
  case h_6 | h_10 =>
    split_ifs at h
    exact (unknown.inj h).symm
  case h_9 => exact eq_of_decodeArith_unknown h
  case h_15 => exact eq_of_decodePressed_unknown h
  case h_16 => exact eq_of_decodeDevice_unknown h
  all_goals cases h

end Instruction

namespace Machine

variable {size : Display.Size}

/-! ### Faults -/

/-- The machine is stopped with an outcome: by a zero word, or by a call or a return that its stack
refuses. -/
inductive Stopped (m : Machine size) : Except Fault Signal → Prop
  | halt : m.mode = .running → m.word = 0 → Stopped m (.ok .halt)
  | overflow {target : Address} : m.fetch? = some (.call target) → m.stack.frames.length = 16 →
      Stopped m (.error (.stackOverflow m.pc))
  | underflow : m.fetch? = some .ret → m.stack.frames = [] →
      Stopped m (.error (.stackUnderflow m.pc))

/-- Whether an outcome ends a program: it halts, or it has a fault that is not recoverable. -/
def isFinal : Except Fault Signal → Bool
  | .ok signal => signal = .halt
  | .error fault => !fault.recoverable

/-- No instruction halts. -/
lemma execute_ne_halt (m : Machine size) (i : Instruction) : (m.execute i).1 ≠ .ok .halt := by
  cases i with
  | ret => cases h : m.stack.pop? <;> simp [execute, h]
  | call target => cases h : m.stack.push? (m.pc.offset 2) <;> simp [execute, h]
  | arith op x y => cases op <;> simp [execute, Arith.apply]
  | _ => simp [execute]

/-- An instruction that fails is a call, a return or an unknown word. -/
lemma execute_error {m : Machine size} {i : Instruction} {fault : Fault}
    (h : (m.execute i).1 = .error fault) :
    (∃ target, i = .call target ∧ m.stack.frames.length = 16 ∧ fault = .stackOverflow m.pc) ∨
      (i = .ret ∧ m.stack.frames = [] ∧ fault = .stackUnderflow m.pc) ∨
        ∃ w, i = .unknown w ∧ fault = .unknownWord w m.pc := by
  cases i with
  | ret =>
      cases hpop : m.stack.pop? with
      | none =>
          have hempty := CallStack.pop?_eq_none_iff.1 hpop
          rw [execute_ret_of_empty hempty] at h
          exact .inr (.inl ⟨rfl, hempty, (Except.error.inj h).symm⟩)
      | some popped =>
          rw [execute_ret_of_pop hpop] at h
          contradiction
  | call target =>
      cases hpush : m.stack.push? (m.pc.offset 2) with
      | none =>
          have hfull := CallStack.push?_eq_none_iff.1 hpush
          rw [execute_call_of_full hfull] at h
          exact .inl ⟨target, rfl, hfull, (Except.error.inj h).symm⟩
      | some stack =>
          rw [execute_call_of_push hpush] at h
          contradiction
  | unknown w => exact .inr (.inr ⟨w, rfl, (Except.error.inj h).symm⟩)
  | arith op x y => cases op <;> contradiction
  | _ => contradiction

lemma Stopped.step {m : Machine size} {o : Except Fault Signal} (h : m.Stopped o) :
    m.step = (o, m) := by
  cases h with
  | halt hmode hword => exact step_of_zero hmode hword
  | overflow hf hfull => rw [step_of_fetch hf, execute_call_of_full hfull]
  | underflow hf hempty => rw [step_of_fetch hf, execute_ret_of_empty hempty]

/-- A step that fails is at a call or a return that its stack refuses, or at an unknown word,
which is passed over. -/
lemma step_error {m : Machine size} {fault : Fault} (h : m.step.1 = .error fault) :
    m.Stopped (.error fault) ∨
      m.fetch? = some (.unknown m.word) ∧ fault = .unknownWord m.word m.pc ∧
        m.step.2 = m.advance := by
  rcases m.step_fetch_cases with ⟨x, -, hstep⟩ | ⟨-, -, hstep⟩ | ⟨i, hf, hstep⟩ <;> rw [hstep] at h ⊢
  case inl | inr.inl => contradiction
  rcases execute_error h with ⟨target, rfl, hfull, rfl⟩ | ⟨rfl, hempty, rfl⟩ | ⟨w, rfl, rfl⟩
  · exact .inl (.overflow hf hfull)
  · exact .inl (.underflow hf hempty)
  · obtain ⟨-, -, hdecode⟩ := fetch?_eq_some_iff.1 hf
    obtain rfl := Instruction.eq_of_decode_unknown hdecode
    exact .inr ⟨hf, rfl, rfl⟩

lemma stopped_of_halt {m : Machine size} (h : m.step.1 = .ok .halt) : m.Stopped (.ok .halt) := by
  rcases m.step_fetch_cases with ⟨x, -, hstep⟩ | ⟨hmode, hword, -⟩ | ⟨i, -, hstep⟩
  · simp [hstep] at h
  · exact .halt hmode hword
  · rw [hstep] at h
    exact absurd h (m.execute_ne_halt i)

lemma stopped_of_final {m : Machine size} (h : isFinal m.step.1 = true) : m.Stopped m.step.1 := by
  cases ho : m.step.1 with
  | ok signal =>
      rw [ho] at h
      obtain rfl : signal = .halt := of_decide_eq_true h
      exact stopped_of_halt ho
  | error fault =>
      rcases step_error ho with hstop | ⟨-, rfl, -⟩
      · exact hstop
      · rw [ho] at h
        contradiction

/-! ### Stopped machines -/

namespace Stopped

variable {m n : Machine size} {o : Except Fault Signal}

lemma running (h : m.Stopped o) : m.mode = .running := by
  cases h with
  | halt hmode hword => exact hmode
  | overflow hf hfull => exact (fetch?_eq_some_iff.1 hf).1
  | underflow hf hempty => exact (fetch?_eq_some_iff.1 hf).1

/-- A machine stays stopped while it stays at its place in its program with its calls open. -/
lemma keep (h : m.Stopped o) (hpc : n.pc = m.pc) (hmemory : n.memory = m.memory)
    (hstack : n.stack = m.stack) (hmode : n.mode = .running) : n.Stopped o := by
  have hword : n.word = m.word := by rw [word, word, hpc, hmemory]
  have hfetch : n.fetch? = m.fetch? := by rw [fetch?, fetch?, hword, hmode, h.running]
  cases h with
  | halt _ hzero => exact .halt hmode (hword.trans hzero)
  | overflow hf hfull =>
      rw [← hpc]
      exact .overflow (hfetch.trans hf) (hstack ▸ hfull)
  | underflow hf hempty =>
      rw [← hpc]
      exact .underflow (hfetch.trans hf) (hstack ▸ hempty)

lemma ends (h : m.Stopped o) : Machine.ends o = true := by cases h <;> rfl

lemma run (h : m.Stopped o) (n : Nat) : Machine.run (n + 1) m = (o, m) := by
  rw [run_succ, h.step]
  exact if_pos h.ends

lemma perform (h : m.Stopped o) {call : Call} (hcall : call.restarts = false) :
    (m.perform call).Stopped o := by
  cases he : call.executes with
  | false =>
      obtain ⟨hpc, hmemory, hstack, hmode⟩ := m.perform_host he hcall
      exact h.keep hpc hmemory hstack (hmode h.running)
  | true =>
      cases call with
      | step =>
          rw [Machine.perform, h.step]
          exact h
      | run steps =>
          cases steps with
          | zero => exact h
          | succ n =>
              rw [Machine.perform, h.run]
              exact h
      | _ => contradiction

lemma performAll (h : m.Stopped o) {calls : List Call}
    (hcalls : ∀ call ∈ calls, call.restarts = false) : (m.performAll calls).Stopped o := by
  induction calls generalizing m with
  | nil => exact h
  | cons call calls ih =>
      obtain ⟨hhead, hrest⟩ := List.forall_mem_cons.1 hcalls
      exact ih (h.perform hhead) hrest

end Stopped

/-- **Halts and faults.** A fault of a step is that of the stack, and the machine is as it was, or
that of an unknown word, which the machine has passed over and which alone is recoverable. A step
that halts leaves the machine as it was. After a halt or a fault of the stack, whatever is done
with the machine but a restart, every step and every run of steps has the same outcome and
changes nothing. -/
theorem final_outcome_repeats (m : Machine size) :
    (∀ fault, m.step.1 = .error fault →
      (fault = .stackOverflow m.pc ∨ fault = .stackUnderflow m.pc) ∧ m.step.2 = m ∧
          fault.recoverable = false ∨
        fault = .unknownWord m.word m.pc ∧ m.step.2 = { m with pc := m.pc.offset 2 } ∧
          fault.recoverable = true) ∧
      (m.step.1 = .ok .halt → m.step.2 = m) ∧
      (isFinal m.step.1 = true →
        ∀ calls : List Call, (∀ call ∈ calls, call.restarts = false) →
          let s := m.step.2.performAll calls
          s.step = (m.step.1, s) ∧ ∀ n, run (n + 1) s = (m.step.1, s)) := by
  refine ⟨fun fault h => ?_, fun h => ?_, fun h calls hcalls => ?_⟩
  · rcases step_error h with hstop | ⟨-, rfl, hnext⟩
    · rw [hstop.step]
      cases hstop with
      | overflow => exact .inl ⟨.inl rfl, rfl, rfl⟩
      | underflow => exact .inl ⟨.inr rfl, rfl, rfl⟩
    · exact .inr ⟨rfl, hnext, rfl⟩
  · rw [(stopped_of_halt h).step]
  · have hstop := stopped_of_final h
    have hsame : m.step.2 = m := congrArg Prod.snd hstop.step
    have hlater := (hsame.symm ▸ hstop : m.step.2.Stopped m.step.1).performAll hcalls
    exact ⟨hlater.step, hlater.run⟩

/-- A return without a call: keys, a run, a beat of the timers and a screen do not get the machine
past it. -/
theorem underflow_repeats :
    let m : Machine .standard :=
      .fresh .standard (Memory.withProgram #[0x00, 0xEE]) (.ofKey (Vector.replicate 8 0))
    let s := m.step.2.performAll [.setKey 3 true, .run 2, .tick, .present 64 32]
    isFinal m.step.1 = true ∧ s.step = (.error (.stackUnderflow 0x200), s) ∧
      ∀ n, run (n + 1) s = (.error (.stackUnderflow 0x200), s) := by
  intro m s
  have hstep : m.step.1 = .error (.stackUnderflow 0x200) := by
    rw [step_fresh #[0x00, 0xEE] _ (w := 0x00EE) rfl (by decide)]
    rfl
  have hfinal : isFinal m.step.1 = true := by
    rw [hstep]
    rfl
  have hlater := (final_outcome_repeats m).2.2 hfinal
    [.setKey 3 true, .run 2, .tick, .present 64 32] (by decide)
  rw [hstep] at hlater
  exact ⟨hfinal, hlater⟩

end Machine

end CosmacVip
