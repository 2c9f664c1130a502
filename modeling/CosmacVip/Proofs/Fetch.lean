import CosmacVip.Proofs.Frame
import CosmacVip.Proofs.Programs

/-!
Which instructions the calls of a host execute, and on which machines.

* `Machine.fetch?`: the instruction that the next step executes, if there is one;
* `Machine.IsAt`: whether a given word comes next;
* `Machine.step_of_fetch`, `Machine.step_fetch_cases`: what a step does;
* `Machine.steppedAll`: the machines of which calls take a step, in turn;
* `Machine.run_keeps`, `Machine.perform_keeps`: what their steps leave alone, runs and calls do;
* `Machine.perform_frame`, `Machine.perform_host`: what the other calls change or leave alone;
* `Machine.performAll_until`: what calls keep until a machine of some kind takes a step holds of
  the first such machine.
-/

namespace CosmacVip.Machine

variable {size : Display.Size}

/-! ### The next instruction -/

/-- The instruction that the next step executes; none if the machine waits, or is at the end of
its program. -/
def fetch? (m : Machine size) : Option Instruction :=
  match m.mode with
  | .waiting _ => none
  | .running => if m.word = 0 then none else some (.decode m.word)

lemma fetch?_eq_some_iff {m : Machine size} {i : Instruction} :
    m.fetch? = some i ↔ m.mode = .running ∧ m.word ≠ 0 ∧ .decode m.word = i := by
  cases h : m.mode with
  | waiting x => simp [fetch?, h]
  | running => simp [fetch?, h]

lemma step_of_fetch {m : Machine size} {i : Instruction} (h : m.fetch? = some i) :
    m.step = m.execute i := by
  obtain ⟨hmode, hword, rfl⟩ := fetch?_eq_some_iff.1 h
  rw [step, hmode]
  exact if_neg hword

lemma step_of_waiting {m : Machine size} {x : Register} (h : m.mode = .waiting x) :
    m.step = (.ok .keyWait, m) := by
  rw [step, h]

/-- A waiting machine goes on waiting. -/
lemma run_of_isWaiting {n : Nat} {m : Machine size} (h : m.isWaiting = true) :
    run (n + 1) m = (.ok .keyWait, m) := by
  cases hm : m.mode with
  | running => simp [isWaiting, hm] at h
  | waiting x =>
      rw [run_succ, step_of_waiting hm]
      rfl

lemma step_of_zero {m : Machine size} (h : m.mode = .running) (hword : m.word = 0) :
    m.step = (.ok .halt, m) := by
  rw [step, h]
  exact if_pos hword

/-- The next instruction of a machine at a word of its program that is not zero. -/
lemma fetch?_program {m : Machine size} (program : Array UInt8) (k : Nat) {w : UInt16}
    (hmemory : m.memory = Memory.withProgram program) (hmode : m.mode = .running)
    (hpc : m.pc = Address.programStart.offset k) (hk : k + 1 < Memory.programCapacity)
    (hw : UInt16.ofNat ((program[k]?.getD 0).toNat * 256 + (program[k + 1]?.getD 0).toNat) = w)
    (h : w ≠ 0) : m.fetch? = some (.decode w) := by
  rw [fetch?_eq_some_iff, word_program program k hmemory hpc hk hw]
  exact ⟨hmode, h, rfl⟩

/-- Whether the machine runs, and a word, given as a number, comes next in its program. -/
def IsAt (m : Machine size) (w : Nat) : Prop := m.mode = .running ∧ m.word = .ofNat w

lemma IsAt.step {m : Machine size} {w : Nat} {i : Instruction} (h : m.IsAt w)
    (hi : .decode (.ofNat w) = i) (hne : i ≠ .system 0) : m.step = m.execute i := by
  obtain ⟨hmode, hword⟩ := h
  refine step_of_fetch (fetch?_eq_some_iff.2 ⟨hmode, fun hzero => hne ?_, by rw [hword, hi]⟩)
  rw [← hi, ← hword, hzero]
  rfl

/-- The next word is the same where the memory holds the same two bytes. -/
lemma IsAt.of_read {m n : Machine size} {w : Nat} (h : m.IsAt w) (hmode : n.mode = m.mode)
    (hpc : n.pc = m.pc) (hhigh : n.memory.read m.pc = m.memory.read m.pc)
    (hlow : n.memory.read (m.pc.offset 1) = m.memory.read (m.pc.offset 1)) : n.IsAt w := by
  refine ⟨hmode.trans h.1, ?_⟩
  rw [word, hpc, hhigh, hlow]
  exact h.2

/-- A machine waits, is at the end of its program, or executes its next instruction. -/
lemma step_fetch_cases (m : Machine size) :
    (∃ x, m.mode = .waiting x ∧ m.step = (.ok .keyWait, m)) ∨
      (m.mode = .running ∧ m.word = 0 ∧ m.step = (.ok .halt, m)) ∨
        ∃ i, m.fetch? = some i ∧ m.step = m.execute i := by
  cases hmode : m.mode with
  | waiting x => exact .inl ⟨x, rfl, step_of_waiting hmode⟩
  | running =>
      by_cases hword : m.word = 0
      · exact .inr (.inl ⟨rfl, hword, step_of_zero hmode hword⟩)
      · have hf : m.fetch? = some (.decode m.word) := fetch?_eq_some_iff.2 ⟨hmode, hword, rfl⟩
        exact .inr (.inr ⟨_, hf, step_of_fetch hf⟩)

/-! ### The machines that are stepped -/

/-- The machines of which a run takes a step, in turn. -/
def steppedInRun : Nat → Machine size → List (Machine size)
  | 0, _ => []
  | n + 1, m => m :: if ends m.step.1 then [] else steppedInRun n m.step.2

/-- The machines of which a call takes a step, in turn. -/
def stepped (m : Machine size) : Call → List (Machine size)
  | .step => [m]
  | .run steps => steppedInRun steps m
  | _ => []

/-- The machines of which calls take a step, in turn. -/
def steppedAll (m : Machine size) : List Call → List (Machine size)
  | [] => []
  | call :: calls => m.stepped call ++ (m.perform call).steppedAll calls

/-- A run that ends early has the outcome of its last step. -/
lemma exists_stepped_of_ends {n : Nat} {m : Machine size} (h : ends (run n m).1 = true) :
    ∃ s ∈ steppedInRun n m, s.step = run n m := by
  induction n generalizing m with
  | zero => contradiction
  | succ n ih =>
      rw [run_succ] at h ⊢
      rw [steppedInRun]
      by_cases he : ends m.step.1
      · exact ⟨m, by simp, by rw [if_pos he]⟩
      · rw [if_neg he] at h
        obtain ⟨s, hs, hstep⟩ := ih h
        refine ⟨s, ?_, by rw [hstep, if_neg he]⟩
        rw [if_neg he]
        exact List.mem_cons_of_mem _ hs

/-- What every step of a run leaves alone, the run leaves alone. -/
lemma run_keeps {α : Type} (f : Machine size → α) {n : Nat} {m : Machine size}
    (h : ∀ s ∈ steppedInRun n m, f s.step.2 = f s) : f (run n m).2 = f m := by
  induction n generalizing m with
  | zero => rfl
  | succ n ih =>
      obtain ⟨hfirst, hrest⟩ := List.forall_mem_cons.1 h
      rw [run_succ]
      by_cases he : ends m.step.1
      · rw [if_pos he, hfirst]
      · rw [if_neg he] at hrest ⊢
        exact (ih hrest).trans hfirst

/-- Whether a call executes instructions. -/
def Call.executes : Call → Bool
  | .step => true
  | .run _ => true
  | _ => false

/-- Whether a call puts the machine back to its start. -/
def Call.restarts : Call → Bool
  | .load program => program.size ≤ Memory.programCapacity
  | .reset => true
  | _ => false

/-- A program that does not restart the machine leaves it as it was. -/
lemma perform_load_of_refused (m : Machine size) {program : Array UInt8}
    (h : (Call.load program).restarts = false) : m.perform (.load program) = m := by
  have hlt : Memory.programCapacity < program.size := by simpa [Call.restarts] using h
  rw [perform, loadOrKeep_of_lt m hlt]

/-- What every step of a call that takes steps leaves alone, the call leaves alone. -/
lemma perform_keeps {α : Type} (f : Machine size → α) {m : Machine size} {call : Call}
    (hexecutes : call.executes = true) (h : ∀ s ∈ m.stepped call, f s.step.2 = f s) :
    f (m.perform call) = f m := by
  cases call with
  | step => exact h m (List.mem_singleton_self m)
  | run steps => exact run_keeps f h
  | _ => contradiction

/-- All that the calls of a host change between steps, restarts and beats. -/
lemma perform_frame (m : Machine size) {call : Call} (hexecutes : call.executes = false)
    (hrestarts : call.restarts = false) (htick : call ≠ .tick) :
    ∃ keys v mode redraw,
      m.perform call = { m with keys := keys, v := v, mode := mode, redraw := redraw } := by
  cases call with
  | load program => exact ⟨_, _, _, _, perform_load_of_refused m hrestarts⟩
  | setKey k down =>
      obtain ⟨v, mode, hm⟩ := m.setKey_frame k down
      exact ⟨_, v, mode, _, hm⟩
  | clearKeys => exact ⟨_, _, _, _, rfl⟩
  | present width height =>
      obtain ⟨redraw, hm⟩ := m.present_frame width height
      exact ⟨_, _, _, redraw, hm⟩
  | reset | step | run _ | tick => contradiction

/-- A call that neither executes nor restarts leaves the machine at its place in its program, with
its calls open and running if it runs. -/
lemma perform_host (m : Machine size) {call : Call} (hexecutes : call.executes = false)
    (hrestarts : call.restarts = false) :
    (m.perform call).pc = m.pc ∧ (m.perform call).memory = m.memory ∧
      (m.perform call).stack = m.stack ∧
        (m.mode = .running → (m.perform call).mode = .running) := by
  cases call with
  | load program =>
      rw [perform_load_of_refused m hrestarts]
      exact ⟨rfl, rfl, rfl, id⟩
  | reset => contradiction
  | step => contradiction
  | run steps => contradiction
  | setKey k down =>
      have hmode (h : m.mode = .running) : (m.setKey k down).mode = .running := by
        rw [setKey_of_running h]
        exact h
      obtain ⟨v, mode, hm⟩ := m.setKey_frame k down
      rw [perform]
      refine ⟨?_, ?_, ?_, hmode⟩ <;> rw [hm]
  | clearKeys => exact ⟨rfl, rfl, rfl, id⟩
  | tick =>
      rw [perform, tick_machine]
      exact ⟨rfl, rfl, rfl, id⟩
  | present width height =>
      obtain ⟨redraw, hm⟩ := m.present_frame width height
      rw [perform, hm]
      exact ⟨rfl, rfl, rfl, id⟩

section

variable {P : Machine size → Prop} {stop : Machine size → Bool}

lemma run_until (hstep : ∀ m, P m → stop m = false → P m.step.2) (n : Nat) {m : Machine size}
    (h : P m) : ((steppedInRun n m).find? stop).elim (P (run n m).2) P := by
  induction n generalizing m with
  | zero => exact h
  | succ n ih =>
      rw [steppedInRun, List.find?_cons, run_succ]
      cases hm : stop m with
      | true => exact h
      | false =>
          by_cases he : ends m.step.1
          · simpa [he] using hstep m h hm
          · simpa [he] using ih (hstep m h hm)

/-- What steps and all other calls but restarts keep, until a machine of some kind takes a step,
holds of the first such machine, or else after all calls. -/
lemma performAll_until (hstep : ∀ m, P m → stop m = false → P m.step.2)
    (hcall : ∀ m call, call.executes = false → call.restarts = false → P m → P (m.perform call))
    {m : Machine size} (h : P m) {calls : List Call}
    (hcalls : ∀ call ∈ calls, call.restarts = false) :
    ((m.steppedAll calls).find? stop).elim (P (m.performAll calls)) P := by
  induction calls generalizing m with
  | nil => exact h
  | cons call calls ih =>
      obtain ⟨hhead, hrest⟩ := List.forall_mem_cons.1 hcalls
      have hfirst : ((m.stepped call).find? stop).elim (P (m.perform call)) P := by
        cases call with
        | step =>
            cases hm : stop m with
            | true => simpa [stepped, hm] using h
            | false => simpa [stepped, hm, perform] using hstep m h hm
        | run steps => exact run_until hstep steps h
        | load _ | reset | setKey _ _ | clearKeys | tick | present _ _ =>
            exact hcall m _ rfl hhead h
      rw [steppedAll, List.find?_append, performAll_cons]
      cases hs : (m.stepped call).find? stop with
      | some s => simpa [hs] using hfirst
      | none => exact ih (by simpa [hs] using hfirst) hrest

end

end CosmacVip.Machine
