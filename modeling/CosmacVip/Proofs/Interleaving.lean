import CosmacVip.Proofs.Fetch

/-!
Beats of the timers and reports of keys between instructions.

* `Instruction.usesTimers`, `Instruction.usesKeys`: the instructions for which it makes a
  difference;
* `Machine.step_comm`: what commutes with the next instruction commutes with the step;
* `Machine.step_tick`, `Machine.step_setKey`, `Machine.step_clearKeys`, `Machine.tick_setKey`: of
  two calls that have nothing to do with each other, either may be the first;
* `Machine.SameCourse`: two lists of calls tell the host the same and end with the same machine;
* `Machine.interleavings_agree`: all this at once, and how the steps and beats of a run are
  interleaved makes no difference as long as no instruction uses a timer.
-/

namespace CosmacVip

namespace Instruction

/-- Whether an instruction reads or sets a timer. -/
def usesTimers : Instruction → Bool
  | readDelay _ | setDelay _ | setSound _ => true
  | _ => false

/-- Whether an instruction looks at the keypad or waits for a key. -/
def usesKeys : Instruction → Bool
  | skipIfPressed _ | skipUnlessPressed _ | awaitKey _ => true
  | _ => false

end Instruction

namespace Machine

variable {size : Display.Size}

/-- Whether the instruction that the next step executes, if there is one, uses a timer. -/
def usesTimers (m : Machine size) : Bool := m.fetch?.any (·.usesTimers)

/-- Whether the instruction that the next step executes, if there is one, uses the keypad. -/
def usesKeys (m : Machine size) : Bool := m.fetch?.any (·.usesKeys)

lemma usesTimers_of_fetch {m : Machine size} {i : Instruction} (h : m.fetch? = some i) :
    m.usesTimers = i.usesTimers := by
  rw [usesTimers, h, Option.any_some]

lemma usesKeys_of_fetch {m : Machine size} {i : Instruction} (h : m.fetch? = some i) :
    m.usesKeys = i.usesKeys := by
  rw [usesKeys, h, Option.any_some]

/-! ### Steps -/

/-- A change that leaves the machine at its place in its program and commutes with its next
instruction commutes with the step. -/
lemma step_comm {f : Machine size → Machine size} {m : Machine size}
    (hmode : (f m).mode = m.mode) (hword : (f m).word = m.word)
    (h : ∀ i, m.fetch? = some i → (f m).execute i = ((m.execute i).1, f (m.execute i).2)) :
    (f m).step = (m.step.1, f m.step.2) := by
  rcases m.step_fetch_cases with ⟨x, hx, hstep⟩ | ⟨hrunning, hzero, hstep⟩ | ⟨i, hi, hstep⟩
  · rw [hstep, step_of_waiting (hmode.trans hx)]
  · rw [hstep, step_of_zero (hmode.trans hrunning) (hword.trans hzero)]
  · have hfetch : (f m).fetch? = some i := by
      rw [fetch?_eq_some_iff] at hi ⊢
      rwa [hmode, hword]
    rw [hstep, step_of_fetch hfetch, h i hi]

/-! ### Beats of the timers -/

/-- An instruction that uses no timer does the same whatever the timers are. -/
lemma execute_withTimers (m : Machine size) {i : Instruction} (h : i.usesTimers = false)
    (delay sound : UInt8) (toneOn : Bool) :
    execute { m with delay := delay, sound := sound, toneOn := toneOn } i =
      ((m.execute i).1,
        { (m.execute i).2 with delay := delay, sound := sound, toneOn := toneOn }) := by
  cases i with
  | ret => simp only [execute]; cases m.stack.pop? <;> rfl
  | call target => simp only [execute]; cases m.stack.push? (m.pc.offset 2) <;> rfl
  | arith op x y => cases op <;> rfl
  | readDelay x | setDelay x | setSound x => contradiction
  | _ => rfl

/-- An instruction that uses no timer leaves the timers alone. -/
lemma execute_timers (m : Machine size) {i : Instruction} (h : i.usesTimers = false) :
    (m.execute i).2.delay = m.delay ∧ (m.execute i).2.sound = m.sound := by
  have hsame : (m.execute i).2 =
      { (m.execute i).2 with delay := m.delay, sound := m.sound, toneOn := m.toneOn } :=
    congrArg Prod.snd (execute_withTimers m h m.delay m.sound m.toneOn)
  constructor <;> rw [hsame]

lemma execute_tick (m : Machine size) {i : Instruction} (h : i.usesTimers = false) :
    m.tick.2.execute i = ((m.execute i).1, (m.execute i).2.tick.2) := by
  obtain ⟨hdelay, hsound⟩ := execute_timers m h
  rw [tick_machine, tick_machine, execute_withTimers m h, hdelay, hsound]

lemma tick_fetch? (m : Machine size) : m.tick.2.fetch? = m.fetch? := by
  rw [tick_machine]
  rfl

/-- A beat and a step may change places unless the instruction uses a timer. -/
lemma step_tick {m : Machine size} (h : m.usesTimers = false) :
    m.tick.2.step = (m.step.1, m.step.2.tick.2) ∧ m.step.2.tick.1 = m.tick.1 := by
  have hnone (i : Instruction) (hi : m.fetch? = some i) : i.usesTimers = false := by
    rwa [← usesTimers_of_fetch hi]
  have hword : m.tick.2.word = m.word := by
    rw [tick_machine]
    rfl
  have hmode : m.tick.2.mode = m.mode := by rw [tick_machine]
  constructor
  · exact step_comm (f := fun n => n.tick.2) hmode hword fun i hi => execute_tick m (hnone i hi)
  · have hsound : m.step.2.sound = m.sound := by
      rcases m.step_fetch_cases with ⟨x, -, hstep⟩ | ⟨-, -, hstep⟩ | ⟨i, hi, hstep⟩ <;> rw [hstep]
      exact (execute_timers m (hnone i hi)).2
    rw [tick_tones, tick_tones, hsound, (step_sameHost m).toneOn]

/-! ### Keys -/

/-- An instruction that does not use the keypad does the same whatever keys are down. -/
lemma execute_withKeys (m : Machine size) {i : Instruction} (h : i.usesKeys = false)
    (keys : KeySet) :
    execute { m with keys := keys } i =
      ((m.execute i).1, { (m.execute i).2 with keys := keys }) := by
  cases i with
  | ret => simp only [execute]; cases m.stack.pop? <;> rfl
  | call target => simp only [execute]; cases m.stack.push? (m.pc.offset 2) <;> rfl
  | arith op x y => cases op <;> rfl
  | skipIfPressed x | skipUnlessPressed x | awaitKey x => contradiction
  | _ => rfl

/-- Only one instruction changes whether the machine runs. -/
lemma execute_mode (m : Machine size) {i : Instruction} (h : ∀ x, i ≠ .awaitKey x) :
    (m.execute i).2.mode = m.mode := by
  cases i with
  | ret => simp only [execute]; cases m.stack.pop? <;> rfl
  | call target => simp only [execute]; cases m.stack.push? (m.pc.offset 2) <;> rfl
  | arith op x y => cases op <;> rfl
  | awaitKey x => exact absurd rfl (h x)
  | _ => rfl

lemma execute_running {m : Machine size} (hmode : m.mode = .running) {i : Instruction}
    (h : i.usesKeys = false) : (m.execute i).2.mode = .running := by
  rw [execute_mode, hmode]
  rintro x rfl
  contradiction

/-- A report of a key and a step may change places while the machine runs, unless the instruction
uses the keypad. -/
lemma step_setKey {m : Machine size} (hmode : m.mode = .running) (h : m.usesKeys = false) (k : Key)
    (down : Bool) : (m.setKey k down).step = (m.step.1, m.step.2.setKey k down) := by
  refine step_comm (f := fun n => n.setKey k down) ?_ ?_ fun i hi => ?_
  · rw [setKey_of_running hmode]
  · rw [setKey_of_running hmode]
    rfl
  · rw [usesKeys_of_fetch hi] at h
    rw [setKey_of_running hmode, setKey_of_running (execute_running hmode h), execute_withKeys m h,
      (execute_sameHost m i).keys]

/-- The same if all keys are released. -/
lemma step_clearKeys {m : Machine size} (h : m.usesKeys = false) :
    m.clearKeys.step = (m.step.1, m.step.2.clearKeys) := by
  refine step_comm (f := clearKeys) rfl rfl fun i hi => ?_
  rw [usesKeys_of_fetch hi] at h
  exact execute_withKeys m h KeySet.empty

/-- A report of a key and a beat may always change places. -/
lemma tick_setKey (m : Machine size) (k : Key) (down : Bool) :
    (m.setKey k down).tick = (m.tick.1, m.tick.2.setKey k down) := by
  obtain ⟨v, mode, hframe⟩ := m.setKey_frame k down
  have hsound : (m.setKey k down).sound = m.sound := by rw [hframe]
  have htone : (m.setKey k down).toneOn = m.toneOn := by rw [hframe]
  have htones : (m.setKey k down).tick.1 = m.tick.1 := by
    rw [tick_tones, tick_tones, hsound, htone]
  have hmachine : (m.setKey k down).tick.2 = m.tick.2.setKey k down := by
    rw [tick_machine, tick_machine]
    obtain ⟨_, _, _, _, _, _, _, mode⟩ := m
    cases mode <;> cases down <;> rfl
  exact Prod.ext htones hmachine

lemma tick_clearKeys (m : Machine size) : m.clearKeys.tick = (m.tick.1, m.tick.2.clearKeys) := by
  have htones : m.clearKeys.tick.1 = m.tick.1 := by
    rw [tick_tones, tick_tones]
    rfl
  have hmachine : m.clearKeys.tick.2 = m.tick.2.clearKeys := by
    rw [tick_machine, tick_machine]
    rfl
  exact Prod.ext htones hmachine

/-! ### Runs of steps and beats -/

/-- Two lists of calls end with the same machine, and in between they tell the host the same. -/
structure SameCourse (m : Machine size) (calls others : List Call) : Prop where
  machine : m.performAll others = m.performAll calls
  outcomes : m.outcomes others = m.outcomes calls
  tones : m.tones others = m.tones calls

namespace SameCourse

variable {m : Machine size} {calls others more : List Call}

lemma refl (m : Machine size) (calls : List Call) : m.SameCourse calls calls := ⟨rfl, rfl, rfl⟩

lemma symm (h : m.SameCourse calls others) : m.SameCourse others calls :=
  ⟨h.machine.symm, h.outcomes.symm, h.tones.symm⟩

lemma trans (h : m.SameCourse calls others) (g : m.SameCourse others more) :
    m.SameCourse calls more :=
  ⟨g.machine.trans h.machine, g.outcomes.trans h.outcomes, g.tones.trans h.tones⟩

lemma cons (call : Call) (h : (m.perform call).SameCourse calls others) :
    m.SameCourse (call :: calls) (call :: others) where
  machine := h.machine
  outcomes := by rw [Machine.outcomes, Machine.outcomes, h.outcomes]
  tones := by rw [Machine.tones, Machine.tones, h.tones]

/-- A beat that comes before the step instead of after it. -/
lemma tick_step (h : m.usesTimers = false) (calls : List Call) :
    m.SameCourse (.step :: .tick :: calls) (.tick :: .step :: calls) := by
  obtain ⟨hstep, htones⟩ := step_tick h
  have hmachine : (m.perform .tick).perform .step = (m.perform .step).perform .tick := by
    rw [perform, perform, perform, perform, hstep]
  have hfirst : m.tick.2.step.1 = m.step.1 := by rw [hstep]
  have houtcome : (m.perform .tick).outcome? .step = m.outcome? .step := congrArg some hfirst
  have htone : (m.perform .step).tonesOf .tick = m.tonesOf .tick := htones
  constructor
  · rw [performAll_cons, performAll_cons, performAll_cons, performAll_cons, hmachine]
  · simp only [Machine.outcomes, hmachine, houtcome]
    rfl
  · simp only [Machine.tones, hmachine, htone]
    rfl

end SameCourse

/-- No step of a list of calls executes an instruction that uses a timer. -/
def Untimed (m : Machine size) (calls : List Call) : Prop :=
  ∀ s ∈ m.steppedAll calls, s.usesTimers = false

lemma untimed_cons {m : Machine size} {call : Call} {calls : List Call} :
    m.Untimed (call :: calls) ↔
      (∀ s ∈ m.stepped call, s.usesTimers = false) ∧ (m.perform call).Untimed calls :=
  List.forall_mem_append

lemma usesTimers_tick (m : Machine size) : m.tick.2.usesTimers = m.usesTimers := by
  rw [usesTimers, usesTimers, tick_fetch?]

/-- A beat and a step that are next to each other change places, and the instruction that is
executed stays the same. -/
lemma Untimed.tick_step {m : Machine size} {calls : List Call} :
    m.Untimed (.step :: .tick :: calls) ↔ m.Untimed (.tick :: .step :: calls) := by
  have hiff (h : m.usesTimers = false) :
      (m.step.2.tick.2).Untimed calls ↔ (m.tick.2.step.2).Untimed calls := by
    rw [(step_tick h).1]
  simp only [untimed_cons, stepped, perform, List.forall_mem_singleton, List.not_mem_nil,
    false_imp_iff, implies_true, true_and, usesTimers_tick]
  exact and_congr_right hiff

/-- Calls that are steps and beats can be put into any order. -/
lemma sameCourse_of_perm {calls others : List Call} (hperm : calls.Perm others) {m : Machine size}
    (hcalls : ∀ call ∈ calls, call = .step ∨ call = .tick) (huntimed : m.Untimed calls) :
    m.SameCourse calls others ∧ m.Untimed others := by
  induction hperm generalizing m with
  | nil => exact ⟨.refl m [], huntimed⟩
  | cons call _ ih =>
      obtain ⟨hhead, hrest⟩ := untimed_cons.1 huntimed
      obtain ⟨hsame, hothers⟩ := ih (List.forall_mem_cons.1 hcalls).2 hrest
      exact ⟨hsame.cons call, untimed_cons.2 ⟨hhead, hothers⟩⟩
  | swap a b calls =>
      simp only [List.forall_mem_cons] at hcalls
      obtain ⟨rfl | rfl, rfl | rfl, -⟩ := hcalls
      · exact ⟨.refl m _, huntimed⟩
      · have hstep : m.usesTimers = false := huntimed m List.mem_cons_self
        exact ⟨.tick_step hstep calls, Untimed.tick_step.1 huntimed⟩
      · have huntimed' := Untimed.tick_step.2 huntimed
        have hstep : m.usesTimers = false := huntimed' m List.mem_cons_self
        exact ⟨(SameCourse.tick_step hstep calls).symm, huntimed'⟩
      · exact ⟨.refl m _, huntimed⟩
  -- the second half begins with other calls, which is why no timer is used by them either
  | trans hfirst _ ih₁ ih₂ =>
      obtain ⟨hsame₁, hmiddle⟩ := ih₁ hcalls huntimed
      obtain ⟨hsame₂, hothers⟩ := ih₂ (fun call h => hcalls call (hfirst.mem_iff.2 h)) hmiddle
      exact ⟨hsame₁.trans hsame₂, hothers⟩

/-- Lists of steps and beats are in one order or another if they have as many of each. -/
lemma perm_of_counts {calls others : List Call}
    (hcalls : ∀ call ∈ calls, call = .step ∨ call = .tick)
    (hothers : ∀ call ∈ others, call = .step ∨ call = .tick)
    (hsteps : calls.count .step = others.count .step)
    (hticks : calls.count .tick = others.count .tick) : calls.Perm others := by
  rw [List.perm_iff_count]
  intro call
  by_cases hstep : call = .step
  · rw [hstep, hsteps]
  · by_cases htick : call = .tick
    · rw [htick, hticks]
    · have hnone {l : List Call} (hl : ∀ call ∈ l, call = .step ∨ call = .tick) :
          l.count call = 0 :=
        List.count_eq_zero.2 fun h => (hl call h).elim hstep htick
      rw [hnone hcalls, hnone hothers]

/-- **Steps, beats and keys in any order.** A step and a beat of the timers may change places
unless the next instruction uses a timer; a step and a report of a key, or the release of all
keys, while the machine runs and the next instruction does not use the keypad; a beat and a report
of a key always. Each time the step has the same outcome, the host is told the same about the
tone, and the machine is the same in the end. Hence a run of steps and beats in which no
instruction uses a timer has the same outcomes, the same tones and the same machine in the end as
every other run with as many steps and as many beats. -/
theorem interleavings_agree (m : Machine size) :
    (m.usesTimers = false →
      m.tick.2.step = (m.step.1, m.step.2.tick.2) ∧ m.step.2.tick.1 = m.tick.1) ∧
    (m.mode = .running → m.usesKeys = false →
      (∀ k down, (m.setKey k down).step = (m.step.1, m.step.2.setKey k down)) ∧
        m.clearKeys.step = (m.step.1, m.step.2.clearKeys)) ∧
    (∀ k down, (m.setKey k down).tick = (m.tick.1, m.tick.2.setKey k down)) ∧
    m.clearKeys.tick = (m.tick.1, m.tick.2.clearKeys) ∧
    ∀ calls others : List Call,
      (∀ call ∈ calls, call = .step ∨ call = .tick) → m.Untimed calls →
      (∀ call ∈ others, call = .step ∨ call = .tick) →
      calls.count .step = others.count .step → calls.count .tick = others.count .tick →
        m.SameCourse calls others := by
  refine ⟨step_tick, fun hmode hkeys => ⟨step_setKey hmode hkeys, step_clearKeys hkeys⟩,
    m.tick_setKey, m.tick_clearKeys, ?_⟩
  intro calls others hcalls huntimed hothers hsteps hticks
  exact (sameCourse_of_perm (perm_of_counts hcalls hothers hsteps hticks) hcalls huntimed).1

/-- A program that adds one to a register again and again. -/
def countUp : Array UInt8 := #[0x70, 0x01, 0x12, 0x00]

section

variable {m : Machine size}

lemma fetch?_countUp_add (hmemory : m.memory = Memory.withProgram countUp)
    (hmode : m.mode = .running) (hpc : m.pc = Address.programStart.offset 0) :
    m.fetch? = some (.addByte 0 1) :=
  fetch?_program countUp 0 (w := 0x7001) hmemory hmode hpc (by decide) rfl (by decide)

lemma fetch?_countUp_jump (hmemory : m.memory = Memory.withProgram countUp)
    (hmode : m.mode = .running) (hpc : m.pc = Address.programStart.offset 2) :
    m.fetch? = some (.jump 0x200) :=
  fetch?_program countUp 2 (w := 0x1200) hmemory hmode hpc (by decide) rfl (by decide)

/-- However it is interleaved with beats, it uses no timer. -/
lemma untimed_countUp (hmemory : m.memory = Memory.withProgram countUp)
    (hmode : m.mode = .running)
    (hpc : m.pc = Address.programStart.offset 0 ∨ m.pc = Address.programStart.offset 2)
    {calls : List Call} (hcalls : ∀ call ∈ calls, call = .step ∨ call = .tick) : m.Untimed calls := by
  induction calls generalizing m with
  | nil => exact List.forall_mem_nil _
  | cons call calls ih =>
      obtain ⟨rfl | rfl, hrest⟩ := List.forall_mem_cons.1 hcalls
      · refine untimed_cons.2 ⟨List.forall_mem_singleton.2 ?_, ?_⟩
        · rcases hpc with hpc | hpc
          · rw [usesTimers_of_fetch (fetch?_countUp_add hmemory hmode hpc)]
            rfl
          · rw [usesTimers_of_fetch (fetch?_countUp_jump hmemory hmode hpc)]
            rfl
        · rw [perform]
          rcases hpc with hpc | hpc
          · rw [step_of_fetch (fetch?_countUp_add hmemory hmode hpc)]
            have hnext : m.pc.offset 2 = Address.programStart.offset 2 := by
              rw [hpc, Address.offset_offset]
            exact ih hmemory hmode (.inr hnext) hrest
          · rw [step_of_fetch (fetch?_countUp_jump hmemory hmode hpc)]
            exact ih hmemory hmode (.inl rfl) hrest
      · refine untimed_cons.2 ⟨List.forall_mem_nil _, ?_⟩
        rw [perform, tick_machine]
        exact ih hmemory hmode hpc hrest

end

/-- The program while a tone of two beats sounds: whether the beats come one after each of the
first two additions or both before them, the tone starts and stops, and the counts are the same. -/
theorem interleavings_agree_counting :
    let m : Machine .standard :=
      { fresh .standard (Memory.withProgram countUp) (.ofKey (Vector.replicate 8 0)) with
        delay := 3, sound := 2 }
    let calls : List Call := [.step, .tick, .step, .tick, .step]
    let others : List Call := [.tick, .tick, .step, .step, .step]
    m.usesTimers = false ∧ m.tick.2.step = (m.step.1, m.step.2.tick.2) ∧
      m.mode = .running ∧ m.usesKeys = false ∧
      (m.setKey 3 true).step = (m.step.1, m.step.2.setKey 3 true) ∧
      m.Untimed calls ∧ m.tones calls = [.start, .stop] ∧ m.SameCourse calls others := by
  intro m calls others
  have hcalls : ∀ call ∈ calls, call = .step ∨ call = .tick := by decide
  have hmemory : m.memory = Memory.withProgram countUp := rfl
  have hpc : m.pc = Address.programStart.offset 0 := rfl
  have hfetch : m.fetch? = some (.addByte 0 1) := fetch?_countUp_add hmemory rfl hpc
  have htimers : m.usesTimers = false := by rw [usesTimers_of_fetch hfetch]; rfl
  have hkeys : m.usesKeys = false := by rw [usesKeys_of_fetch hfetch]; rfl
  have huntimed : m.Untimed calls := untimed_countUp hmemory rfl (.inl hpc) hcalls
  obtain ⟨htick, hkey, -, -, hsame⟩ := interleavings_agree m
  have hcourse := hsame calls others hcalls huntimed (by decide) (by decide) (by decide)
  have htones : m.tones others = [.start, .stop] := by
    have hsound : m.sound = 2 := rfl
    have htone : m.toneOn = false := rfl
    have hbeats : m.tones others = m.tick.1 ++ (m.tick.2.tick.1 ++ []) := rfl
    rw [hbeats, tick_tones, tick_tones, tick_machine, hsound, htone]
    decide
  exact ⟨htimers, (htick htimers).1, rfl, hkeys, (hkey rfl hkeys).1 3 true, huntimed,
    hcourse.tones ▸ htones, hcourse⟩

end Machine

end CosmacVip
