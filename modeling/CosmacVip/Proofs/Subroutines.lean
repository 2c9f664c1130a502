import CosmacVip.Proofs.Fetch

/-!
Calls and returns.

* `Machine.Lifo`: a machine treats its open calls as a list of at most sixteen addresses, of which
  it adds and removes the last;
* `Machine.prefix_step`: open calls stay under those that come later, but for a return at their
  depth;
* `Machine.return_follows_call`: every machine treats its open calls so, and the first return at
  the depth that a call has entered goes on behind that call.
-/

namespace CosmacVip.Machine

variable {size : Display.Size}

/-! ### The open calls as a list -/

/-- The machine treats its open calls as a list of at most sixteen addresses. -/
structure Lifo (m : Machine size) : Prop where
  length_le : m.stack.frames.length ≤ 16
  /-- A call adds the address behind it. -/
  call {target : Address} : m.fetch? = some (.call target) → m.stack.frames.length < 16 →
    m.step.1 = .ok .jump ∧ m.step.2.pc = target ∧
      m.step.2.stack.frames = m.stack.frames ++ [m.pc.offset 2]
  /-- A call that finds sixteen others open fails. -/
  overflow {target : Address} : m.fetch? = some (.call target) → m.stack.frames.length = 16 →
    m.step.1 = .error (.stackOverflow m.pc) ∧ m.step.2.stack.frames = m.stack.frames
  /-- A return removes the last address and goes there. -/
  ret {frames : List Address} {a : Address} : m.fetch? = some .ret →
    m.stack.frames = frames ++ [a] →
    m.step.1 = .ok .jump ∧ m.step.2.pc = a ∧ m.step.2.stack.frames = frames
  /-- A return that finds no call open fails. -/
  underflow : m.fetch? = some .ret → m.stack.frames = [] →
    m.step.1 = .error (.stackUnderflow m.pc) ∧ m.step.2.stack.frames = []
  /-- No other step changes the list. -/
  other : (∀ target, m.fetch? ≠ some (.call target)) → m.fetch? ≠ some .ret →
    m.step.2.stack.frames = m.stack.frames
  /-- Nothing else that a host does changes it but a restart. -/
  host {call : Call} : call.executes = false → call.restarts = false →
    (m.perform call).stack.frames = m.stack.frames
  restart {call : Call} : call.restarts = true → (m.perform call).stack.frames = []

/-- Only calls and returns touch the stack. -/
lemma execute_stack (m : Machine size) {i : Instruction} (hcall : ∀ target, i ≠ .call target)
    (hret : i ≠ .ret) : (m.execute i).2.stack = m.stack := by
  cases i with
  | ret => exact absurd rfl hret
  | call target => exact absurd rfl (hcall target)
  | arith op x y => cases op <;> rfl
  | _ => rfl

lemma execute_call_of_push {m : Machine size} {target : Address} {stack : CallStack}
    (h : m.stack.push? (m.pc.offset 2) = some stack) :
    m.execute (.call target) = (.ok .jump, { m with pc := target, stack := stack }) := by
  simp only [execute, h]

lemma execute_call_of_full {m : Machine size} {target : Address}
    (h : m.stack.frames.length = 16) :
    m.execute (.call target) = (.error (.stackOverflow m.pc), m) := by
  simp only [execute, CallStack.push?_eq_none_iff.2 h]

lemma execute_ret_of_pop {m : Machine size} {a : Address} {stack : CallStack}
    (h : m.stack.pop? = some (a, stack)) :
    m.execute .ret = (.ok .jump, { m with pc := a, stack := stack }) := by
  simp only [execute, h]

lemma execute_ret_of_empty {m : Machine size} (h : m.stack.frames = []) :
    m.execute .ret = (.error (.stackUnderflow m.pc), m) := by
  simp only [execute, CallStack.pop?_eq_none_iff.2 h]

lemma perform_restart {m : Machine size} {call : Call} (h : call.restarts = true) :
    (m.perform call).stack = CallStack.empty := by
  cases call with
  | load program =>
      have hle : program.size ≤ Memory.programCapacity := by simpa [Call.restarts] using h
      rw [perform, loadOrKeep_of_le m hle, fresh]
  | reset => rfl
  | _ => contradiction

lemma lifo (m : Machine size) : m.Lifo where
  length_le := by
    rw [CallStack.length_frames]
    exact Nat.le_of_lt_succ m.stack.depth.isLt
  call {target} hf hlt := by
    cases hpush : m.stack.push? (m.pc.offset 2) with
    | none => exact absurd (CallStack.push?_eq_none_iff.1 hpush) (Nat.ne_of_lt hlt)
    | some stack =>
        rw [step_of_fetch hf, execute_call_of_push hpush]
        exact ⟨rfl, rfl, CallStack.frames_of_push? hpush⟩
  overflow hf hfull := by
    rw [step_of_fetch hf, execute_call_of_full hfull]
    exact ⟨rfl, rfl⟩
  ret {frames a} hf hframes := by
    cases hpop : m.stack.pop? with
    | none => simp [CallStack.pop?_eq_none_iff.1 hpop] at hframes
    | some popped =>
        obtain ⟨b, stack⟩ := popped
        have hlast := CallStack.frames_of_pop? hpop
        obtain ⟨hrest, hb⟩ := List.append_inj' (hframes.symm.trans hlast) rfl
        rw [step_of_fetch hf, execute_ret_of_pop hpop]
        exact ⟨rfl, (List.singleton_inj.1 hb).symm, hrest.symm⟩
  underflow hf hempty := by
    rw [step_of_fetch hf, execute_ret_of_empty hempty]
    exact ⟨rfl, hempty⟩
  other hcall hret := by
    rcases m.step_fetch_cases with ⟨x, -, hstep⟩ | ⟨-, -, hstep⟩ | ⟨i, hf, hstep⟩ <;> rw [hstep]
    rw [execute_stack m]
    · rintro target rfl
      exact hcall target hf
    · rintro rfl
      exact hret hf
  host hexecutes hrestarts := by rw [(m.perform_host hexecutes hrestarts).2.2.1]
  restart h := by rw [perform_restart h, CallStack.frames_empty]

/-! ### Returns -/

/-- Whether the next step is a return at a depth. -/
def returnsAt (depth : Nat) (m : Machine size) : Bool :=
  m.fetch? = some .ret && m.stack.frames.length = depth

/-- The open calls stay under those that come later, but for a return at their depth. -/
lemma prefix_step {frames : List Address} {m : Machine size} (h : frames <+: m.stack.frames)
    (hm : m.returnsAt frames.length = false) : frames <+: m.step.2.stack.frames := by
  by_cases hret : m.fetch? = some .ret
  · rcases List.eq_nil_or_concat m.stack.frames with hnil | ⟨rest, a, hrest⟩
    · rw [(m.lifo.underflow hret hnil).2, ← hnil]
      exact h
    · rw [List.concat_eq_append] at hrest
      rw [(m.lifo.ret hret hrest).2.2]
      rcases List.prefix_concat_iff.1 (hrest ▸ h) with heq | hpre
      · simp [returnsAt, hret, hrest, heq] at hm
      · exact hpre
  · by_cases hcall : ∃ target, m.fetch? = some (.call target)
    · obtain ⟨target, hcall⟩ := hcall
      rcases Nat.lt_or_eq_of_le m.lifo.length_le with hlt | hfull
      · rw [(m.lifo.call hcall hlt).2.2]
        exact h.trans (List.prefix_append _ _)
      · rw [(m.lifo.overflow hcall hfull).2]
        exact h
    · rw [m.lifo.other (not_exists.1 hcall) hret]
      exact h

lemma returnsAt_iff {depth : Nat} {m : Machine size} :
    m.returnsAt depth = true ↔ m.fetch? = some .ret ∧ m.stack.frames.length = depth := by
  simp [returnsAt]

/-- The first return at the depth of some open calls goes back to the last of them. -/
lemma first_return {frames : List Address} {a : Address} {m s : Machine size}
    (h : frames ++ [a] <+: m.stack.frames) {calls : List Call}
    (hcalls : ∀ call ∈ calls, call.restarts = false)
    (hs : (m.steppedAll calls).find? (returnsAt (frames.length + 1)) = some s) :
    s.step.1 = .ok .jump ∧ s.step.2.pc = a ∧ s.step.2.stack.frames = frames := by
  have hlength : (frames ++ [a]).length = frames.length + 1 := List.length_append
  have hpre : frames ++ [a] <+: s.stack.frames := by
    have huntil := performAll_until (P := fun n => frames ++ [a] <+: n.stack.frames)
      (fun n hn => prefix_step hn)
      (fun n call hexecutes hrestarts hn => by rwa [n.lifo.host hexecutes hrestarts]) h hcalls
    rwa [hlength, hs] at huntil
  obtain ⟨hret, hdepth⟩ := returnsAt_iff.1 (List.find?_some hs)
  exact s.lifo.ret hret (hpre.eq_of_length (hlength.trans hdepth.symm)).symm

/-- A program whose subroutine at `0x204` calls the one at `0x208`. -/
def nestedCalls : Array UInt8 :=
  #[0x22, 0x04, 0x00, 0x00, 0x22, 0x08, 0x00, 0xEE, 0x00, 0xEE]

/-- A call, a return from it, a beat of the timers and a second return: if that one is at the
depth asked for, and the first one is not, it is the first at that depth. -/
lemma find?_second_return {outer inner after : Machine size} {target : Address} {depth : Nat}
    (hcall : outer.fetch? = some (.call target)) (houter : outer.step = (.ok .jump, inner))
    (hinner : inner.step = (.ok .jump, after)) (hne : inner.stack.frames.length ≠ depth)
    (hret : after.tick.2.fetch? = some .ret) (heq : after.tick.2.stack.frames.length = depth) :
    (outer.steppedAll [.run 2, .tick, .step]).find? (returnsAt depth) = some after.tick.2 := by
  have hstepped : outer.steppedAll [.run 2, .tick, .step] = [outer, inner, after.tick.2] := by
    simp only [steppedAll, stepped, steppedInRun, perform, run_succ, houter, hinner]
    rfl
  have h1 : outer.returnsAt depth = false := by simp [returnsAt, hcall]
  have h2 : inner.returnsAt depth = false := by
    rw [← Bool.not_eq_true, returnsAt_iff]
    exact fun h => hne h.2
  have h3 : after.tick.2.returnsAt depth = true := returnsAt_iff.2 ⟨hret, heq⟩
  simp [hstepped, h1, h2, h3]

/-- **Calls and returns.** Every machine treats its open calls as a list of at most sixteen
addresses. Hence, whatever is done with a machine after a call but a restart, the first return
that is executed at the depth which the call has entered goes on behind the call, at the depth
from before it. -/
theorem return_follows_call (m : Machine size) :
    m.Lifo ∧ ∀ target, m.fetch? = some (.call target) →
      ∀ calls : List Call, (∀ call ∈ calls, call.restarts = false) →
        ∀ s, (m.step.2.steppedAll calls).find? (returnsAt (m.stack.frames.length + 1)) = some s →
          s.step.1 = .ok .jump ∧ s.step.2.pc = m.pc.offset 2 ∧
            s.step.2.stack.frames = m.stack.frames := by
  refine ⟨m.lifo, fun target hcall calls hcalls s hs => ?_⟩
  rcases Nat.lt_or_eq_of_le m.lifo.length_le with hlt | hfull
  · have hframes := (m.lifo.call hcall hlt).2.2
    have hpre : m.stack.frames ++ [m.pc.offset 2] <+: m.step.2.stack.frames :=
      hframes ▸ List.prefix_refl _
    exact first_return hpre hcalls hs
  · -- A call that fails enters no depth at which there could be a return.
    have hdepth := (returnsAt_iff.1 (List.find?_some hs)).2
    have hle := s.lifo.length_le
    omega

/-- The subroutine, which calls another and returns after a beat of the timers, goes back behind
its own call. -/
theorem return_follows_nested_calls :
    let m : Machine .standard :=
      .fresh .standard (Memory.withProgram nestedCalls) (.ofKey (Vector.replicate 8 0))
    m.fetch? = some (.call 0x204) ∧ ∃ s,
      (m.step.2.steppedAll [.run 2, .tick, .step]).find? (returnsAt 1) = some s ∧
        s.step.1 = .ok .jump ∧ s.step.2.pc = 0x202 ∧ s.step.2.stack.frames = [] := by
  intro m
  let outer : Machine .standard := { m with pc := 0x204, stack := ⟨m.stack.slots.set 0 0x202, 1⟩ }
  let inner : Machine .standard :=
    { outer with pc := 0x208, stack := ⟨outer.stack.slots.set 1 0x206, 2⟩ }
  let after : Machine .standard := { inner with pc := 0x206, stack := ⟨inner.stack.slots, 1⟩ }
  have hm : m.fetch? = some (.call 0x204) :=
    fetch?_program nestedCalls 0 (w := 0x2204) rfl rfl rfl (by decide) rfl (by decide)
  have houter : outer.fetch? = some (.call 0x208) :=
    fetch?_program nestedCalls 4 (w := 0x2208) rfl rfl rfl (by decide) rfl (by decide)
  have hinner : inner.fetch? = some .ret :=
    fetch?_program nestedCalls 8 (w := 0x00EE) rfl rfl rfl (by decide) rfl (by decide)
  have hafter : after.tick.2.fetch? = some .ret :=
    fetch?_program nestedCalls 6 (w := 0x00EE) rfl rfl rfl (by decide) rfl (by decide)
  have hpush : m.stack.push? (m.pc.offset 2) = some outer.stack := rfl
  have hcall : m.step = (.ok .jump, outer) := by
    rw [step_of_fetch hm, execute_call_of_push hpush]
  have hpush : outer.stack.push? (outer.pc.offset 2) = some inner.stack := rfl
  have hnested : outer.step = (.ok .jump, inner) := by
    rw [step_of_fetch houter, execute_call_of_push hpush]
  have hpop : inner.stack.pop? = some (0x206, after.stack) := rfl
  have hreturn : inner.step = (.ok .jump, after) := by
    rw [step_of_fetch hinner, execute_ret_of_pop hpop]
  have hfirst : (m.step.2.steppedAll [.run 2, .tick, .step]).find? (returnsAt 1) =
      some after.tick.2 := by
    rw [hcall]
    exact find?_second_return houter hnested hreturn (by decide) hafter rfl
  exact ⟨hm, _, hfirst, (return_follows_call m).2 _ hm _ (by decide) _ hfirst⟩

end CosmacVip.Machine
