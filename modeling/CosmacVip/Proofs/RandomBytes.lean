import CosmacVip.Proofs.Fetch

/-!
The random bytes that a program receives.

* `Instruction.takesByte`, `Machine.takesByte`: the one instruction that takes a random byte, and
  the machines that execute it next;
* `Machine.step_random`: a step takes one word of the stream if it executes that instruction, and
  none otherwise;
* `Machine.Carries`: machines that take steps in turn carry the stream from one place to another;
* `Machine.carries_steppedAll`: the machines of which calls take a step do so, and nothing else that
  is done with a machine moves the stream;
* `Machine.random_bytes_in_turn`: the instruction that is executed as the `n`th of its kind since a
  machine was made receives the low byte of word `n` of the stream, under its mask.
-/

namespace CosmacVip

/-- Whether an instruction takes a random byte. -/
def Instruction.takesByte : Instruction → Bool
  | random _ _ => true
  | _ => false

namespace Machine

variable {size : Display.Size} {m s : Machine size} {before after ms more : List (Machine size)}
  {a b c : RandomStream}

/-- Whether the instruction that the next step executes, if there is one, takes a random byte. -/
def takesByte (m : Machine size) : Bool := m.fetch?.any (·.takesByte)

/-! ### Steps -/

lemma execute_random (m : Machine size) (i : Instruction) :
    (m.execute i).2.random = if i.takesByte then m.random.advance else m.random := by
  cases i with
  | ret => simp only [execute]; cases m.stack.pop? <;> rfl
  | call target => simp only [execute]; cases m.stack.push? (m.pc.offset 2) <;> rfl
  | arith op x y => cases op <;> rfl
  | _ => rfl

lemma step_random (m : Machine size) :
    m.step.2.random = if m.takesByte then m.random.advance else m.random := by
  rw [takesByte]
  rcases m.step_fetch_cases with ⟨x, hmode, hstep⟩ | ⟨hmode, hword, hstep⟩ | ⟨i, hi, hstep⟩ <;>
    rw [hstep]
  · have hnone : m.fetch? = none := by rw [fetch?, hmode]
    rw [hnone]
    rfl
  · have hnone : m.fetch? = none := by
      rw [fetch?, hmode]
      exact if_pos hword
    rw [hnone]
    rfl
  · rw [hi, Option.any_some]
    exact execute_random m i

/-- Switching on, programs, keys, beats and screens leave the stream where it is. -/
lemma perform_random {call : Call} (hexecutes : call.executes = false) :
    (m.perform call).random = m.random := by
  cases call with
  | load program =>
      rw [perform, loadOrKeep]
      rcases Nat.lt_or_ge Memory.programCapacity program.size with hlt | hle
      · rw [load, if_neg (Nat.not_le.2 hlt)]
      · rw [load, if_pos hle]
        rfl
  | reset => rfl
  | step => contradiction
  | run steps => contradiction
  | setKey k down =>
      obtain ⟨v, mode, hm⟩ := m.setKey_frame k down
      rw [perform, hm]
  | clearKeys => rfl
  | tick => rw [perform, tick_machine]
  | present width height =>
      obtain ⟨redraw, hm⟩ := m.present_frame width height
      rw [perform, hm]

/-! ### The stream from step to step -/

/-- Machines that take steps in turn carry the stream from one place to another: each finds it
where the step before has left it. -/
inductive Carries : RandomStream → List (Machine size) → RandomStream → Prop
  | nil (a : RandomStream) : Carries a [] a
  | cons {m : Machine size} {ms : List (Machine size)} {b : RandomStream} :
      Carries m.step.2.random ms b → Carries m.random (m :: ms) b

namespace Carries

lemma singleton (m : Machine size) : Carries m.random [m] m.step.2.random := .cons (.nil _)

lemma append (h : Carries a ms b) (g : Carries b more c) : Carries a (ms ++ more) c := by
  induction h with
  | nil => exact g
  | cons _ ih => exact .cons (ih g)

/-- The stream is further on by as many words as there are machines that take one. -/
lemma eq_taken (h : Carries a ms b) : b = ⟨a.key, a.taken + ms.countP takesByte⟩ := by
  induction h with
  | nil a => rfl
  | @cons m ms b _ ih =>
      rw [ih, step_random, List.countP_cons]
      cases m.takesByte with
      | true => simp [RandomStream.advance, Nat.add_assoc, Nat.add_comm 1]
      | false => rfl

/-- A machine among others finds the stream where those before it have left it. -/
lemma random_eq (h : Carries a (before ++ s :: after) b) :
    s.random = ⟨a.key, a.taken + before.countP takesByte⟩ := by
  induction before generalizing a with
  | nil =>
      cases h
      rfl
  | cons m before ih =>
      cases h with
      | cons h =>
          have hfirst := (singleton m).eq_taken
          have hcount : (m :: before).countP takesByte =
              [m].countP takesByte + before.countP takesByte := by
            rw [← List.countP_append, List.singleton_append]
          rw [ih h, hfirst, hcount, Nat.add_assoc]

end Carries

lemma carries_steppedInRun (n : Nat) (m : Machine size) :
    Carries m.random (steppedInRun n m) (run n m).2.random := by
  induction n generalizing m with
  | zero => exact .nil _
  | succ n ih =>
      rw [steppedInRun, run_succ]
      split
      · exact .singleton m
      · exact .cons (ih _)

lemma carries_stepped (m : Machine size) (call : Call) :
    Carries m.random (m.stepped call) (m.perform call).random := by
  cases call with
  | step => exact .singleton m
  | run steps => exact carries_steppedInRun steps m
  | load _ | reset | setKey _ _ | clearKeys | tick | present _ _ =>
      rw [perform_random rfl]
      exact .nil _

/-- Only steps move the stream. -/
lemma carries_steppedAll (m : Machine size) (calls : List Call) :
    Carries m.random (m.steppedAll calls) (m.performAll calls).random := by
  induction calls generalizing m with
  | nil => exact .nil _
  | cons call calls ih => exact (m.carries_stepped call).append (ih _)

/-- **The random bytes that a program receives.** A machine is made with a seed, and its host makes
any calls. If `n` of the machines that took a step before another one executed the instruction that
takes a random byte, then that one finds `n` words of the seed's stream taken. If it executes such
an instruction, the low byte of word `n`, under the instruction's mask, goes to the instruction's
register, and one word more is taken; otherwise none is. Nothing else moves the stream. -/
theorem random_bytes_in_turn (c : Config) (entropy : ChaCha.Key) (calls : List Call) :
    let key := (c.seed.map ChaCha.keyOfSeed).getD entropy
    let start : Machine c.displaySize := ofConfig c entropy
    (∀ before s after, start.steppedAll calls = before ++ s :: after →
      let n := before.countP takesByte
      s.random = ⟨key, n⟩ ∧
      (∀ x kk, s.fetch? = some (.random x kk) →
        s.step = (.ok .next, { s.setV x (kk &&& (ChaCha.word key n).toUInt8) with
          pc := s.pc.offset 2
          random := ⟨key, n + 1⟩ })) ∧
      (s.takesByte = false → s.step.2.random = ⟨key, n⟩)) ∧
    (start.performAll calls).random = ⟨key, (start.steppedAll calls).countP takesByte⟩ := by
  intro key start
  have hstart : start.random = ⟨key, 0⟩ := rfl
  have hcarries := start.carries_steppedAll calls
  rw [hstart] at hcarries
  refine ⟨fun before s after hsplit => ?_, ?_⟩
  · have hs : s.random = ⟨key, before.countP takesByte⟩ := by
      rw [hsplit] at hcarries
      simpa using hcarries.random_eq
    refine ⟨hs, fun x kk hf => ?_, fun hnone => ?_⟩
    · rw [step_of_fetch hf, execute, hs]
      rfl
    · rw [step_random, hnone, hs]
      rfl
  · simpa using hcarries.eq_taken

/-- A machine that was just given a program of one instruction is about to execute it. -/
lemma fetch?_load (m : Machine size) {program : Array UInt8} (hsize : program.size = 2) {w : UInt16}
    (hw : UInt16.ofNat ((program[0]?.getD 0).toNat * 256 + (program[1]?.getD 0).toNat) = w)
    (h : w ≠ 0) : (m.perform (.load program)).fetch? = some (.decode w) := by
  rw [perform, loadOrKeep_of_le m (by rw [hsize]; decide)]
  exact fetch?_program program 0 rfl rfl (Address.offset_zero _).symm (by decide) hw h

/-- A byte whose mask leaves nothing of it takes word 0 all the same, and a new program goes on with
word 1. -/
theorem random_bytes_in_turn_reload :
    let start := ofConfig { seed := some 7 } (Vector.replicate 8 0)
    let s := ((start.perform (.load #[0xC0, 0x00])).perform .step).perform (.load #[0xC3, 0xFF])
    s.step.2.v = (s.setV 3 (0xFF &&& (ChaCha.word (ChaCha.keyOfSeed 7) 1).toUInt8)).v ∧
      s.step.2.random = ⟨ChaCha.keyOfSeed 7, 2⟩ := by
  obtain ⟨hbytes, -⟩ := random_bytes_in_turn { seed := some 7 } (Vector.replicate 8 0)
    [.load #[0xC0, 0x00], .step, .load #[0xC3, 0xFF], .step]
  rw [Option.map_some, Option.getD_some] at hbytes
  intro start s
  have hfirst : (start.perform (.load #[0xC0, 0x00])).fetch? = some (.random 0 0x00) :=
    fetch?_load start rfl (w := 0xC000) rfl (by decide)
  have hsecond : s.fetch? = some (.random 3 0xFF) := fetch?_load _ rfl (w := 0xC3FF) rfl (by decide)
  have hsplit (m : Machine { seed := some 7 : Config }.displaySize) (program more : Array UInt8) :
      m.steppedAll [.load program, .step, .load more, .step] = [m.perform (.load program)] ++
        [((m.perform (.load program)).perform .step).perform (.load more)] := rfl
  have hcount : [start.perform (.load #[0xC0, 0x00])].countP takesByte = 1 := by
    simp [takesByte, hfirst, Instruction.takesByte]
  obtain ⟨-, hbyte, -⟩ := hbytes _ s _ (hsplit start _ _)
  rw [hbyte 3 0xFF hsecond, hcount]
  exact ⟨rfl, rfl⟩

end Machine

end CosmacVip
