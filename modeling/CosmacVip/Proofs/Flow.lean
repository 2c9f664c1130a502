import CosmacVip.Proofs.Footprint

/-!
Where a program goes on, and what a step reports.

* `Instruction.eq_encode`: an instruction other than a shift is read from its own word;
* `Machine.skips`, `Machine.destination?`, `Signal.ofForm`: when an instruction of a form skips the
  next one, where it goes on, and what it reports, read from the digits of the word;
* `Machine.execute_flow`: every instruction keeps to that, one case for each;
* `Machine.step_flow`: so does every step.

All addresses wrap at the end of memory, those of a word that begins in its last cell, too.
-/

namespace CosmacVip

/-- An instruction that is not a shift is read from its own word. -/
lemma Instruction.eq_encode {w : UInt16} {i : Instruction} (h : decode w = i)
    (hi : ∀ op x, i ≠ shift op x) : w = i.encode := by
  by_cases hshift : Fits "8xy6" w ∨ Fits "8xyE" w
  · obtain ⟨hgroup, hlast | hlast⟩ := fits_shift_iff.1 hshift
    all_goals
      simp only [decode, hgroup, Fin.ofNat, hlast, decodeArith] at h
      exact absurd h.symm (hi _ _)
  · rw [← h, encode_decode_of_not_shift hshift]

/-- What an instruction of a form reports. -/
def Signal.ofForm : String → Signal
  | "1nnn" | "2nnn" | "00EE" | "Bnnn" => jump
  | "00E0" | "Dxyn" => draw
  | "Fx18" => sound
  | "Fx0A" => keyWait
  | _ => next

namespace Machine

variable {size : Display.Size} {m : Machine size}

/-! ### Operands -/

/-- The value of the register in the second digit of the next word. -/
def vx (m : Machine size) : UInt8 := m.getV ⟨m.word.toNat / 256 % 16, Nat.mod_lt _ (by decide)⟩

/-- The value of the register in its third digit. -/
def vy (m : Machine size) : UInt8 := m.getV ⟨m.word.toNat / 16 % 16, Nat.mod_lt _ (by decide)⟩

/-- Its last two digits. -/
def kk (m : Machine size) : UInt8 := .ofNat m.word.toNat

/-- Its last three digits. -/
def nnn (m : Machine size) : Address := .ofNat m.word.toNat

/-- Whether an instruction of a form skips the next one. -/
def skips (m : Machine size) : String → Bool
  | "3xkk" => m.vx == m.kk
  | "4xkk" => m.vx != m.kk
  | "5xy0" => m.vx == m.vy
  | "9xy0" => m.vx != m.vy
  | "Ex9E" => m.keys.isDown (.ofNibble m.vx)
  | "ExA1" => !m.keys.isDown (.ofNibble m.vx)
  | _ => false

/-- Where an instruction of a form goes on, if it can. -/
def destination? (m : Machine size) : String → Option Address
  | "1nnn" | "2nnn" => m.nnn
  | "Bnnn" => m.nnn.offset (m.getV offsetRegister).toNat
  | "00EE" => m.stack.frames.getLast?
  | form => m.pc.offset (if m.skips form then 4 else 2)

/-! ### Instructions -/

lemma vx_eq (m : Machine size) : m.vx = m.getV (Fin.ofNat 16 (m.word.toNat / 256)) := rfl

lemma vy_eq (m : Machine size) : m.vy = m.getV (Fin.ofNat 16 (m.word.toNat / 16)) := rfl

lemma nnn_eq {u : Nat} (hu : u < 16) {a : Address} (h : m.word = .ofNat (Instruction.wordOfAddress u a)) :
    m.nnn = a := by
  rw [nnn, h]
  exact (Instruction.fields_wordOfAddress hu a).2

lemma vx_kk_eq {u : Nat} (hu : u < 16) {x : Register} {k : Nat} (hk : k < 256)
    (h : m.word = .ofNat (Instruction.wordOfByte u x k)) : m.vx = m.getV x ∧ m.kk = .ofNat k := by
  obtain ⟨-, hx, hkk⟩ := Instruction.fields_wordOfByte hu x hk
  rw [vx_eq, kk, h, hx, hkk]
  exact ⟨rfl, rfl⟩

lemma vx_vy_eq {u : Nat} (hu : u < 16) {x y : Register} {n : Nat} (hn : n < 16)
    (h : m.word = .ofNat (Instruction.wordOfPair u x y n)) :
    m.vx = m.getV x ∧ m.vy = m.getV y := by
  obtain ⟨-, hx, hy, -⟩ := Instruction.fields_wordOfPair hu x y hn
  rw [vx_eq, vy_eq, h, hx, hy]
  exact ⟨rfl, rfl⟩

/-- The next instruction is skipped, or not, by one that skips it as its form says. -/
lemma destination?_of_skips {form : String} {b : Bool}
    (hform : m.destination? form = some (m.pc.offset (if m.skips form then 4 else 2)))
    (hb : m.skips form = b) : m.destination? form = some (m.skipIf b).pc := by
  rw [hform, hb]
  rfl

/-- Every instruction goes on, and reports, as its form says. -/
lemma execute_flow {i : Instruction} (hi : .decode m.word = i) {signal : Signal}
    (h : (m.execute i).1 = .ok signal) :
    ∃ form, i.form? = some form ∧ signal = .ofForm form ∧
      m.destination? form = some (m.execute i).2.pc := by
  have hword : (∀ op x, i ≠ .shift op x) → m.word = i.encode := Instruction.eq_encode hi
  cases i with
  | unknown w => contradiction
  | ret =>
      cases hpop : m.stack.pop? with
      | none =>
          rw [execute_ret_of_empty (CallStack.pop?_eq_none_iff.1 hpop)] at h
          contradiction
      | some popped =>
          obtain ⟨a, stack⟩ := popped
          rw [execute_ret_of_pop hpop] at h ⊢
          refine ⟨_, rfl, (Except.ok.inj h).symm, ?_⟩
          show m.stack.frames.getLast? = some a
          rw [CallStack.frames_of_pop? hpop, List.getLast?_concat]
  | call target =>
      have hnnn : m.nnn = target := nnn_eq (by decide) (hword nofun)
      cases hpush : m.stack.push? (m.pc.offset 2) with
      | none =>
          rw [execute_call_of_full (CallStack.push?_eq_none_iff.1 hpush)] at h
          contradiction
      | some stack =>
          rw [execute_call_of_push hpush] at h ⊢
          exact ⟨_, rfl, (Except.ok.inj h).symm, congrArg some hnnn⟩
  | jump target =>
      have hnnn : m.nnn = target := nnn_eq (by decide) (hword nofun)
      exact ⟨_, rfl, (Except.ok.inj h).symm, congrArg some hnnn⟩
  | jumpPlus target =>
      have hnnn : m.nnn = target := nnn_eq (by decide) (hword nofun)
      refine ⟨_, rfl, (Except.ok.inj h).symm, ?_⟩
      exact congrArg (fun a => some (Address.offset a (m.getV 0).toNat)) hnnn
  | skipIfByte x kk =>
      obtain ⟨hx, hkk⟩ := vx_kk_eq (by decide) kk.toNat_lt (hword nofun)
      refine ⟨_, rfl, (Except.ok.inj h).symm, destination?_of_skips rfl ?_⟩
      show (m.vx == m.kk) = _
      rw [hx, hkk, UInt8.ofNat_toNat]
  | skipUnlessByte x kk =>
      obtain ⟨hx, hkk⟩ := vx_kk_eq (by decide) kk.toNat_lt (hword nofun)
      refine ⟨_, rfl, (Except.ok.inj h).symm, destination?_of_skips rfl ?_⟩
      show (m.vx != m.kk) = _
      rw [hx, hkk, UInt8.ofNat_toNat]
  | skipIfSame x y =>
      obtain ⟨hx, hy⟩ := vx_vy_eq (by decide) (by decide) (hword nofun)
      refine ⟨_, rfl, (Except.ok.inj h).symm, destination?_of_skips rfl ?_⟩
      show (m.vx == m.vy) = _
      rw [hx, hy]
  | skipUnlessSame x y =>
      obtain ⟨hx, hy⟩ := vx_vy_eq (by decide) (by decide) (hword nofun)
      refine ⟨_, rfl, (Except.ok.inj h).symm, destination?_of_skips rfl ?_⟩
      show (m.vx != m.vy) = _
      rw [hx, hy]
  | skipIfPressed x =>
      obtain ⟨hx, -⟩ := vx_kk_eq (by decide) (by decide) (hword nofun)
      refine ⟨_, rfl, (Except.ok.inj h).symm, destination?_of_skips rfl ?_⟩
      exact congrArg (fun b => m.keys.isDown (.ofNibble b)) hx
  | skipUnlessPressed x =>
      obtain ⟨hx, -⟩ := vx_kk_eq (by decide) (by decide) (hword nofun)
      refine ⟨_, rfl, (Except.ok.inj h).symm, destination?_of_skips rfl ?_⟩
      exact congrArg (fun b => !m.keys.isDown (.ofNibble b)) hx
  | arith op x y => cases op <;> exact ⟨_, rfl, (Except.ok.inj h).symm, rfl⟩
  | shift op x => cases op <;> exact ⟨_, rfl, (Except.ok.inj h).symm, rfl⟩
  | _ => exact ⟨_, rfl, (Except.ok.inj h).symm, rfl⟩

/-! ### Steps -/

lemma toNat_word (m : Machine size) :
    m.word.toNat =
      (m.memory.read m.pc).toNat * 256 + (m.memory.read (m.pc.offset 1)).toNat := by
  have hhigh := (m.memory.read m.pc).toNat_lt
  have hlow := (m.memory.read (m.pc.offset 1)).toNat_lt
  rw [word, UInt16.toNat_ofNat']
  omega

/-- **The flow of control.** The next word of a machine is made of the two bytes at its program
counter, the high one first. A step halts exactly where a running machine comes to a zero word. Any
other step of a running machine that succeeds goes on, and reports, as the form of the word says, by
what the machine held before; and it succeeds unless the word is of no form, or is a call or a return
that the stack refuses. -/
theorem step_flow (m : Machine size) :
    m.word.toNat =
        (m.memory.read m.pc).toNat * 256 + (m.memory.read (m.pc.offset 1)).toNat ∧
      (m.step.1 = .ok .halt ↔ m.mode = .running ∧ m.word = 0) ∧
      (m.mode = .running → m.word ≠ 0 →
        match m.step.1 with
        | .ok signal => ∃ form, Instruction.formOf m.word = some form ∧ signal = .ofForm form ∧
            m.destination? form = some m.step.2.pc
        | .error _ => Instruction.formOf m.word = none ∨
            (Instruction.formOf m.word = some "2nnn" ∧ m.stack.frames.length = 16) ∨
              (Instruction.formOf m.word = some "00EE" ∧ m.stack.frames = [])) := by
  refine ⟨m.toNat_word, ⟨fun h => ?_, fun h => by rw [step_of_zero h.1 h.2]⟩, fun hmode hword => ?_⟩
  · cases stopped_of_halt h with
    | halt hmode hword => exact ⟨hmode, hword⟩
  · have hform : Instruction.formOf m.word = (Instruction.decode m.word).form? :=
      (Instruction.form?_decode m.word).symm
    have hstep : m.step = m.execute (.decode m.word) :=
      step_of_fetch (fetch?_eq_some_iff.2 ⟨hmode, hword, rfl⟩)
    rw [hstep, hform]
    split
    case h_1 signal hok => exact execute_flow rfl hok
    case h_2 fault herror =>
      rcases execute_error herror with ⟨target, hi, hfull, -⟩ | ⟨hi, hempty, -⟩ | ⟨w, hi, -⟩ <;> rw [hi]
      · exact .inr (.inl ⟨rfl, hfull⟩)
      · exact .inr (.inr ⟨rfl, hempty⟩)
      · exact .inl rfl

/-- A machine with its program counter at the last cell of memory, so that its next word goes on with
the first byte of the font. -/
def atLastCell : Machine .standard :=
  { fresh _ (Memory.initial.write 0xFFF 0x40) ⟨Vector.replicate 8 0, 0⟩ with pc := 0xFFF }

/-- The word `40F0` skips the next instruction, since the first register holds zero, and goes on in
the fourth cell of memory. -/
theorem step_flow_across :
    let m := atLastCell
    m.mode = .running ∧ m.word = 0x40F0 ∧ m.step.1 = .ok .next ∧ m.step.2.pc = 0x003 := by
  intro m
  have hhigh : m.memory.read 0xFFF = 0x40 := Memory.read_write_self _ _ _
  have hlow : m.memory.read 0x000 = 0xF0 := by
    refine (Memory.read_write_of_ne _ _ (by decide)).trans ?_
    rw [Memory.initial, Memory.read_withProgram]
    decide
  have hmode : m.mode = .running := rfl
  have hpc : m.pc = 0xFFF := rfl
  have hv (k : Register) : m.getV k = 0 := by simp [m, atLastCell, fresh, getV]
  have hnext : Address.offset 0xFFF 1 = 0x000 := by decide
  clear_value m
  have hword : m.word = 0x40F0 := by
    rw [word, hpc, hnext, hhigh, hlow]
    rfl
  have hform : Instruction.formOf m.word = some "4xkk" := by
    rw [hword, Instruction.formOf, ← Instruction.form?_decode]
    rfl
  have hskips : m.skips "4xkk" = true := by
    show (m.vx != m.kk) = true
    rw [vx_eq, kk, hword, hv]
    decide
  have hflow := (step_flow m).2.2 hmode (by rw [hword]; decide)
  rw [hform] at hflow
  split at hflow
  case h_1 signal hok =>
    obtain ⟨form, hf, rfl, hdestination⟩ := hflow
    obtain rfl := Option.some.inj hf
    have hskip : m.destination? "4xkk" = some (m.pc.offset (if m.skips "4xkk" then 4 else 2)) := rfl
    rw [hskip, hskips, hpc] at hdestination
    exact ⟨hmode, hword, hok, (Option.some.inj hdestination).symm⟩
  case h_2 => simp at hflow

end Machine

end CosmacVip
