import CosmacVip.Proofs.Fetch
import CosmacVip.Proofs.Instruction.Forms
import CosmacVip.Proofs.Words.Agreement

/-!
What each instruction may change, and nothing besides.

* `Instruction.formOf`: the documented form of a word;
* `Machine.Footprint`: the table of what an instruction of each form may change;
* `Machine.execute_footprint`: every instruction keeps to the table, one case for each;
* `Machine.step_footprint`: so does every step, by the form of the word that it fetches, and in words of
  fixed width it keeps the size of the display.
-/

namespace CosmacVip

namespace Instruction

/-- The documented form of a word: the first that it fits, if it fits any. -/
def formOf (w : UInt16) : Option String := forms.find? (Fits · w)

/-- The register in the second digit of the instruction's form, where that stands for one. -/
def firstRegister? : Instruction → Option Register
  | skipIfByte x _ | skipUnlessByte x _ | skipIfSame x _ | loadByte x _ | addByte x _
  | arith _ x _ | shift _ x | skipUnlessSame x _ | random x _ | draw x _ _ | skipIfPressed x
  | skipUnlessPressed x | readDelay x | awaitKey x | setDelay x | setSound x | addIndex x
  | loadGlyph x | storeDecimal x | storeRegisters x | loadRegisters x => some x
  | clearScreen | ret | system _ | jump _ | call _ | loadIndex _ | jumpPlus _ | unknown _ => none

/-- That register is the second digit of the word. -/
lemma firstRegister?_decode {w : UInt16} {x : Register} (h : (decode w).firstRegister? = some x) :
    x = Fin.ofNat 16 (w.toNat / 256) := by
  revert h
  simp only [decode]
  split
  -- the groups of words that go on to further digits
  case h_1 | h_9 | h_15 | h_16 =>
    simp only [decodeSystem, decodeArith, decodePressed, decodeDevice]
    repeat' split
    all_goals simp [firstRegister?, eq_comm]
  case h_6 | h_10 => split_ifs <;> simp [firstRegister?, eq_comm]
  all_goals simp [firstRegister?, eq_comm]

end Instruction

namespace CallStack

variable {s t : CallStack} {a : Address}

/-- A new frame is written to the first free slot. -/
lemma slots_of_push? (h : s.push? a = some t) (i : Fin 16) :
    t.slots[i] = s.slots[i] ∨ i.val = s.depth.val := by
  simp only [push?] at h
  split at h
  case isFalse => simp at h
  case isTrue hd =>
    obtain rfl := Option.some.inj h
    by_cases hi : s.depth.val = i.val
    · exact .inr hi.symm
    · exact .inl (by simp [hi])

lemma slots_of_pop? (h : s.pop? = some (a, t)) : t.slots = s.slots := by
  simp only [pop?] at h
  split at h
  case isFalse => simp at h
  case isTrue hd =>
    simp only [Option.some.injEq, Prod.mk.injEq] at h
    obtain ⟨-, rfl⟩ := h
    rfl

end CallStack

namespace Machine

variable {size : Display.Size}

/-- Whether an instruction of a form may set a register, `x` being the register in its second
digit. -/
def Sets (form : Option String) (x k : Register) : Prop :=
  (form ∈ ["6xkk", "7xkk", "8xy0", "8xy1", "8xy2", "8xy3", "Cxkk", "Fx07"].map some ∧ k = x) ∨
  (form ∈ ["8xy4", "8xy5", "8xy6", "8xy7", "8xyE"].map some ∧ (k = x ∨ k = flagRegister)) ∨
  (form = some "Dxyn" ∧ k = flagRegister) ∨
  (form = some "Fx65" ∧ k ≤ x)

/-- What an instruction of a form may change of a machine `m` that it makes into `n`, `x` being the
register in its second digit. The program counter is not restricted. The size of the display does
not change, being one for both machines, and a machine keeps nothing of its configuration. -/
structure Footprint (form : Option String) (x : Register) (m n : Machine size) : Prop where
  depth : n.stack.depth = m.stack.depth ∨ form ∈ [some "00EE", some "2nnn"] := by
    exact .inl rfl
  /-- Only the slot at the depth of the stack. -/
  slots : ∀ i : Fin 16, n.stack.slots[i] = m.stack.slots[i] ∨
      form = some "2nnn" ∧ i.val = m.stack.depth.val := by
    exact fun _ => .inl rfl
  display : n.display = m.display ∧ n.redraw = m.redraw ∨ form ∈ [some "00E0", some "Dxyn"] := by
    exact .inl ⟨rfl, rfl⟩
  memory : n.memory = m.memory ∨ form ∈ [some "Fx33", some "Fx55"] := by exact .inl rfl
  index : n.index = m.index ∨ form ∈ [some "Annn", some "Fx1E", some "Fx29"] := by exact .inl rfl
  delay : n.delay = m.delay ∨ form = some "Fx15" := by exact .inl rfl
  sound : n.sound = m.sound ∨ form = some "Fx18" := by exact .inl rfl
  mode : n.mode = m.mode ∨ form = some "Fx0A" := by exact .inl rfl
  random : n.random = m.random ∨ form = some "Cxkk" := by exact .inl rfl
  register : ∀ k, n.getV k = m.getV k ∨ Sets form x k := by exact fun _ => .inl rfl
  keys : n.keys = m.keys := by exact rfl
  toneOn : n.toneOn = m.toneOn := by exact rfl

lemma Footprint.refl (form : Option String) (x : Register) (m : Machine size) :
    Footprint form x m m := {}

section

variable {form : Option String} {x : Register} (m : Machine size)

/-- The machine past an instruction that sets one register. -/
lemma Footprint.setV
    (h : form ∈ ["6xkk", "7xkk", "8xy0", "8xy1", "8xy2", "8xy3", "Cxkk", "Fx07"].map some)
    (b : UInt8) : Footprint form x m (m.advance.setV x b) where
  register k := by
    by_cases hk : k = x
    · exact .inr (.inl ⟨h, hk⟩)
    · exact .inl ((getV_setV m.advance x k b).trans (if_neg hk))

/-- The machine past an instruction that sets one register and the flag. -/
lemma Footprint.setFlagged (h : form ∈ ["8xy4", "8xy5", "8xy6", "8xy7", "8xyE"].map some)
    (b flag : UInt8) : Footprint form x m (m.advance.setFlagged x b flag) where
  register k := by
    by_cases hk : k = x ∨ k = flagRegister
    · exact .inr (.inr (.inl ⟨h, hk⟩))
    · obtain ⟨hkx, hkflag⟩ := not_or.1 hk
      refine .inl ?_
      rw [Machine.setFlagged, getV_setV, if_neg hkx, getV_setV, if_neg hkflag]
      rfl

end

/-- Every instruction keeps to the table. -/
lemma execute_footprint (m : Machine size) {i : Instruction} {x : Register}
    (hx : ∀ y, i.firstRegister? = some y → y = x) :
    Footprint i.form? x m (m.execute i).2 := by
  cases i with
  | clearScreen => exact { display := .inr (.head _) }
  | ret =>
      simp only [execute]
      cases h : m.stack.pop? with
      | none => exact .refl _ _ _
      | some popped =>
          exact {
            depth := .inr (.head _)
            slots := fun i => .inl (congrArg (·[i]) (CallStack.slots_of_pop? h)) }
  | call target =>
      simp only [execute]
      cases h : m.stack.push? (m.pc.offset 2) with
      | none => exact .refl _ _ _
      | some stack =>
          exact {
            depth := .inr (.tail _ (.head _))
            slots := fun i => (CallStack.slots_of_push? h i).imp_right fun hi => ⟨rfl, hi⟩ }
  | system _ | jump _ | skipIfByte _ _ | skipUnlessByte _ _ | skipIfSame _ _ | skipUnlessSame _ _
  | jumpPlus _ | skipIfPressed _ | skipUnlessPressed _ | unknown _ => exact {}
  | loadByte y _ | addByte y _ | readDelay y =>
      obtain rfl := hx y rfl
      exact .setV m (by simp [Instruction.form?]) _
  | random y kk =>
      obtain rfl := hx y rfl
      exact { Footprint.setV m (by simp [Instruction.form?]) (kk &&& m.random.byte) with
        random := .inr rfl }
  | arith op y z =>
      obtain rfl := hx y rfl
      cases op with
      | load | or | and | xor => exact .setV m (by simp [Instruction.form?]) _
      | add | sub | subFrom => exact .setFlagged m (by simp [Instruction.form?]) _ _
  | shift op y =>
      obtain rfl := hx y rfl
      cases op <;> exact .setFlagged m (by simp [Instruction.form?]) _ _
  | loadIndex _ => exact { index := .inr (.head _) }
  | draw y z n =>
      exact {
        display := .inr (.tail _ (.head _))
        register := fun k => by
          by_cases hk : k = flagRegister
          · exact .inr (.inr (.inr (.inl ⟨rfl, hk⟩)))
          · exact .inl ((getV_setV m.advance flagRegister k _).trans (if_neg hk)) }
  | awaitKey _ => exact { mode := .inr rfl }
  | setDelay _ => exact { delay := .inr rfl }
  | setSound _ => exact { sound := .inr rfl }
  | addIndex _ => exact { index := .inr (.tail _ (.head _)) }
  | loadGlyph _ => exact { index := .inr (.tail _ (.tail _ (.head _))) }
  | storeDecimal _ => exact { memory := .inr (.head _) }
  | storeRegisters _ => exact { memory := .inr (.tail _ (.head _)) }
  | loadRegisters y =>
      obtain rfl := hx y rfl
      refine { register := fun k => ?_ }
      by_cases hk : k ≤ y
      · exact .inr (.inr (.inr (.inr ⟨rfl, hk⟩)))
      · exact .inl (by simp [execute, getV, hk])

/-- A step keeps to the table of the fetched word. -/
lemma footprint_step (m : Machine size) :
    Footprint (Instruction.formOf m.word) (Fin.ofNat 16 (m.word.toNat / 256)) m m.step.2 := by
  rcases m.step_fetch_cases with ⟨x, -, hstep⟩ | ⟨-, -, hstep⟩ | ⟨i, hi, hstep⟩ <;> rw [hstep]
  · exact .refl _ _ m
  · exact .refl _ _ m
  · obtain ⟨-, -, rfl⟩ := fetch?_eq_some_iff.1 hi
    rw [Instruction.formOf, ← Instruction.form?_decode]
    exact m.execute_footprint fun y hy => Instruction.firstRegister?_decode hy

/-- **The footprint of every instruction.** A step changes nothing of a machine but what the table
allows to an instruction of the form of the fetched word, also where the instruction fails or is
unknown; a machine that waits or has come to a zero word changes nothing at all. In words of fixed width,
where the width and the height of the display are fields like the others, it is the same step and keeps
both. -/
theorem step_footprint (m : Machine size) :
    Footprint (Instruction.formOf m.word) (Fin.ofNat 16 (m.word.toNat / 256)) m m.step.2 ∧
      (size.width * size.height < Words.wordLimit →
        ∃ w : Words.State, (Words.State.ofMachine m).step = pure (m.step.1, w) ∧
          w = Words.State.ofMachine m.step.2 ∧
          w.width = (Words.State.ofMachine m).width ∧
          w.height = (Words.State.ofMachine m).height ∧
          w.display.size = (Words.State.ofMachine m).display.size) := by
  refine ⟨m.footprint_step, fun hfit => ⟨_, Words.State.step_ofMachine hfit m, rfl, rfl, rfl, ?_⟩⟩
  exact (Words.State.size_cellBytes _).trans (Words.State.size_cellBytes _).symm

end Machine

end CosmacVip
