import CosmacVip.Proofs.Instruction.Forms

/-!
Arithmetic on registers.

* `Machine.Yields`: the equation between operands, result and flag of each operation `8xyn`;
* `Arith.yields_apply`, `Shift.yields_apply`: the operations on bytes satisfy them;
* `Machine.getV_step_arith`, `Machine.getV_step_shift`: all registers after an operation;
* `Machine.arithmetic_exact`: every machine computes so, whichever registers take part.

The two operands, the result and the flag may all be in one register. Then the operands are read
first, and the result is what remains.
-/

namespace CosmacVip

lemma toNat_flagByte (b : Bool) : (flagByte b).toNat = if b then 1 else 0 := by
  cases b <;> rfl

/-- What the operation `8xyn` makes of the bytes `a` and `b`: the result `r`, and the flag if it sets
one. Sums and doubled bytes carry into the flag, a difference clears it when it borrows, and a halved
byte leaves its remainder there. -/
def Machine.Yields : (n a b r : Nat) → (flag : Option Nat) → Prop
  | 0x0, _, b, r, none => r = b
  | 0x1, a, b, r, none => r = a ||| b
  | 0x2, a, b, r, none => r = a &&& b
  | 0x3, a, b, r, none => r = a ^^^ b
  | 0x4, a, b, r, some f => 256 * f + r = a + b
  | 0x5, a, b, r, some f => r + b = a + 256 * (1 - f)
  | 0x6, a, _, r, some f => 2 * r + f = a
  | 0x7, a, b, r, some f => r + a = b + 256 * (1 - f)
  | 0xE, a, _, r, some f => 256 * f + r = 2 * a
  | _, _, _, _, _ => False

open Machine (Yields)

/-! ### Bytes -/

lemma add_exact (a b : UInt8) :
    256 * (flagByte (256 ≤ a.toNat + b.toNat)).toNat + (a + b).toNat = a.toNat + b.toNat := by
  have ha := a.toNat_lt
  have hb := b.toNat_lt
  rw [toNat_flagByte, UInt8.toNat_add]
  simp only [decide_eq_true_eq]
  split <;> omega

lemma sub_exact (a b : UInt8) :
    (a - b).toNat + b.toNat = a.toNat + 256 * (1 - (flagByte (b ≤ a)).toNat) := by
  have ha := a.toNat_lt
  have hb := b.toNat_lt
  rw [toNat_flagByte, UInt8.toNat_sub]
  simp only [decide_eq_true_eq, UInt8.le_iff_toNat_le]
  split <;> omega

lemma toNat_and_one (a : UInt8) : (a &&& 1).toNat = a.toNat % 2 := by
  rw [UInt8.toNat_and]
  exact Nat.and_one_is_mod _

lemma half_exact (a : UInt8) : 2 * (a >>> 1).toNat + (a &&& 1).toNat = a.toNat := by
  have hquotient : (a >>> 1).toNat = a.toNat / 2 := by
    rw [UInt8.toNat_shiftRight]
    exact Nat.shiftRight_one _
  rw [hquotient, toNat_and_one]
  exact Nat.div_add_mod _ _

lemma double_exact (a : UInt8) : 256 * (a >>> 7).toNat + (a <<< 1).toNat = 2 * a.toNat := by
  have ha := a.toNat_lt
  have hcarry : (a >>> 7).toNat = a.toNat / 128 := by
    rw [UInt8.toNat_shiftRight]
    exact Nat.shiftRight_eq_div_pow _ 7
  have hrest : (a <<< 1).toNat = a.toNat * 2 % 256 := by
    rw [UInt8.toNat_shiftLeft]
    exact congrArg (· % 256) (Nat.shiftLeft_eq _ 1)
  omega

lemma Arith.yields_apply (op : Arith) (a b : UInt8) :
    Yields op.code a.toNat b.toNat (op.apply a b).1.toNat ((op.apply a b).2.map UInt8.toNat) := by
  cases op with
  | load => rfl
  | or => exact UInt8.toNat_or a b
  | and => exact UInt8.toNat_and a b
  | xor => exact UInt8.toNat_xor a b
  | add => exact add_exact a b
  | sub => exact sub_exact a b
  | subFrom => exact sub_exact b a

lemma Shift.yields_apply (op : Shift) (a : UInt8) (b : Nat) :
    Yields op.code a.toNat b (op.apply a).1.toNat (some (op.apply a).2.toNat) := by
  cases op with
  | right => exact half_exact a
  | left => exact double_exact a

lemma Arith.flag_le (op : Arith) (a b : UInt8) : ∀ f ∈ (op.apply a b).2, f ≤ 1 := by
  have hflag (c : Bool) : flagByte c ≤ 1 := by cases c <;> decide
  cases op <;> simp [Arith.apply, hflag]

lemma Shift.flag_le (op : Shift) (a : UInt8) : (op.apply a).2 ≤ 1 := by
  rw [UInt8.le_iff_toNat_le]
  cases op with
  | right =>
      have hbit : (a &&& 1).toNat = a.toNat % 2 := toNat_and_one a
      show (a &&& 1).toNat ≤ 1
      omega
  | left =>
      have hcarry := double_exact a
      have ha := a.toNat_lt
      show (a >>> 7).toNat ≤ 1
      omega

namespace Machine

open Instruction (wordOfByte wordOfPair)

variable {size : Display.Size} {m : Machine size} {x y : Register}

/-! ### Registers -/

/-- All registers after one is set together with the flag, which the result wins over. -/
lemma getV_setFlagged (m : Machine size) (x k : Register) (b flag : UInt8) :
    (m.setFlagged x b flag).getV k =
      if k = x then b else if k = flagRegister then flag else m.getV k := by
  rw [setFlagged, getV_setV, getV_setV]

/-- All registers after an operation on two of them. -/
lemma getV_step_arith {op : Arith} (h : m.IsAt (wordOfPair 0x8 x y op.code)) (k : Register) :
    let result := op.apply (m.getV x) (m.getV y)
    m.step.2.getV k =
      if k = x then result.1 else if k = flagRegister then result.2.getD (m.getV k)
      else m.getV k := by
  intro result
  have hdecode : Instruction.decode (.ofNat (wordOfPair 0x8 x y op.code)) = .arith op x y :=
    Instruction.decode_encode (i := .arith op x y) nofun nofun nofun
  rw [h.step hdecode nofun]
  cases op with
  | load | or | and | xor =>
      refine (getV_setV m.advance x k _).trans ?_
      show _ = if k = x then _ else if k = flagRegister then m.getV k else m.getV k
      rw [ite_self]
      rfl
  | add | sub | subFrom => exact getV_setFlagged m.advance x k _ _

/-- All registers after a shift. -/
lemma getV_step_shift {op : Shift} (h : m.IsAt (wordOfPair 0x8 x y op.code)) (k : Register) :
    let result := op.apply (m.getV x)
    m.step.2.getV k =
      if k = x then result.1 else if k = flagRegister then result.2 else m.getV k := by
  intro result
  have hdecode : Instruction.decode (.ofNat (wordOfPair 0x8 x y op.code)) = .shift op x := by
    cases op <;>
      simp (disch := decide) only [Instruction.decode, Shift.code, Instruction.fields_wordOfPair] <;>
      rfl
  rw [h.step hdecode (by simp)]
  cases op <;> exact getV_setFlagged m.advance x k _ _

lemma getV_step_addByte {kk : Nat} (h : m.IsAt (wordOfByte 0x7 x kk)) (hkk : kk < 256)
    (k : Register) :
    m.step.2.getV k = if k = x then m.getV x + .ofNat kk else m.getV k := by
  have hdecode : Instruction.decode (.ofNat (wordOfByte 0x7 x kk)) = .addByte x (.ofNat kk) := by
    rw [← Instruction.decode_encode (i := .addByte x (.ofNat kk)) nofun nofun nofun,
      Instruction.encode, UInt8.toNat_ofNat_of_lt' hkk]
  rw [h.step hdecode (by simp)]
  exact getV_setV m.advance x k _

/-! ### All operations -/

/-- The operations by the last digits of their words. -/
lemma exists_code_eq : ∀ n ∈ [0x0, 0x1, 0x2, 0x3, 0x4, 0x5, 0x6, 0x7, 0xE],
    (∃ op : Arith, op.code = n) ∨ ∃ op : Shift, op.code = n := by
  simp only [List.forall_mem_cons]
  exact ⟨.inl ⟨.load, rfl⟩, .inl ⟨.or, rfl⟩, .inl ⟨.and, rfl⟩, .inl ⟨.xor, rfl⟩, .inl ⟨.add, rfl⟩,
    .inl ⟨.sub, rfl⟩, .inr ⟨.right, rfl⟩, .inl ⟨.subFrom, rfl⟩, .inr ⟨.left, rfl⟩, nofun⟩

/-- **Arithmetic.** A machine comes to an operation `8xyn`. The two registers may be the same, and
either may be the flag register. The operands from before, the result in `Vx` and the flag satisfy
the equation of the operation. The flag is 0 or 1 and goes to the flag register, unless the result
goes there; operations without a flag leave that register as it was, and so does the addition of a
byte, `7xkk`. No other register changes. -/
theorem arithmetic_exact (m : Machine size) (x y : Register) :
    let a := (m.getV x).toNat
    let b := (m.getV y).toNat
    let r := (m.step.2.getV x).toNat
    (∀ n ∈ [0x0, 0x1, 0x2, 0x3, 0x4, 0x5, 0x6, 0x7, 0xE], m.IsAt (wordOfPair 0x8 x y n) →
      ∃ flag : Option UInt8, (∀ f ∈ flag, f ≤ 1) ∧ Yields n a b r (flag.map UInt8.toNat) ∧
        ∀ k ≠ x, m.step.2.getV k =
          if k = flagRegister then flag.getD (m.getV flagRegister) else m.getV k) ∧
    ∀ kk < 256, m.IsAt (wordOfByte 0x7 x kk) →
      r = (a + kk) % 256 ∧ ∀ k ≠ x, m.step.2.getV k = m.getV k := by
  intro a b r
  constructor
  · intro n hn h
    obtain ⟨op, rfl⟩ | ⟨op, rfl⟩ := exists_code_eq n hn
    · have hstep := getV_step_arith h
      refine ⟨(op.apply (m.getV x) (m.getV y)).2, op.flag_le _ _, ?_, fun k hk => ?_⟩
      · show Yields _ _ _ (m.step.2.getV x).toNat _
        rw [hstep, if_pos rfl]
        exact op.yields_apply _ _
      · rw [hstep, if_neg hk]
        split
        case isTrue hflag => rw [hflag]
        case isFalse => rfl
    · have hstep := getV_step_shift h
      refine ⟨some (op.apply (m.getV x)).2, ?_, ?_, fun k hk => (hstep k).trans (if_neg hk)⟩
      · rintro f ⟨⟩
        exact op.flag_le _
      · show Yields _ _ _ (m.step.2.getV x).toNat _
        rw [hstep, if_pos rfl]
        exact op.yields_apply _ _
  · intro kk hkk h
    have hstep := getV_step_addByte h hkk
    refine ⟨?_, fun k hk => (hstep k).trans (if_neg hk)⟩
    show (m.step.2.getV x).toNat = _
    rw [hstep, if_pos rfl, UInt8.toNat_add, UInt8.toNat_ofNat_of_lt' hkk]

/-- A machine at a word, with the same value in all registers. -/
def computing (high low : UInt8) : Machine .standard :=
  { fresh _ (Memory.withProgram #[high, low]) ⟨Vector.replicate 8 0, 0⟩ with
    v := Vector.replicate 16 200 }

lemma isAt_computing (high low : UInt8) :
    (computing high low).IsAt (high.toNat * 256 + low.toNat) :=
  ⟨rfl, word_program #[high, low] 0 rfl (Address.offset_zero _).symm (by decide) rfl⟩

lemma getV_computing (high low : UInt8) (k : Register) : (computing high low).getV k = 200 := by
  simp [computing, getV]

/-- The flag register is an operand and gets the carry; then it is both operands, and the result is
what it gets; and then a byte is added to it. -/
theorem arithmetic_exact_flag_register :
    let m := computing 0x80 0xF4
    let n := computing 0x8F 0xF4
    let o := computing 0x7F 0xFF
    m.IsAt (wordOfPair 0x8 0x0 0xF 0x4) ∧
      (m.step.2.getV 0x0).toNat = 144 ∧ m.step.2.getV 0xF = 1 ∧ m.step.2.getV 0x1 = 200 ∧
      n.IsAt (wordOfPair 0x8 0xF 0xF 0x4) ∧ (n.step.2.getV 0xF).toNat = 144 ∧
      o.IsAt (wordOfByte 0x7 0xF 0xFF) ∧ (o.step.2.getV 0xF).toNat = 199 := by
  intro m n o
  have hm : m.IsAt (wordOfPair 0x8 0x0 0xF 0x4) := isAt_computing 0x80 0xF4
  have hn : n.IsAt (wordOfPair 0x8 0xF 0xF 0x4) := isAt_computing 0x8F 0xF4
  have ho : o.IsAt (wordOfByte 0x7 0xF 0xFF) := isAt_computing 0x7F 0xFF
  obtain ⟨flag, hflag, hsum, hothers⟩ := (arithmetic_exact m 0x0 0xF).1 0x4 (by decide) hm
  obtain ⟨carry, hcarry, htwice, -⟩ := (arithmetic_exact n 0xF 0xF).1 0x4 (by decide) hn
  obtain ⟨hbyte, -⟩ := (arithmetic_exact o 0xF 0x0).2 0xFF (by decide) ho
  rw [getV_computing] at hsum htwice hbyte
  rw [getV_computing] at hsum
  cases flag with
  | none => exact hsum.elim
  | some f =>
  cases carry with
  | none => exact htwice.elim
  | some c =>
  have hf : f.toNat ≤ 1 := hflag f rfl
  have hc : c.toNat ≤ 1 := hcarry c rfl
  have hsum : 256 * f.toNat + (m.step.2.getV 0x0).toNat = 200 + 200 := hsum
  have htwice : 256 * c.toNat + (n.step.2.getV 0xF).toNat = 200 + 200 := htwice
  have hr := (m.step.2.getV 0x0).toNat_lt
  have hs := (n.step.2.getV 0xF).toNat_lt
  have hone : f = 1 := UInt8.toNat.inj (show f.toNat = 1 by omega)
  exact ⟨hm, by omega, (hothers 0xF (by decide)).trans hone,
    (hothers 0x1 (by decide)).trans (getV_computing _ _ _), hn, by omega, ho, hbyte⟩

end Machine

end CosmacVip
