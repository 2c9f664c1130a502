import CosmacVip.Instruction
import Mathlib.Tactic.IntervalCases
import Mathlib.Tactic.Lemma

/-!
Instructions with operands in words, taken out of a word by masks and shifts.

* `Words.Operation`: one constructor for each form, its operands as wide as the words that hold
  them;
* `Words.Operation.decode`: the fields of a word are masked and shifted into place;
* `Words.Operation.decode_eq`: this is `Instruction.decode`;
* `Words.Operation.inRange_decode`: so every operand is in range.
-/

namespace CosmacVip.Words

/-- One instruction, with its operands in words. -/
inductive Operation where
  | clearScreen
  | ret
  | system (target : UInt16)
  | jump (target : UInt16)
  | call (target : UInt16)
  | skipIfByte (x kk : UInt8)
  | skipUnlessByte (x kk : UInt8)
  | skipIfSame (x y : UInt8)
  | loadByte (x kk : UInt8)
  | addByte (x kk : UInt8)
  | load (x y : UInt8)
  | or (x y : UInt8)
  | and (x y : UInt8)
  | xor (x y : UInt8)
  | add (x y : UInt8)
  | sub (x y : UInt8)
  | shiftRight (x : UInt8)
  | subFrom (x y : UInt8)
  | shiftLeft (x : UInt8)
  | skipUnlessSame (x y : UInt8)
  | loadIndex (target : UInt16)
  | jumpPlus (target : UInt16)
  | random (x kk : UInt8)
  | draw (x y n : UInt8)
  | skipIfPressed (x : UInt8)
  | skipUnlessPressed (x : UInt8)
  | readDelay (x : UInt8)
  | awaitKey (x : UInt8)
  | setDelay (x : UInt8)
  | setSound (x : UInt8)
  | addIndex (x : UInt8)
  | loadGlyph (x : UInt8)
  | storeDecimal (x : UInt8)
  | storeRegisters (x : UInt8)
  | loadRegisters (x : UInt8)
  | unknown (word : UInt16)
deriving DecidableEq, Repr

/-! ### Fields of a word -/

/-- The bits of a word under a mask, moved down. -/
def field (mask shift word : UInt16) : UInt8 := ((word &&& mask) >>> shift).toUInt8

/-- The first nibble. -/
def groupField : UInt16 → UInt8 := field 0xF000 12

/-- The second nibble. -/
def xField : UInt16 → UInt8 := field 0x0F00 8

/-- The third nibble. -/
def yField : UInt16 → UInt8 := field 0x00F0 4

/-- The last nibble. -/
def nField : UInt16 → UInt8 := field 0x000F 0

/-- The low byte. -/
def byteField : UInt16 → UInt8 := field 0x00FF 0

/-- The low twelve bits. -/
def addressField (word : UInt16) : UInt16 := word &&& 0x0FFF

lemma toNat_field {mask shift : UInt16} {j k : Nat} (hk : shift.toNat % 16 = k) (hj : j ≤ 8)
    (hmask : mask.toNat = (2 ^ j - 1) <<< k) (word : UInt16) :
    (field mask shift word).toNat = word.toNat / 2 ^ k % 2 ^ j := by
  have hlt : word.toNat / 2 ^ k % 2 ^ j < 2 ^ 8 :=
    Nat.lt_of_lt_of_le (Nat.mod_lt _ (Nat.two_pow_pos j)) (Nat.pow_le_pow_right (by decide) hj)
  rw [field, UInt16.toNat_toUInt8, UInt16.toNat_shiftRight, UInt16.toNat_and, hmask, hk,
    Nat.shiftRight_and_distrib, Nat.shiftLeft_shiftRight, Nat.shiftRight_eq_div_pow,
    Nat.and_two_pow_sub_one_eq_mod, Nat.mod_eq_of_lt hlt]

lemma toNat_groupField (word : UInt16) : (groupField word).toNat = word.toNat / 4096 := by
  have h := word.toNat_lt
  rw [groupField, toNat_field (k := 12) (j := 4) rfl (by decide) rfl]
  omega

lemma toNat_nField (word : UInt16) : (nField word).toNat = word.toNat % 16 := by
  rw [nField, toNat_field (k := 0) (j := 4) rfl (by decide) rfl]
  omega

lemma byteField_eq (word : UInt16) : byteField word = .ofNat word.toNat := by
  apply UInt8.toNat.inj
  rw [byteField, toNat_field (k := 0) (j := 8) rfl (by decide) rfl, Nat.pow_zero, Nat.div_one,
    UInt8.toNat_ofNat']

namespace Operation

/-- The operation of a word. -/
def decode (word : UInt16) : Operation :=
  let x := xField word
  let y := yField word
  let n := nField word
  let kk := byteField word
  let nnn := addressField word
  match (groupField word).toNat, n.toNat with
  | 0x0, _ =>
    if nnn = 0x0E0 then clearScreen
    else if nnn = 0x0EE then ret
    else system nnn
  | 0x1, _ => jump nnn
  | 0x2, _ => call nnn
  | 0x3, _ => skipIfByte x kk
  | 0x4, _ => skipUnlessByte x kk
  | 0x5, 0x0 => skipIfSame x y
  | 0x6, _ => loadByte x kk
  | 0x7, _ => addByte x kk
  | 0x8, 0x0 => load x y
  | 0x8, 0x1 => or x y
  | 0x8, 0x2 => and x y
  | 0x8, 0x3 => xor x y
  | 0x8, 0x4 => add x y
  | 0x8, 0x5 => sub x y
  | 0x8, 0x6 => shiftRight x
  | 0x8, 0x7 => subFrom x y
  | 0x8, 0xE => shiftLeft x
  | 0x9, 0x0 => skipUnlessSame x y
  | 0xA, _ => loadIndex nnn
  | 0xB, _ => jumpPlus nnn
  | 0xC, _ => random x kk
  | 0xD, _ => draw x y n
  | 0xE, _ =>
    if kk = 0x9E then skipIfPressed x
    else if kk = 0xA1 then skipUnlessPressed x
    else unknown word
  | 0xF, _ =>
    if kk = 0x07 then readDelay x
    else if kk = 0x0A then awaitKey x
    else if kk = 0x15 then setDelay x
    else if kk = 0x18 then setSound x
    else if kk = 0x1E then addIndex x
    else if kk = 0x29 then loadGlyph x
    else if kk = 0x33 then storeDecimal x
    else if kk = 0x55 then storeRegisters x
    else if kk = 0x65 then loadRegisters x
    else unknown word
  | _, _ => unknown word

/-- The operation on two registers. -/
def ofArith (x y : UInt8) : Arith → Operation
  | .load => load x y
  | .or => or x y
  | .and => and x y
  | .xor => xor x y
  | .add => add x y
  | .sub => sub x y
  | .subFrom => subFrom x y

/-- The operation that shifts a register. -/
def ofShift (x : UInt8) : Shift → Operation
  | .right => shiftRight x
  | .left => shiftLeft x

/-- The number of a register as a word. -/
def register (x : Register) : UInt8 := .ofNat x.val

/-- An address as a word. -/
def address (a : Address) : UInt16 := .ofNat a.val

/-- An instruction with its operands in words. -/
def ofInstruction : Instruction → Operation
  | .clearScreen => clearScreen
  | .ret => ret
  | .system nnn => system (address nnn)
  | .jump nnn => jump (address nnn)
  | .call nnn => call (address nnn)
  | .skipIfByte x kk => skipIfByte (register x) kk
  | .skipUnlessByte x kk => skipUnlessByte (register x) kk
  | .skipIfSame x y => skipIfSame (register x) (register y)
  | .loadByte x kk => loadByte (register x) kk
  | .addByte x kk => addByte (register x) kk
  | .arith op x y => ofArith (register x) (register y) op
  | .shift op x => ofShift (register x) op
  | .skipUnlessSame x y => skipUnlessSame (register x) (register y)
  | .loadIndex nnn => loadIndex (address nnn)
  | .jumpPlus nnn => jumpPlus (address nnn)
  | .random x kk => random (register x) kk
  | .draw x y n => draw (register x) (register y) (.ofNat n.val)
  | .skipIfPressed x => skipIfPressed (register x)
  | .skipUnlessPressed x => skipUnlessPressed (register x)
  | .readDelay x => readDelay (register x)
  | .awaitKey x => awaitKey (register x)
  | .setDelay x => setDelay (register x)
  | .setSound x => setSound (register x)
  | .addIndex x => addIndex (register x)
  | .loadGlyph x => loadGlyph (register x)
  | .storeDecimal x => storeDecimal (register x)
  | .storeRegisters x => storeRegisters (register x)
  | .loadRegisters x => loadRegisters (register x)
  | .unknown word => unknown word

/-! ### Agreement with the decoder -/

lemma xField_eq (word : UInt16) : xField word = register (Fin.ofNat 16 (word.toNat / 256)) := by
  apply UInt8.toNat.inj
  rw [xField, toNat_field (k := 8) (j := 4) rfl (by decide) rfl, register, UInt8.toNat_ofNat']
  simp only [Fin.ofNat]
  omega

lemma yField_eq (word : UInt16) : yField word = register (Fin.ofNat 16 (word.toNat / 16)) := by
  apply UInt8.toNat.inj
  rw [yField, toNat_field (k := 4) (j := 4) rfl (by decide) rfl, register, UInt8.toNat_ofNat']
  simp only [Fin.ofNat]
  omega

lemma nField_eq (word : UInt16) : nField word = .ofNat (Fin.ofNat 16 word.toNat).val := by
  apply UInt8.toNat.inj
  rw [toNat_nField, UInt8.toNat_ofNat']
  simp only [Fin.ofNat]
  omega

@[simp] lemma toNat_register (x : Register) : (register x).toNat = x.val := by
  rw [register, UInt8.toNat_ofNat']
  omega

@[simp] lemma toNat_address (a : Address) : (address a).toNat = a.val := by
  rw [address, UInt16.toNat_ofNat']
  omega

lemma addressField_eq (word : UInt16) : addressField word = address (.ofNat word.toNat) := by
  apply UInt16.toNat.inj
  rw [addressField, UInt16.toNat_and, toNat_address, Address.val_ofNat]
  exact Nat.and_two_pow_sub_one_eq_mod word.toNat 12

/-- The operation of a word and that of its instruction are one. -/
theorem decode_eq (word : UInt16) : decode word = ofInstruction (.decode word) := by
  have hu : word.toNat / 4096 < 16 := by
    have := word.toNat_lt
    omega
  have hn : word.toNat % 16 < 16 := Nat.mod_lt _ (by decide)
  simp only [decode, Instruction.decode, toNat_groupField, xField_eq, yField_eq, nField_eq,
    byteField_eq, addressField_eq]
  generalize word.toNat / 4096 = u at hu
  -- one case for each first nibble; all but six have a single form
  interval_cases u
  case «0» =>
    simp only [Instruction.decodeSystem, apply_ite ofInstruction, ← UInt16.toNat_inj,
      toNat_address]
    rfl
  case «5» =>
    simp only [Fin.ofNat, ← Fin.val_inj, apply_ite ofInstruction]
    generalize word.toNat % 16 = n at hn
    interval_cases n <;> rfl
  case «8» =>
    simp only [Fin.ofNat]
    generalize word.toNat % 16 = n at hn
    interval_cases n <;> rfl
  case «9» =>
    simp only [Fin.ofNat, ← Fin.val_inj, apply_ite ofInstruction]
    generalize word.toNat % 16 = n at hn
    interval_cases n <;> rfl
  case «14» =>
    simp only [Instruction.decodePressed, apply_ite ofInstruction, ← UInt8.toNat_inj]
    rfl
  case «15» =>
    simp only [Instruction.decodeDevice, apply_ite ofInstruction, ← UInt8.toNat_inj]
    rfl
  all_goals rfl

/-! ### Operands in range -/

/-- Whether the numbers of registers and nibbles are below 16 and addresses below 4096. -/
def InRange : Operation → Prop
  | clearScreen | ret | unknown _ => True
  | system nnn | jump nnn | call nnn | loadIndex nnn | jumpPlus nnn => nnn < 4096
  | skipIfByte x _ | skipUnlessByte x _ | loadByte x _ | addByte x _ | random x _ => x < 16
  | skipIfSame x y | skipUnlessSame x y | load x y | or x y | and x y | xor x y | add x y
  | sub x y | subFrom x y => x < 16 ∧ y < 16
  | draw x y n => x < 16 ∧ y < 16 ∧ n < 16
  | shiftRight x | shiftLeft x | skipIfPressed x | skipUnlessPressed x | readDelay x | awaitKey x
  | setDelay x | setSound x | addIndex x | loadGlyph x | storeDecimal x | storeRegisters x
  | loadRegisters x => x < 16

lemma register_lt (x : Register) : register x < 16 := by
  rw [UInt8.lt_iff_toNat_lt, toNat_register]
  exact x.isLt

lemma address_lt (a : Address) : address a < 4096 := by
  rw [UInt16.lt_iff_toNat_lt, toNat_address]
  exact a.isLt

lemma inRange_ofInstruction (i : Instruction) : (ofInstruction i).InRange := by
  cases i with
  | clearScreen | ret | unknown _ => trivial
  | system nnn | jump nnn | call nnn | loadIndex nnn | jumpPlus nnn => exact address_lt nnn
  | skipIfSame x y | skipUnlessSame x y => exact ⟨register_lt x, register_lt y⟩
  | arith op x y => cases op <;> exact ⟨register_lt x, register_lt y⟩
  | shift op x => cases op <;> exact register_lt x
  | draw x y n => exact ⟨register_lt x, register_lt y, register_lt n⟩
  | skipIfByte x _ | skipUnlessByte x _ | loadByte x _ | addByte x _ | random x _
  | skipIfPressed x | skipUnlessPressed x | readDelay x | awaitKey x | setDelay x | setSound x
  | addIndex x | loadGlyph x | storeDecimal x | storeRegisters x | loadRegisters x =>
      exact register_lt x

lemma inRange_decode (word : UInt16) : (decode word).InRange := by
  rw [decode_eq]
  exact inRange_ofInstruction _

section

variable {x y : UInt8} {nnn : UInt16}

lemma exists_address {f : UInt16 → Operation} (g : Address → Instruction)
    (hg : ∀ a, ofInstruction (g a) = f (address a)) (h : nnn < 4096) :
    ∃ i, ofInstruction i = f nnn :=
  ⟨g ⟨nnn.toNat, UInt16.lt_iff_toNat_lt.1 h⟩, (hg _).trans (congrArg f UInt16.ofNat_toNat)⟩

lemma exists_register {f : UInt8 → Operation} (g : Register → Instruction)
    (hg : ∀ r, ofInstruction (g r) = f (register r)) (h : x < 16) :
    ∃ i, ofInstruction i = f x :=
  ⟨g ⟨x.toNat, UInt8.lt_iff_toNat_lt.1 h⟩, (hg _).trans (congrArg f UInt8.ofNat_toNat)⟩

lemma exists_pair {f : UInt8 → UInt8 → Operation} (g : Register → Register → Instruction)
    (hg : ∀ r s, ofInstruction (g r s) = f (register r) (register s)) (h : x < 16 ∧ y < 16) :
    ∃ i, ofInstruction i = f x y :=
  ⟨g ⟨x.toNat, UInt8.lt_iff_toNat_lt.1 h.1⟩ ⟨y.toNat, UInt8.lt_iff_toNat_lt.1 h.2⟩,
    (hg _ _).trans (congrArg₂ f UInt8.ofNat_toNat UInt8.ofNat_toNat)⟩

end

lemma exists_ofInstruction {op : Operation} (h : op.InRange) : ∃ i, ofInstruction i = op := by
  cases op with
  | clearScreen => exact ⟨.clearScreen, rfl⟩
  | ret => exact ⟨.ret, rfl⟩
  | unknown word => exact ⟨.unknown word, rfl⟩
  | system nnn => exact exists_address .system (fun _ => rfl) h
  | jump nnn => exact exists_address .jump (fun _ => rfl) h
  | call nnn => exact exists_address .call (fun _ => rfl) h
  | loadIndex nnn => exact exists_address .loadIndex (fun _ => rfl) h
  | jumpPlus nnn => exact exists_address .jumpPlus (fun _ => rfl) h
  | skipIfByte x kk => exact exists_register (f := (skipIfByte · kk)) (.skipIfByte · kk) (fun _ => rfl) h
  | skipUnlessByte x kk => exact exists_register (f := (skipUnlessByte · kk)) (.skipUnlessByte · kk) (fun _ => rfl) h
  | loadByte x kk => exact exists_register (f := (loadByte · kk)) (.loadByte · kk) (fun _ => rfl) h
  | addByte x kk => exact exists_register (f := (addByte · kk)) (.addByte · kk) (fun _ => rfl) h
  | random x kk => exact exists_register (f := (random · kk)) (.random · kk) (fun _ => rfl) h
  | skipIfSame x y => exact exists_pair .skipIfSame (fun _ _ => rfl) h
  | skipUnlessSame x y => exact exists_pair .skipUnlessSame (fun _ _ => rfl) h
  | load x y => exact exists_pair (.arith .load) (fun _ _ => rfl) h
  | or x y => exact exists_pair (.arith .or) (fun _ _ => rfl) h
  | and x y => exact exists_pair (.arith .and) (fun _ _ => rfl) h
  | xor x y => exact exists_pair (.arith .xor) (fun _ _ => rfl) h
  | add x y => exact exists_pair (.arith .add) (fun _ _ => rfl) h
  | sub x y => exact exists_pair (.arith .sub) (fun _ _ => rfl) h
  | subFrom x y => exact exists_pair (.arith .subFrom) (fun _ _ => rfl) h
  | draw x y n =>
      obtain ⟨hx, hy, hn⟩ := h
      exact exists_pair (f := (draw · · n)) (.draw · · ⟨n.toNat, UInt8.lt_iff_toNat_lt.1 hn⟩)
        (fun _ _ => congrArg (draw _ _) UInt8.ofNat_toNat) ⟨hx, hy⟩
  | shiftRight x => exact exists_register (.shift .right) (fun _ => rfl) h
  | shiftLeft x => exact exists_register (.shift .left) (fun _ => rfl) h
  | skipIfPressed x => exact exists_register .skipIfPressed (fun _ => rfl) h
  | skipUnlessPressed x => exact exists_register .skipUnlessPressed (fun _ => rfl) h
  | readDelay x => exact exists_register .readDelay (fun _ => rfl) h
  | awaitKey x => exact exists_register .awaitKey (fun _ => rfl) h
  | setDelay x => exact exists_register .setDelay (fun _ => rfl) h
  | setSound x => exact exists_register .setSound (fun _ => rfl) h
  | addIndex x => exact exists_register .addIndex (fun _ => rfl) h
  | loadGlyph x => exact exists_register .loadGlyph (fun _ => rfl) h
  | storeDecimal x => exact exists_register .storeDecimal (fun _ => rfl) h
  | storeRegisters x => exact exists_register .storeRegisters (fun _ => rfl) h
  | loadRegisters x => exact exists_register .loadRegisters (fun _ => rfl) h

/-- The operations in range are those of instructions. -/
lemma inRange_iff {op : Operation} : op.InRange ↔ ∃ i, ofInstruction i = op := by
  constructor
  · exact exists_ofInstruction
  · rintro ⟨i, rfl⟩
    exact inRange_ofInstruction i

end Operation

end CosmacVip.Words
