import CosmacVip.Proofs.Hex
import CosmacVip.Proofs.Stops
import CosmacVip.Proofs.Words.Operation
import Mathlib.Data.List.Forall2

/-!
The forms of the instruction set, and the way back from an instruction to its word.

* `Instruction.forms`, `Instruction.Fits`: the documented forms, and the words that each describes;
* `Instruction.form?_decode`: a word means an instruction of the first form that it fits;
* `Instruction.encode_decode`: the word of what a word means is that word, but for the unused nibble
  of a shift;
* `Instruction.decode_encode`: the word of an instruction means that instruction.
-/

namespace CosmacVip

namespace Instruction

/-! ### Forms -/

/-- The documented forms. A digit stands for itself, a letter in lower case for a digit of an
operand. -/
def forms : List String :=
  ["00E0", "00EE", "0nnn", "1nnn", "2nnn", "3xkk", "4xkk", "5xy0", "6xkk", "7xkk",
    "8xy0", "8xy1", "8xy2", "8xy3", "8xy4", "8xy5", "8xy6", "8xy7", "8xyE", "9xy0",
    "Annn", "Bnnn", "Cxkk", "Dxyn", "Ex9E", "ExA1",
    "Fx07", "Fx0A", "Fx15", "Fx18", "Fx1E", "Fx29", "Fx33", "Fx55", "Fx65"]

/-- Whether a word is of a form: its four hexadecimal digits agree with those of the form. -/
def Fits (form : String) (w : UInt16) : Prop :=
  List.Forall₂ (fun c d => c.isLower ∨ d = c) form.toList (Hex.fixed 4 w.toNat)

instance (form : String) (w : UInt16) : Decidable (Fits form w) :=
  inferInstanceAs (Decidable (List.Forall₂ _ _ _))

/-- The form of an instruction; an unknown word has none. -/
def form? : Instruction → Option String
  | clearScreen => some "00E0"
  | ret => some "00EE"
  | system _ => some "0nnn"
  | jump _ => some "1nnn"
  | call _ => some "2nnn"
  | skipIfByte _ _ => some "3xkk"
  | skipUnlessByte _ _ => some "4xkk"
  | skipIfSame _ _ => some "5xy0"
  | loadByte _ _ => some "6xkk"
  | addByte _ _ => some "7xkk"
  | arith .load _ _ => some "8xy0"
  | arith .or _ _ => some "8xy1"
  | arith .and _ _ => some "8xy2"
  | arith .xor _ _ => some "8xy3"
  | arith .add _ _ => some "8xy4"
  | arith .sub _ _ => some "8xy5"
  | shift .right _ => some "8xy6"
  | arith .subFrom _ _ => some "8xy7"
  | shift .left _ => some "8xyE"
  | skipUnlessSame _ _ => some "9xy0"
  | loadIndex _ => some "Annn"
  | jumpPlus _ => some "Bnnn"
  | random _ _ => some "Cxkk"
  | draw _ _ _ => some "Dxyn"
  | skipIfPressed _ => some "Ex9E"
  | skipUnlessPressed _ => some "ExA1"
  | readDelay _ => some "Fx07"
  | awaitKey _ => some "Fx0A"
  | setDelay _ => some "Fx15"
  | setSound _ => some "Fx18"
  | addIndex _ => some "Fx1E"
  | loadGlyph _ => some "Fx29"
  | storeDecimal _ => some "Fx33"
  | storeRegisters _ => some "Fx55"
  | loadRegisters _ => some "Fx65"
  | unknown _ => none

lemma form?_eq_none_iff {i : Instruction} : i.form? = none ↔ ∃ v, i = unknown v := by
  cases i with
  | arith op x y => cases op <;> simp [form?]
  | shift op x => cases op <;> simp [form?]
  | _ => simp [form?]

/-- The four nibbles of a word. -/
def nibbles (w : UInt16) : List Nat :=
  [w.toNat / 4096, w.toNat / 256 % 16, w.toNat / 16 % 16, w.toNat % 16]

lemma fixed_eq_nibbles (w : UInt16) : Hex.fixed 4 w.toNat = (nibbles w).map Hex.digit := by
  have hgroup : w.toNat / 4096 % 16 = w.toNat / 4096 := by
    have := w.toNat_lt
    omega
  rw [nibbles, ← hgroup]
  simp only [Hex.fixed, Nat.div_div_eq_div_mul]
  rfl

/-- Fitting a form, on the nibbles. -/
lemma fits_iff {form : String} {w : UInt16} :
    Fits form w ↔ List.Forall₂ (fun c d => c.isLower ∨ some d = Hex.value? c) form.toList
      (nibbles w) := by
  have hgroup : w.toNat / 4096 < 16 := by
    have := w.toNat_lt
    omega
  have hdigit (n : Nat) (c : Char) : Hex.digit (n % 16) = c ↔ some (n % 16) = Hex.value? c :=
    Hex.digit_eq_iff (Nat.mod_lt _ (by decide))
  simp only [Fits, fixed_eq_nibbles, nibbles, List.map, List.forall₂_cons_right_iff,
    List.forall₂_nil_right_iff, Hex.digit_eq_iff hgroup, hdigit]

/-- A search goes on to the rest of the list unless it ends at the first entry. -/
lemma find?_cons_ite {α : Type} (p : α → Prop) [DecidablePred p] (a : α) (l : List α) :
    (a :: l).find? (fun b => p b) = if p a then some a else l.find? (fun b => p b) := by
  by_cases h : p a <;> simp [h]

/-- A word means an instruction of the first form that it fits, and is unknown if it fits none. -/
theorem form?_decode (w : UInt16) : (decode w).form? = forms.find? (Fits · w) := by
  have hgroup : w.toNat / 4096 < 16 := by
    have := w.toNat_lt
    omega
  have hlast : w.toNat % 16 < 16 := Nat.mod_lt _ (by decide)
  have hbyte (k : Nat) (hk : k < 256) :
      w.toNat % 256 = k ↔ w.toNat / 16 % 16 = k / 16 ∧ w.toNat % 16 = k % 16 := by
    omega
  have haddress (k : Nat) (hk : k < 256) :
      w.toNat % 4096 = k ↔
        w.toNat / 256 % 16 = 0 ∧ w.toNat / 16 % 16 = k / 16 ∧ w.toNat % 16 = k % 16 := by
    omega
  simp only [decode, forms, find?_cons_ite, List.find?_nil, fits_iff, nibbles]
  generalize w.toNat / 4096 = u at hgroup ⊢
  generalize w.toNat / 256 % 16 = x at haddress ⊢
  generalize w.toNat / 16 % 16 = y at haddress hbyte ⊢
  generalize hn : w.toNat % 16 = n at haddress hbyte hlast ⊢
  -- what each form asks of the nibbles, read once for all groups
  simp only [Hex.value?, String.reduceToList, List.forall₂_cons, List.forall₂_nil_right_iff,
    Char.reduceIsLower, Char.reduceLE, Char.reduceToNat, Std.le_refl, Nat.reduceSub, tsub_self,
    Bool.false_eq_true, reduceCtorEq, ↓reduceIte, Option.some.injEq, and_self, and_true, true_and,
    and_false, or_false, false_or]
  interval_cases u
  case «0» =>
    simp [decodeSystem, apply_ite form?, haddress]
    rfl
  case «5» | «8» | «9» =>
    simp only [Fin.ofNat, ← Fin.val_inj, apply_ite form?, hn]
    interval_cases n <;> rfl
  case «14» =>
    simp [decodePressed, apply_ite form?, hbyte]
    rfl
  case «15» =>
    simp [decodeDevice, apply_ite form?, hbyte]
    rfl
  all_goals rfl

/-- The unknown words are those that fit no form. -/
lemma decode_eq_unknown_iff {w v : UInt16} :
    decode w = unknown v ↔ v = w ∧ ∀ form ∈ forms, ¬ Fits form w := by
  have hnone : (decode w).form? = none ↔ ∀ form ∈ forms, ¬ Fits form w := by
    simp [form?_decode]
  rw [← hnone, form?_eq_none_iff]
  constructor
  · intro h
    exact ⟨eq_of_decode_unknown h, v, h⟩
  · rintro ⟨rfl, u, h⟩
    rw [h, eq_of_decode_unknown h]

/-! ### There and back -/

/-- The words of shifts. -/
lemma fits_shift_iff {w : UInt16} :
    Fits "8xy6" w ∨ Fits "8xyE" w ↔
      w.toNat / 4096 = 8 ∧ (w.toNat % 16 = 0x6 ∨ w.toNat % 16 = 0xE) := by
  simp only [fits_iff, nibbles]
  generalize w.toNat / 4096 = u
  generalize w.toNat % 16 = n
  simp [Hex.value?, and_or_left]

lemma encode_decode_of_shift {w : UInt16} (h : Fits "8xy6" w ∨ Fits "8xyE" w) :
    encode (decode w) = w &&& 0xFF0F := by
  have hw := w.toNat_lt
  have hhigh : (w.toNat &&& 0xFF0F) / 2 ^ 8 = w.toNat / 256 := by
    rw [Nat.and_div_two_pow, show 0xFF0F / 2 ^ 8 = 2 ^ 8 - 1 from rfl,
      Nat.and_two_pow_sub_one_eq_mod]
    omega
  have hlow : (w.toNat &&& 0xFF0F) % 2 ^ 8 = w.toNat % 16 := by
    rw [Nat.and_mod_two_pow, show 0xFF0F % 2 ^ 8 = 2 ^ 4 - 1 from rfl,
      Nat.and_two_pow_sub_one_eq_mod]
    omega
  have hmask : (w &&& 0xFF0F).toNat = w.toNat &&& 0xFF0F := UInt16.toNat_and _ _
  apply UInt16.toNat.inj
  obtain ⟨hgroup, hlast | hlast⟩ := fits_shift_iff.1 h
  all_goals
    simp only [decode, hgroup, Fin.ofNat, hlast, decodeArith, encode, wordOfPair, Shift.code,
      UInt16.toNat_ofNat']
    omega

/-- A choice has the word that both its ends have. -/
lemma encode_ite {w : UInt16} {c : Prop} [Decidable c] {i j : Instruction}
    (hi : c → encode i = w) (hj : encode j = w) : encode (if c then i else j) = w := by
  split
  · exact hi ‹_›
  · exact hj

lemma encode_decode_of_not_shift {w : UInt16} (h : ¬ (Fits "8xy6" w ∨ Fits "8xyE" w)) :
    encode (decode w) = w := by
  have hw := w.toNat_lt
  have hgroup : w.toNat / 4096 < 16 := by omega
  have hlast : w.toNat % 16 < 16 := Nat.mod_lt _ (by decide)
  have haddress : .ofNat (wordOfAddress (w.toNat / 4096) (.ofNat w.toNat)) = w := by
    apply UInt16.toNat.inj
    simp only [wordOfAddress, Address.val_ofNat, UInt16.toNat_ofNat']
    omega
  have hbyte {k : Nat} (hk : (UInt8.ofNat w.toNat).toNat = k) :
      .ofNat (wordOfByte (w.toNat / 4096) (Fin.ofNat 16 (w.toNat / 256)) k) = w := by
    apply UInt16.toNat.inj
    simp only [wordOfByte, Fin.ofNat, UInt16.toNat_ofNat', ← hk, UInt8.toNat_ofNat']
    omega
  have hpair {k : Nat} (hk : w.toNat % 16 = k) :
      .ofNat (wordOfPair (w.toNat / 4096) (Fin.ofNat 16 (w.toNat / 256))
        (Fin.ofNat 16 (w.toNat / 16)) k) = w := by
    apply UInt16.toNat.inj
    simp only [wordOfPair, Fin.ofNat, UInt16.toNat_ofNat']
    omega
  rw [fits_shift_iff] at h
  simp only [decode]
  generalize hu : w.toNat / 4096 = u at *
  interval_cases u
  case «0» =>
    have hlow {k : Nat} (hk : (Address.ofNat w.toNat).val = k) : .ofNat k = w := by
      apply UInt16.toNat.inj
      rw [UInt16.toNat_ofNat', ← hk, Address.val_ofNat]
      omega
    exact encode_ite hlow (encode_ite hlow haddress)
  case «1» | «2» | «10» | «11» => exact haddress
  case «5» | «9» => exact encode_ite (fun hzero => hpair (congrArg Fin.val hzero)) rfl
  case «8» =>
    simp only [Fin.ofNat] at hpair ⊢
    generalize w.toNat % 16 = n at *
    interval_cases n
    case «6» | «14» => exact absurd h (by decide)
    all_goals first | exact hpair rfl | rfl
  case «13» => exact hpair rfl
  case «14» => exact encode_ite hbyte (encode_ite hbyte rfl)
  case «15» =>
    iterate 9 refine encode_ite hbyte ?_
    rfl
  all_goals exact hbyte rfl

/-- The word of what a word means is that word, but for the unused nibble of a shift. -/
theorem encode_decode (w : UInt16) :
    encode (decode w) = if Fits "8xy6" w ∨ Fits "8xyE" w then w &&& 0xFF0F else w := by
  split_ifs with h
  · exact encode_decode_of_shift h
  · exact encode_decode_of_not_shift h

section

variable {u : Nat}

/-- The fields of a word with an address. -/
lemma fields_wordOfAddress (hu : u < 16) (nnn : Address) :
    (UInt16.ofNat (wordOfAddress u nnn)).toNat / 4096 = u ∧
      Address.ofNat (UInt16.ofNat (wordOfAddress u nnn)).toNat = nnn := by
  have hnnn := nnn.isLt
  refine ⟨?_, Fin.ext ?_⟩
  · rw [wordOfAddress, UInt16.toNat_ofNat']
    omega
  · rw [wordOfAddress, UInt16.toNat_ofNat', Address.val_ofNat]
    omega

/-- The fields of a word with a register and a byte. -/
lemma fields_wordOfByte (hu : u < 16) (x : Register) {k : Nat} (hk : k < 256) :
    (UInt16.ofNat (wordOfByte u x k)).toNat / 4096 = u ∧
      Fin.ofNat 16 ((UInt16.ofNat (wordOfByte u x k)).toNat / 256) = x ∧
        UInt8.ofNat (UInt16.ofNat (wordOfByte u x k)).toNat = .ofNat k := by
  have hx := x.isLt
  refine ⟨?_, Fin.ext ?_, UInt8.toNat.inj ?_⟩
  · rw [wordOfByte, UInt16.toNat_ofNat']
    omega
  · rw [wordOfByte, UInt16.toNat_ofNat', Fin.ofNat]
    dsimp only
    omega
  · rw [wordOfByte, UInt16.toNat_ofNat', UInt8.toNat_ofNat', UInt8.toNat_ofNat']
    omega

/-- The fields of a word with two registers and a nibble. -/
lemma fields_wordOfPair (hu : u < 16) (x y : Register) {n : Nat} (hn : n < 16) :
    (UInt16.ofNat (wordOfPair u x y n)).toNat / 4096 = u ∧
      Fin.ofNat 16 ((UInt16.ofNat (wordOfPair u x y n)).toNat / 256) = x ∧
        Fin.ofNat 16 ((UInt16.ofNat (wordOfPair u x y n)).toNat / 16) = y ∧
          Fin.ofNat 16 (UInt16.ofNat (wordOfPair u x y n)).toNat = ⟨n, hn⟩ := by
  have hx := x.isLt
  have hy := y.isLt
  refine ⟨?_, Fin.ext ?_, Fin.ext ?_, Fin.ext ?_⟩
  · rw [wordOfPair, UInt16.toNat_ofNat']
    omega
  all_goals
    rw [wordOfPair, UInt16.toNat_ofNat', Fin.ofNat]
    dsimp only
    omega

end

/-- The word of an instruction means that instruction, except for the two routines of the host
computer whose words clear the screen and return. -/
theorem decode_encode {i : Instruction} (hunknown : ∀ v, i ≠ unknown v)
    (hclear : i ≠ system 0x0E0) (hret : i ≠ system 0x0EE) : decode (encode i) = i := by
  cases i with
  | clearScreen | ret => rfl
  | unknown w => exact absurd rfl (hunknown w)
  | system nnn =>
      obtain ⟨hgroup, hnnn⟩ := fields_wordOfAddress (by decide : 0x0 < 16) nnn
      have hval : nnn.val ≠ 0x0E0 ∧ nnn.val ≠ 0x0EE :=
        ⟨fun h => hclear (congrArg system (Fin.ext h)), fun h => hret (congrArg system (Fin.ext h))⟩
      simp only [encode, decode, hgroup, hnnn, decodeSystem, hval, if_false]
  | jump nnn | call nnn | loadIndex nnn | jumpPlus nnn =>
      simp (disch := decide) only [encode, decode, fields_wordOfAddress]
  | skipIfByte x kk | skipUnlessByte x kk | loadByte x kk | addByte x kk | random x kk =>
      simp (disch := decide) only [encode, decode, fields_wordOfByte _ x kk.toNat_lt,
        UInt8.ofNat_toNat]
  | skipIfSame x y | skipUnlessSame x y =>
      simp (disch := decide) only [encode, decode, fields_wordOfPair]
      rfl
  | arith op x y =>
      cases op <;>
        simp (disch := decide) only [encode, decode, Arith.code, fields_wordOfPair] <;> rfl
  | shift op x =>
      cases op <;>
        simp (disch := decide) only [encode, decode, Shift.code, fields_wordOfPair] <;> rfl
  | draw x y n => simp (disch := decide) only [encode, decode, fields_wordOfPair _ _ _ n.isLt]
  | skipIfPressed x | skipUnlessPressed x | readDelay x | awaitKey x | setDelay x | setSound x
  | addIndex x | loadGlyph x | storeDecimal x | storeRegisters x | loadRegisters x =>
      simp (disch := decide) only [encode, decode, fields_wordOfByte]
      rfl

end Instruction

end CosmacVip
