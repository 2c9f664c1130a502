import CosmacVip.Instruction.Text
import CosmacVip.Proofs.Instruction.Forms

/-!
Assembly lines read back: the line of an instruction tells which instruction it is.

* `Instruction.fields`: the word and the operands of a line;
* `Instruction.read?`: the instruction that a line stands for, by tables of the words that go with
  each kind of operands;
* `Instruction.read?_mnemonic`: the line of an instruction stands for it, so that instructions with
  one line are one (`mnemonic_inj`);
* `Instruction.decode_exact`: what decoding accepts, and that it loses nothing.
-/

namespace CosmacVip

namespace Instruction

variable {word : String} {operands : List String}

/-! ### Fields of a line -/

/-- The word and the operands of a line: what its blanks part, without commas. -/
def fields (text : String) : List String :=
  ((text.toList.filter (· ≠ ',')).splitOn ' ').map String.ofList

/-- Whether a text has neither blanks nor commas. -/
def isField (text : String) : Bool := text.toList.all fun c => c != ' ' && c != ','

lemma isField_iff {text : String} : isField text ↔ ∀ c ∈ text.toList, c ≠ ' ' ∧ c ≠ ',' := by
  simp [isField]

lemma filter_intercalate {α : Type} (p : α → Bool) (sep : List α) (ls : List (List α)) :
    (sep.intercalate ls).filter p = (sep.filter p).intercalate (ls.map (·.filter p)) := by
  induction ls with
  | nil => rfl
  | cons l ls ih =>
      cases ls with
      | nil => simp
      | cons l' ls =>
          rw [List.intercalate_cons_cons, List.filter_append, List.filter_append, ih]
          exact List.intercalate_cons_cons.symm

lemma fields_line (hword : isField word) (hoperands : ∀ text ∈ operands, isField text)
    (hne : operands ≠ []) : fields (line word operands) = word :: operands := by
  have hfields : ∀ text ∈ word :: operands, isField text :=
    List.forall_mem_cons.2 ⟨hword, hoperands⟩
  have hplain {text : String} (h : isField text) :
      text.toList.filter (· ≠ ',') = text.toList := by
    rw [List.filter_eq_self]
    intro c hc
    simpa using (isField_iff.1 h c hc).2
  have hmap : (operands.map String.toList).map (List.filter (· ≠ ',')) =
      operands.map String.toList := by
    rw [List.map_map]
    exact List.map_congr_left fun text htext => hplain (hoperands text htext)
  have htext : (line word operands).toList.filter (· ≠ ',') =
      [' '].intercalate ((word :: operands).map String.toList) := by
    obtain ⟨text, rest, rfl⟩ := List.exists_cons_of_ne_nil hne
    rw [line, String.toList_append, String.toList_append, String.toList_intercalate,
      List.filter_append, List.filter_append, hplain hword, filter_intercalate, hmap]
    exact List.intercalate_cons_cons.symm
  have hblank : ∀ cs ∈ (word :: operands).map String.toList, ' ' ∉ cs := by
    intro cs hcs hmem
    obtain ⟨text, htext, rfl⟩ := List.mem_map.1 hcs
    exact (isField_iff.1 (hfields text htext) _ hmem).1 rfl
  rw [fields, htext, List.splitOn_intercalate _ hblank (by simp), List.map_map]
  simp

/-! ### Operands -/

/-- A number as a nibble, if it is one. -/
def ofDigit? (d : Nat) : Option (Fin 16) := if h : d < 16 then some ⟨d, h⟩ else none

/-- The register that an operand names. -/
def register? (text : String) : Option Register :=
  match text.toList with
  | ['V', c] => (Hex.value? c).bind ofDigit?
  | _ => none

/-- The nibble that an operand stands for. -/
def nibble? (text : String) : Option (Fin 16) := (Hex.number? 1 text).bind ofDigit?

/-- The byte that an operand stands for. -/
def byte? (text : String) : Option UInt8 := (Hex.number? 2 text).map .ofNat

/-- The address that an operand stands for. -/
def address? (text : String) : Option Address := (Hex.number? 3 text).map .ofNat

/-- The word that an operand stands for. -/
def word? (text : String) : Option UInt16 := (Hex.number? 4 text).map .ofNat

lemma ofDigit?_val (n : Fin 16) : ofDigit? n = some n := dif_pos n.isLt

lemma toList_register (x : Register) : x.text.toList = ['V', Hex.digit x] := by
  rw [Register.text, String.toList_append, Hex.toList_upper (k := 1) x.isLt]
  simp [Hex.fixed, Nat.mod_eq_of_lt x.isLt]

lemma register?_text (x : Register) : register? x.text = some x := by
  simp [register?, toList_register, Hex.value?_digit x.isLt, ofDigit?_val]

/-- The name of a register is no byte. -/
lemma byte?_text (x : Register) : byte? x.text = none := by
  simp [byte?, Hex.number?, toList_register, Hex.read?, Hex.value?]

lemma nibble?_upper (n : Fin 16) : nibble? (Hex.upper 1 n) = some n := by
  rw [nibble?, Hex.number?_upper (k := 1) n.isLt, Option.bind_some, ofDigit?_val]

lemma byte?_byteText (kk : UInt8) : byte? (byteText kk) = some kk := by
  rw [byte?, byteText, Hex.number?_upper (k := 2) kk.toNat_lt, Option.map_some, UInt8.ofNat_toNat]

lemma address?_addressText (nnn : Address) : address? (addressText nnn) = some nnn := by
  rw [address?, addressText, Hex.number?_upper nnn.isLt, Option.map_some]
  exact congrArg some (Fin.ext (Nat.mod_eq_of_lt nnn.isLt))

lemma word?_upper (w : UInt16) : word? (Hex.upper 4 w.toNat) = some w := by
  rw [word?, Hex.number?_upper (k := 4) w.toNat_lt, Option.map_some, UInt16.ofNat_toNat]

/-- The digits of a number are a field. -/
@[simp] lemma isField_upper (k n : Nat) : isField (Hex.upper k n) := by
  refine isField_iff.2 fun c hc => ?_
  rw [Hex.upper, String.toList_ofList] at hc
  obtain ⟨d, hd, rfl⟩ := Hex.exists_digit_of_mem_fixed hc
  simp [Hex.digit_eq_iff hd, Hex.value?]

@[simp] lemma isField_byteText (kk : UInt8) : isField (byteText kk) := isField_upper 2 kk.toNat

@[simp] lemma isField_addressText (nnn : Address) : isField (addressText nnn) := isField_upper 3 nnn

@[simp] lemma isField_text (x : Register) : isField x.text := by
  have hdigit := isField_upper 1 x
  rw [isField] at hdigit ⊢
  rw [Register.text, String.toList_append, List.all_append, hdigit]
  rfl

/-! ### Reading a line -/

/-- The words that stand alone. -/
def alone : List (String × Instruction) := [("CLS", clearScreen), ("RET", ret)]

/-- The words that go with an address. -/
def onAddress : List (String × (Address → Instruction)) :=
  [("SYS", system), ("JP", jump), ("CALL", call)]

/-- The words that go with a register. -/
def onRegister : List (String × (Register → Instruction)) :=
  [("SHR", shift .right), ("SHL", shift .left), ("SKP", skipIfPressed), ("SKNP", skipUnlessPressed)]

/-- The words that go with a register and a byte. -/
def onByte : List (String × (Register → UInt8 → Instruction)) :=
  [("SE", skipIfByte), ("SNE", skipUnlessByte), ("LD", loadByte), ("ADD", addByte), ("RND", random)]

/-- The words that go with two registers. -/
def onPair : List (String × (Register → Register → Instruction)) :=
  [("SE", skipIfSame), ("SNE", skipUnlessSame), ("LD", arith .load), ("OR", arith .or),
    ("AND", arith .and), ("XOR", arith .xor), ("ADD", arith .add), ("SUB", arith .sub),
    ("SUBN", arith .subFrom)]

/-- The words that go with a register and, behind it, a name. -/
def onSource : List ((String × String) × (Register → Instruction)) :=
  [(("LD", "DT"), readDelay), (("LD", "K"), awaitKey), (("LD", "[I]"), loadRegisters)]

/-- The words that go with a name and, behind it, an address. -/
def onTargetAddress : List ((String × String) × (Address → Instruction)) :=
  [(("LD", "I"), loadIndex), (("JP", "V0"), jumpPlus)]

/-- The words that go with a name and, behind it, a register. -/
def onTarget : List ((String × String) × (Register → Instruction)) :=
  [(("LD", "DT"), setDelay), (("LD", "ST"), setSound), (("LD", "F"), loadGlyph),
    (("LD", "B"), storeDecimal), (("LD", "[I]"), storeRegisters), (("ADD", "I"), addIndex)]

/-- The instruction of a word and its operands. -/
def ofFields? : List String → Option Instruction
  | [word] => alone.lookup word
  | [word, a] =>
      (do return (← onAddress.lookup word) (← address? a)) <|>
      (do return (← onRegister.lookup word) (← register? a)) <|>
      if word = "???" then (word? a).map unknown else none
  | [word, a, b] =>
      (do return (← onByte.lookup word) (← register? a) (← byte? b)) <|>
      (do return (← onPair.lookup word) (← register? a) (← register? b)) <|>
      (do let x ← register? a; return (← onSource.lookup (word, b)) x) <|>
      (do return (← onTargetAddress.lookup (word, a)) (← address? b)) <|>
      (do return (← onTarget.lookup (word, a)) (← register? b))
  | [word, a, b, n] =>
      if word = "DRW" then do return draw (← register? a) (← register? b) (← nibble? n) else none
  | _ => none

/-- The instruction that a line stands for. -/
def read? (text : String) : Option Instruction := ofFields? (fields text)

lemma read?_line (hword : isField word) (hoperands : ∀ text ∈ operands, isField text)
    (hne : operands ≠ []) : read? (line word operands) = ofFields? (word :: operands) := by
  rw [read?, fields_line hword hoperands hne]

/-- The line of an instruction stands for it. -/
theorem read?_mnemonic (i : Instruction) : read? i.mnemonic = some i := by
  cases i with
  | clearScreen | ret => rfl
  | system nnn | jump nnn | call nnn =>
      rw [mnemonic, read?_line rfl (by simp) (by simp)]
      simp only [ofFields?, address?_addressText]
      rfl
  | skipIfByte x kk | skipUnlessByte x kk | loadByte x kk | addByte x kk | random x kk =>
      rw [mnemonic, read?_line rfl (by simp) (by simp)]
      simp only [ofFields?, register?_text, byte?_byteText]
      rfl
  | skipIfSame x y | skipUnlessSame x y =>
      rw [mnemonic, read?_line rfl (by simp) (by simp)]
      simp only [ofFields?, register?_text, byte?_text]
      rfl
  | arith op x y =>
      cases op <;>
        rw [mnemonic, read?_line rfl (by simp) (by simp)] <;>
        simp only [ofFields?, register?_text, byte?_text] <;>
        rfl
  | shift op x =>
      cases op <;>
        rw [mnemonic, read?_line rfl (by simp) (by simp)] <;>
        simp only [ofFields?, register?_text] <;>
        rfl
  | skipIfPressed x | skipUnlessPressed x =>
      rw [mnemonic, read?_line rfl (by simp) (by simp)]
      simp only [ofFields?, register?_text]
      rfl
  | loadIndex nnn | jumpPlus nnn =>
      rw [mnemonic, read?_line rfl (by simp +decide) (by simp)]
      simp only [ofFields?, address?_addressText]
      rfl
  | draw x y n =>
      rw [mnemonic, read?_line rfl (by simp) (by simp)]
      simp only [ofFields?, register?_text, nibble?_upper]
      rfl
  | setDelay x | setSound x | addIndex x | loadGlyph x | storeDecimal x | storeRegisters x =>
      rw [mnemonic, read?_line rfl (by simp +decide) (by simp)]
      simp only [ofFields?, register?_text]
      rfl
  | readDelay x | awaitKey x | loadRegisters x =>
      rw [mnemonic, read?_line rfl (by simp +decide) (by simp)]
      simp only [ofFields?, register?_text]
      rfl
  | unknown w =>
      rw [mnemonic, read?_line rfl (by simp) (by simp)]
      simp only [ofFields?, word?_upper]
      rfl

/-- Instructions with one line are one. -/
lemma mnemonic_inj {i j : Instruction} : i.mnemonic = j.mnemonic ↔ i = j := by
  refine ⟨fun h => Option.some.inj ?_, congrArg mnemonic⟩
  rw [← read?_mnemonic i, ← read?_mnemonic j, h]

/-! ### What decoding accepts -/

/-- **Decoding accepts the documented forms and loses nothing.** A word is unknown if and only if it
fits none of the forms. The operation of a word, by masks and shifts, has its operands in range, and
the operations in range are those of instructions. The word of what a word means is that word, but
for the unused nibble of a shift, which it clears. The word of an instruction means that
instruction; this leaves out unknown words and the routines of the host computer whose words clear
the screen and return. Two words have one assembly line if and only if they mean one instruction. -/
theorem decode_exact :
    (∀ w v, decode w = unknown v ↔ v = w ∧ ∀ form ∈ forms, ¬ Fits form w) ∧
    (∀ w, Words.Operation.decode w = .ofInstruction (decode w) ∧
      (Words.Operation.decode w).InRange) ∧
    (∀ op : Words.Operation, op.InRange ↔ ∃ i, .ofInstruction i = op) ∧
    (∀ w, encode (decode w) = if Fits "8xy6" w ∨ Fits "8xyE" w then w &&& 0xFF0F else w) ∧
    (∀ i, (∀ v, i ≠ unknown v) → i ≠ system 0x0E0 → i ≠ system 0x0EE → decode (encode i) = i) ∧
    ∀ v w, (decode v).mnemonic = (decode w).mnemonic ↔ decode v = decode w := by
  refine ⟨fun w v => decode_eq_unknown_iff, fun w => ?_, fun op => Words.Operation.inRange_iff,
    encode_decode, fun i => decode_encode, fun v w => mnemonic_inj⟩
  exact ⟨Words.Operation.decode_eq w, Words.Operation.inRange_decode w⟩

/-- The word of a shift comes back with its unused nibble cleared, that of a drawing as it was. -/
theorem decode_exact_shift :
    encode (decode 0x8126) = 0x8106 ∧ decode (encode (draw 1 2 5)) = draw 1 2 5 := by
  obtain ⟨-, -, -, hencode, hdecode, -⟩ := decode_exact
  exact ⟨(hencode 0x8126).trans (by decide),
    hdecode (draw 1 2 5) (fun _ => Instruction.noConfusion) (by decide) (by decide)⟩

end Instruction

end CosmacVip
