import CosmacVip.Instruction
import CosmacVip.Text.Hex
import CosmacVip.Text.Record

/-!
The two texts of an instruction.

* `Instruction.mnemonic`: its assembly line, with hexadecimal operands;
* `Instruction.diagnostic`: its name and fields, with decimal operands.
-/

namespace CosmacVip

namespace Register

/-- The assembly name of a register. -/
def text (x : Register) : String := "V" ++ Hex.upper 1 x.val

end Register

namespace Arith

/-- The assembly word of an operation. -/
def mnemonic : Arith → String
  | load => "LD"
  | or => "OR"
  | and => "AND"
  | xor => "XOR"
  | add => "ADD"
  | sub => "SUB"
  | subFrom => "SUBN"

/-- The name of an operation in diagnostics. -/
def name : Arith → String
  | load => "Load_Vx_Vy"
  | or => "Or_Vx_Vy"
  | and => "And_Vx_Vy"
  | xor => "Xor_Vx_Vy"
  | add => "Add_Vx_Vy"
  | sub => "Sub_Vx_Vy"
  | subFrom => "SubReverse_Vx_Vy"

end Arith

namespace Shift

/-- The assembly word of a shift. -/
def mnemonic : Shift → String
  | right => "SHR"
  | left => "SHL"

/-- The name of a shift in diagnostics. -/
def name : Shift → String
  | right => "ShiftRight"
  | left => "ShiftLeft"

end Shift

namespace Instruction

/-- An assembly line: a word, a blank, and the operands with commas between them. -/
def line (word : String) (operands : List String) : String :=
  word ++ " " ++ ", ".intercalate operands

/-- An address as an operand. -/
def addressText (a : Address) : String := Hex.upper 3 a.val

/-- A byte as an operand. -/
def byteText (b : UInt8) : String := Hex.upper 2 b.toNat

/-- The assembly line of an instruction. -/
def mnemonic : Instruction → String
  | clearScreen => "CLS"
  | ret => "RET"
  | system nnn => line "SYS" [addressText nnn]
  | jump nnn => line "JP" [addressText nnn]
  | call nnn => line "CALL" [addressText nnn]
  | skipIfByte x kk => line "SE" [Register.text x, byteText kk]
  | skipUnlessByte x kk => line "SNE" [Register.text x, byteText kk]
  | skipIfSame x y => line "SE" [Register.text x, Register.text y]
  | loadByte x kk => line "LD" [Register.text x, byteText kk]
  | addByte x kk => line "ADD" [Register.text x, byteText kk]
  | arith op x y => line op.mnemonic [Register.text x, Register.text y]
  | shift op x => line op.mnemonic [Register.text x]
  | skipUnlessSame x y => line "SNE" [Register.text x, Register.text y]
  | loadIndex nnn => line "LD" ["I", addressText nnn]
  | jumpPlus nnn => line "JP" ["V0", addressText nnn]
  | random x kk => line "RND" [Register.text x, byteText kk]
  | draw x y n => line "DRW" [Register.text x, Register.text y, Hex.upper 1 n.val]
  | skipIfPressed x => line "SKP" [Register.text x]
  | skipUnlessPressed x => line "SKNP" [Register.text x]
  | readDelay x => line "LD" [Register.text x, "DT"]
  | awaitKey x => line "LD" [Register.text x, "K"]
  | setDelay x => line "LD" ["DT", Register.text x]
  | setSound x => line "LD" ["ST", Register.text x]
  | addIndex x => line "ADD" ["I", Register.text x]
  | loadGlyph x => line "LD" ["F", Register.text x]
  | storeDecimal x => line "LD" ["B", Register.text x]
  | storeRegisters x => line "LD" ["[I]", Register.text x]
  | loadRegisters x => line "LD" [Register.text x, "[I]"]
  | unknown word => line "???" [Hex.upper 4 word.toNat]

/-- The diagnostic text of an instruction that names an address. -/
def withAddress (name : String) (nnn : Address) : String :=
  Record.ofNats name [("address", nnn.val)]

/-- The diagnostic text of an instruction that names one register. -/
def withRegister (name : String) (x : Register) : String :=
  Record.ofNats name [("vx", x.val)]

/-- The diagnostic text of an instruction that names two registers. -/
def withPair (name : String) (x y : Register) : String :=
  Record.ofNats name [("vx", x.val), ("vy", y.val)]

/-- The diagnostic text of an instruction that names a register and a byte. -/
def withByte (name : String) (x : Register) (kk : UInt8) : String :=
  Record.ofNats name [("vx", x.val), ("kk", kk.toNat)]

/-- The name and the fields of an instruction. -/
def diagnostic : Instruction → String
  | clearScreen => "ClearScreen"
  | ret => "Return"
  | system nnn => withAddress "System" nnn
  | jump nnn => withAddress "Jump" nnn
  | call nnn => withAddress "Call" nnn
  | skipIfByte x kk => withByte "Skip_Eq_Byte" x kk
  | skipUnlessByte x kk => withByte "Skip_NotEq_Byte" x kk
  | skipIfSame x y => withPair "Skip_Eq" x y
  | loadByte x kk => withByte "Load_Byte" x kk
  | addByte x kk => withByte "Add_Byte" x kk
  | arith op x y => withPair op.name x y
  | shift op x => withRegister op.name x
  | skipUnlessSame x y => withPair "Skip_NotEq" x y
  | loadIndex nnn => withAddress "Load_Address" nnn
  | jumpPlus nnn => withAddress "Jump_V0" nnn
  | random x kk => withByte "Random" x kk
  | draw x y n => Record.ofNats "Draw" [("vx", x.val), ("vy", y.val), ("n", n.val)]
  | skipIfPressed x => withRegister "Skip_Pressed" x
  | skipUnlessPressed x => withRegister "Skip_NotPressed" x
  | readDelay x => withRegister "Load_Vx_Delay" x
  | awaitKey x => withRegister "Load_Vx_Key" x
  | setDelay x => withRegister "Load_Delay_Vx" x
  | setSound x => withRegister "Load_Sound_Vx" x
  | addIndex x => withRegister "Add_Address_Vx" x
  | loadGlyph x => withRegister "Load_Font_Vx" x
  | storeDecimal x => withRegister "Load_Bcd_Vx" x
  | storeRegisters x => withRegister "Store_Registers" x
  | loadRegisters x => withRegister "Load_Registers" x
  | unknown word => Record.ofNats "Unknown" [("opcode", word.toNat)]

end Instruction

end CosmacVip
