import CosmacVip.Address

/-!
The instruction set: what each 16-bit word means, and which word each instruction is.

* `Instruction.decode`: the meaning of a word; a word of no known form means `unknown`;
* `Instruction.encode`: the word of an instruction.

In the forms below `x` and `y` are register numbers, `n` a nibble, `kk` a byte and `nnn` an address.
-/

namespace CosmacVip

/-- The number of a register. -/
abbrev Register := Fin 16

/-- The register that receives carries, borrows and collisions. -/
def flagRegister : Register := 0xF

/-- The register that a computed jump adds. -/
def offsetRegister : Register := 0x0

/-- What an instruction of the form `8xyn` combines its two registers with. -/
inductive Arith where
  /-- `8xy0` -/
  | load
  /-- `8xy1` -/
  | or
  /-- `8xy2` -/
  | and
  /-- `8xy3` -/
  | xor
  /-- `8xy4` -/
  | add
  /-- `8xy5` -/
  | sub
  /-- `8xy7`, the second register less the first -/
  | subFrom
deriving DecidableEq, Repr

/-- The direction of a shift by one bit. -/
inductive Shift where
  /-- `8xy6` -/
  | right
  /-- `8xyE` -/
  | left
deriving DecidableEq, Repr

/-- One instruction. -/
inductive Instruction where
  /-- `00E0` -/
  | clearScreen
  /-- `00EE` -/
  | ret
  /-- `0nnn`: a routine of the host computer, ignored -/
  | system (target : Address)
  /-- `1nnn` -/
  | jump (target : Address)
  /-- `2nnn` -/
  | call (target : Address)
  /-- `3xkk` -/
  | skipIfByte (x : Register) (kk : UInt8)
  /-- `4xkk` -/
  | skipUnlessByte (x : Register) (kk : UInt8)
  /-- `5xy0` -/
  | skipIfSame (x y : Register)
  /-- `6xkk` -/
  | loadByte (x : Register) (kk : UInt8)
  /-- `7xkk` -/
  | addByte (x : Register) (kk : UInt8)
  /-- `8xy0` to `8xy5`, `8xy7` -/
  | arith (op : Arith) (x y : Register)
  /-- `8xy6`, `8xyE` -/
  | shift (op : Shift) (x : Register)
  /-- `9xy0` -/
  | skipUnlessSame (x y : Register)
  /-- `Annn` -/
  | loadIndex (target : Address)
  /-- `Bnnn` -/
  | jumpPlus (target : Address)
  /-- `Cxkk` -/
  | random (x : Register) (kk : UInt8)
  /-- `Dxyn` -/
  | draw (x y : Register) (n : Fin 16)
  /-- `Ex9E` -/
  | skipIfPressed (x : Register)
  /-- `ExA1` -/
  | skipUnlessPressed (x : Register)
  /-- `Fx07` -/
  | readDelay (x : Register)
  /-- `Fx0A` -/
  | awaitKey (x : Register)
  /-- `Fx15` -/
  | setDelay (x : Register)
  /-- `Fx18` -/
  | setSound (x : Register)
  /-- `Fx1E` -/
  | addIndex (x : Register)
  /-- `Fx29` -/
  | loadGlyph (x : Register)
  /-- `Fx33` -/
  | storeDecimal (x : Register)
  /-- `Fx55` -/
  | storeRegisters (x : Register)
  /-- `Fx65` -/
  | loadRegisters (x : Register)
  /-- A word of none of the other forms -/
  | unknown (word : UInt16)
deriving DecidableEq, Repr

namespace Arith

/-- The last nibble of the instruction. -/
def code : Arith → Nat
  | load => 0x0
  | or => 0x1
  | and => 0x2
  | xor => 0x3
  | add => 0x4
  | sub => 0x5
  | subFrom => 0x7

end Arith

namespace Shift

/-- The last nibble of the instruction. -/
def code : Shift → Nat
  | right => 0x6
  | left => 0xE

end Shift

namespace Instruction

/-! ### Decoding -/

/-- The meaning of a word whose first nibble is 0. -/
def decodeSystem (nnn : Address) : Instruction :=
  if nnn.val = 0x0E0 then clearScreen
  else if nnn.val = 0x0EE then ret
  else system nnn

/-- The meaning of a word whose first nibble is 8. -/
def decodeArith (word : UInt16) (x y : Register) : Nat → Instruction
  | 0x0 => arith .load x y
  | 0x1 => arith .or x y
  | 0x2 => arith .and x y
  | 0x3 => arith .xor x y
  | 0x4 => arith .add x y
  | 0x5 => arith .sub x y
  | 0x6 => shift .right x
  | 0x7 => arith .subFrom x y
  | 0xE => shift .left x
  | _ => unknown word

/-- The meaning of a word whose first nibble is E. -/
def decodePressed (word : UInt16) (x : Register) (kk : Nat) : Instruction :=
  if kk = 0x9E then skipIfPressed x
  else if kk = 0xA1 then skipUnlessPressed x
  else unknown word

/-- The meaning of a word whose first nibble is F. -/
def decodeDevice (word : UInt16) (x : Register) (kk : Nat) : Instruction :=
  if kk = 0x07 then readDelay x
  else if kk = 0x0A then awaitKey x
  else if kk = 0x15 then setDelay x
  else if kk = 0x18 then setSound x
  else if kk = 0x1E then addIndex x
  else if kk = 0x29 then loadGlyph x
  else if kk = 0x33 then storeDecimal x
  else if kk = 0x55 then storeRegisters x
  else if kk = 0x65 then loadRegisters x
  else unknown word

/-- The meaning of a word. -/
def decode (word : UInt16) : Instruction :=
  let w := word.toNat
  let x := Fin.ofNat 16 (w / 256)
  let y := Fin.ofNat 16 (w / 16)
  let n := Fin.ofNat 16 w
  let kk := UInt8.ofNat w
  let nnn := Address.ofNat w
  match w / 4096 with
  | 0x0 => decodeSystem nnn
  | 0x1 => jump nnn
  | 0x2 => call nnn
  | 0x3 => skipIfByte x kk
  | 0x4 => skipUnlessByte x kk
  | 0x5 => if n = 0 then skipIfSame x y else unknown word
  | 0x6 => loadByte x kk
  | 0x7 => addByte x kk
  | 0x8 => decodeArith word x y n
  | 0x9 => if n = 0 then skipUnlessSame x y else unknown word
  | 0xA => loadIndex nnn
  | 0xB => jumpPlus nnn
  | 0xC => random x kk
  | 0xD => draw x y n
  | 0xE => decodePressed word x kk.toNat
  | _ => decodeDevice word x kk.toNat

/-! ### Encoding -/

/-- The number with first nibble `group` and the address `nnn` behind it. -/
def wordOfAddress (group : Nat) (nnn : Address) : Nat := group * 4096 + nnn.val

/-- The number with first nibble `group`, then a register, then a byte. -/
def wordOfByte (group : Nat) (x : Register) (kk : Nat) : Nat := group * 4096 + x.val * 256 + kk

/-- The number with first nibble `group`, then two registers, then a nibble. -/
def wordOfPair (group : Nat) (x y : Register) (n : Nat) : Nat :=
  group * 4096 + x.val * 256 + y.val * 16 + n

/-- The word of an instruction; the unused nibble of a shift is zero. -/
def encode : Instruction → UInt16
  | clearScreen => 0x00E0
  | ret => 0x00EE
  | system nnn => .ofNat (wordOfAddress 0x0 nnn)
  | jump nnn => .ofNat (wordOfAddress 0x1 nnn)
  | call nnn => .ofNat (wordOfAddress 0x2 nnn)
  | skipIfByte x kk => .ofNat (wordOfByte 0x3 x kk.toNat)
  | skipUnlessByte x kk => .ofNat (wordOfByte 0x4 x kk.toNat)
  | skipIfSame x y => .ofNat (wordOfPair 0x5 x y 0x0)
  | loadByte x kk => .ofNat (wordOfByte 0x6 x kk.toNat)
  | addByte x kk => .ofNat (wordOfByte 0x7 x kk.toNat)
  | arith op x y => .ofNat (wordOfPair 0x8 x y op.code)
  | shift op x => .ofNat (wordOfPair 0x8 x 0 op.code)
  | skipUnlessSame x y => .ofNat (wordOfPair 0x9 x y 0x0)
  | loadIndex nnn => .ofNat (wordOfAddress 0xA nnn)
  | jumpPlus nnn => .ofNat (wordOfAddress 0xB nnn)
  | random x kk => .ofNat (wordOfByte 0xC x kk.toNat)
  | draw x y n => .ofNat (wordOfPair 0xD x y n.val)
  | skipIfPressed x => .ofNat (wordOfByte 0xE x 0x9E)
  | skipUnlessPressed x => .ofNat (wordOfByte 0xE x 0xA1)
  | readDelay x => .ofNat (wordOfByte 0xF x 0x07)
  | awaitKey x => .ofNat (wordOfByte 0xF x 0x0A)
  | setDelay x => .ofNat (wordOfByte 0xF x 0x15)
  | setSound x => .ofNat (wordOfByte 0xF x 0x18)
  | addIndex x => .ofNat (wordOfByte 0xF x 0x1E)
  | loadGlyph x => .ofNat (wordOfByte 0xF x 0x29)
  | storeDecimal x => .ofNat (wordOfByte 0xF x 0x33)
  | storeRegisters x => .ofNat (wordOfByte 0xF x 0x55)
  | loadRegisters x => .ofNat (wordOfByte 0xF x 0x65)
  | unknown word => word

end Instruction

end CosmacVip
