import CosmacVip.Memory
import CosmacVip.Text.Hex
import CosmacVip.Text.Record

/-!
What can go wrong in the machine.

* `Fault.message`: the sentence that is shown;
* `Fault.diagnostic`: the name and the fields;
* `Fault.recoverable`: whether the machine can go on.
-/

namespace CosmacVip

/-- A reason for which the machine refuses a program or an instruction. -/
inductive Fault where
  /-- The program has more bytes than memory has room for. -/
  | programTooLarge (size : Nat)
  /-- The word at the address is no instruction. -/
  | unknownWord (word : UInt16) (address : Nat)
  /-- The call at the address finds all frames in use. -/
  | stackOverflow (address : Nat)
  /-- The return at the address finds no frame. -/
  | stackUnderflow (address : Nat)
  /-- A text could not be written. -/
  | unwritable
deriving DecidableEq, Repr

namespace Fault

/-- Whether the machine can go on after the fault: only a word that is no instruction is passed over. -/
def recoverable : Fault → Bool
  | unknownWord _ _ => true
  | _ => false

/-- An address with at least three digits, as faults show it. -/
def addressText (address : Nat) : String := "0x" ++ Hex.upper 3 address

/-- The sentence that is shown. -/
def message : Fault → String
  | programTooLarge size =>
    "program too large for VM memory: " ++ size.repr ++ " bytes, maximum is "
      ++ Memory.programCapacity.repr
  | unknownWord word address =>
    "unknown opcode " ++ Hex.upper 4 word.toNat ++ " at " ++ addressText address
  | stackOverflow address => "call stack overflow at " ++ addressText address
  | stackUnderflow address => "call stack underflow at " ++ addressText address
  | unwritable => "an error occurred when formatting an argument"

/-- The name of the fault. -/
def name : Fault → String
  | programTooLarge _ => "ProgramTooLarge"
  | unknownWord _ _ => "UnknownOpcode"
  | stackOverflow _ => "StackOverflow"
  | stackUnderflow _ => "StackUnderflow"
  | unwritable => "Fmt"

/-- The name and the fields of the fault. -/
def diagnostic : Fault → String
  | f@(programTooLarge size) => Record.ofNats f.name [("size", size)]
  | f@(unknownWord word address) =>
    Record.ofNats f.name [("opcode", word.toNat), ("address", address)]
  | f@(stackOverflow address) => Record.ofNats f.name [("address", address)]
  | f@(stackUnderflow address) => Record.ofNats f.name [("address", address)]
  | f@unwritable => Record.wrapped f.name "Error"

end Fault

end CosmacVip
