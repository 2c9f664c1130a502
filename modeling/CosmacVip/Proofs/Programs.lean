import CosmacVip.Proofs.Calls

/-!
Programs in memory.

* `Memory.read_withProgram`, `Memory.read_program`: what stands where;
* `Machine.loadOrKeep_of_le`: a program that has room starts a machine like a new one;
* `Machine.step_program`, `Machine.step_fresh`: the step of a machine at a word of its program.
-/

namespace CosmacVip

namespace Memory

/-- The program memory does not wrap. -/
lemma val_offset_programStart {k : Nat} (hk : k < programCapacity) :
    (Address.programStart.offset k).val = 0x200 + k := by
  simp only [programCapacity] at hk
  simp only [Address.val_offset, Address.programStart, Address.val_ofNat]
  omega

lemma read_withProgram (program : Array UInt8) (a : Address) :
    (withProgram program).read a =
      if h : a.val < 80 then font[a.val]
      else if a.val < 0x200 then 0
      else program[a.val - 0x200]?.getD 0 := by
  rw [read, withProgram, Fin.getElem_fin, Vector.getElem_ofFn]

/-- The bytes of a program stand one after the other from the program's start on. -/
lemma read_program (program : Array UInt8) {k : Nat} (hk : k < programCapacity) :
    (withProgram program).read (Address.programStart.offset k) = program[k]?.getD 0 := by
  rw [read_withProgram, val_offset_programStart hk, dif_neg (by omega), if_neg (by omega),
    Nat.add_sub_cancel_left]

end Memory

namespace Machine

variable {size : Display.Size}

lemma loadOrKeep_of_le (m : Machine size) {program : Array UInt8}
    (h : program.size ≤ Memory.programCapacity) :
    m.loadOrKeep program = .fresh size (Memory.withProgram program) m.random := by
  rw [loadOrKeep, load, if_pos h]

lemma loadOrKeep_of_lt (m : Machine size) {program : Array UInt8}
    (h : Memory.programCapacity < program.size) : m.loadOrKeep program = m := by
  rw [loadOrKeep, load, if_neg (by omega)]

/-- A machine with its program counter in its program is at a word of it. -/
lemma word_program {m : Machine size} (program : Array UInt8) (k : Nat) {w : UInt16}
    (hmemory : m.memory = Memory.withProgram program)
    (hpc : m.pc = Address.programStart.offset k) (hk : k + 1 < Memory.programCapacity)
    (hw : UInt16.ofNat ((program[k]?.getD 0).toNat * 256 + (program[k + 1]?.getD 0).toNat) = w) :
    m.word = w := by
  rw [word, hmemory, hpc, Address.offset_offset, Memory.read_program _ (by omega),
    Memory.read_program _ hk, hw]

/-- A running machine at a word of its program that is not zero executes that word. -/
lemma step_program {m : Machine size} (program : Array UInt8) (k : Nat) {w : UInt16}
    (hmemory : m.memory = Memory.withProgram program) (hmode : m.mode = .running)
    (hpc : m.pc = Address.programStart.offset k) (hk : k + 1 < Memory.programCapacity)
    (hw : UInt16.ofNat ((program[k]?.getD 0).toNat * 256 + (program[k + 1]?.getD 0).toNat) = w)
    (h : w ≠ 0) : m.step = m.execute (.decode w) := by
  have hword : m.word = w := word_program program k hmemory hpc hk hw
  rw [step, hmode]
  show (if m.word = 0 then _ else m.execute (.decode m.word)) = _
  rw [hword, if_neg h]

/-- A machine begins with the first word of its program. -/
lemma step_fresh (program : Array UInt8) (random : RandomStream) {w : UInt16}
    (hw : UInt16.ofNat ((program[0]?.getD 0).toNat * 256 + (program[1]?.getD 0).toNat) = w)
    (h : w ≠ 0) :
    (fresh size (Memory.withProgram program) random).step =
      (fresh size (Memory.withProgram program) random).execute (.decode w) :=
  step_program program 0 rfl rfl (Address.offset_zero _).symm (by decide) hw h

end Machine

end CosmacVip
