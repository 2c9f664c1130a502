import CosmacVip.Proofs.Programs
import CosmacVip.Proofs.Words.Host

/-!
What a program finds when it is loaded.

* `Memory.read_store`: the cells after bytes are stored that do not reach past the end of memory;
* `Memory.withProgram_eq_store`, `Memory.toList_withProgram`: the memory that a program starts in;
* `Machine.load_forgets`: two machines of one size, whatever they have done, are the same after
  they load a program that has room, but for their random streams, and neither is changed by one
  that has none.

The machine in words clears itself field by field, so that a field left out would be seen there.
-/

namespace CosmacVip

namespace Memory

/-- Stored bytes are found where they were stored, and the other cells are as they were. -/
lemma read_store (mem : Memory) {a : Address} {bytes : List UInt8} (h : a.val + bytes.length ≤ 4096)
    (c : Address) :
    (mem.store a bytes).read c =
      if a.val ≤ c.val then bytes[c.val - a.val]?.getD (mem.read c) else mem.read c := by
  by_cases hin : a.val ≤ c.val ∧ c.val - a.val < bytes.length
  · obtain ⟨hle, hlt⟩ := hin
    have hc : a.offset (c.val - a.val) = c := by
      apply Fin.ext
      rw [Address.val_offset]
      omega
    have hread := read_store_offset mem (a := a) (by omega) hlt
    rw [hc] at hread
    rw [if_pos hle, hread, List.getElem?_eq_getElem hlt, Option.getD_some]
  · have hne : ∀ k < bytes.length, c ≠ a.offset k := by
      intro k hk hc
      have hval := congrArg Fin.val hc
      rw [Address.val_offset, Nat.mod_eq_of_lt (by omega)] at hval
      omega
    rw [read_store_of_ne mem hne]
    split
    · rw [List.getElem?_eq_none (by omega), Option.getD_none]
    · rfl

/-- A program that has room is stored over the memory of a machine without one. -/
lemma withProgram_eq_store {program : Array UInt8} (h : program.size ≤ programCapacity) :
    withProgram program = initial.store .programStart program.toList := by
  apply Vector.ext
  intro i hi
  have hstart : Address.programStart.val = 0x200 := rfl
  have hroom : Address.programStart.val + program.toList.length ≤ 4096 := by
    simp only [programCapacity] at h
    rw [Array.length_toList, hstart]
    omega
  have hread := read_store initial hroom ⟨i, hi⟩
  rw [hstart] at hread
  show (withProgram program).read ⟨i, hi⟩ = (initial.store .programStart program.toList).read ⟨i, hi⟩
  rw [hread, initial, read_withProgram, read_withProgram]
  by_cases hp : 0x200 ≤ i
  · have : ¬ i < 80 := by omega
    have : ¬ i < 0x200 := by omega
    simp [*]
  · have : i < 0x200 := by omega
    simp [*]

/-- The font, zeros up to the program, the program, and zeros to the end. -/
lemma toList_withProgram {program : Array UInt8} (h : program.size ≤ programCapacity) :
    (withProgram program).toList =
      font.toList ++ List.replicate (0x200 - 80) 0 ++ program.toList ++
        List.replicate (programCapacity - program.size) 0 := by
  have hsize : program.size ≤ 4096 - 0x200 := h
  apply List.ext_getElem
  · simp only [Vector.length_toList, List.length_append, List.length_replicate,
      Array.length_toList, programCapacity]
    omega
  · intro i hi _
    rw [Vector.length_toList] at hi
    simp only [List.getElem_append, Vector.getElem_toList, withProgram, Vector.getElem_ofFn,
      List.length_append, List.length_replicate, Vector.length_toList, Array.length_toList,
      List.getElem_replicate, Array.getElem_toList, Nat.reduceSub, Nat.reduceAdd]
    by_cases hfont : i < 80
    · rw [dif_pos hfont, dif_pos (by omega), dif_pos (by omega), dif_pos hfont]
    · rw [dif_neg hfont]
      by_cases hzero : i < 0x200
      · rw [if_pos hzero, dif_pos (by omega), dif_pos (by omega), dif_neg hfont]
      · rw [if_neg hzero]
        by_cases hprogram : i - 0x200 < program.size
        · rw [dif_pos (by omega), dif_neg (by omega), Array.getElem?_eq_getElem hprogram,
            Option.getD_some]
        · rw [dif_neg (by omega), Array.getElem?_eq_none (Nat.not_lt.1 hprogram), Option.getD_none]

end Memory

namespace Machine

open Words.State (ofMachine)

/-- **Nothing of a program is left to the next one.** Two machines of one size, whatever they did
before, come to the same machine when they load a program that has room: a new one with the program
in its place, and with nothing but its random stream left of the old one. A program that has no room
is refused with its size, and nothing is changed. The machine in words, which is cleared field by
field, does the same. -/
theorem load_forgets (c : Config) (entropy : ChaCha.Key) (m₁ m₂ : Machine c.displaySize)
    (program : Array UInt8) :
    if program.size ≤ Memory.programCapacity then
      ∃ n₁ n₂ : Machine c.displaySize,
        m₁.load program = .ok n₁ ∧ m₂.load program = .ok n₂ ∧
        n₁ = { ofConfig c entropy with
          memory := Memory.initial.store .programStart program.toList
          random := m₁.random } ∧
        n₂ = { n₁ with random := m₂.random } ∧
        n₁.memory.toList = Memory.font.toList ++ List.replicate (0x200 - 80) 0 ++ program.toList ++
          List.replicate (Memory.programCapacity - program.size) 0 ∧
        (ofMachine m₁).load program = pure (.ok (), ofMachine n₁) ∧
        (ofMachine m₂).load program = pure (.ok (), ofMachine n₂)
    else
      m₁.load program = .error (.programTooLarge program.size) ∧
        m₁.loadOrKeep program = m₁ ∧
        (ofMachine m₁).load program =
          pure (.error (.programTooLarge program.size), ofMachine m₁) := by
  split
  case isTrue h =>
    have hload (m : Machine c.displaySize) :
        m.load program = .ok (fresh c.displaySize (Memory.withProgram program) m.random) := if_pos h
    have hwords (m : Machine c.displaySize) :
        (ofMachine m).load program =
          pure (.ok (), ofMachine (fresh c.displaySize (Memory.withProgram program) m.random)) := by
      rw [Words.State.load_ofMachine, hload]
    refine ⟨_, _, hload m₁, hload m₂, ?_, rfl, Memory.toList_withProgram h, hwords m₁, hwords m₂⟩
    rw [Memory.withProgram_eq_store h]
    rfl
  case isFalse h =>
    have hload : m₁.load program = .error (.programTooLarge program.size) := if_neg h
    refine ⟨hload, loadOrKeep_of_lt m₁ (by omega), ?_⟩
    rw [Words.State.load_ofMachine, hload]

end Machine

end CosmacVip
