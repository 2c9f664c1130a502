import CosmacVip.Address

/-!
Main memory: 4096 bytes, the font at its start and the program from `0x200` on.

* `Memory.read`, `Memory.write`: one cell;
* `Memory.slice`, `Memory.store`: consecutive cells, wrapping at the end of memory;
* `read_store_offset`, `read_store_of_ne`: stored bytes are found again, and no other cell changes;
* `Memory.withProgram`: the font, zeros, a program, zeros.
-/

namespace CosmacVip

/-- The contents of the 4096 cells. -/
abbrev Memory := Vector UInt8 4096

namespace Memory

/-- Sixteen glyphs of five rows each; the high four bits of a row are its pixels. -/
def font : Vector UInt8 80 := #v[
  0xF0, 0x90, 0x90, 0x90, 0xF0,
  0x20, 0x60, 0x20, 0x20, 0x70,
  0xF0, 0x10, 0xF0, 0x80, 0xF0,
  0xF0, 0x10, 0xF0, 0x10, 0xF0,
  0x90, 0x90, 0xF0, 0x10, 0x10,
  0xF0, 0x80, 0xF0, 0x10, 0xF0,
  0xF0, 0x80, 0xF0, 0x90, 0xF0,
  0xF0, 0x10, 0x20, 0x40, 0x40,
  0xF0, 0x90, 0xF0, 0x90, 0xF0,
  0xF0, 0x90, 0xF0, 0x10, 0xF0,
  0xF0, 0x90, 0xF0, 0x90, 0x90,
  0xE0, 0x90, 0xE0, 0x90, 0xE0,
  0xF0, 0x80, 0x80, 0x80, 0xF0,
  0xE0, 0x90, 0x90, 0x90, 0xE0,
  0xF0, 0x80, 0xF0, 0x80, 0xF0,
  0xF0, 0x80, 0xF0, 0x80, 0x80]

/-- The number of rows of a glyph. -/
def glyphHeight : Nat := 5

/-- The most bytes that a program may have. -/
def programCapacity : Nat := 4096 - 0x200

/-- The byte at an address. -/
def read (m : Memory) (a : Address) : UInt8 := m[a]

/-- The memory after one byte is written. -/
def write (m : Memory) (a : Address) (b : UInt8) : Memory := m.set a b

/-- The `count` bytes from `a` on. -/
def slice (m : Memory) (a : Address) (count : Nat) : List UInt8 :=
  (List.range count).map fun k => m.read (a.offset k)

/-- The memory after the bytes are written one after the other from `a` on. -/
def store (m : Memory) (a : Address) : List UInt8 → Memory
  | [] => m
  | b :: bytes => (m.write a b).store (a.offset 1) bytes

/-- The font at the start, then zeros up to `0x200`, the program, and zeros to the end. -/
def withProgram (program : Array UInt8) : Memory :=
  Vector.ofFn fun a =>
    if h : a.val < 80 then font[a.val]
    else if a.val < 0x200 then 0
    else program[a.val - 0x200]?.getD 0

/-- The memory of a machine without a program. -/
def initial : Memory := withProgram #[]

/-- A byte is read where it was written. -/
theorem read_write_self (m : Memory) (a : Address) (b : UInt8) : (m.write a b).read a = b := by
  simp [read, write]

/-- Writing a byte leaves the other cells alone. -/
theorem read_write_of_ne (m : Memory) {a c : Address} (b : UInt8) (h : c ≠ a) :
    (m.write a b).read c = m.read c := by
  have : a.val ≠ c.val := fun e => h (Fin.ext e.symm)
  simp [read, write, this]

/-- Storing bytes leaves the other cells alone. -/
theorem read_store_of_ne (m : Memory) {a c : Address} {bytes : List UInt8}
    (h : ∀ k < bytes.length, c ≠ a.offset k) : (m.store a bytes).read c = m.read c := by
  induction bytes generalizing m a with
  | nil => rfl
  | cons b bytes ih =>
    have hfirst : c ≠ a := by
      have := h 0 (Nat.zero_lt_succ _)
      rwa [Address.offset_zero] at this
    have hrest : ∀ k < bytes.length, c ≠ (a.offset 1).offset k := by
      intro k hk
      rw [Address.offset_offset, Nat.add_comm]
      exact h (k + 1) (Nat.succ_lt_succ hk)
    rw [store, ih _ hrest, read_write_of_ne m b hfirst]

/-- Stored bytes are found in the cells from the first one on, if these are different cells. -/
theorem read_store_offset (m : Memory) {a : Address} {bytes : List UInt8} (h : bytes.length ≤ 4096)
    {k : Nat} (hk : k < bytes.length) : (m.store a bytes).read (a.offset k) = bytes[k] := by
  induction bytes generalizing m a k with
  | nil => contradiction
  | cons b bytes ih =>
    rw [List.length_cons] at h
    cases k with
    | zero =>
      -- the other bytes would have to go once around to come back to the first cell
      have hrest : ∀ j < bytes.length, a ≠ (a.offset 1).offset j := by
        intro j hj heq
        have hval := congrArg Fin.val heq
        have := a.isLt
        rw [Address.offset_offset, Address.val_offset] at hval
        omega
      rw [Address.offset_zero, store, read_store_of_ne _ hrest, read_write_self]
      rfl
    | succ k =>
      have hnext : a.offset (k + 1) = (a.offset 1).offset k := by
        rw [Address.offset_offset, Nat.add_comm]
      rw [store, hnext, List.getElem_cons_succ]
      exact ih (m.write a b) (by omega) (Nat.lt_of_succ_lt_succ hk)

/-- A slice has as many bytes as are asked for. -/
@[simp] theorem length_slice (m : Memory) (a : Address) (count : Nat) :
    (m.slice a count).length = count := by
  simp [slice]

/-- The consecutive cells, with their numbers. -/
theorem zipIdx_slice (m : Memory) (a : Address) (count : Nat) :
    (m.slice a count).zipIdx = (List.range count).map fun k => (m.read (a.offset k), k) := by
  apply List.ext_getElem
  · simp
  · intro i hi _
    simp [slice]

end Memory

end CosmacVip
