import CosmacVip.Proofs.Words.Execution

/-!
The machine written out in words.

* `Words.State.ofMachine`: the words of a machine;
* `Words.State.Bounded`: every field is in the range that its meaning gives it;
* `Words.State.bounded_iff`: the bounded states are the machines written out.

The rest are the lemmas by which accesses to the words of a machine become accesses to the machine:
none of them is trapped.
-/

namespace CosmacVip.Words

/-- The display's cells as bytes, row by row. -/
def cellBytes {size : Display.Size} (d : Display size) : Array UInt8 := d.cells.toArray.map flagByte

namespace Mode

/-- The mode with its register in a word. -/
def ofMode : CosmacVip.Mode → Mode
  | .running => .running
  | .waiting x => .waiting (Operation.register x)

end Mode

namespace State

variable {size : Display.Size}

/-- The words of a machine. -/
def ofMachine (m : Machine size) : State where
  pc := Operation.address m.pc
  sp := .ofNat m.stack.depth
  stack := m.stack.slots.map Operation.address
  v := m.v
  index := Operation.address m.index
  delay := m.delay
  sound := m.sound
  toneOn := m.toneOn
  mode := .ofMode m.mode
  keys := .ofBitVec m.keys.bits
  memory := m.memory
  display := cellBytes m.display
  width := size.width
  height := size.height
  redraw := m.redraw
  random := m.random

/-- Every field is in range. -/
structure Bounded (w : State) : Prop where
  pc_le : w.pc ≤ 0xFFF
  index_le : w.index ≤ 0xFFF
  sp_le : w.sp ≤ 16
  stack_le : ∀ a ∈ w.stack, a ≤ 0xFFF
  register_lt : ∀ x, w.mode = .waiting x → x < 16
  width_pos : 1 ≤ w.width
  height_pos : 1 ≤ w.height
  size_display : w.display.size = w.width * w.height
  size_lt : w.display.size < wordLimit
  cell_eq : ∀ b ∈ w.display, b = 0 ∨ b = 1

/-! ### The bounded states are the machines written out -/

lemma flagByte_eq (b : Bool) : flagByte b = 0 ∨ flagByte b = 1 := by
  cases b <;> simp [flagByte]

lemma address_le (a : Address) : Operation.address a ≤ 0xFFF := by
  have := a.isLt
  rw [UInt16.le_iff_toNat_le, Operation.toNat_address]
  exact Nat.le_of_lt_succ this

@[simp] lemma size_cellBytes (d : Display size) :
    (cellBytes d).size = size.width * size.height := by
  simp [cellBytes]

lemma bounded_ofMachine (m : Machine size) (hfit : size.width * size.height < wordLimit) :
    (ofMachine m).Bounded where
  pc_le := address_le m.pc
  index_le := address_le m.index
  sp_le := by
    have := m.stack.depth.isLt
    rw [UInt8.le_iff_toNat_le, ofMachine, UInt8.toNat_ofNat']
    simp only [UInt8.reduceToNat]
    omega
  stack_le a ha := by
    obtain ⟨b, -, rfl⟩ := Vector.mem_map.1 ha
    exact address_le b
  register_lt x hx := by
    cases hm : m.mode with
    | running => simp [ofMachine, Mode.ofMode, hm] at hx
    | waiting y =>
        simp only [ofMachine, Mode.ofMode, hm, Mode.waiting.injEq] at hx
        subst hx
        rw [UInt8.lt_iff_toNat_lt, Operation.toNat_register]
        exact y.isLt
  width_pos := size.width_pos
  height_pos := size.height_pos
  size_display := size_cellBytes m.display
  size_lt := by rwa [ofMachine, size_cellBytes]
  cell_eq b hb := by
    obtain ⟨c, -, rfl⟩ := Array.mem_map.1 hb
    exact flagByte_eq c

/-- The machine that bounded words stand for. -/
def toMachine (w : State) (h : w.Bounded) :
    Machine ⟨w.width, w.height, h.width_pos, h.height_pos⟩ where
  pc := .ofNat w.pc.toNat
  stack :=
    ⟨w.stack.map fun a => .ofNat a.toNat,
      ⟨w.sp.toNat, Nat.lt_succ_of_le (UInt8.le_iff_toNat_le.1 h.sp_le)⟩⟩
  v := w.v
  index := .ofNat w.index.toNat
  delay := w.delay
  sound := w.sound
  toneOn := w.toneOn
  mode := match w.mode with
    | .running => .running
    | .waiting x => .waiting (Key.ofNibble x)
  keys := ⟨w.keys.toBitVec⟩
  memory := w.memory
  display := ⟨⟨w.display.map (· == 1), by rw [Array.size_map, h.size_display]⟩⟩
  redraw := w.redraw
  random := w.random

lemma address_ofNat {a : UInt16} (h : a ≤ 0xFFF) : Operation.address (.ofNat a.toNat) = a := by
  have : a.toNat ≤ 0xFFF := UInt16.le_iff_toNat_le.1 h
  apply UInt16.toNat.inj
  rw [Operation.toNat_address, Address.val_ofNat]
  omega

lemma register_ofNibble {x : UInt8} (h : x < 16) : Operation.register (Key.ofNibble x) = x := by
  have : x.toNat < 16 := UInt8.lt_iff_toNat_lt.1 h
  apply UInt8.toNat.inj
  rw [Operation.toNat_register]
  exact Nat.mod_eq_of_lt this

lemma ofMachine_toMachine {w : State} (h : w.Bounded) : ofMachine (w.toMachine h) = w := by
  apply State.ext
  case pc => exact address_ofNat h.pc_le
  case index => exact address_ofNat h.index_le
  case sp => simp [ofMachine, toMachine]
  case stack =>
    apply Vector.ext
    intro i hi
    simpa [ofMachine, toMachine] using address_ofNat (h.stack_le _ (Vector.getElem_mem hi))
  case mode =>
    cases hm : w.mode with
    | running => simp [ofMachine, toMachine, Mode.ofMode, hm]
    | waiting x =>
        simpa [ofMachine, toMachine, Mode.ofMode, hm] using register_ofNibble (h.register_lt x hm)
  case display =>
    apply Array.ext
    · simp [ofMachine, toMachine, h.size_display]
    · intro i _ hi
      rcases h.cell_eq _ (Array.getElem_mem hi) with hb | hb <;>
        simp [ofMachine, toMachine, cellBytes, flagByte, hb]
  all_goals rfl

/-- The bounded states are the machines written out. -/
theorem bounded_iff {w : State} :
    w.Bounded ↔ ∃ (size : Display.Size) (m : Machine size),
      size.width * size.height < wordLimit ∧ w = ofMachine m := by
  constructor
  · intro h
    exact ⟨_, w.toMachine h, h.size_display ▸ h.size_lt, (ofMachine_toMachine h).symm⟩
  · rintro ⟨size, m, hfit, rfl⟩
    exact bounded_ofMachine m hfit

end State

end CosmacVip.Words
