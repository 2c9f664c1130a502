import CosmacVip.Proofs.Words.Image
import Mathlib.Data.Nat.Bitwise

/-!
What a host does with a machine written out in words is what it does with the machine.

* `Words.State.reset_ofMachine`, `Words.State.load_ofMachine`, `Words.State.new_eq`: switching on;
* `Words.State.setKey_ofMachine`, `Words.State.tick_ofMachine`, `Words.State.present_ofMachine`;
* `Words.State.pixel_ofMachine`, `Words.State.rowTexts_ofMachine`: views of the display.

Each equation says at once that no trap is met and that the results agree.
-/

namespace CosmacVip.Words

/-! ### Single bits -/

lemma bitAt_key (k : Key) : bitAt k = pure (.ofBitVec (BitVec.twoPow 16 k)) := by
  rw [bitAt_eq k.isLt]
  congr 1
  revert k
  decide

/-- A number shares a bit with a power of two exactly if it has that bit. -/
lemma and_two_pow_eq_zero {n i : Nat} : n &&& 2 ^ i = 0 ↔ n.testBit i = false := by
  rw [Nat.and_two_pow]
  cases n.testBit i <;> simp

namespace State

variable {size : Display.Size}

/-! ### Memory -/

lemma and_addressMask (a : Nat) : a &&& 0xFFF = (Address.ofNat a).val :=
  Nat.and_two_pow_sub_one_eq_mod a 12

lemma read_ofMachine (m : Machine size) (a : Nat) :
    (ofMachine m).read a = pure (m.memory.read (.ofNat a)) := by
  rw [read, and_addressMask]
  exact get_eq (Address.ofNat a).isLt

lemma wrapAddress_eq (a : Nat) : wrapAddress a = Operation.address (.ofNat a) := by
  rw [wrapAddress, and_addressMask, Operation.address]

lemma write_ofMachine (m : Machine size) (a : Nat) (b : UInt8) :
    (ofMachine m).write a b = pure (ofMachine { m with memory := m.memory.write (.ofNat a) b }) := by
  rw [write, and_addressMask, set_eq (Address.ofNat a).isLt, pure_bind]
  rfl

/-! ### Keypad -/

lemma isDown_ofMachine (m : Machine size) (k : Key) :
    (ofMachine m).isDown k = pure (m.keys.isDown k) := by
  have hk : 2 ^ k.val < 2 ^ 16 := Nat.pow_lt_pow_right (by decide) k.isLt
  rw [isDown, bitAt_key, pure_bind]
  congr 1
  simp only [ofMachine, UInt16.toNat_and, UInt16.toNat_ofBitVec, BitVec.toNat_twoPow,
    Nat.mod_eq_of_lt hk, Nat.pos_iff_ne_zero, ne_eq, and_two_pow_eq_zero, KeySet.isDown,
    ← BitVec.testBit_toNat, Bool.not_eq_false, Bool.decide_eq_true]

lemma setBit_ofMachine (m : Machine size) (k : Key) (down : Bool) :
    (ofMachine m).setBit k down = pure (ofMachine { m with keys := m.keys.set k down }) := by
  rw [setBit, bitAt_key, pure_bind]
  cases down <;> rfl

/-- A register of a machine has a number that its array holds. -/
lemma set_register {m : Machine size} {x : Register} {b : UInt8} :
    set m.v (Operation.register x).toNat b = pure (m.setV x b).v := by
  rw [Operation.toNat_register]
  exact set_eq x.isLt

/-- A key that goes down or up in words does so in the machine, and a wait that it ends is ended in both. -/
theorem setKey_ofMachine (m : Machine size) (k : Key) (down : Bool) :
    (ofMachine m).setKey k down = pure (ofMachine (m.setKey k down)) := by
  rw [setKey, setBit_ofMachine, pure_bind]
  cases hm : m.mode with
  | running =>
      rw [Machine.setKey_of_running hm]
      simp only [ofMachine, Mode.ofMode, hm]
  | waiting x =>
      cases down with
      | false =>
          rw [Machine.setKey_false]
          simp only [ofMachine, Mode.ofMode, hm]
      | true =>
          rw [Machine.setKey_of_waiting hm]
          simp only [ofMachine, Mode.ofMode, set_register, pure_bind]
          rfl

/-! ### Switching on -/

/-- Copying the font over zeros gives the memory of a machine without a program. -/
lemma copyInto_font :
    copyInto (Vector.replicate 4096 0) 0 Memory.font.toArray = pure Memory.initial := by
  rw [copyInto_eq (by decide)]
  refine congrArg pure (Vector.ext fun i hi => ?_)
  by_cases h : i < 80 <;> simp [Memory.initial, Memory.withProgram, h]

/-- Copying a program over that memory gives the memory with the program. -/
lemma copyInto_program {program : Array UInt8} (h : program.size ≤ Memory.programCapacity) :
    copyInto Memory.initial 0x200 program = pure (Memory.withProgram program) := by
  rw [copyInto_eq (by simp only [Memory.programCapacity] at h; omega)]
  refine congrArg pure (Vector.ext fun i hi => ?_)
  by_cases hp : 0x200 ≤ i
  · have : ¬ i < 80 := by omega
    have : ¬ i < 0x200 := by omega
    simp [Memory.initial, Memory.withProgram, *]
  · have : i < 0x200 := by omega
    simp [Memory.initial, Memory.withProgram, *]

/-- Zeros are the bytes of a dark display. -/
lemma cellBytes_dark : cellBytes (Display.dark : Display size)
    = Array.replicate (size.width * size.height) 0 := by
  simp [cellBytes, Display.dark, flagByte]

/-- Whatever was in the registers and memories of a display's size, a reset leaves a fresh
machine. -/
lemma reset_eq {w : State} (hwidth : w.width = size.width) (hheight : w.height = size.height)
    (hdisplay : w.display.size = size.width * size.height) :
    w.reset = pure (ofMachine (.fresh size Memory.initial w.random)) := by
  rw [reset, loadFont, clearMemory, copyInto_font]
  simp only [pure_bind, hwidth, hheight, hdisplay, ofMachine, Machine.fresh, cellBytes_dark,
    CallStack.empty, Vector.map_replicate]
  rfl

/-- The machine in words is switched on as the machine is. -/
theorem reset_ofMachine (m : Machine size) : (ofMachine m).reset = pure (ofMachine m.reset) :=
  reset_eq rfl rfl (size_cellBytes m.display)

/-- A program goes to the same place in words, and one that has no room is refused in both, which then
stay as they were. -/
theorem load_ofMachine (m : Machine size) (program : Array UInt8) :
    (ofMachine m).load program = pure (match m.load program with
      | .ok m => (.ok (), ofMachine m)
      | .error fault => (.error fault, ofMachine m)) := by
  rw [load, Machine.load]
  by_cases h : program.size ≤ Memory.programCapacity
  · rw [if_pos h, if_pos h, reset_ofMachine, pure_bind]
    simp only [ofMachine, Machine.reset, Machine.fresh, copyInto_program h, pure_bind]
  · rw [if_neg h, if_neg h]

/-- The size of a display that can be made is that of a machine, which is switched on. -/
theorem new_eq (c : Machine.Config) (hfit : max c.width 1 * max c.height 1 < wordLimit)
    (random : RandomStream) :
    new c.width c.height random = pure (ofMachine (.fresh c.displaySize Memory.initial random)) := by
  rw [new]
  simp only [times_eq hfit, pure_bind]
  exact reset_eq rfl rfl Array.size_replicate

/-! ### Timers -/

lemma ofNat_pred (t : UInt8) : UInt8.ofNat (t.toNat - 1) = Machine.countdown t := by
  have := t.toNat_lt
  rw [Machine.countdown]
  split
  case isTrue h =>
    subst h
    rfl
  case isFalse h =>
    have hpos : 1 ≤ t := by
      rw [UInt8.le_iff_toNat_le]
      exact Nat.pos_of_ne_zero fun h0 => h (UInt8.toNat.inj h0)
    apply UInt8.toNat.inj
    rw [UInt8.toNat_ofNat', UInt8.toNat_sub_of_le _ _ hpos]
    simp only [UInt8.reduceToNat]
    omega

/-- A beat counts the timers down in words, and tells of the tone, as in the machine. -/
theorem tick_ofMachine (m : Machine size) :
    (ofMachine m).tick = (m.tick.1, ofMachine m.tick.2) := by
  have hpos : 0 < m.sound ↔ m.sound ≠ 0 := UInt8.pos_iff_ne_zero
  simp only [tick, Machine.tick, Machine.startTone, Machine.stopTone, ofMachine, hpos]
  split <;> simp only [ofNat_pred] <;> split <;> rfl

/-! ### Screen and views -/

/-- A screen gets the cells of the display, a byte for each, if it gets any. -/
theorem present_ofMachine (m : Machine size) (width height : Nat) :
    (ofMachine m).present width height =
      ((m.present width height).1.map cellBytes, ofMachine (m.present width height).2) := by
  rw [present]
  cases hr : m.redraw with
  | false =>
      rw [Machine.present_of_clean hr]
      exact if_pos hr
  | true =>
      have hr' : ¬ (ofMachine m).redraw = false := by simp [ofMachine, hr]
      rw [if_neg hr']
      by_cases hsize : width = size.width ∧ height = size.height
      · obtain ⟨rfl, rfl⟩ := hsize
        rw [Machine.present_of_redraw hr]
        exact if_pos ⟨rfl, rfl⟩
      · rw [Machine.present_of_size_ne m hsize]
        exact if_neg hsize

/-- The byte of a cell stands at its place. -/
lemma get_cellBytes (d : Display size) (c : Display.Cell size) :
    get (cellBytes d).toVector c.index = pure (flagByte (d.lit c)) := by
  rw [get_eq (by rw [size_cellBytes]; exact c.index_lt)]
  simp [cellBytes, Display.lit, Display.Cell.place]

/-- The place of a cell is computed without leaving the word. -/
lemma place_eq (hfit : size.width * size.height < wordLimit) (c : Display.Cell size) :
    times c.y size.width = pure (c.y * size.width) ∧
      plus c.x (c.y * size.width) = pure c.index := by
  have h := c.index_lt
  rw [Display.Cell.index] at h
  exact ⟨times_eq (by omega), plus_eq (by omega)⟩

/-- The byte of a cell in words says whether the cell is lit. -/
theorem pixel_ofMachine (hfit : size.width * size.height < wordLimit) (m : Machine size)
    (x y : Nat) : (ofMachine m).pixel x y = pure (flagByte (m.display.pixel x y)) := by
  let c : Display.Cell size := .wrap x y
  obtain ⟨hrow, hplace⟩ := place_eq hfit c
  have hget := get_cellBytes m.display c
  simp only [pixel, ofMachine, modulo_eq size.width_pos, modulo_eq size.height_pos, pure_bind]
  rw [show y % size.height = c.y from rfl, hrow, pure_bind, show x % size.width = c.x from rfl,
    hplace, pure_bind, hget]
  rfl

/-- A range is gone through without a trap if each of its numbers is. -/
lemma mapM_range {β : Type} {n : Nat} {f : Nat → Checked β} {g : Fin n → β}
    (h : ∀ i : Fin n, f i = pure (g i)) : (List.range n).mapM f = pure ((List.finRange n).map g) := by
  have hrange : List.range n = (List.finRange n).map Fin.val := by
    apply List.ext_getElem <;> simp
  rw [hrange, List.mapM_map]
  simp only [Function.comp_def, h, List.mapM_pure]

lemma markAt_ofMachine (hfit : size.width * size.height < wordLimit) (m : Machine size)
    (y : Fin size.height) (x : Fin size.width) :
    (ofMachine m).markAt y x = pure (Display.mark (m.display.lit ⟨x, y⟩)) := by
  let c : Display.Cell size := ⟨x, y⟩
  obtain ⟨hrow, hplace⟩ := place_eq hfit c
  have hget := get_cellBytes m.display c
  simp only [markAt, ofMachine]
  rw [show y.val = c.y.val from rfl, hrow, pure_bind, show x.val = c.x.val from rfl, hplace,
    pure_bind, hget, pure_bind]
  cases m.display.lit c <;> rfl

/-- The rows of the display in words have the marks of its cells. -/
theorem rowTexts_ofMachine (hfit : size.width * size.height < wordLimit) (m : Machine size) :
    (ofMachine m).rowTexts = pure m.display.rowTexts := by
  have hrow (y : Fin size.height) :
      (do return String.ofList (← (List.range size.width).mapM ((ofMachine m).markAt y)) : Checked _) =
        pure (String.ofList ((List.finRange size.width).map fun x =>
          Display.mark (m.display.lit ⟨x, y⟩))) := by
    rw [mapM_range (markAt_ofMachine hfit m y), pure_bind]
  rw [Display.rowTexts, Display.rows, List.map_map]
  simp only [Function.comp_def, List.map_map]
  exact mapM_range hrow

end State

end CosmacVip.Words
