import CosmacVip.Proofs.Instruction.Forms

/-!
Transfers between registers and memory.

* `Address.offset_inj`: cells less than a whole memory apart are different;
* `Memory.store_of_agree`: storing what the cells hold already changes nothing;
* `Machine.Transfers`: what the instructions that store registers, load them, and store decimal
  digits do to the cells from `I` on;
* `Machine.transfers_round_trip`: every machine makes its transfers so, whatever `I` is.

The cells may go over the end of memory to its start.
-/

namespace CosmacVip

lemma Address.offset_inj (a : Address) {j k : Nat} (hj : j < 4096) (hk : k < 4096)
    (h : a.offset j = a.offset k) : j = k := by
  have hval := congrArg Fin.val h
  have := a.isLt
  rw [val_offset, val_offset] at hval
  omega

namespace Memory

lemma ext_read {m n : Memory} (h : ∀ a, m.read a = n.read a) : m = n :=
  Vector.ext fun i hi => h ⟨i, hi⟩

/-- Stored bytes are read again. -/
lemma slice_store (m : Memory) (a : Address) {bytes : List UInt8} (h : bytes.length ≤ 4096) :
    (m.store a bytes).slice a bytes.length = bytes := by
  apply List.ext_getElem
  · rw [length_slice]
  · intro k _ hk
    simp only [slice, List.getElem_map, List.getElem_range, read_store_offset m h hk]

/-- Storing what the cells hold already changes nothing. -/
lemma store_of_agree (m : Memory) {a : Address} {bytes : List UInt8} (h : bytes.length ≤ 4096)
    (hagree : ∀ k (hk : k < bytes.length), bytes[k] = m.read (a.offset k)) :
    m.store a bytes = m := by
  refine ext_read fun c => ?_
  by_cases hc : ∃ k < bytes.length, c = a.offset k
  · obtain ⟨k, hk, rfl⟩ := hc
    rw [read_store_offset m h hk, hagree k hk]
  · exact read_store_of_ne m fun k hk heq => hc ⟨k, hk, heq⟩

end Memory

namespace Machine

open Instruction (wordOfByte)

variable {size : Display.Size} {m : Machine size} {x : Register}

/-! ### The registers that take part -/

lemma length_registersTo (m : Machine size) (x : Register) :
    (m.registersTo x).length = x.val + 1 := by
  have := x.isLt
  rw [registersTo, List.length_take, Vector.length_toList]
  omega

lemma getElem_registersTo (m : Machine size) {k : Nat} (hk : k < (m.registersTo x).length) :
    (m.registersTo x)[k] = m.getV ⟨k, by rw [length_registersTo] at hk; omega⟩ := by
  simp [registersTo, getV]

/-- The cells that the first registers are stored to hold them. -/
lemma read_store_registersTo (m : Machine size) (mem : Memory) (a : Address) {k : Register}
    (hk : k ≤ x) : (mem.store a (m.registersTo x)).read (a.offset k) = m.getV k := by
  have hlt : k.val < (m.registersTo x).length := by
    rw [length_registersTo]
    exact Nat.lt_succ_of_le hk
  have hle : (m.registersTo x).length ≤ 4096 := by
    rw [length_registersTo]
    omega
  rw [Memory.read_store_offset mem hle hlt, getElem_registersTo]

/-- The other cells are as they were. -/
lemma read_store_registersTo_of_ne (m : Machine size) (mem : Memory) {a c : Address}
    (hc : ∀ k ≤ x, c ≠ a.offset k) : (mem.store a (m.registersTo x)).read c = mem.read c := by
  refine Memory.read_store_of_ne mem fun k hk => ?_
  rw [length_registersTo] at hk
  exact hc ⟨k, by omega⟩ (Nat.le_of_lt_succ hk)

/-! ### The instructions -/

lemma step_storeRegisters (h : m.IsAt (wordOfByte 0xF x 0x55)) :
    m.step = (.ok .next, { m with
      pc := m.pc.offset 2, memory := m.memory.store m.index (m.registersTo x) }) :=
  h.step (Instruction.decode_encode (i := .storeRegisters x) nofun nofun nofun) nofun

lemma step_loadRegisters (h : m.IsAt (wordOfByte 0xF x 0x65)) :
    m.step = (.ok .next, { m with
      pc := m.pc.offset 2
      v := Vector.ofFn fun k => if k ≤ x then m.memory.read (m.index.offset k) else m.getV k }) :=
  h.step (Instruction.decode_encode (i := .loadRegisters x) nofun nofun nofun) nofun

lemma step_storeDecimal (h : m.IsAt (wordOfByte 0xF x 0x33)) :
    m.step = (.ok .next, { m with
      pc := m.pc.offset 2, memory := m.memory.store m.index (decimalDigits (m.getV x)) }) :=
  h.step (Instruction.decode_encode (i := .storeDecimal x) nofun nofun nofun) nofun

lemma getV_loadRegisters (h : m.IsAt (wordOfByte 0xF x 0x65)) (k : Register) :
    m.step.2.getV k = if k ≤ x then m.memory.read (m.index.offset k) else m.getV k := by
  rw [step_loadRegisters h]
  simp [getV]

lemma loadRegisters_keeps (h : m.IsAt (wordOfByte 0xF x 0x65)) :
    m.step.2.memory = m.memory ∧ m.step.2.index = m.index := by
  rw [step_loadRegisters h]
  exact ⟨rfl, rfl⟩

/-- The digits of a byte. -/
lemma decimalDigits_eq (b : UInt8) :
    ∃ hundreds tens ones : UInt8, decimalDigits b = [hundreds, tens, ones] ∧
      hundreds ≤ 9 ∧ tens ≤ 9 ∧ ones ≤ 9 ∧
        100 * hundreds.toNat + 10 * tens.toNat + ones.toNat = b.toNat := by
  have hb := b.toNat_lt
  refine ⟨_, _, _, rfl, ?_⟩
  simp only [UInt8.le_iff_toNat_le, UInt8.toNat_mod, UInt8.toNat_div, UInt8.reduceToNat]
  omega

/-! ### All transfers -/

/-- What passes between the first registers, up to the register `x`, and the cells from `I` on. -/
structure Transfers (m : Machine size) (x : Register) : Prop where
  /-- No two registers have the same cell. -/
  distinct : Function.Injective fun k : Register => m.index.offset k
  /-- Storing puts each register into its cell and changes nothing else. -/
  store : m.IsAt (wordOfByte 0xF x 0x55) → ∃ memory,
    m.step = (.ok .next, { m with pc := m.pc.offset 2, memory := memory }) ∧
      (∀ k ≤ x, memory.read (m.index.offset k) = m.getV k) ∧
      ∀ c, (∀ k ≤ x, c ≠ m.index.offset k) → memory.read c = m.memory.read c
  /-- Loading from what was stored brings the registers back, whatever they hold meanwhile, and
  touches no others. -/
  store_load : m.IsAt (wordOfByte 0xF x 0x55) → ∀ n : Machine size,
    n.memory = m.step.2.memory → n.index = m.step.2.index → n.IsAt (wordOfByte 0xF x 0x65) →
      ∀ k, n.step.2.getV k = if k ≤ x then m.getV k else n.getV k
  /-- Storing what was loaded changes nothing in memory. -/
  load_store : m.IsAt (wordOfByte 0xF x 0x65) → ∀ n : Machine size,
    (∀ k ≤ x, n.getV k = m.step.2.getV k) → n.memory = m.step.2.memory →
      n.index = m.step.2.index → n.IsAt (wordOfByte 0xF x 0x55) → n.step.2.memory = m.memory
  /-- The digits of a register go to three cells, and nothing else changes. -/
  digits : m.IsAt (wordOfByte 0xF x 0x33) → ∃ (hundreds tens ones : UInt8) (memory : Memory),
    m.step = (.ok .next, { m with pc := m.pc.offset 2, memory := memory }) ∧
      memory.slice m.index 3 = [hundreds, tens, ones] ∧
      hundreds ≤ 9 ∧ tens ≤ 9 ∧ ones ≤ 9 ∧
      100 * hundreds.toNat + 10 * tens.toNat + ones.toNat = (m.getV x).toNat ∧
      ∀ c, (∀ k < 3, c ≠ m.index.offset k) → memory.read c = m.memory.read c

/-- **Transfers.** Whatever the register `I` of a machine is, and however many registers take part,
the cells from `I` on are different ones, going on at the start of memory after its end. Registers
that are stored there and loaded again are as they were, whatever happened to them meanwhile; cells
that are loaded and stored again are as they were; and the three digits of a register stand for its
value. Nothing else changes. -/
theorem transfers_round_trip (m : Machine size) (x : Register) : m.Transfers x where
  distinct j k h := Fin.ext (m.index.offset_inj (by omega) (by omega) h)
  store h := by
    rw [step_storeRegisters h]
    exact ⟨_, rfl, fun k hk => m.read_store_registersTo _ _ hk,
      fun c hc => m.read_store_registersTo_of_ne _ hc⟩
  store_load h n hmemory hindex hn k := by
    rw [step_storeRegisters h] at hmemory hindex
    rw [getV_loadRegisters hn, hmemory, hindex]
    split
    case isTrue hk => exact m.read_store_registersTo _ _ hk
    case isFalse => rfl
  load_store h n hv hmemory hindex hn := by
    obtain ⟨hmem, hidx⟩ := loadRegisters_keeps h
    rw [step_storeRegisters hn]
    show n.memory.store n.index (n.registersTo x) = m.memory
    rw [hmemory, hmem, hindex, hidx]
    refine Memory.store_of_agree m.memory ?_ fun k hk => ?_
    · rw [length_registersTo]
      omega
    · rw [length_registersTo] at hk
      have hle : (⟨k, by omega⟩ : Register) ≤ x := Nat.le_of_lt_succ hk
      rw [getElem_registersTo, hv _ hle, getV_loadRegisters h, if_pos hle]
  digits h := by
    obtain ⟨hundreds, tens, ones, hdigits, hle⟩ := decimalDigits_eq (m.getV x)
    rw [step_storeDecimal h, hdigits]
    refine ⟨hundreds, tens, ones, _, rfl, ?_, hle.1, hle.2.1, hle.2.2.1, hle.2.2.2, fun c hc => ?_⟩
    · have hlength : [hundreds, tens, ones].length ≤ 4096 := by simp
      exact Memory.slice_store m.memory m.index hlength
    · exact Memory.read_store_of_ne m.memory hc

/-- A program that stores six registers, loads them, and stores the digits of the last of them; the
cells are the last two of memory and the first ones. -/
def storingAcross : Machine .standard :=
  { fresh _ (Memory.withProgram #[0xF5, 0x55, 0xF5, 0x65, 0xF5, 0x33]) ⟨Vector.replicate 8 0, 0⟩ with
    index := .ofNat 0xFFE
    v := Vector.ofFn fun k => UInt8.ofNat (51 * k) }

/-- The words of the program, whatever the registers hold. -/
lemma isAt_storingAcross (v : Vector UInt8 16) (k : Nat) {w : Nat}
    (hk : k + 1 < Memory.programCapacity)
    (hw : UInt16.ofNat ((#[0xF5, 0x55, 0xF5, 0x65, 0xF5, 0x33][k]?.getD (0 : UInt8)).toNat * 256 +
      (#[0xF5, 0x55, 0xF5, 0x65, 0xF5, 0x33][k + 1]?.getD (0 : UInt8)).toNat) = .ofNat w) :
    IsAt { storingAcross with pc := Address.programStart.offset k, v := v } w :=
  ⟨rfl, word_program _ k rfl rfl hk hw⟩

/-- Between storing and loading all registers are set to 7. Loading and then storing is done from
the start, and so are the digits. -/
theorem transfers_round_trip_across :
    let m := storingAcross
    m.IsAt 0xF555 ∧ m.step.2.memory.read 0x001 = m.getV 3 ∧
      (∃ n : Machine .standard, n.memory = m.step.2.memory ∧ n.index = m.step.2.index ∧
        n.IsAt 0xF565 ∧ n.step.2.getV 3 = m.getV 3 ∧ n.step.2.getV 6 = 7) ∧
      (∃ l n : Machine .standard, l.IsAt 0xF565 ∧ n.v = l.step.2.v ∧ n.memory = l.step.2.memory ∧
        n.IsAt 0xF555 ∧ n.step.2.memory = l.memory) ∧
      ∃ d : Machine .standard, d.getV 5 = 255 ∧ d.IsAt 0xF533 ∧
        d.step.2.memory.slice 0xFFE 3 = [2, 5, 5] := by
  have hb (v) : IsAt { storingAcross with v := v } 0xF555 := isAt_storingAcross v 0 (by decide) rfl
  have hm : storingAcross.IsAt 0xF555 := hb storingAcross.v
  have hl : IsAt { storingAcross with pc := 0x202 } 0xF565 :=
    isAt_storingAcross storingAcross.v 2 (by decide) rfl
  have hd : IsAt { storingAcross with pc := 0x204 } 0xF533 :=
    isAt_storingAcross storingAcross.v 4 (by decide) rfl
  have hindex : storingAcross.index = 0xFFE := rfl
  have hvalue : storingAcross.getV 5 = 255 := by decide
  -- from here on nothing may compute the machine
  generalize storingAcross = m at hm hb hl hd hindex hvalue ⊢
  obtain ⟨memory, hstep, hcell, hother⟩ := (transfers_round_trip m 5).store hm
  rw [hindex] at hcell hother
  refine ⟨hm, ?_, ?_, ?_, ?_⟩
  · rw [hstep]
    exact hcell 3 (by decide)
  · let n : Machine .standard :=
      { m with pc := 0x202, memory := memory, v := Vector.replicate 16 7 }
    -- the program is not where the registers go
    have hn : n.IsAt 0xF565 :=
      hl.of_read rfl rfl (hother 0x202 (by decide)) (hother (Address.offset 0x202 1) (by decide))
    have hmemory : n.memory = m.step.2.memory := (congrArg (·.2.memory) hstep).symm
    have hindex : n.index = m.step.2.index := (congrArg (·.2.index) hstep).symm
    have hload := (transfers_round_trip m 5).store_load hm n hmemory hindex hn
    exact ⟨n, hmemory, hindex, hn, (hload 3).trans (if_pos (by decide)),
      (hload 6).trans (if_neg (by decide))⟩
  · let l : Machine .standard := { m with pc := 0x202 }
    obtain ⟨v, hv⟩ : ∃ v, v = l.step.2.v := ⟨_, rfl⟩
    obtain ⟨hmemory, hindex⟩ := loadRegisters_keeps (m := l) (x := 5) hl
    refine ⟨l, { m with v := v }, hl, hv, hmemory.symm, hb v, ?_⟩
    exact (transfers_round_trip l 5).load_store hl { m with v := v } (fun k _ => congrArg (·[k]) hv)
      hmemory.symm hindex.symm (hb v)
  · obtain ⟨hundreds, tens, ones, digits, hdigits, hslice, hle⟩ :=
      (transfers_round_trip _ 5).digits hd
    refine ⟨{ m with pc := 0x204 }, hvalue, hd, ?_⟩
    have hvalue : (getV { m with pc := 0x204 } 5).toNat = 255 := congrArg UInt8.toNat hvalue
    simp only [UInt8.le_iff_toNat_le, UInt8.reduceToNat, hvalue] at hle
    obtain rfl : hundreds = 2 := UInt8.toNat.inj (show hundreds.toNat = 2 by omega)
    obtain rfl : tens = 5 := UInt8.toNat.inj (show tens.toNat = 5 by omega)
    obtain rfl : ones = 5 := UInt8.toNat.inj (show ones.toNat = 5 by omega)
    rw [hdigits, ← hindex]
    exact hslice

end Machine

end CosmacVip
