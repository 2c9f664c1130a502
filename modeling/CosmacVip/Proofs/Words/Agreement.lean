import CosmacVip.Proofs.Words.Drawing

/-!
A step of the machine written out in words is the step of the machine.

* `Words.State.execute_ofMachine`: one instruction, form by form;
* `Words.State.step_ofMachine`, `Words.State.run_ofMachine`: one step, and several;
* `Words.State.perform_ofMachine`, `Words.State.performAll_ofMachine`: the calls of a host.

As in the rest of the development of words, each equation says that no trap is met.
-/

namespace CosmacVip.Words.State

variable {size : Display.Size}

open Operation (register address ofArith ofShift ofInstruction)

/-! ### Registers and the program counter -/

lemma toNat_pc (m : Machine size) : (ofMachine m).pc.toNat = m.pc.val :=
  Operation.toNat_address m.pc

lemma toNat_index (m : Machine size) : (ofMachine m).index.toNat = m.index.val :=
  Operation.toNat_address m.index

/-- A short way on from an address does not leave the word. -/
lemma plus_address (a : Address) {k : Nat} (hk : k < 2 ^ 8) : plus a.val k = pure (a.val + k) := by
  have := a.isLt
  exact plus_small (by omega) (by omega)

lemma ofNat_val (a : Address) : Address.ofNat a.val = a := by
  apply Fin.ext
  exact Nat.mod_eq_of_lt a.isLt

lemma getV_ofMachine (m : Machine size) (x : Register) :
    (ofMachine m).getV (register x) = pure (m.getV x) := by
  rw [getV, Operation.toNat_register]
  exact get_eq x.isLt

lemma setV_ofMachine (m : Machine size) (x : Register) (b : UInt8) :
    (ofMachine m).setV (register x) b = pure (ofMachine (m.setV x b)) := by
  rw [setV, Operation.toNat_register]
  simp only [ofMachine, set_eq x.isLt, pure_bind]
  rfl

lemma setFlag_ofMachine (m : Machine size) (b : UInt8) :
    (ofMachine m).setV flagNumber b = pure (ofMachine (m.setV flagRegister b)) :=
  setV_ofMachine m flagRegister b

lemma setFlagged_ofMachine (m : Machine size) (x : Register) (b flag : UInt8) :
    (ofMachine m).setFlagged (register x) b flag = pure (ofMachine (m.setFlagged x b flag)) := by
  rw [setFlagged, setFlag_ofMachine, pure_bind, setV_ofMachine, Machine.setFlagged]

lemma skip_ofMachine (m : Machine size) : (ofMachine m).skip = pure (ofMachine m.advance) := by
  rw [skip, toNat_pc, plus_address m.pc (by decide), pure_bind, wrapAddress_eq]
  rfl

lemma skipWhen_ofMachine (m : Machine size) (b : Bool) :
    (ofMachine m.advance).skipWhen b = pure (ofMachine (m.skipIf b)) := by
  cases b with
  | false => rfl
  | true =>
      have htwice : m.advance.advance = m.skipIf true := by
        simp only [Machine.advance, Machine.skipIf, Address.offset_offset, if_true]
      rw [skipWhen, if_pos rfl, skip_ofMachine, htwice]

/-! ### Groups of instructions -/

lemma executeMath_ofArith (m : Machine size) (op : Arith) (x y : Register) :
    (ofMachine m.advance).executeMath (ofArith (register x) (register y) op) =
      pure (ofMachine (m.execute (.arith op x y)).2) := by
  cases op <;>
    simp only [ofArith, executeMath, getV_ofMachine, setV_ofMachine, setFlagged_ofMachine,
      pure_bind] <;> rfl

lemma executeMath_ofShift (m : Machine size) (op : Shift) (x : Register) :
    (ofMachine m.advance).executeMath (ofShift (register x) op) =
      pure (ofMachine (m.execute (.shift op x)).2) := by
  cases op <;>
    simp only [ofShift, executeMath, getV_ofMachine, setFlagged_ofMachine, pure_bind] <;> rfl

/-! ### Registers to and from memory -/

lemma executeDevice_storeDecimal (m : Machine size) (x : Register) :
    (ofMachine m.advance).executeDevice (.storeDecimal (register x)) =
      pure (.next, ofMachine (m.execute (.storeDecimal x)).2) := by
  have h1 := plus_address m.advance.index (k := 1) (by decide)
  have h2 := plus_address m.advance.index (k := 2) (by decide)
  simp only [executeDevice, getV_ofMachine, pure_bind, toNat_index, h1, h2, write_ofMachine]
  simp only [Machine.execute, Machine.decimalDigits, Memory.store, Address.offset_offset]
  rw [ofNat_val]
  rfl

/-- Storing bytes one by one, the `k`-th of them `k` cells from the first. -/
lemma foldl_write_eq_store (mem : Memory) (a : Address) (bytes : List UInt8) :
    (List.range bytes.length).foldl (fun mem k => mem.write (a.offset k) (bytes[k]?.getD 0)) mem =
      mem.store a bytes := by
  induction bytes generalizing mem a with
  | nil => rfl
  | cons b bytes ih =>
      rw [List.length_cons, List.range_succ_eq_map, List.foldl_cons, List.foldl_map, Memory.store,
        ← ih]
      simp [Address.offset_zero, Address.offset_offset, Nat.add_comm]

lemma executeDevice_storeRegisters (m : Machine size) (x : Register) :
    (ofMachine m.advance).executeDevice (.storeRegisters (register x)) =
      pure (.next, ofMachine (m.execute (.storeRegisters x)).2) := by
  have hx := x.isLt
  have hlength : (m.registersTo x).length = x.val + 1 := by
    simp only [Machine.registersTo, List.length_take, Vector.length_toList]
    omega
  have hloop : (List.range (x.val + 1)).foldlM
      (storeRegister (ofMachine m.advance).index.toNat) (ofMachine m.advance) =
        pure (ofMachine { m.advance with memory := m.memory.store m.index (m.registersTo x) }) := by
    rw [← hlength, ← foldl_write_eq_store]
    refine foldlM_image (fun mem => ofMachine { m.advance with memory := mem }) ?_ m.memory
    intro mem k hk
    rw [List.mem_range, hlength] at hk
    have hk16 : k < 16 := by omega
    have hbyte : (m.registersTo x)[k]?.getD 0 = m.v[k] := by
      rw [List.getElem?_eq_getElem (by omega), Option.getD_some]
      simp only [Machine.registersTo, List.getElem_take, Vector.getElem_toList]
    rw [storeRegister, toNat_index, plus_address m.advance.index (by omega), pure_bind]
    have hget : get (ofMachine { m.advance with memory := mem }).v k = pure m.v[k] := get_eq hk16
    rw [hget, pure_bind, write_ofMachine, hbyte]
    rfl
  rw [executeDevice, Operation.toNat_register, hloop]
  rfl

/-- The first registers, each read from its cell. -/
lemma foldlM_loadRegister (m : Machine size) {n : Nat} (hn : n ≤ 16) :
    (List.range n).foldlM (loadRegister m.index) (ofMachine m) =
      pure (ofMachine { m with v := Vector.ofFn fun i =>
        if i.val < n then m.memory.read (m.index.offset i) else m.getV i }) := by
  induction n with
  | zero =>
      have hv : (Vector.ofFn fun i => m.getV i) = m.v := by
        apply Vector.ext
        intro i hi
        simp [Machine.getV]
      simp [hv]
  | succ n ih =>
      have hn16 : n < 16 := by omega
      rw [List.range_succ, List.foldlM_append, ih (by omega), pure_bind, List.foldlM_cons,
        loadRegister, plus_address m.index (by omega), pure_bind, read_ofMachine, pure_bind]
      simp only [ofMachine, set_eq hn16, pure_bind, List.foldlM_nil]
      refine congrArg (fun v => (pure { ofMachine m with v } : Checked State))
        (Vector.ext fun i hi => ?_)
      rw [Vector.getElem_set, Vector.getElem_ofFn, Vector.getElem_ofFn]
      by_cases hi' : n = i
      · subst hi'
        simp [Address.offset]
      · have hlt : i < n + 1 ↔ i < n := by omega
        simp only [hi', if_false, hlt]

lemma executeDevice_loadRegisters (m : Machine size) (x : Register) :
    (ofMachine m.advance).executeDevice (.loadRegisters (register x)) =
      pure (.next, ofMachine (m.execute (.loadRegisters x)).2) := by
  have hx := x.isLt
  have hloop := foldlM_loadRegister m.advance (n := x.val + 1) (by omega)
  simp only [Nat.lt_succ_iff, ← Fin.le_def] at hloop
  rw [executeDevice, Operation.toNat_register, toNat_index, hloop]
  rfl

/-! ### One instruction -/

lemma execute_clearScreen (m : Machine size) :
    (ofMachine m.advance).execute .clearScreen (address m.pc) =
      pure ((m.execute .clearScreen).1, ofMachine (m.execute .clearScreen).2) := by
  have hdark : Array.replicate (ofMachine m.advance).display.size 0 =
      cellBytes (Display.dark : Display size) := by
    rw [cellBytes_dark, ofMachine, size_cellBytes]
  rw [execute, hdark]
  rfl

lemma toNat_sp (m : Machine size) : (ofMachine m).sp.toNat = m.stack.depth.val := by
  have := m.stack.depth.isLt
  rw [ofMachine, UInt8.toNat_ofNat']
  omega

lemma execute_ret (m : Machine size) :
    (ofMachine m.advance).execute .ret (address m.pc) =
      pure ((m.execute .ret).1, ofMachine (m.execute .ret).2) := by
  have hdepth := m.stack.depth.isLt
  have hsp : (ofMachine m.advance).sp.toNat = m.stack.depth.val := toNat_sp m.advance
  have hzero : (ofMachine m.advance).sp = 0 ↔ m.stack.depth.val = 0 := by
    rw [← UInt8.toNat_inj, hsp]
    rfl
  rw [execute]
  by_cases h : m.stack.depth.val = 0
  · have hpop : m.stack.pop? = none := dif_neg (by omega)
    rw [if_pos (hzero.2 h)]
    simp only [Machine.execute, hpop, Operation.toNat_address]
    rfl
  · have hpop : m.stack.pop? = some (m.stack.slots[m.stack.depth.val - 1],
        ⟨m.stack.slots, ⟨m.stack.depth.val - 1, by omega⟩⟩) := dif_pos (by omega)
    have hget : get (ofMachine m.advance).stack (m.stack.depth.val - 1) =
        pure (address m.stack.slots[m.stack.depth.val - 1]) := by
      rw [get_eq (by omega)]
      exact congrArg pure (Vector.getElem_map ..)
    have hdepth1 : 1 ≤ (ofMachine m.advance).sp.toNat := by
      rw [hsp]
      exact Nat.pos_of_ne_zero h
    rw [if_neg (fun h0 => h (hzero.1 h0)), less_eq hdepth1, pure_bind, hsp]
    rw [hget, pure_bind]
    simp only [Machine.execute, hpop]
    rfl

lemma execute_call (m : Machine size) (nnn : Address) :
    (ofMachine m.advance).execute (.call (address nnn)) (address m.pc) =
      pure ((m.execute (.call nnn)).1, ofMachine (m.execute (.call nnn)).2) := by
  have hsp : (ofMachine m.advance).sp.toNat = m.stack.depth.val := toNat_sp m.advance
  rw [execute, hsp]
  by_cases h : m.stack.depth.val < 16
  · have hpush : m.stack.push? (m.pc.offset 2) = some ⟨m.stack.slots.set m.stack.depth (m.pc.offset 2),
        ⟨m.stack.depth.val + 1, by omega⟩⟩ := dif_pos h
    have hset : set (ofMachine m.advance).stack m.stack.depth.val (ofMachine m.advance).pc =
        pure ((m.stack.slots.set m.stack.depth (m.pc.offset 2)).map address) := by
      rw [set_eq h]
      exact congrArg pure (Vector.map_set ..).symm
    rw [if_neg (by omega), hset, pure_bind, fit_eq (by omega), pure_bind]
    simp only [Machine.execute, hpush]
    rfl
  · have hpush : m.stack.push? (m.pc.offset 2) = none := dif_neg h
    rw [if_pos (by omega)]
    simp only [Machine.execute, hpush, Operation.toNat_address]
    rfl

lemma execute_arith (m : Machine size) (op : Arith) (x y : Register) :
    (ofMachine m.advance).execute (ofArith (register x) (register y) op) (address m.pc) =
      pure ((m.execute (.arith op x y)).1, ofMachine (m.execute (.arith op x y)).2) := by
  have hmath := executeMath_ofArith m op x y
  have hdispatch : (ofMachine m.advance).execute (ofArith (register x) (register y) op)
      (address m.pc) = (do
        return (.ok .next, ← (ofMachine m.advance).executeMath
          (ofArith (register x) (register y) op))) := by
    cases op <;> rfl
  have hnext : (m.execute (.arith op x y)).1 = .ok .next := by cases op <;> rfl
  rw [hdispatch, hmath, pure_bind, hnext]

lemma execute_shift (m : Machine size) (op : Shift) (x : Register) :
    (ofMachine m.advance).execute (ofShift (register x) op) (address m.pc) =
      pure ((m.execute (.shift op x)).1, ofMachine (m.execute (.shift op x)).2) := by
  have hmath := executeMath_ofShift m op x
  have hdispatch : (ofMachine m.advance).execute (ofShift (register x) op) (address m.pc) = (do
      return (.ok .next, ← (ofMachine m.advance).executeMath (ofShift (register x) op))) := by
    cases op <;> rfl
  rw [hdispatch, hmath, pure_bind]
  rfl

lemma execute_jumpPlus (m : Machine size) (nnn : Address) :
    (ofMachine m.advance).execute (.jumpPlus (address nnn)) (address m.pc) =
      pure ((m.execute (.jumpPlus nnn)).1, ofMachine (m.execute (.jumpPlus nnn)).2) := by
  have hget : (ofMachine m.advance).getV 0 = pure (m.getV offsetRegister) :=
    getV_ofMachine m.advance offsetRegister
  rw [execute, hget, pure_bind, Operation.toNat_address,
    plus_address nnn (m.getV offsetRegister).toNat_lt, pure_bind, wrapAddress_eq]
  rfl

lemma draw_ofMachine (hfit : size.width * size.height < wordLimit) (m : Machine size)
    (x y : Register) (n : Fin 16) :
    (ofMachine m.advance).draw (register x) (register y) (.ofNat n.val) =
      pure (ofMachine (m.execute (.draw x y n)).2) := by
  have hx := (m.advance.getV x).toNat_lt
  have hy := (m.advance.getV y).toNat_lt
  have hn : (UInt8.ofNat n.val).toNat = n.val := Operation.toNat_register n
  have hdraw := drawSprite_image hfit m.advance (x := (m.advance.getV x).toNat)
    (y := (m.advance.getV y).toNat) (n := n.val) (by omega) (by omega) (by omega)
  rw [draw, getV_ofMachine, pure_bind, getV_ofMachine, pure_bind, hn, toNat_index, hdraw, pure_bind]
  simp only [drawing, setFlag_ofMachine, pure_bind]
  rfl

lemma executeDevice_addIndex (m : Machine size) (x : Register) :
    (ofMachine m.advance).executeDevice (.addIndex (register x)) =
      pure (.next, ofMachine (m.execute (.addIndex x)).2) := by
  have hb := (m.advance.getV x).toNat_lt
  rw [executeDevice, getV_ofMachine, pure_bind, toNat_index, plus_address _ hb, pure_bind,
    wrapAddress_eq]
  rfl

lemma executeDevice_loadGlyph (m : Machine size) (x : Register) :
    (ofMachine m.advance).executeDevice (.loadGlyph (register x)) =
      pure (.next, ofMachine (m.execute (.loadGlyph x)).2) := by
  have hb := (m.advance.getV x).toNat_lt
  have hglyph : (m.advance.getV x).toNat * Memory.glyphHeight < 4096 := by
    rw [Memory.glyphHeight]
    omega
  have hindex : UInt16.ofNat ((m.advance.getV x).toNat * Memory.glyphHeight) =
      address (.ofNat ((m.advance.getV x).toNat * Memory.glyphHeight)) := by
    rw [address, Address.val_ofNat, Nat.mod_eq_of_lt hglyph]
  rw [executeDevice, getV_ofMachine, pure_bind, fit_eq (by omega), pure_bind, Nat.zero_add,
    fit_eq (by omega), pure_bind, hindex]
  rfl

/-- An instruction written out is the instruction, form by form; the program counter is past it already. -/
theorem execute_ofMachine (hfit : size.width * size.height < wordLimit) (m : Machine size)
    (i : Instruction) :
    (ofMachine m.advance).execute (ofInstruction i) (address m.pc) =
      pure ((m.execute i).1, ofMachine (m.execute i).2) := by
  cases i with
  | clearScreen => exact execute_clearScreen m
  | ret => exact execute_ret m
  | call nnn => exact execute_call m nnn
  | arith op x y => exact execute_arith m op x y
  | shift op x => exact execute_shift m op x
  | jumpPlus nnn => exact execute_jumpPlus m nnn
  | system _ | jump _ | loadIndex _ | awaitKey _ => rfl
  | skipIfByte _ _ | skipUnlessByte _ _ | skipIfSame _ _ | skipUnlessSame _ _ =>
      simp only [ofInstruction, execute, getV_ofMachine, pure_bind, skipWhen_ofMachine]
      rfl
  | loadByte _ _ | random _ _ =>
      simp only [ofInstruction, execute, setV_ofMachine, pure_bind]
      rfl
  | addByte _ _ =>
      simp only [ofInstruction, execute, getV_ofMachine, setV_ofMachine, pure_bind]
      rfl
  | draw x y n =>
      rw [ofInstruction, execute, draw_ofMachine hfit, pure_bind]
      rfl
  | skipIfPressed _ | skipUnlessPressed _ =>
      simp only [ofInstruction, execute, executeDevice, getV_ofMachine, isDown_ofMachine, pure_bind,
        skipWhen_ofMachine]
      rfl
  | readDelay _ =>
      simp only [ofInstruction, execute, executeDevice, setV_ofMachine, pure_bind]
      rfl
  | setDelay _ | setSound _ =>
      simp only [ofInstruction, execute, executeDevice, getV_ofMachine, pure_bind]
      rfl
  | addIndex x =>
      rw [ofInstruction, execute, executeDevice_addIndex]
      rfl
  | loadGlyph x =>
      rw [ofInstruction, execute, executeDevice_loadGlyph]
      rfl
  | storeDecimal x =>
      rw [ofInstruction, execute, executeDevice_storeDecimal]
      rfl
  | storeRegisters x =>
      rw [ofInstruction, execute, executeDevice_storeRegisters]
      rfl
  | loadRegisters x =>
      rw [ofInstruction, execute, executeDevice_loadRegisters]
      rfl
  | unknown word =>
      rw [ofInstruction, execute, Operation.toNat_address]
      rfl

/-! ### Steps and calls -/

lemma word_ofMachine (m : Machine size) : (ofMachine m).word = pure m.word := by
  rw [word, toNat_pc, read_ofMachine, pure_bind, plus_address m.pc (by decide), pure_bind,
    read_ofMachine, pure_bind, ofNat_val]
  rfl

/-- A step of the machine written out is the step of the machine. -/
theorem step_ofMachine (hfit : size.width * size.height < wordLimit) (m : Machine size) :
    (ofMachine m).step = pure (m.step.1, ofMachine m.step.2) := by
  cases hm : m.mode with
  | waiting x =>
      simp only [step, Machine.step, ofMachine, Mode.ofMode, hm]
  | running =>
      have hmode : (ofMachine m).mode = .running := by simp only [ofMachine, Mode.ofMode, hm]
      rw [step, hmode]
      simp only [word_ofMachine, pure_bind, Machine.step, hm]
      by_cases h : m.word = 0
      · rw [if_pos h, if_pos h]
      · rw [if_neg h, if_neg h, skip_ofMachine, pure_bind, Operation.decode_eq]
        exact execute_ofMachine hfit m (.decode m.word)

/-- Several steps of the machine written out are those of the machine, and end where they end. -/
theorem run_ofMachine (hfit : size.width * size.height < wordLimit) (n : Nat) (m : Machine size) :
    run n (ofMachine m) = pure ((Machine.run n m).1, ofMachine (Machine.run n m).2) := by
  induction n generalizing m with
  | zero => rfl
  | succ n ih =>
      rw [run, Machine.run, step_ofMachine hfit, pure_bind]
      simp only
      by_cases h : Machine.ends m.step.1
      · rw [if_pos h, if_pos h]
      · rw [if_neg h, if_neg h]
        exact ih m.step.2

/-- A call on the machine written out is the call on the machine. -/
theorem perform_ofMachine (hfit : size.width * size.height < wordLimit) (m : Machine size)
    (call : Machine.Call) : (ofMachine m).perform call = pure (ofMachine (m.perform call)) := by
  cases call with
  | load program =>
      rw [perform, load_ofMachine, pure_bind, Machine.perform, Machine.loadOrKeep]
      cases m.load program <;> rfl
  | reset => exact reset_ofMachine m
  | step =>
      rw [perform, step_ofMachine hfit, pure_bind]
      rfl
  | run steps =>
      rw [perform, run_ofMachine hfit, pure_bind]
      rfl
  | setKey k down => exact setKey_ofMachine m k down
  | clearKeys => rfl
  | tick =>
      rw [perform, tick_ofMachine]
      rfl
  | present width height =>
      rw [perform, present_ofMachine]
      rfl

/-- Calls in turn on the machine written out are the calls on the machine. -/
theorem performAll_ofMachine (hfit : size.width * size.height < wordLimit) (m : Machine size)
    (calls : List Machine.Call) :
    (ofMachine m).performAll calls = pure (ofMachine (m.performAll calls)) :=
  foldlM_image ofMachine (fun m call _ => perform_ofMachine hfit m call) m

end CosmacVip.Words.State
