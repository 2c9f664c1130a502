import CosmacVip.Proofs.Fetch
import CosmacVip.Proofs.Instruction.Forms
import Mathlib.Algebra.Ring.Parity
import Mathlib.Data.Finset.Prod

/-!
What a sprite does to a display of any size.

* `Display.lit_flipAll`, `Display.erased_flipAll_iff`: cells that are inverted one after the other,
  some of them more than once;
* `Machine.hits`: how many set bits of a sprite fall on a cell;
* `Machine.count_spriteCells`: a cell is inverted as often as it is hit;
* `Machine.drawn_by_hits`: all that an instruction of the form `Dxyn` does.

A display that is narrower than eight columns, or lower than the sprite, is hit by several bits at
one cell.
-/

namespace CosmacVip

namespace Display

variable {size : Size}

/-! ### Cells inverted in turn -/

/-- A cell is inverted in the end if it was inverted an odd number of times. -/
lemma lit_foldl_flipNoting (state : Bool × Display size) (cells : List (Cell size))
    (e : Cell size) :
    (cells.foldl flipNoting state).2.lit e = (state.2.lit e ^^ decide (Odd (cells.count e))) := by
  induction cells generalizing state with
  | nil => simp
  | cons c cells ih =>
      rw [List.foldl_cons, ih, flipNoting, lit_flip]
      by_cases hc : e = c
      · subst hc
        rw [if_pos rfl, List.count_cons_self]
        simp only [Nat.odd_add_one, decide_not, Bool.not_xor, Bool.xor_not]
      · rw [if_neg hc, List.count_cons_of_ne (Ne.symm hc)]

/-- A cell was lit when its turn came if it was lit before and came at all, or if it came twice. -/
lemma noted_foldl_flipNoting_iff (noted : Bool) (d : Display size) (cells : List (Cell size)) :
    (cells.foldl flipNoting (noted, d)).1 = true ↔
      noted = true ∨ ∃ e, d.lit e = true ∧ 1 ≤ cells.count e ∨ 2 ≤ cells.count e := by
  induction cells generalizing noted d with
  | nil => simp
  | cons c cells ih =>
      rw [List.foldl_cons, flipNoting, ih, Bool.or_eq_true, or_assoc]
      refine or_congr_right ⟨?_, ?_⟩
      · rintro (hlit | ⟨e, he⟩)
        · exact ⟨c, .inl ⟨hlit, by simp⟩⟩
        · rw [lit_flip] at he
          refine ⟨e, ?_⟩
          by_cases hc : e = c
          · subst hc
            rw [List.count_cons_self]
            omega
          · rw [List.count_cons_of_ne (Ne.symm hc)]
            simpa [hc] using he
      · rintro ⟨e, he⟩
        by_cases hc : e = c
        · subst hc
          rw [List.count_cons_self] at he
          cases hlit : d.lit e with
          | true => exact .inl rfl
          | false =>
              -- its first turn lights the cell, so that the next one finds it lit
              refine .inr ⟨e, .inl ⟨by simp [lit_flip, hlit], ?_⟩⟩
              simpa [hlit] using he
        · rw [List.count_cons_of_ne (Ne.symm hc)] at he
          exact .inr ⟨e, by simpa [lit_flip, hc] using he⟩

lemma lit_flipAll (d : Display size) (cells : List (Cell size)) (e : Cell size) :
    (d.flipAll cells).2.lit e = (d.lit e ^^ decide (Odd (cells.count e))) :=
  lit_foldl_flipNoting (false, d) cells e

lemma erased_flipAll_iff (d : Display size) (cells : List (Cell size)) :
    (d.flipAll cells).1 = true ↔
      ∃ e, d.lit e = true ∧ 1 ≤ cells.count e ∨ 2 ≤ cells.count e := by
  rw [flipAll, noted_foldl_flipNoting_iff]
  simp

/-! ### The cells of a sprite -/

lemma wrap_eq_iff {x y : Nat} {e : Cell size} :
    Cell.wrap x y = e ↔ x % size.width = e.x ∧ y % size.height = e.y := by
  obtain ⟨ex, ey⟩ := e
  simp [Cell.wrap, Fin.ext_iff]

/-- The cells of a sprite in memory, row by row. -/
lemma spriteCells_slice (m : Memory) (a : Address) (x y n : Nat) :
    (spriteCells x y (m.slice a n) : List (Cell size)) =
      (List.range n).flatMap fun r =>
        (rowColumns (m.read (a.offset r))).map fun c => .wrap (x + c) (y + r) := by
  rw [spriteCells, Memory.zipIdx_slice, List.flatMap_map]

end Display

namespace Machine

open Display (Cell)

variable {size : Display.Size}

/-- Whether a bit of the sprite at `I`, given by its row and column, is set and falls on a cell when
the top left corner of the sprite is at `(x, y)`. -/
def FallsOn (m : Machine size) (x y : Nat) (e : Cell size) (bit : Nat × Nat) : Prop :=
  (m.memory.read (m.index.offset bit.1)).toNat.testBit (7 - bit.2) = true ∧
    (x + bit.2) % size.width = e.x ∧ (y + bit.1) % size.height = e.y

instance (m : Machine size) (x y : Nat) (e : Cell size) : DecidablePred (m.FallsOn x y e) :=
  fun _ => inferInstanceAs (Decidable (_ ∧ _ ∧ _))

/-- How many bits of the sprite with `n` rows at `I` fall on a cell. -/
def hits (m : Machine size) (x y n : Nat) (e : Cell size) : Nat :=
  ((Finset.range n ×ˢ Finset.range 8).filter (m.FallsOn x y e)).card

/-- A sprite inverts each cell as often as its bits fall on it. -/
lemma count_spriteCells (m : Machine size) (x y n : Nat) (e : Cell size) :
    (Display.spriteCells x y (m.memory.slice m.index n)).count e = m.hits x y n e := by
  have hhits : m.hits x y n e =
      ((List.range n).flatMap fun r => (List.range 8).map (Prod.mk r)).countP (m.FallsOn x y e) := by
    rw [List.countP_eq_length_filter]
    exact congrArg (fun s => (Multiset.filter _ s).card) (Multiset.coe_product _ _)
  have hrow (r : Nat) :
      ((Display.rowColumns (m.memory.read (m.index.offset r))).map fun c =>
        (.wrap (x + c) (y + r) : Cell size)).count e =
      ((List.range 8).map (Prod.mk r)).countP (m.FallsOn x y e) := by
    rw [Display.rowColumns, List.count, List.countP_map, List.countP_filter, List.countP_map]
    refine List.countP_congr fun c _ => ?_
    simp [FallsOn, Display.wrap_eq_iff, and_comm]
  rw [hhits, Display.spriteCells_slice, List.count_flatMap, List.countP_flatMap]
  exact congrArg List.sum (List.map_congr_left fun r _ => hrow r)

/-! ### The instruction -/

lemma fetch?_draw {m : Machine size} {x y : Register} {n : Fin 16} (hmode : m.mode = .running)
    (hword : m.word.toNat = 0xD000 + 0x100 * x.val + 0x10 * y.val + n.val) :
    m.fetch? = some (.draw x y n) := by
  have hencode : m.word = (Instruction.draw x y n).encode := by
    apply UInt16.toNat.inj
    have hx := x.isLt
    have hy := y.isLt
    have hn := n.isLt
    rw [Instruction.encode, Instruction.wordOfPair, UInt16.toNat_ofNat', hword]
    omega
  refine fetch?_eq_some_iff.2 ⟨hmode, ?_, ?_⟩
  · intro hzero
    rw [hzero, UInt16.toNat_zero] at hword
    omega
  · rw [hencode]
    exact Instruction.decode_encode (by simp) (by simp) (by simp)

/-- **What drawing does.** A running machine of any size of display comes to a word of the form
`Dxyn`. With the coordinates that the two registers hold before, a cell ends up inverted exactly if
an odd number of the sprite's bits fall on it. The flag register becomes 1 if one of them falls on a
cell that was lit, or if two of them fall on one cell, and 0 otherwise. The display is marked as
changed, the program counter moves on, and nothing else changes. -/
theorem drawn_by_hits {m : Machine size} {x y : Register} {n : Fin 16} (hmode : m.mode = .running)
    (hword : m.word.toNat = 0xD000 + 0x100 * x.val + 0x10 * y.val + n.val) :
    let hits := m.hits (m.getV x).toNat (m.getV y).toNat n
    ∃ (erased : Bool) (display : Display size),
      m.step = (.ok .draw, { m with
        pc := m.pc.offset 2
        v := m.v.set flagRegister (flagByte erased)
        display := display
        redraw := true }) ∧
      (∀ e, display.lit e = (m.display.lit e ^^ decide (hits e % 2 = 1))) ∧
      (erased = true ↔ ∃ e, m.display.lit e = true ∧ 1 ≤ hits e ∨ 2 ≤ hits e) := by
  intro hits
  let cells : List (Cell size) :=
    Display.spriteCells (m.getV x).toNat (m.getV y).toNat (m.memory.slice m.index n)
  have hcount (e : Cell size) : cells.count e = hits e := m.count_spriteCells _ _ _ e
  refine ⟨(m.display.flipAll cells).1, (m.display.flipAll cells).2, ?_, fun e => ?_, ?_⟩
  · rw [step_of_fetch (fetch?_draw hmode hword)]
    rfl
  · simp only [Display.lit_flipAll, hcount, Nat.odd_iff]
  · simp only [Display.erased_flipAll_iff, hcount]

/-- Three columns and two rows. -/
def narrowSize : Display.Size := ⟨3, 2, by decide, by decide⟩

/-- A narrow dark display; a sprite of three rows in the last cell of memory and the first two; and
its coordinates in the first register and in the flag register. -/
def drawingAcross : Machine narrowSize :=
  { fresh _ (Memory.withProgram #[0xD0, 0xF3]) ⟨Vector.replicate 8 0, 0⟩ with
    index := .ofNat 0xFFF
    v := (Vector.replicate 16 1).set 0 2 }

lemma slice_drawingAcross :
    drawingAcross.memory.slice drawingAcross.index 3 = [0x00, 0xF0, 0x90] := by
  show [(Memory.withProgram _).read 0xFFF, (Memory.withProgram _).read 0x000,
    (Memory.withProgram _).read 0x001] = _
  simp only [Memory.read_withProgram]
  decide

/-- The sprite meets itself at two cells, which go dark again, and that counts as a collision. -/
theorem drawn_by_hits_across :
    let m := drawingAcross
    m.mode = .running ∧
      m.word.toNat = 0xD000 + 0x100 * (0x0 : Register).val + 0x10 * (0xF : Register).val +
        (3 : Fin 16).val ∧
      m.step.1 = .ok .draw ∧ m.step.2.display.rowTexts = ["##.", "..."] ∧
      m.step.2.getV flagRegister = 1 := by
  intro m
  have hword : m.word = 0xD0F3 :=
    word_program #[0xD0, 0xF3] 0 rfl (Address.offset_zero _).symm (by decide) rfl
  have hhits (e) : m.hits 2 1 3 e = (Display.spriteCells 2 1 [0x00, 0xF0, 0x90]).count e := by
    rw [← slice_drawingAcross]
    exact (m.count_spriteCells 2 1 3 e).symm
  obtain ⟨erased, display, hstep, hlit, herased⟩ :=
    drawn_by_hits (m := m) (x := 0x0) (y := 0xF) (n := 3) rfl (by rw [hword]; rfl)
  have hx : (m.getV 0x0).toNat = 2 := by decide
  have hy : (m.getV 0xF).toNat = 1 := by decide
  have hn : ((3 : Fin 16) : Nat) = 3 := rfl
  simp only [hx, hy, hn, hhits] at hlit herased
  obtain rfl : erased = true := herased.2 ⟨⟨⟨2, by decide⟩, ⟨0, by decide⟩⟩, by decide⟩
  rw [hstep]
  refine ⟨rfl, by rw [hword]; rfl, rfl, ?_, ?_⟩
  · show display.rowTexts = _
    simp only [Display.rowTexts, Display.rows, hlit]
    decide
  · show (m.v.set flagRegister (flagByte true))[flagRegister] = 1
    simp [flagByte]

end Machine

end CosmacVip
