import CosmacVip.Proofs.Sprites

/-!
Sprites that are drawn one after the other.

* `Sprite`, `Display.draw`, `Display.drawAll`: sprites at their places, and a display after one or
  several of them;
* `Display.draw_draw`, `Display.draw_comm`: a sprite undoes itself, and two may change places;
* `Display.drawAll_of_perm`, `Display.drawAll_filter`: so the order of sprites makes no difference,
  and one that is drawn an even number of times none at all;
* `Display.erased_either_iff`: a sprite that is drawn twice erases something unless it has no cells;
* `Display.sprites_commute`: all this of displays, and of machines that draw.
-/

namespace CosmacVip

/-- A sprite, with the place of its top left corner. -/
structure Sprite where
  x : Nat
  y : Nat
  rows : List UInt8
deriving DecidableEq

namespace Display

variable {size : Size}

/-- The cells under the set bits of a sprite at its place. -/
def cellsOf (s : Sprite) : List (Cell size) := spriteCells s.x s.y s.rows

/-- The display after a sprite is drawn. -/
def draw (d : Display size) (s : Sprite) : Display size := (d.drawSprite s.x s.y s.rows).2

/-- The display after sprites are drawn in turn. -/
def drawAll (d : Display size) (sprites : List Sprite) : Display size := sprites.foldl draw d

lemma lit_draw (d : Display size) (s : Sprite) (e : Cell size) :
    (d.draw s).lit e = (d.lit e ^^ decide (Odd ((cellsOf s).count e))) :=
  d.lit_flipAll (cellsOf s) e

/-! ### Commuting involutions -/

/-- A sprite undoes itself. -/
lemma draw_draw (d : Display size) (s : Sprite) : (d.draw s).draw s = d := by
  apply ext_lit
  intro e
  rw [lit_draw, lit_draw, Bool.xor_assoc, Bool.xor_self, Bool.xor_false]

/-- Two sprites may change places. -/
lemma draw_comm (d : Display size) (s t : Sprite) : (d.draw s).draw t = (d.draw t).draw s := by
  apply ext_lit
  intro e
  simp only [lit_draw]
  exact Bool.xor_right_comm _ _ _

lemma drawAll_of_perm (d : Display size) {sprites others : List Sprite}
    (h : sprites.Perm others) : d.drawAll others = d.drawAll sprites := by
  apply h.symm.foldl_eq'
  intro s _ t _ d
  exact d.draw_comm s t

lemma drawAll_replicate (d : Display size) (s : Sprite) {n : Nat} (h : Even n) :
    d.drawAll (List.replicate n s) = d := by
  obtain ⟨k, rfl⟩ := h
  induction k with
  | zero => rfl
  | succ k ih =>
      rw [show k + 1 + (k + 1) = k + k + 1 + 1 by omega, List.replicate_succ, List.replicate_succ]
      show ((d.draw s).draw s).drawAll _ = d
      rw [draw_draw, ih]

/-- A sprite that is drawn an even number of times may be left out. -/
lemma drawAll_filter (d : Display size) {sprites : List Sprite} {s : Sprite}
    (h : Even (sprites.count s)) : d.drawAll (sprites.filter (· ≠ s)) = d.drawAll sprites := by
  have hperm : (List.replicate (sprites.count s) s ++ sprites.filter (· ≠ s)).Perm sprites := by
    rw [← List.filter_eq]
    simpa using List.filter_append_perm (· = s) sprites
  calc d.drawAll (sprites.filter (· ≠ s))
      = (d.drawAll (List.replicate (sprites.count s) s)).drawAll (sprites.filter (· ≠ s)) := by
        rw [drawAll_replicate d s h]
    _ = d.drawAll (List.replicate (sprites.count s) s ++ sprites.filter (· ≠ s)) :=
        List.foldl_append.symm
    _ = d.drawAll sprites := (d.drawAll_of_perm hperm).symm

/-! ### Collisions -/

/-- Of cells that are inverted twice over, one is lit at some time unless there are none. -/
lemma erased_either_iff (d : Display size) (cells : List (Cell size)) :
    (d.flipAll cells).1 = true ∨ ((d.flipAll cells).2.flipAll cells).1 = true ↔ cells ≠ [] := by
  simp only [erased_flipAll_iff, lit_flipAll]
  constructor
  · rintro h rfl
    simp at h
  · intro h
    obtain ⟨e, he⟩ := List.exists_mem_of_ne_nil cells h
    have hcount : 1 ≤ cells.count e := List.one_le_count_iff.2 he
    cases hlit : d.lit e with
    | true => exact .inl ⟨e, .inl ⟨hlit, hcount⟩⟩
    | false =>
        by_cases htwice : 2 ≤ cells.count e
        · exact .inl ⟨e, .inr htwice⟩
        · have hone : cells.count e = 1 := by omega
          exact .inr ⟨e, .inl ⟨by simp [hlit, hone], hcount⟩⟩

end Display

/-! ### Machines that draw -/

namespace Machine

variable {size : Display.Size}

/-- The sprite of the instruction `Dxyn`. -/
def sprite (m : Machine size) (x y : Register) (n : Fin 16) : Sprite :=
  ⟨(m.getV x).toNat, (m.getV y).toNat, m.memory.slice m.index n⟩

lemma cellsOf_sprite_ne_nil_iff (m : Machine size) (x y : Register) (n : Fin 16) :
    (Display.cellsOf (m.sprite x y n) : List (Display.Cell size)) ≠ [] ↔
      ∃ r < n.val, ∃ c < 8, (m.memory.read (m.index.offset r)).toNat.testBit (7 - c) = true := by
  rw [Display.cellsOf, sprite, Display.spriteCells_slice]
  simp [Display.rowColumns]

/-- The machine after an instruction that draws. -/
lemma execute_draw (m : Machine size) (x y : Register) (n : Fin 16) :
    (m.execute (.draw x y n)).2 =
      { m.advance.setV flagRegister
          (flagByte (m.display.flipAll (Display.cellsOf (m.sprite x y n))).1) with
        display := m.display.draw (m.sprite x y n)
        redraw := true } := rfl

lemma getV_execute_draw (m : Machine size) (x y z : Register) (n : Fin 16) :
    (m.execute (.draw x y n)).2.getV z =
      if z = flagRegister then
        flagByte (m.display.flipAll (Display.cellsOf (m.sprite x y n))).1
      else m.getV z :=
  getV_setV m.advance flagRegister z _

/-- An instruction whose coordinates are not in the flag register draws the same sprite again. -/
lemma sprite_execute_draw (m : Machine size) {x y : Register} (n : Fin 16)
    (hx : x ≠ flagRegister) (hy : y ≠ flagRegister) :
    (m.execute (.draw x y n)).2.sprite x y n = m.sprite x y n := by
  rw [sprite, getV_execute_draw, getV_execute_draw, if_neg hx, if_neg hy]
  rfl

lemma flagByte_eq_one_iff {b : Bool} : flagByte b = 1 ↔ b = true := by
  cases b <;> decide

end Machine

namespace Display

variable {size : Size}

/-- **Sprites commute and undo themselves.** Take any display, and any sprites at any places, which
may overlap each other and themselves and go over the edges. In whatever order they are drawn, the
display is the same in the end, and one that is drawn an even number of times may be left out. What
a machine draws is such a sprite. If it carries out the same instruction twice in a row, with
coordinates that are not in the flag register, then its display is as it was, and one of the two
times it has found a collision exactly if the sprite has a bit set. -/
theorem sprites_commute (d : Display size) (sprites : List Sprite) :
    (∀ others, sprites.Perm others → d.drawAll others = d.drawAll sprites) ∧
      (∀ s, Even (sprites.count s) → d.drawAll (sprites.filter (· ≠ s)) = d.drawAll sprites) ∧
      ∀ (m : Machine size) (x y : Register) (n : Fin 16), m.fetch? = some (.draw x y n) →
        let once := m.step.2
        let twice := once.step.2
        once.display = m.display.drawAll [m.sprite x y n] ∧
          (x ≠ flagRegister → y ≠ flagRegister → once.fetch? = some (.draw x y n) →
            twice.display = m.display ∧
            (once.getV flagRegister = 1 ∨ twice.getV flagRegister = 1 ↔
              ∃ r < n.val, ∃ c < 8,
                (m.memory.read (m.index.offset r)).toNat.testBit (7 - c) = true)) := by
  refine ⟨fun _ => d.drawAll_of_perm, fun _ => d.drawAll_filter, fun m x y n hfirst => ?_⟩
  have honce : m.step.2 = (m.execute (.draw x y n)).2 := by rw [Machine.step_of_fetch hfirst]
  refine ⟨by rw [honce]; rfl, fun hx hy hsecond => ?_⟩
  have htwice : m.step.2.step.2 = (m.step.2.execute (.draw x y n)).2 := by
    rw [Machine.step_of_fetch hsecond]
  have hdisplay : (m.execute (.draw x y n)).2.display = m.display.draw (m.sprite x y n) := rfl
  constructor
  · rw [htwice, Machine.execute_draw]
    show m.step.2.display.draw (m.step.2.sprite x y n) = m.display
    rw [honce, Machine.sprite_execute_draw m n hx hy, hdisplay, draw_draw]
  · rw [htwice, Machine.getV_execute_draw, if_pos rfl, honce, Machine.getV_execute_draw,
      if_pos rfl, Machine.flagByte_eq_one_iff, Machine.flagByte_eq_one_iff,
      Machine.sprite_execute_draw m n hx hy, hdisplay, ← Machine.cellsOf_sprite_ne_nil_iff]
    exact erased_either_iff m.display _

/-- Two rows that meet themselves on a display of three columns. -/
def wideSprite : Sprite := ⟨2, 1, [0xF0, 0x90]⟩

/-- A single cell, which the first row also covers. -/
def dotSprite : Sprite := ⟨0, 1, [0x80]⟩

/-- A program that draws the top of the glyph of zero twice. -/
def drawingTwice : Machine Machine.narrowSize :=
  .fresh _ (Memory.withProgram #[0xD0, 0x12, 0xD0, 0x12]) ⟨Vector.replicate 8 0, 0⟩

/-- The wide sprite is drawn before and after the single cell, and then both times first; and a
machine draws twice on a display that is narrower than its sprite. -/
theorem sprites_commute_overlapping :
    let d : Display Machine.narrowSize := dark
    let m := drawingTwice
    [wideSprite, dotSprite, wideSprite].Perm [wideSprite, wideSprite, dotSprite] ∧
      d.drawAll [wideSprite, wideSprite, dotSprite] =
        d.drawAll [wideSprite, dotSprite, wideSprite] ∧
      Even ([wideSprite, dotSprite, wideSprite].count wideSprite) ∧
      d.drawAll [dotSprite] = d.drawAll [wideSprite, dotSprite, wideSprite] ∧
      m.fetch? = some (.draw 0 1 2) ∧ m.step.2.fetch? = some (.draw 0 1 2) ∧
      m.step.2.step.2.display = m.display ∧
      (m.step.2.getV flagRegister = 1 ∨ m.step.2.step.2.getV flagRegister = 1) := by
  intro d m
  obtain ⟨hperm, heven, hdraw⟩ := sprites_commute d [wideSprite, dotSprite, wideSprite]
  have horder : [wideSprite, dotSprite, wideSprite].Perm [wideSprite, wideSprite, dotSprite] := by
    decide
  have hcount : Even ([wideSprite, dotSprite, wideSprite].count wideSprite) := by decide
  have hfirst : m.fetch? = some (.draw 0 1 2) :=
    Machine.fetch?_program #[0xD0, 0x12, 0xD0, 0x12] 0 rfl rfl (Address.offset_zero _).symm
      (by decide) (w := 0xD012) rfl (by decide)
  have hsecond : m.step.2.fetch? = some (.draw 0 1 2) := by
    rw [Machine.step_of_fetch hfirst, Machine.execute_draw]
    exact Machine.fetch?_program #[0xD0, 0x12, 0xD0, 0x12] 2 rfl rfl rfl (by decide) (w := 0xD012)
      rfl (by decide)
  obtain ⟨-, htwice⟩ := hdraw m 0 1 2 hfirst
  obtain ⟨hdisplay, hflag⟩ := htwice (by decide) (by decide) hsecond
  have hbit : (m.memory.read (m.index.offset 0)).toNat.testBit (7 - 0) = true := by
    show ((Memory.withProgram _).read 0).toNat.testBit 7 = true
    rw [Memory.read_withProgram]
    decide
  exact ⟨horder, hperm _ horder, hcount, heven wideSprite hcount, hfirst, hsecond, hdisplay,
    hflag.2 ⟨0, by decide, 0, by decide, hbit⟩⟩

end Display

end CosmacVip
