import CosmacVip.Proofs.Words.Host

/-!
Drawing a sprite bit by bit lights the cells that the display's own drawing lights.

* `Words.State.drawBit_image`: one bit, as one inverted cell;
* `Words.State.drawRow_image`: one row, as the cells of its columns;
* `Words.State.drawSprite_image`: the whole sprite.

The sums of coordinates stay small and a place is below the number of cells, so that no size of the
display, a single cell included, leads to a trap.
-/

namespace CosmacVip.Words

/-- A loop over images of states is the image of a loop if each of its steps is. -/
lemma foldlM_image {α σ τ : Type} (image : σ → τ) {f : τ → α → Checked τ} {g : σ → α → σ}
    {l : List α} (h : ∀ s, ∀ a ∈ l, f (image s) a = pure (image (g s a))) (s : σ) :
    l.foldlM f (image s) = pure (image (l.foldl g s)) := by
  induction l generalizing s with
  | nil => rfl
  | cons a l ih =>
      rw [List.foldlM_cons, h s a (by simp), pure_bind, ih fun s b hb => h s b (by simp [hb])]
      rfl

lemma bitFromTop_two_pow {c : Nat} (h : c < 8) : bitFromTop c = pure (.ofNat (2 ^ (7 - c))) := by
  rw [bitFromTop_eq h]
  congr 1
  revert c
  decide

/-- Whether a sprite row has a bit set, tested by a mask. -/
lemma and_bitFromTop {row : UInt8} {c : Nat} (h : c < 8) :
    row &&& .ofNat (2 ^ (7 - c)) = 0 ↔ row.toNat.testBit (7 - c) = false := by
  have hlt : 2 ^ (7 - c) < 2 ^ 8 := Nat.pow_lt_pow_right (by decide) (by omega)
  rw [← UInt8.toNat_inj, UInt8.toNat_and, UInt8.toNat_ofNat', Nat.mod_eq_of_lt hlt]
  exact and_two_pow_eq_zero

namespace State

variable {size : Display.Size}

/-- A state of a drawing, with its display as bytes. -/
def drawing (s : Bool × Display size) : Bool × Array UInt8 := (s.1, cellBytes s.2)

/-- Inverting the byte of a cell inverts the cell. -/
lemma set_cellBytes (d : Display size) (c : Display.Cell size) :
    ∃ bytes, set (cellBytes d).toVector c.index (flagByte (d.lit c) ^^^ 1) = pure bytes ∧
      bytes.toArray = cellBytes (d.flip c) := by
  have hflip : flagByte (d.lit c) ^^^ 1 = flagByte (!d.lit c) := by cases d.lit c <;> rfl
  refine ⟨_, set_eq (by rw [size_cellBytes]; exact c.index_lt), ?_⟩
  simp only [cellBytes, Display.flip, Vector.toArray_set, Array.map_set, hflip]
  rfl

/-- One bit of a sprite row is one cell, inverted if the bit is set. -/
lemma drawBit_image (hfit : size.width * size.height < wordLimit) {x y c : Nat} {row : UInt8}
    (hx : x < 2 ^ 16) (hc : c < 8) (s : Bool × Display size) :
    drawBit size.width x (y % size.height) row (drawing s) c =
      pure (drawing (if row.toNat.testBit (7 - c) then
        Display.flipNoting s (.wrap (x + c) y) else s)) := by
  rw [drawBit, bitFromTop_two_pow hc, pure_bind]
  cases hbit : row.toNat.testBit (7 - c) with
  | false => exact if_pos ((and_bitFromTop hc).2 hbit)
  | true =>
      have hmask : ¬ row &&& .ofNat (2 ^ (7 - c)) = 0 := fun h0 => by
        rw [(and_bitFromTop hc).1 h0] at hbit
        cases hbit
      let cell : Display.Cell size := .wrap (x + c) y
      obtain ⟨hrow, hplace⟩ := place_eq hfit cell
      have hget := get_cellBytes s.2 cell
      obtain ⟨bytes, hset, hbytes⟩ := set_cellBytes s.2 cell
      have hlit : (flagByte (s.2.lit cell) == 1) = s.2.lit cell := by
        cases s.2.lit cell <;> rfl
      rw [if_neg hmask, plus_small hx (by omega), pure_bind, modulo_eq size.width_pos, pure_bind,
        show y % size.height = cell.y.val from rfl, hrow, pure_bind,
        show (x + c) % size.width = cell.x.val from rfl, hplace, pure_bind]
      simp only [drawing]
      rw [hget, pure_bind, hlit, hset, pure_bind, hbytes]
      rfl

/-- The cells of one row of a sprite. -/
lemma drawColumns_image (hfit : size.width * size.height < wordLimit) {x y : Nat} {row : UInt8}
    (hx : x < 2 ^ 16) (s : Bool × Display size) :
    (List.range 8).foldlM (drawBit size.width x (y % size.height) row) (drawing s) =
      pure (drawing (((Display.rowColumns row).map fun c =>
        (.wrap (x + c) y : Display.Cell size)).foldl Display.flipNoting s)) := by
  rw [Display.rowColumns, List.foldl_map, List.foldl_filter]
  refine foldlM_image drawing (fun s c hc => ?_) s
  exact drawBit_image hfit hx (List.mem_range.1 hc) s

lemma drawRow_image (hfit : size.width * size.height < wordLimit) (m : Machine size) {x y r : Nat}
    (hx : x < 2 ^ 16) (hy : y < 2 ^ 15) (hr : r < 2 ^ 15) (s : Bool × Display size) :
    (ofMachine m).drawRow x y m.index (drawing s) r =
      pure (drawing (((Display.rowColumns (m.memory.read (m.index.offset r))).map fun c =>
        (.wrap (x + c) (y + r) : Display.Cell size)).foldl Display.flipNoting s)) := by
  have hi := m.index.isLt
  rw [drawRow, plus_small (by omega) (by omega), pure_bind, read_ofMachine, pure_bind,
    plus_small (by omega) (by omega), pure_bind]
  have hmod : modulo (y + r) (ofMachine m).height = pure ((y + r) % size.height) :=
    modulo_eq size.height_pos
  rw [hmod, pure_bind]
  exact drawColumns_image hfit hx s

/-- Drawing a sprite row by row is drawing it on the display. -/
lemma drawSprite_image (hfit : size.width * size.height < wordLimit) (m : Machine size) {x y n : Nat}
    (hx : x < 2 ^ 16) (hy : y < 2 ^ 15) (hn : n < 2 ^ 15) :
    (List.range n).foldlM ((ofMachine m).drawRow x y m.index) (false, (ofMachine m).display) =
      pure (drawing (m.display.drawSprite x y (m.memory.slice m.index n))) := by
  rw [Display.drawSprite, Display.flipAll, Display.spriteCells, List.foldl_flatMap,
    Memory.zipIdx_slice, List.foldl_map]
  refine foldlM_image drawing (fun s r hr => ?_) (false, m.display)
  have hr := List.mem_range.1 hr
  exact drawRow_image hfit m hx hy (by omega) s

end State

end CosmacVip.Words
