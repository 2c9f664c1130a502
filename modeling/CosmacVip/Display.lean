/-!
The display: a grid of cells, each lit or dark, that wraps around at its edges.

* `Display.Size`: at least one column and one row;
* `Display.Cell`: a position inside the grid, so that no access can fail;
* `Display.lit`: whether a cell is lit, which is all there is to know of a display (`ext_lit`);
* `Display.flip`, `Display.flipAll`: inverting cells one after the other, and whether one was lit;
* `Display.spriteCells`: the cells that a sprite inverts.
-/

namespace CosmacVip.Display

/-- The size of a display, with at least one cell. -/
structure Size where
  width : Nat
  height : Nat
  width_pos : 0 < width
  height_pos : 0 < height
deriving DecidableEq

/-- Sixty-four columns and thirty-two rows. -/
def Size.standard : Size := ⟨64, 32, by decide, by decide⟩

/-- The size nearest to the wanted one that has at least one column and one row. -/
def Size.atLeastOne (width height : Nat) : Size :=
  ⟨max width 1, max height 1, by omega, by omega⟩

/-- A position on a display: column and row. -/
structure Cell (size : Size) where
  x : Fin size.width
  y : Fin size.height
deriving DecidableEq

namespace Cell

variable {size : Size}

/-- The position that any pair of coordinates denotes once both wrap around. -/
def wrap (x y : Nat) : Cell size :=
  ⟨⟨x % size.width, Nat.mod_lt _ size.width_pos⟩, ⟨y % size.height, Nat.mod_lt _ size.height_pos⟩⟩

/-- Where a cell stands when the rows follow one another. -/
def index (c : Cell size) : Nat := c.x + c.y * size.width

/-- A cell stands before the end of the last row. -/
theorem index_lt (c : Cell size) : c.index < size.width * size.height := by
  have hx := c.x.isLt
  have hy : (c.y.val + 1) * size.width ≤ size.height * size.width := Nat.mul_le_mul_right _ c.y.isLt
  rw [Nat.add_mul, Nat.one_mul] at hy
  rw [index, Nat.mul_comm size.width]
  omega

/-- Different cells stand at different places. -/
theorem index_inj {c d : Cell size} (h : c.index = d.index) : c = d := by
  have hx : c.x.val = d.x.val := by
    have := congrArg (· % size.width) h
    simpa [index, Nat.mod_eq_of_lt c.x.isLt, Nat.mod_eq_of_lt d.x.isLt] using this
  have hy : c.y.val * size.width = d.y.val * size.width := by
    simp only [index] at h
    omega
  obtain ⟨cx, cy⟩ := c
  obtain ⟨dx, dy⟩ := d
  simp only [Cell.mk.injEq, Fin.ext_iff]
  exact ⟨hx, Nat.eq_of_mul_eq_mul_right size.width_pos hy⟩

/-- The place of a cell, as an index into the cells of a display. -/
def place (c : Cell size) : Fin (size.width * size.height) := ⟨c.index, c.index_lt⟩

end Cell

end Display

/-- The cells of a display, row by row; `true` is lit. -/
structure Display (size : Display.Size) where
  cells : Vector Bool (size.width * size.height)
deriving DecidableEq

namespace Display

variable {size : Size}

/-- All cells dark. -/
def dark : Display size := ⟨Vector.replicate _ false⟩

/-- Whether a cell is lit. -/
def lit (d : Display size) (c : Cell size) : Bool := d.cells[c.place]

/-- Whether the cell at the wrapped coordinates is lit. -/
def pixel (d : Display size) (x y : Nat) : Bool := d.lit (.wrap x y)

/-- The display with one cell inverted. -/
def flip (d : Display size) (c : Cell size) : Display size :=
  ⟨d.cells.set c.place (!d.lit c)⟩

/-- No cell of the dark display is lit. -/
theorem lit_dark (c : Cell size) : (dark : Display size).lit c = false := by
  simp [dark, lit]

/-- Inverting a cell leaves the others alone. -/
theorem lit_flip (d : Display size) (c e : Cell size) :
    (d.flip c).lit e = if e = c then !d.lit e else d.lit e := by
  by_cases h : e = c
  · subst h
    simp [flip, lit]
  · have : c.index ≠ e.index := fun i => h (Cell.index_inj i.symm)
    simp [flip, lit, Cell.place, h, this]

/-- Displays that light the same cells are equal. -/
theorem ext_lit {d e : Display size} (h : ∀ c, d.lit c = e.lit c) : d = e := by
  obtain ⟨d⟩ := d
  obtain ⟨e⟩ := e
  congr
  apply Vector.ext
  intro i hi
  have hw := size.width_pos
  have hx : i % size.width < size.width := Nat.mod_lt _ hw
  have hy : i / size.width < size.height := Nat.div_lt_of_lt_mul hi
  have hi : i % size.width + i / size.width * size.width = i := Nat.mod_add_div' i size.width
  simpa [lit, Cell.place, Cell.index, hi] using h ⟨⟨_, hx⟩, ⟨_, hy⟩⟩

/-- Inverts one cell more; the flag tells whether a cell inverted so far was lit. -/
def flipNoting (state : Bool × Display size) (c : Cell size) : Bool × Display size :=
  (state.1 || state.2.lit c, state.2.flip c)

/-- Inverts the cells in turn, and tells whether one of them was lit when its turn came. -/
def flipAll (d : Display size) (cells : List (Cell size)) : Bool × Display size :=
  cells.foldl flipNoting (false, d)

/-- The columns of the set bits of a sprite row, the leftmost bit being column zero. -/
def rowColumns (row : UInt8) : List Nat :=
  (List.range 8).filter fun c => row.toNat.testBit (7 - c)

/-- The cells under the set bits of a sprite whose top left corner is at `(x, y)`. -/
def spriteCells (x y : Nat) (rows : List UInt8) : List (Cell size) :=
  rows.zipIdx.flatMap fun (row, r) => (rowColumns row).map fun c => .wrap (x + c) (y + r)

/-- Draws a sprite, and tells whether it erased a lit cell. -/
def drawSprite (d : Display size) (x y : Nat) (rows : List UInt8) : Bool × Display size :=
  d.flipAll (spriteCells x y rows)

/-- The rows from top to bottom, each from left to right. -/
def rows (d : Display size) : List (List Bool) :=
  (List.finRange size.height).map fun y => (List.finRange size.width).map fun x => d.lit ⟨x, y⟩

/-- The character of a cell in plain text. -/
def mark (isLit : Bool) : Char := if isLit then '#' else '.'

/-- The rows as plain text. -/
def rowTexts (d : Display size) : List String :=
  d.rows.map fun row => String.ofList (row.map mark)

end Display

end CosmacVip
