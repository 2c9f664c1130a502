import CosmacVip.Machine.View
import CosmacVip.Proofs.Words.Frames

/-!
What the text views of a display tell of its cells.

* `Machine.textLines`, `Machine.markedAt?`: the lines of a text, and the cell that a mark in them stands
  for;
* `Machine.markedAt?_picture`: the picture of a machine marks each cell of its display;
* `Machine.views_agree`: both texts and the access to single cells tell the same of a display, and all
  there is to know of it.
-/

namespace CosmacVip

/-! ### Single cells -/

namespace Display

variable {size : Size}

/-- The cell at coordinates that wrap stands where they come to. -/
lemma getElem?_cells (d : Display size) (x y : Nat) :
    d.cells.toArray[x % size.width + y % size.height * size.width]? = some (d.pixel x y) := by
  have hplace : (Cell.wrap x y : Cell size).index = x % size.width + y % size.height * size.width := rfl
  rw [← hplace, Array.getElem?_eq_getElem (by simpa using Cell.index_lt _)]
  rfl

lemma pixel_fin (d : Display size) (x : Fin size.width) (y : Fin size.height) :
    d.pixel x y = d.lit ⟨x, y⟩ := by
  simp [pixel, Cell.wrap, Nat.mod_eq_of_lt]

/-- Displays with the same cells at all coordinates are equal. -/
lemma ext_pixel {d e : Display size} (h : ∀ x y, d.pixel x y = e.pixel x y) : d = e :=
  ext_lit fun c => by rw [← pixel_fin, h, pixel_fin]

end Display

/-! ### Pictures -/

namespace Machine

variable {size : Display.Size}

/-- The lines of a text, each of which ends with a line end. -/
def textLines (text : String) : List (List Char) := (text.toList.splitOn '\n').dropLast

/-- Whether a mark stands for a lit cell, if it is one of the two marks. -/
def marksLit? : Char → Option Bool
  | '#' => some true
  | '.' => some false
  | _ => none

/-- Whether the mark at a column and a row of a text stands for a lit cell, if there is one. -/
def markedAt? (text : String) (x y : Nat) : Option Bool := do
  let row ← (textLines text)[y]?
  let c ← row[x]?
  marksLit? c

lemma marksLit?_mark (b : Bool) : marksLit? (Display.mark b) = some b := by
  cases b <;> rfl

/-- The last line of a text ends where the text does. -/
lemma splitOn_unlines {lines : List String} (h : ∀ line ∈ lines, '\n' ∉ line.toList) :
    (unlines lines).toList.splitOn '\n' = lines.map String.toList ++ [[]] := by
  induction lines with
  | nil => rfl
  | cons line lines ih =>
      obtain ⟨hline, hlines⟩ := List.forall_mem_cons.1 h
      have hcons : (unlines (line :: lines)).toList = line.toList ++ '\n' :: (unlines lines).toList := by
        simp [unlines]
      rw [hcons, List.splitOn_append_cons_self_of_not_mem hline, ih hlines]
      rfl

lemma textLines_unlines {lines : List String} (h : ∀ line ∈ lines, '\n' ∉ line.toList) :
    textLines (unlines lines) = lines.map String.toList := by
  rw [textLines, splitOn_unlines h, List.dropLast_concat]

lemma textLines_picture (m : Machine size) :
    textLines m.picture = m.display.rows.map (·.map Display.mark) := by
  have hmark (b : Bool) : Display.mark b ≠ '\n' := by cases b <;> decide
  rw [picture, textLines_unlines]
  · simp [Display.rowTexts, Function.comp_def]
  · intro line hline hmem
    obtain ⟨row, -, rfl⟩ := List.mem_map.1 hline
    rw [String.toList_ofList] at hmem
    obtain ⟨b, -, hb⟩ := List.mem_map.1 hmem
    exact hmark b hb

/-- The picture of a machine marks each cell of its display. -/
lemma markedAt?_picture (m : Machine size) (x y : Nat) :
    markedAt? m.picture (x % size.width) (y % size.height) = some (m.display.pixel x y) := by
  have hx : x % size.width < size.width := Nat.mod_lt _ size.width_pos
  have hy : y % size.height < size.height := Nat.mod_lt _ size.height_pos
  have hcell : m.display.lit ⟨⟨_, hx⟩, ⟨_, hy⟩⟩ = m.display.pixel x y := rfl
  simp [markedAt?, textLines_picture, Display.rows, hx, hy, hcell, marksLit?_mark]

/-- The lines of a display as a frame show the cells that single accesses find. -/
lemma exists_lines (d : Display size) :
    ∃ lines, Frame.lines? d.cells.toArray size.width size.height = some lines ∧
      ∀ x y, Frame.litAt? lines (x % size.width) (y % size.height) = some (d.pixel x y) := by
  have hcells : size.width * size.height ≤ d.cells.toArray.size := Nat.le_of_eq d.cells.size_toArray.symm
  obtain ⟨lines, hlines⟩ := Option.isSome_iff_exists.1 (Frame.isSome_lines? hcells)
  refine ⟨lines, hlines, fun x y => ?_⟩
  obtain ⟨b, hb, hcell⟩ := (Frame.shows_of_lines? hlines).lit _ (Nat.mod_lt x size.width_pos) _
    (Nat.mod_lt y size.height_pos)
  rw [hb, ← hcell, d.getElem?_cells]

lemma display_eq_of_lines {d e : Display size}
    (h : Frame.lines? d.cells.toArray size.width size.height =
      Frame.lines? e.cells.toArray size.width size.height) : d = e := by
  obtain ⟨lines, hlines, hlit⟩ := exists_lines d
  obtain ⟨lines', hlines', hlit'⟩ := exists_lines e
  obtain rfl : lines = lines' := Option.some.inj (by rw [← hlines, h, hlines'])
  exact Display.ext_pixel fun x y => Option.some.inj (by rw [← hlit, hlit'])

lemma display_eq_of_picture {m n : Machine size} (h : m.picture = n.picture) : m.display = n.display :=
  Display.ext_pixel fun x y => Option.some.inj (by rw [← markedAt?_picture, h, markedAt?_picture])

/-- **The text views of a display agree and lose nothing.** A frame has no lines of half blocks just when
it has too few cells, and its lines show it. In words of fixed width these are the same lines, and where
there are none an access past the end of the frame fails before anything else can. For every machine, the
lines of its display as a frame, its picture, which has a line for each row and a mark for each column,
and the access to a single cell, at coordinates that wrap, tell the same. So machines with the same lines,
or the same picture, have the same display. -/
theorem views_agree (cells : Array Bool) (width height : Nat) (frame : Array UInt8)
    (m n : Machine size) :
    (Frame.lines? cells width height = none ↔ cells.size < width * height) ∧
      (∀ lines, Frame.lines? cells width height = some lines → Frame.Shows lines cells width height) ∧
      (frame.size < 2 ^ 63 → width < Words.wordLimit → height < Words.wordLimit →
        Words.frameLines frame width height =
          Words.present (Frame.lines? (Words.litCells frame) width height)) ∧
      (∃ lines, Frame.lines? m.display.cells.toArray size.width size.height = some lines ∧
        (textLines m.picture).length = size.height ∧
        (∀ row ∈ textLines m.picture, row.length = size.width) ∧
        ∀ x y,
          Frame.litAt? lines (x % size.width) (y % size.height) = some (m.display.pixel x y) ∧
          markedAt? m.picture (x % size.width) (y % size.height) = some (m.display.pixel x y)) ∧
      (Frame.lines? m.display.cells.toArray size.width size.height =
          Frame.lines? n.display.cells.toArray size.width size.height ∨ m.picture = n.picture →
        m.display = n.display) := by
  obtain ⟨lines, hlines, hlit⟩ := exists_lines m.display
  have hpicture : (textLines m.picture).length = size.height ∧
      ∀ row ∈ textLines m.picture, row.length = size.width := by
    simp [textLines_picture, Display.rows]
  refine ⟨Frame.lines?_eq_none_iff, fun _ => Frame.shows_of_lines?, Words.frameLines_eq, ?_, ?_⟩
  · exact ⟨lines, hlines, hpicture.1, hpicture.2, fun x y => ⟨hlit x y, m.markedAt?_picture x y⟩⟩
  · rintro (h | h)
    · exact display_eq_of_lines h
    · exact display_eq_of_picture h

end Machine

end CosmacVip
