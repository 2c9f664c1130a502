/-!
Frames as text: one line of half blocks for each pair of rows.

* `Frame.glyph`: the character for a cell and the one below it;
* `Frame.lines?`: the lines of a frame whose rows follow one another in an array;
* `isSome_lines?`: there are lines if there are enough cells;
* `length_lines?`, `length_of_mem_lines?`: how many lines there are, and how long they are.
-/

namespace CosmacVip.Frame

/-- The character that shows an upper and a lower cell. -/
def glyph (top bottom : Bool) : Char :=
  match top, bottom with
  | true, true => '█'
  | true, false => '▀'
  | false, true => '▄'
  | false, false => ' '

/-- The character of column `x` in the line that starts with row `y`, if the cells it shows are there.
A row below the last one is dark. -/
def glyphAt? (cells : Array Bool) (width height y x : Nat) : Option Char := do
  let top ← cells[x + y * width]?
  let bottom ← if y + 1 < height then cells[x + (y + 1) * width]? else some false
  return glyph top bottom

/-- The line that shows row `y` and the one below it. -/
def line? (cells : Array Bool) (width height y : Nat) : Option String :=
  ((List.range width).mapM (glyphAt? cells width height y)).map String.ofList

/-- The lines of a frame, if it has enough cells. -/
def lines? (cells : Array Bool) (width height : Nat) : Option (List String) :=
  (List.range ((height + 1) / 2)).mapM fun k => line? cells width height (2 * k)

/-- A function that has a value at every member of a list has values at all of them together. -/
theorem isSome_mapM {α β : Type} {f : α → Option β} {l : List α} (h : ∀ x ∈ l, (f x).isSome) :
    (l.mapM f).isSome := by
  induction l with
  | nil => rfl
  | cons a l ih =>
    obtain ⟨b, hb⟩ := Option.isSome_iff_exists.1 (h a (by simp))
    obtain ⟨bs, hbs⟩ := Option.isSome_iff_exists.1 (ih fun x hx => h x (by simp [hx]))
    simp [List.mapM_cons, hb, hbs]

/-- There is a character for each column of each row. -/
theorem isSome_glyphAt? {cells : Array Bool} {width height y x : Nat} (h : width * height ≤ cells.size)
    (hx : x < width) (hy : y < height) : (glyphAt? cells width height y x).isSome := by
  have row : ∀ r, r < height → x + r * width < cells.size := by
    intro r hr
    have : (r + 1) * width ≤ height * width := Nat.mul_le_mul_right _ hr
    rw [Nat.add_mul, Nat.one_mul, Nat.mul_comm height] at this
    omega
  have top := row y hy
  by_cases hb : y + 1 < height
  · have bottom := row _ hb
    simp [glyphAt?, top, bottom, hb]
  · simp [glyphAt?, top, hb]

/-- A frame with a cell for each column of each row has lines. -/
theorem isSome_lines? {cells : Array Bool} {width height : Nat} (h : width * height ≤ cells.size) :
    (lines? cells width height).isSome := by
  apply isSome_mapM
  intro k hk
  rw [List.mem_range] at hk
  simp only [line?, Option.isSome_map]
  apply isSome_mapM
  intro x hx
  exact isSome_glyphAt? h (List.mem_range.1 hx) (by omega)

/-- The values of a function at the members of a list, if it has one at each. -/
theorem mapM_eq_some_iff {α β : Type} {f : α → Option β} {l : List α} {r : List β} :
    l.mapM f = some r ↔ l.map f = r.map some := by
  induction l generalizing r with
  | nil => cases r <;> simp
  | cons a l ih =>
    cases r with
    | nil => simp [List.mapM_cons, Option.bind_eq_some_iff]
    | cons b r => simp [List.mapM_cons, ← ih, Option.bind_eq_some_iff]

/-- One line for each pair of rows. -/
theorem length_lines? {cells : Array Bool} {width height : Nat} {lines : List String}
    (h : lines? cells width height = some lines) : lines.length = (height + 1) / 2 := by
  simpa using congrArg List.length (mapM_eq_some_iff.1 h).symm

/-- A line consists of the glyphs of its columns. -/
theorem exists_glyphs_of_mem_lines? {cells : Array Bool} {width height : Nat} {lines : List String}
    (h : lines? cells width height = some lines) {line : String} (hline : line ∈ lines) :
    ∃ y glyphs, (List.range width).mapM (glyphAt? cells width height y) = some glyphs ∧
      line = String.ofList glyphs := by
  have hmem : some line ∈ (List.range ((height + 1) / 2)).map fun k => line? cells width height (2 * k) := by
    rw [mapM_eq_some_iff.1 h]
    exact List.mem_map_of_mem hline
  obtain ⟨k, -, hk⟩ := List.mem_map.1 hmem
  obtain ⟨glyphs, hglyphs, rfl⟩ := Option.map_eq_some_iff.1 hk
  exact ⟨_, glyphs, hglyphs, rfl⟩

/-- Each line has one character for each column. -/
theorem length_of_mem_lines? {cells : Array Bool} {width height : Nat} {lines : List String}
    (h : lines? cells width height = some lines) {line : String} (hline : line ∈ lines) :
    line.length = width := by
  obtain ⟨y, glyphs, hglyphs, rfl⟩ := exists_glyphs_of_mem_lines? h hline
  simpa using congrArg List.length (mapM_eq_some_iff.1 hglyphs).symm

/-- The cells that a character shows. -/
theorem exists_cells_of_glyphAt? {cells : Array Bool} {width height y x : Nat} {c : Char}
    (h : glyphAt? cells width height y x = some c) :
    ∃ top bottom, cells[x + y * width]? = some top ∧
      (if y + 1 < height then cells[x + (y + 1) * width]? else some false) = some bottom ∧
      c = glyph top bottom := by
  by_cases hb : y + 1 < height
  · simp only [glyphAt?, hb, if_true, Option.bind_eq_bind, Option.bind_eq_some_iff] at h
    obtain ⟨top, htop, bottom, hbottom, hc⟩ := h
    exact ⟨top, bottom, htop, by rwa [if_pos hb], (Option.some.inj hc).symm⟩
  · simp only [glyphAt?, hb, if_false, Option.bind_eq_bind, Option.bind_some, Option.bind_eq_some_iff] at h
    obtain ⟨top, htop, hc⟩ := h
    exact ⟨top, false, htop, if_neg hb, (Option.some.inj hc).symm⟩

/-- A line is made of nothing but glyphs. -/
theorem eq_glyph_of_mem_lines? {cells : Array Bool} {width height : Nat} {lines : List String}
    (h : lines? cells width height = some lines) {line : String} (hline : line ∈ lines) {c : Char}
    (hc : c ∈ line.toList) : ∃ top bottom, c = glyph top bottom := by
  obtain ⟨y, glyphs, hglyphs, rfl⟩ := exists_glyphs_of_mem_lines? h hline
  rw [String.toList_ofList] at hc
  have hmem : some c ∈ (List.range width).map (glyphAt? cells width height y) := by
    rw [mapM_eq_some_iff.1 hglyphs]
    exact List.mem_map_of_mem hc
  obtain ⟨x, -, hx⟩ := List.mem_map.1 hmem
  obtain ⟨top, bottom, -, -, hglyph⟩ := exists_cells_of_glyphAt? hx
  exact ⟨top, bottom, hglyph⟩

end CosmacVip.Frame
