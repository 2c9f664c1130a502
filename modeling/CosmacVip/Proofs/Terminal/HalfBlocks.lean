import CosmacVip.Terminal.Frame
import Mathlib.Tactic.Lemma

/-!
What lines of half blocks tell of a frame.

* `Frame.litAt?`: the cell that lines show at a column and a row;
* `Frame.Shows`, `Frame.shows_of_lines?`: the lines of a frame show each of its cells;
* `Frame.lines?_eq_none_iff`: only a frame with too few cells has no lines.
-/

namespace CosmacVip.Frame

/-- The upper and the lower cell that a character shows, if it is one of the four that show any. -/
def halves? : Char → Option (Bool × Bool)
  | '█' => some (true, true)
  | '▀' => some (true, false)
  | '▄' => some (false, true)
  | ' ' => some (false, false)
  | _ => none

/-- The cell that lines of half blocks show at a column and a row, if they go as far as that. -/
def litAt? (lines : List String) (x y : Nat) : Option Bool := do
  let line ← lines[y / 2]?
  let c ← line.toList[x]?
  let (top, bottom) ← halves? c
  return if y % 2 = 0 then top else bottom

/-- Lines of half blocks show a frame: there is one for each pair of rows, with one character for each
column, and the cells can be read from them. Below an odd number of rows there is darkness. -/
structure Shows (lines : List String) (cells : Array Bool) (width height : Nat) : Prop where
  length_eq : lines.length = (height + 1) / 2
  length_line : ∀ line ∈ lines, line.length = width
  lit : ∀ x < width, ∀ y < height, ∃ b, litAt? lines x y = some b ∧ cells[x + y * width]? = some b
  dark : height % 2 = 1 → ∀ x < width, litAt? lines x height = some false

lemma halves?_glyph (top bottom : Bool) : halves? (glyph top bottom) = some (top, bottom) := by
  cases top <;> cases bottom <;> rfl

/-- The values of a function at the numbers below a bound stand at these numbers. -/
lemma exists_getElem?_of_mapM {β : Type} {f : Nat → Option β} {n i : Nat} {r : List β}
    (h : (List.range n).mapM f = some r) (hi : i < n) : ∃ b, r[i]? = some b ∧ f i = some b := by
  have hmap := congrArg (·[i]?) (mapM_eq_some_iff.1 h)
  simp only [List.getElem?_map, List.getElem?_range hi, Option.map_some] at hmap
  cases hr : r[i]? with
  | none => simp [hr] at hmap
  | some b => exact ⟨b, rfl, by simpa [hr] using hmap⟩

variable {cells : Array Bool} {width height x y : Nat} {lines : List String}

/-- The halves of a character are the cells that it shows. -/
lemma exists_halves_of_glyphAt? {c : Char} (h : glyphAt? cells width height y x = some c) :
    ∃ top bottom, halves? c = some (top, bottom) ∧ cells[x + y * width]? = some top ∧
      (if y + 1 < height then cells[x + (y + 1) * width]? else some false) = some bottom := by
  obtain ⟨top, bottom, htop, hbottom, rfl⟩ := exists_cells_of_glyphAt? h
  exact ⟨top, bottom, halves?_glyph top bottom, htop, hbottom⟩

/-- The character of each column in each line of a frame. -/
lemma exists_glyph_of_lines? (h : lines? cells width height = some lines) {k : Nat}
    (hk : k < (height + 1) / 2) (hx : x < width) :
    ∃ line c, lines[k]? = some line ∧ line.toList[x]? = some c ∧
      glyphAt? cells width height (2 * k) x = some c := by
  obtain ⟨line, hline, hglyphs⟩ := exists_getElem?_of_mapM h hk
  obtain ⟨glyphs, hmap, rfl⟩ := Option.map_eq_some_iff.1 hglyphs
  obtain ⟨c, hc, hglyph⟩ := exists_getElem?_of_mapM hmap hx
  exact ⟨_, c, hline, by rwa [String.toList_ofList], hglyph⟩

/-- The lines of a frame show it. -/
lemma shows_of_lines? (h : lines? cells width height = some lines) :
    Shows lines cells width height where
  length_eq := length_lines? h
  length_line _ hline := length_of_mem_lines? h hline
  lit x hx y hy := by
    obtain ⟨line, c, hline, hc, hglyph⟩ := exists_glyph_of_lines? h (k := y / 2) (by omega) hx
    obtain ⟨top, bottom, hhalves, htop, hbottom⟩ := exists_halves_of_glyphAt? hglyph
    rcases Nat.mod_two_eq_zero_or_one y with heven | hodd
    · have hrow : 2 * (y / 2) = y := by omega
      rw [hrow] at htop
      exact ⟨_, by simp [litAt?, hline, hc, hhalves, heven], htop⟩
    · have hrow : 2 * (y / 2) + 1 = y := by omega
      rw [hrow, if_pos hy] at hbottom
      exact ⟨_, by simp [litAt?, hline, hc, hhalves, hodd], hbottom⟩
  dark hodd x hx := by
    obtain ⟨line, c, hline, hc, hglyph⟩ := exists_glyph_of_lines? h (k := height / 2) (by omega) hx
    obtain ⟨top, bottom, hhalves, -, hbottom⟩ := exists_halves_of_glyphAt? hglyph
    have hlast : 2 * (height / 2) + 1 = height := by omega
    rw [hlast, if_neg (Nat.lt_irrefl height)] at hbottom
    obtain rfl : false = bottom := Option.some.inj hbottom
    simp [litAt?, hline, hc, hhalves, hodd]

/-- A frame has no lines just when it has too few cells. -/
lemma lines?_eq_none_iff : lines? cells width height = none ↔ cells.size < width * height := by
  constructor
  · intro h
    refine Nat.lt_of_not_le fun hsize => ?_
    have hsome := isSome_lines? hsize
    rw [h] at hsome
    contradiction
  · intro hsize
    cases h : lines? cells width height with
    | none => rfl
    | some lines =>
        -- the last cell is shown, so that it is there
        have hpos : 0 < width * height := Nat.zero_lt_of_lt hsize
        have hwidth := Nat.pos_of_mul_pos_right hpos
        have hheight := Nat.pos_of_mul_pos_left hpos
        obtain ⟨b, -, hb⟩ := (shows_of_lines? h).lit (width - 1) (by omega) (height - 1) (by omega)
        have hlast := (Array.getElem?_eq_some_iff.1 hb).1
        have hmul : (height - 1 + 1) * width = (height - 1) * width + width := Nat.succ_mul _ _
        rw [Nat.sub_add_cancel hheight, Nat.mul_comm] at hmul
        omega

end CosmacVip.Frame
