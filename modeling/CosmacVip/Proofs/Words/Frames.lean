import CosmacVip.Proofs.Terminal.HalfBlocks
import CosmacVip.Proofs.Words.Checked

/-!
Lines of half blocks in words of fixed width.

A frame is an array of bytes, and a cell is lit if its byte is not zero. The place of a cell is a sum and a
product that might leave the word, were it not that an access fails before they do. Frames have fewer than
`2 ^ 63` bytes: no larger one can be had.

* `Words.glyphAt`, `Words.frameLines`: the lines of a frame;
* `Words.mapM_present`: if the first value that is missing is the first trap, then so all along a range;
* `Words.frameLines_eq`: the lines are those of the lit cells, and an access past the end is the only trap.
-/

namespace CosmacVip.Words

/-- The character of column `x` in the line that starts with row `y`. -/
def glyphAt (frame : Array UInt8) (width height y x : Nat) : Checked Char := do
  let top ← get frame.toVector (← plus x (← times y width))
  let next ← plus y 1
  let bottom ← if next < height then get frame.toVector (← plus x (← times next width)) else pure 0
  return Frame.glyph (top != 0) (bottom != 0)

/-- The lines of a frame, two rows of cells in each. -/
def frameLines (frame : Array UInt8) (width height : Nat) : Checked (List String) :=
  (List.range ((height + 1) / 2)).mapM fun k => do
    return String.ofList (← (List.range width).mapM (glyphAt frame width height (2 * k)))

/-- The cells of a frame that are lit. -/
def litCells (frame : Array UInt8) : Array Bool := frame.map (· != 0)

/-- A value that is there, or else an access past the end. -/
def present {α : Type} : Option α → Checked α
  | some a => pure a
  | none => throw .outOfBounds

/-- Values along a range, the first trap being where the first value is missing. -/
lemma mapM_present {β : Type} {f : Nat → Checked β} {g : Nat → Option β} {n : Nat}
    (h : ∀ i < n, (∀ j < i, (g j).isSome) → f i = present (g i)) :
    (List.range n).mapM f = present ((List.range n).mapM g) := by
  -- the range grows at its end, where all the values before are at hand
  induction n with
  | zero => rfl
  | succ n ih =>
      have hn := ih fun i hi => h i (Nat.lt_succ_of_lt hi)
      rw [List.range_succ, List.mapM_append, List.mapM_append, hn]
      cases hr : (List.range n).mapM g with
      | none => rfl
      | some r =>
          have hsome : ∀ j < n, (g j).isSome := by
            intro j hj
            obtain ⟨b, -, hb⟩ := Frame.exists_getElem?_of_mapM hr hj
            simp [hb]
          simp only [List.mapM_cons, List.mapM_nil, h n (Nat.lt_succ_self n) hsome]
          cases g n <;> rfl

lemma get_toVector (frame : Array UInt8) (i : Nat) : get frame.toVector i = present frame[i]? := by
  by_cases hi : i < frame.size
  · rw [get_eq hi, Array.getElem?_eq_getElem hi]
    rfl
  · rw [get, dif_neg hi, Array.getElem?_eq_none (Nat.le_of_not_lt hi)]
    rfl

variable {frame : Array UInt8} {width height x y : Nat}

/-- A character of a line, if the characters before it and the rows above are there. -/
lemma glyphAt_eq (hframe : frame.size < 2 ^ 63) (hwidth : width < wordLimit) (hheight : height < wordLimit)
    (hy : y < height) (hrow : y * width ≤ frame.size) (hcolumn : x + y * width ≤ frame.size)
    (hbelow : y + 1 < height → x = 0 ∨ x + (y + 1) * width ≤ frame.size) :
    glyphAt frame width height y x = present (Frame.glyphAt? (litCells frame) width height y x) := by
  have hlimit : wordLimit = 2 ^ 64 := rfl
  have htimes : times y width = pure (y * width) := times_eq (by omega)
  have hplus : plus x (y * width) = pure (x + y * width) := plus_eq (by omega)
  have hnext : plus y 1 = pure (y + 1) := plus_eq (by omega)
  have hcell (i : Nat) : (litCells frame)[i]? = frame[i]?.map (· != 0) := Array.getElem?_map
  simp only [glyphAt, Frame.glyphAt?, htimes, hplus, hnext, pure_bind, get_toVector, hcell]
  cases htop : frame[x + y * width]? with
  | none => rfl
  | some top =>
      have hi : x + y * width < frame.size := (Array.getElem?_eq_some_iff.1 htop).1
      by_cases hb : y + 1 < height
      · have hmul : (y + 1) * width = y * width + width := Nat.succ_mul y width
        have hle : y = 0 ∨ width ≤ y * width :=
          y.eq_zero_or_pos.imp_right (Nat.le_mul_of_pos_left width)
        have hz : y = 0 → y * width = 0 := by rintro rfl; exact Nat.zero_mul width
        have htimes' : times (y + 1) width = pure ((y + 1) * width) := times_eq (by omega)
        have hplus' : plus x ((y + 1) * width) = pure (x + (y + 1) * width) := plus_eq (by omega)
        simp only [hb, if_true, htimes', hplus', pure_bind]
        cases frame[x + (y + 1) * width]? <;> rfl
      · simp only [hb, if_false]
        rfl

lemma size_litCells (frame : Array UInt8) : (litCells frame).size = frame.size := Array.size_map

/-- The cells that a character shows are there. -/
lemma lt_size_of_glyphAt? (h : (Frame.glyphAt? (litCells frame) width height y x).isSome) :
    x + y * width < frame.size ∧ (y + 1 < height → x + (y + 1) * width < frame.size) := by
  obtain ⟨c, hc⟩ := Option.isSome_iff_exists.1 h
  obtain ⟨top, bottom, htop, hbottom, -⟩ := Frame.exists_cells_of_glyphAt? hc
  rw [← size_litCells]
  refine ⟨(Array.getElem?_eq_some_iff.1 htop).1, fun hb => ?_⟩
  rw [if_pos hb] at hbottom
  exact (Array.getElem?_eq_some_iff.1 hbottom).1

/-- Two rows of which a line was made are there. -/
lemma le_size_of_line? (hy : y + 1 < height)
    (h : (Frame.line? (litCells frame) width height y).isSome) : (y + 2) * width ≤ frame.size := by
  obtain ⟨line, hline⟩ := Option.isSome_iff_exists.1 h
  obtain ⟨glyphs, hglyphs, -⟩ := Option.map_eq_some_iff.1 hline
  rcases width.eq_zero_or_pos with rfl | hpos
  · exact Nat.zero_le _
  · obtain ⟨c, -, hc⟩ := Frame.exists_getElem?_of_mapM hglyphs (Nat.sub_one_lt_of_lt hpos)
    have hlast := (lt_size_of_glyphAt? (Option.isSome_iff_exists.2 ⟨c, hc⟩)).2 hy
    have hmul : (y + 2) * width = (y + 1) * width + width := Nat.succ_mul (y + 1) width
    omega

lemma line_eq (hframe : frame.size < 2 ^ 63) (hwidth : width < wordLimit) (hheight : height < wordLimit)
    (hy : y < height) (hrow : y * width ≤ frame.size) :
    (List.range width).mapM (glyphAt frame width height y) =
      present ((List.range width).mapM (Frame.glyphAt? (litCells frame) width height y)) := by
  refine mapM_present fun x _ hbefore => ?_
  cases x with
  | zero => exact glyphAt_eq hframe hwidth hheight hy hrow (by omega) fun _ => .inl rfl
  | succ x =>
      obtain ⟨htop, hbottom⟩ := lt_size_of_glyphAt? (hbefore x (Nat.lt_succ_self x))
      exact glyphAt_eq hframe hwidth hheight hy hrow (by omega) fun hb => .inr (by have := hbottom hb; omega)

/-- The lines of a frame are those of its lit cells. If it has too few cells, an access past its end comes
before any sum or product that leaves the word. -/
theorem frameLines_eq (hframe : frame.size < 2 ^ 63) (hwidth : width < wordLimit)
    (hheight : height < wordLimit) :
    frameLines frame width height = present (Frame.lines? (litCells frame) width height) := by
  refine mapM_present fun k hk hbefore => ?_
  have hrow : 2 * k * width ≤ frame.size := by
    cases k with
    | zero => omega
    | succ k => exact le_size_of_line? (y := 2 * k) (by omega) (hbefore k (Nat.lt_succ_self k))
  rw [line_eq hframe hwidth hheight (by omega) hrow, Frame.line?]
  cases (List.range width).mapM (Frame.glyphAt? (litCells frame) width height (2 * k)) <;> rfl

end CosmacVip.Words
