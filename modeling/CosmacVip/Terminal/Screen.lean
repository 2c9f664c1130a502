import CosmacVip.Terminal.Frame

/-!
A screen on a text terminal: the frame that was last drawn on it, and what the terminal shows.

* `Terminal.cursorTo`, `Terminal.clearLine`: the control sequences in use;
* `Screen.draw?`: a new frame;
* `Screen.render`: what to write so that the terminal shows frame and status.
-/

namespace CosmacVip.Terminal

/-- Moves the cursor to the first column of a row, counted from zero; the terminal counts rows from one,
in sixteen bits. -/
def cursorTo (row : Nat) : String := "\x1b[" ++ (row % 65536 + 1).repr ++ ";1H"

/-- Clears the line of the cursor. -/
def clearLine : String := "\x1b[2K"

/-- A screen of fixed size. -/
structure Screen where
  width : Nat
  height : Nat
  frame : Vector Bool (width * height)
  /-- Whether the terminal does not show the frame yet. -/
  dirty : Bool
  /-- The status line that the terminal shows. -/
  status : String

namespace Screen

/-- A screen that has shown nothing yet. -/
def ofSize (width height : Nat) : Screen :=
  ⟨width, height, Vector.replicate _ false, true, ""⟩

/-- The screen with a new frame, if that has as many cells as the screen. -/
def draw? (s : Screen) (cells : Array Bool) : Option Screen :=
  if h : cells.size = s.width * s.height then
    some { s with frame := ⟨cells, h⟩, dirty := true }
  else none

/-- The text lines of the frame. -/
def lines (s : Screen) : List String :=
  (Frame.lines? s.frame.toArray s.width s.height).getD []

/-- The frame of a screen always has lines. -/
theorem lines?_eq_lines (s : Screen) :
    Frame.lines? s.frame.toArray s.width s.height = some s.lines := by
  have h : (Frame.lines? s.frame.toArray s.width s.height).isSome := Frame.isSome_lines? (by simp)
  obtain ⟨lines, hl⟩ := Option.isSome_iff_exists.1 h
  simp [Screen.lines, hl]

/-- What shows the lines from the first row on and the status in the row after them. -/
def page (lines : List String) (status : String) : String :=
  cursorTo 0
    ++ String.join (lines.zipIdx.map fun (line, row) => cursorTo row ++ line)
    ++ cursorTo lines.length ++ clearLine ++ status

/-- What to write for the frame and a status, and the screen after that; nothing if the terminal shows
both already. -/
def render (s : Screen) (status : String) : String × Screen :=
  if !s.dirty && s.status == status then ("", s)
  else (page s.lines status, { s with dirty := false, status := status })

end Screen

end CosmacVip.Terminal
