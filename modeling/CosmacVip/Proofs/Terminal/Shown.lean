import CosmacVip.Proofs.Terminal.Device

/-!
What a terminal shows after the calls to a screen.

* `Screen.Call`, `Screen.performAll?`: new frames and requests to show frame and status, and all that they
  write;
* `Screen.lastFrame`: the frame that was drawn last;
* `Device.Shows`: lines, and a status in the row after them;
* `Screen.Upheld`: what holds between calls, screen and terminal, one case for each call;
* `Screen.shows_last_frame`: after each request the terminal shows the last frame and the status, and
  nothing is written just when the call before asked for the same.
-/

namespace CosmacVip.Terminal

variable {width height rows cols : Nat} {t : Device rows cols}

/-! ### Terminals -/

/-- A terminal that shows lines from the first row on and a status, alone, in the row after them. -/
structure Device.Shows (t : Device rows cols) (lines : List String) (status : String) : Prop where
  begins : ∀ y line, lines[y]? = some line → (t.cells y).Begins line
  reads : (t.cells lines.length).Reads status

lemma Device.shows_page (ht : t.reading = .text) {lines : List String} (hrows : lines.length < rows)
    (h : lines.length < 65535) (hlines : ∀ line ∈ lines, FitsRow cols line) {status : String}
    (hstatus : FitsRow cols status) : (t.feed (Screen.page lines status)).Shows lines status := by
  obtain ⟨-, hcells⟩ := feed_page ht hrows h hlines hstatus
  constructor
  · intro y line hline
    have hy : y < lines.length := (List.getElem?_eq_some_iff.1 hline).1
    rw [hcells, if_neg (Nat.ne_of_lt hy), List.getD_eq_getElem?_getD, hline]
    exact Row.begins_write _ _
  · rw [hcells, if_pos rfl]
    exact Row.reads_write_blank _

/-- The lines of a frame fit a terminal with a column for each column of the frame. -/
lemma fitsRow_of_mem_lines? {cells : Array Bool} {lines : List String}
    (h : Frame.lines? cells width height = some lines) (hcols : width ≤ cols) :
    ∀ line ∈ lines, FitsRow cols line := by
  intro line hline
  refine ⟨fun c hc => ?_, Nat.le_trans (Nat.le_of_eq (Frame.length_of_mem_lines? h hline)) hcols⟩
  obtain ⟨top, bottom, rfl⟩ := Frame.eq_glyph_of_mem_lines? h hline hc
  cases top <;> cases bottom <;> rfl

namespace Screen

/-! ### Calls -/

/-- A call to a screen. -/
inductive Call
  | draw (cells : Array Bool)
  | render (status : String)

/-- What a call writes, and the screen after it; a frame of another size is an error. -/
def perform? (s : Screen) : Call → Option (String × Screen)
  | .draw cells => (s.draw? cells).map fun s => ("", s)
  | .render status => some (s.render status)

/-- All that the calls write, one after the other, and the screen after them. -/
def performAll? (s : Screen) : List Call → Option (String × Screen)
  | [] => some ("", s)
  | call :: calls => do
    let (first, s) ← s.perform? call
    let (rest, s) ← s.performAll? calls
    return (first ++ rest, s)

/-- The frame that a call draws. -/
def Call.frame? : Call → Option (Array Bool)
  | .draw cells => some cells
  | .render _ => none

/-- The frame that was drawn last, dark before there is one. -/
def lastFrame (width height : Nat) (calls : List Call) : Array Bool :=
  (calls.filterMap Call.frame?).getLast?.getD (Array.replicate (width * height) false)

/-- A call for a screen of a size on a terminal that holds its status in a row. -/
def Call.Fits (width height cols : Nat) : Call → Prop
  | .draw cells => cells.size = width * height
  | .render status => FitsRow cols status

/-- What holds after calls to a screen whose output went to a terminal. -/
structure Upheld (width height : Nat) (calls : List Call) (s : Screen) (t : Device rows cols) : Prop where
  width_eq : s.width = width
  height_eq : s.height = height
  frame_eq : s.frame.toArray = lastFrame width height calls
  reading : t.reading = .text
  shown_iff : ∀ status, (s.dirty = false ∧ s.status = status) ↔ calls.getLast? = some (.render status)
  shows : s.dirty = false → t.Shows s.lines s.status

lemma lastFrame_append_draw (calls : List Call) (cells : Array Bool) :
    lastFrame width height (calls ++ [.draw cells]) = cells := by
  simp [lastFrame, Call.frame?]

lemma lastFrame_append_render (calls : List Call) (status : String) :
    lastFrame width height (calls ++ [.render status]) = lastFrame width height calls := by
  simp [lastFrame, Call.frame?]

lemma upheld_ofSize (ht : t.reading = .text) : Upheld width height [] (ofSize width height) t where
  width_eq := rfl
  height_eq := rfl
  frame_eq := by simp [ofSize, lastFrame]
  reading := ht
  shown_iff := by simp [ofSize]
  shows := nofun

variable {calls : List Call} {s : Screen}

/-- The lines of the screen are those of the last frame. -/
lemma Upheld.lines?_eq (h : Upheld width height calls s t) :
    Frame.lines? (lastFrame width height calls) width height = some s.lines := by
  have hlines := s.lines?_eq_lines
  rwa [h.frame_eq, h.width_eq, h.height_eq] at hlines

lemma render_of_shown {status : String} (h : s.dirty = false ∧ s.status = status) :
    s.render status = ("", s) := by
  simp [render, h]

lemma render_of_not_shown {status : String} (h : ¬(s.dirty = false ∧ s.status = status)) :
    s.render status = (page s.lines status, { s with dirty := false, status := status }) := by
  simp [render, h]

lemma page_ne_empty (lines : List String) (status : String) : page lines status ≠ "" := by
  intro h
  have htext := congrArg String.toList h
  simp [page, cursorTo] at htext

/-- Nothing is written just when the screen is up to date. -/
lemma render_eq_empty_iff {status : String} :
    (s.render status).1 = "" ↔ s.dirty = false ∧ s.status = status := by
  by_cases h : s.dirty = false ∧ s.status = status
  · simp [render_of_shown h, h]
  · simp [render_of_not_shown h, h, page_ne_empty]

lemma Upheld.draw (h : Upheld width height calls s t) {cells : Array Bool}
    (hsize : cells.size = width * height) :
    ∃ s', s.draw? cells = some s' ∧ Upheld width height (calls ++ [.draw cells]) s' t := by
  have hsize' : cells.size = s.width * s.height := by rw [hsize, h.width_eq, h.height_eq]
  refine ⟨{ s with frame := ⟨cells, hsize'⟩, dirty := true }, by simp [draw?, hsize'], ?_⟩
  exact {
    width_eq := h.width_eq
    height_eq := h.height_eq
    frame_eq := (lastFrame_append_draw calls cells).symm
    reading := h.reading
    shown_iff := by simp
    shows := nofun }

/-- A terminal that is large enough shows frame and status after a request, whatever it showed before. -/
lemma Upheld.render (h : Upheld width height calls s t) (hrows : (height + 1) / 2 < rows)
    (hshort : (height + 1) / 2 < 65535) (hcols : width ≤ cols) {status : String}
    (hstatus : FitsRow cols status) :
    Upheld width height (calls ++ [.render status]) (s.render status).2 (t.feed (s.render status).1) := by
  by_cases hshown : s.dirty = false ∧ s.status = status
  · rw [render_of_shown hshown]
    exact { h with
      frame_eq := by rw [lastFrame_append_render, h.frame_eq]
      shown_iff := by simp [hshown] }
  · have hlines := fitsRow_of_mem_lines? h.lines?_eq hcols
    rw [← Frame.length_lines? h.lines?_eq] at hrows hshort
    rw [render_of_not_shown hshown]
    exact {
      width_eq := h.width_eq
      height_eq := h.height_eq
      frame_eq := by rw [lastFrame_append_render, h.frame_eq]
      reading := (Device.feed_page h.reading hrows hshort hlines hstatus).1
      shown_iff := by simp
      shows := fun _ => Device.shows_page h.reading hrows hshort hlines hstatus }

lemma Upheld.perform (h : Upheld width height calls s t) (hrows : (height + 1) / 2 < rows)
    (hshort : (height + 1) / 2 < 65535) (hcols : width ≤ cols) {call : Call}
    (hcall : call.Fits width height cols) :
    ∃ text s', s.perform? call = some (text, s') ∧
      Upheld width height (calls ++ [call]) s' (t.feed text) := by
  cases call with
  | draw cells =>
      obtain ⟨s', hs', h'⟩ := h.draw hcall
      exact ⟨"", s', by simp [perform?, hs'], h'⟩
  | render status => exact ⟨_, _, rfl, h.render hrows hshort hcols hcall⟩

lemma Upheld.performAll (h : Upheld width height calls s t) (hrows : (height + 1) / 2 < rows)
    (hshort : (height + 1) / 2 < 65535) (hcols : width ≤ cols) {more : List Call}
    (hmore : ∀ call ∈ more, call.Fits width height cols) :
    ∃ text s', s.performAll? more = some (text, s') ∧
      Upheld width height (calls ++ more) s' (t.feed text) := by
  induction more generalizing calls s t with
  | nil => exact ⟨"", s, rfl, by simpa using h⟩
  | cons call more ih =>
      obtain ⟨hcall, hmore⟩ := List.forall_mem_cons.1 hmore
      obtain ⟨first, s₁, hs₁, h₁⟩ := h.perform hrows hshort hcols hcall
      obtain ⟨rest, s', hs', h'⟩ := ih h₁ hmore
      refine ⟨first ++ rest, s', by simp [performAll?, hs₁, hs'], ?_⟩
      rw [Device.feed_append]
      simpa using h'

/-- After any calls and a request to show a status, whatever the terminal held at first, it shows the lines
of the frame that was drawn last and the status. The request writes nothing just when the call before it was
a request for the same status. -/
theorem shows_last_frame (hshort : (height + 1) / 2 < 65535) (hrows : (height + 1) / 2 < rows)
    (hcols : width ≤ cols) (t : Device rows cols) (ht : t.reading = .text) {calls : List Call}
    {status : String} (h : ∀ call ∈ calls ++ [.render status], call.Fits width height cols) :
    ∃ before s lines, (ofSize width height).performAll? calls = some (before, s) ∧
      Frame.lines? (lastFrame width height calls) width height = some lines ∧
      lines.length = (height + 1) / 2 ∧
      (t.feed (before ++ (s.render status).1)).Shows lines status ∧
      ((s.render status).1 = "" ↔ calls.getLast? = some (.render status)) := by
  have hcalls : ∀ call ∈ calls, call.Fits width height cols := fun call hc => h call (by simp [hc])
  have hstatus : FitsRow cols status := h (.render status) (by simp)
  obtain ⟨before, s, hs, hup⟩ := (upheld_ofSize ht).performAll hrows hshort hcols hcalls
  have hlast := hup.render hrows hshort hcols hstatus
  obtain ⟨hclean, hsame⟩ := (hlast.shown_iff status).2 (by simp)
  have hlines := hlast.lines?_eq
  rw [lastFrame_append_render] at hlines
  refine ⟨before, s, _, hs, hlines, Frame.length_lines? hlines, ?_, ?_⟩
  · rw [Device.feed_append]
    have hshows := hlast.shows hclean
    rwa [hsame] at hshows
  · exact render_eq_empty_iff.trans (hup.shown_iff status)

/-- Three rows of cells and the longer status of an earlier request, on a terminal full of crosses. -/
theorem shows_last_frame_over_crosses :
    let t : Device 4 12 := ⟨fun _ _ => some '×', 3, 0, .text⟩
    let calls : List Call :=
      [.render "starting", .draw #[true, false, true, true, false, false, false, true, true]]
    ∃ before s, (ofSize 3 3).performAll? calls = some (before, s) ∧
      (t.feed (before ++ (s.render "paused").1)).Shows ["█ ▀", " ▀▀"] "paused" ∧
      (s.render "paused").1 ≠ "" := by
  intro t calls
  have hfits : ∀ call ∈ calls ++ [.render "paused"], call.Fits 3 3 12 := by
    have hstarting : FitsRow 12 "starting" := by decide
    have hpaused : FitsRow 12 "paused" := by decide
    simpa [calls, Call.Fits, hstarting] using hpaused
  obtain ⟨before, s, lines, hs, hlines, -, hshows, hempty⟩ :=
    shows_last_frame (by decide) (by decide) (by decide) t rfl hfits
  have htext : lines = ["█ ▀", " ▀▀"] := Option.some.inj (hlines.symm.trans (by decide))
  exact ⟨before, s, hs, htext ▸ hshows, fun h => nomatch Option.some.inj (hempty.1 h)⟩

end Screen

end CosmacVip.Terminal
