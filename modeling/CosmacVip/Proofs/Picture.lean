import CosmacVip.Proofs.Calls
import CosmacVip.Proofs.Frame
import CosmacVip.Proofs.Programs

/-!
The display and a screen that shows it.

* `Machine.draws`, `Machine.drawsWithin`: steps and runs that draw;
* `Watched`: a machine, the cells that a screen of its size shows, and whether the display was
  wiped, with everything else, after it was last drawn to;
* `Watched.Coherent`: what holds between the three after any calls;
* `Watched.shows_display_iff`: presenting brings the screen up to date, unless the display was
  wiped while the screen shows something.
-/

namespace CosmacVip

namespace Machine

variable {size : Display.Size}

/-! ### Drawing -/

/-- Whether the outcome of a step is that of an instruction that draws. -/
def draws : Except Fault Signal → Bool
  | .ok .draw => true
  | _ => false

/-- Whether an instruction draws in up to the given number of steps. -/
def drawsWithin : Nat → Machine size → Bool
  | 0, _ => false
  | n + 1, m => draws m.step.1 || (!ends m.step.1 && drawsWithin n m.step.2)

/-- An instruction that draws marks the display as changed; the others leave both alone. -/
lemma execute_display (m : Machine size) (i : Instruction) :
    if draws (m.execute i).1 then (m.execute i).2.redraw = true
    else (m.execute i).2.redraw = m.redraw ∧ (m.execute i).2.display = m.display := by
  cases i with
  | clearScreen => rfl
  | draw x y n => rfl
  | ret => cases h : m.stack.pop? <;> simp [execute, draws, h]
  | call target => cases h : m.stack.push? (m.pc.offset 2) <;> simp [execute, draws, h]
  | arith op x y => cases op <;> exact ⟨rfl, rfl⟩
  | _ => exact ⟨rfl, rfl⟩

lemma step_display (m : Machine size) :
    if draws m.step.1 then m.step.2.redraw = true
    else m.step.2.redraw = m.redraw ∧ m.step.2.display = m.display := by
  rcases m.step_cases with h | h | ⟨i, h⟩ <;> rw [h]
  · exact ⟨rfl, rfl⟩
  · exact ⟨rfl, rfl⟩
  · exact execute_display m i

/-- A run that draws leaves the display marked as changed; one that does not leaves both alone. -/
lemma run_display (n : Nat) (m : Machine size) :
    if drawsWithin n m then (run n m).2.redraw = true
    else (run n m).2.redraw = m.redraw ∧ (run n m).2.display = m.display := by
  induction n generalizing m with
  | zero => exact ⟨rfl, rfl⟩
  | succ n ih =>
      have hstep := step_display m
      have hrest := ih m.step.2
      rw [run_succ, drawsWithin]
      by_cases he : ends m.step.1
      · simpa [he] using hstep
      · by_cases hr : drawsWithin n m.step.2
        · simpa [he, hr] using hrest
        · simp only [hr, Bool.false_eq_true, if_false] at hrest
          simpa [he, hr, hrest] using hstep

end Machine

/-- A machine in front of a screen of its size. -/
structure Watched (size : Display.Size) where
  machine : Machine size
  /-- The cells that the screen shows. -/
  shown : Display size
  /-- Whether the display was wiped with everything else after an instruction last drew. -/
  wiped : Bool

namespace Watched

open Machine (Call)

variable {size : Display.Size}

/-- A new machine, and a screen that shows nothing. -/
def ofConfig (c : Machine.Config) (entropy : ChaCha.Key) : Watched c.displaySize where
  machine := .ofConfig c entropy
  shown := Display.dark
  wiped := false

/-- What the screen shows after a call: new cells if the machine hands it any. -/
def shownAfter (s : Watched size) : Call → Display size
  | .present width height => (s.machine.present width height).1.getD s.shown
  | _ => s.shown

/-- Whether the display is wiped and not drawn to since, after a call. -/
def wipedAfter (s : Watched size) : Call → Bool
  | .load program => s.wiped || decide (program.size ≤ Memory.programCapacity)
  | .reset => true
  | .step => s.wiped && !Machine.draws s.machine.step.1
  | .run steps => s.wiped && !Machine.drawsWithin steps s.machine
  | _ => s.wiped

/-- The machine and the screen after a call. -/
def perform (s : Watched size) (call : Call) : Watched size :=
  ⟨s.machine.perform call, s.shownAfter call, s.wipedAfter call⟩

/-- The machine and the screen after calls in turn. -/
def performAll (s : Watched size) (calls : List Call) : Watched size := calls.foldl perform s

lemma performAll_cons (s : Watched size) (call : Call) (calls : List Call) :
    s.performAll (call :: calls) = (s.perform call).performAll calls := rfl

/-! ### After any calls -/

/-- A wiped display is dark and not marked as changed. One that is not wiped is what the screen
shows, unless it is marked as changed. -/
structure Coherent (s : Watched size) : Prop where
  of_wiped : s.wiped = true → s.machine.redraw = false ∧ s.machine.display = Display.dark
  of_not_wiped : s.wiped = false → s.machine.redraw = false → s.shown = s.machine.display

lemma Coherent.wipe (s : Watched size) (memory : Memory) (random : RandomStream) :
    Coherent ⟨.fresh size memory random, s.shown, true⟩ where
  of_wiped _ := ⟨rfl, rfl⟩
  of_not_wiped h := Bool.noConfusion h

/-- Drawing, which marks the display as changed, and anything else that leaves mark and display
alone. -/
lemma Coherent.draw {s : Watched size} (h : s.Coherent) {m : Machine size} (drawn : Bool)
    (hm : if drawn then m.redraw = true
      else m.redraw = s.machine.redraw ∧ m.display = s.machine.display) :
    Coherent ⟨m, s.shown, s.wiped && !drawn⟩ := by
  cases drawn with
  | true =>
      have hm : m.redraw = true := hm
      exact ⟨fun hw => by simp at hw, fun _ hr => by simp [hm] at hr⟩
  | false =>
      obtain ⟨hr, hd⟩ := hm
      constructor
      · intro hw
        rw [hr, hd]
        exact h.of_wiped (by simpa using hw)
      · intro hw
        rw [hr, hd]
        exact h.of_not_wiped (by simpa using hw)

/-- A call that leaves mark and display alone. -/
lemma Coherent.keep {s : Watched size} (h : s.Coherent) {m : Machine size}
    (hr : m.redraw = s.machine.redraw) (hd : m.display = s.machine.display) :
    Coherent ⟨m, s.shown, s.wiped⟩ := by
  simpa using h.draw false ⟨hr, hd⟩

lemma coherent_ofConfig (c : Machine.Config) (entropy : ChaCha.Key) :
    (ofConfig c entropy).Coherent where
  of_wiped h := Bool.noConfusion h
  of_not_wiped _ _ := rfl

lemma Coherent.present {s : Watched size} (h : s.Coherent) (width height : Nat) :
    (s.perform (.present width height)).Coherent := by
  by_cases hs : width = size.width ∧ height = size.height
  · obtain ⟨rfl, rfl⟩ := hs
    cases hr : s.machine.redraw with
    | false => simpa [perform, Machine.perform, shownAfter, wipedAfter, Machine.present_of_clean hr]
        using h
    | true =>
        -- A display that is marked as changed is not a wiped one.
        have hw : s.wiped ≠ true := fun hw => by simp [(h.of_wiped hw).1] at hr
        simp only [perform, Machine.perform, shownAfter, Machine.present_of_redraw hr]
        exact ⟨fun hw' => (hw hw').elim, fun _ _ => rfl⟩
  · simpa [perform, Machine.perform, shownAfter, wipedAfter, Machine.present_of_size_ne _ hs]
      using h

lemma Coherent.load {s : Watched size} (h : s.Coherent) (program : Array UInt8) :
    (s.perform (.load program)).Coherent := by
  by_cases hp : program.size ≤ Memory.programCapacity
  · simp only [perform, Machine.perform, Machine.loadOrKeep_of_le _ hp, shownAfter, wipedAfter, hp,
      decide_true, Bool.or_true]
    exact Coherent.wipe s _ _
  · have hlt : Memory.programCapacity < program.size := Nat.lt_of_not_le hp
    simp only [perform, Machine.perform, Machine.loadOrKeep_of_lt _ hlt, shownAfter, wipedAfter, hp,
      decide_false, Bool.or_false]
    exact h

lemma Coherent.perform {s : Watched size} (h : s.Coherent) (call : Call) :
    (s.perform call).Coherent := by
  cases call with
  | load program => exact h.load program
  | reset => exact Coherent.wipe s _ _
  | step => exact h.draw _ s.machine.step_display
  | run steps => exact h.draw _ (Machine.run_display steps s.machine)
  | setKey k down =>
      obtain ⟨v, mode, hm⟩ := s.machine.setKey_frame k down
      have hr := congrArg Machine.redraw hm
      have hd := congrArg Machine.display hm
      exact h.keep hr hd
  | clearKeys => exact h.keep rfl rfl
  | tick =>
      have hr := congrArg Machine.redraw s.machine.tick_machine
      have hd := congrArg Machine.display s.machine.tick_machine
      exact h.keep hr hd
  | present width height => exact h.present width height

lemma Coherent.performAll {s : Watched size} (h : s.Coherent) (calls : List Call) :
    (s.performAll calls).Coherent := by
  induction calls generalizing s with
  | nil => exact h
  | cons call calls ih => exact ih (h.perform call)

/-! ### What the screen shows -/

/-- The machine and the screen after the display is handed to the screen. -/
def presented (s : Watched size) : Watched size := s.perform (.present size.width size.height)

/-- The display was wiped while the screen showed something, which it still does. -/
def Stale (s : Watched size) : Prop := s.wiped = true ∧ s.shown ≠ Display.dark

/-- A machine that is not marked as changed has its display on the screen, unless that is stale. -/
lemma Coherent.shown_eq_iff {s : Watched size} (h : s.Coherent) (hr : s.machine.redraw = false) :
    s.shown = s.machine.display ↔ ¬ s.Stale := by
  cases hw : s.wiped with
  | true => simp [Stale, hw, (h.of_wiped hw).2]
  | false => simpa [Stale, hw] using h.of_not_wiped hw hr

lemma presented_of_clean {s : Watched size} (hr : s.machine.redraw = false) : s.presented = s := by
  simp [presented, perform, Machine.perform, shownAfter, wipedAfter, Machine.present_of_clean hr]

/-- A machine that is marked as changed has its display shown, and it is not a wiped one. -/
lemma Coherent.presented_of_redraw {s : Watched size} (h : s.Coherent)
    (hr : s.machine.redraw = true) :
    s.presented.shown = s.presented.machine.display ∧ ¬ s.Stale := by
  constructor
  · simp [presented, Watched.perform, Machine.perform, shownAfter, Machine.present_of_redraw hr]
  · rintro ⟨hw, -⟩
    simp [(h.of_wiped hw).1] at hr

/-- A program is loaded, its first instruction draws, and the host shows that and resets the
machine: what was drawn stays shown. -/
lemma shown_of_draw_of_reset (s : Watched size) {program : Array UInt8} {m : Machine size}
    (hm : s.machine.loadOrKeep program = m) {x y : Register} {n : Fin 16}
    (h : m.step = m.execute (.draw x y n)) :
    (s.performAll [.load program, .step, .present size.width size.height, .reset]).presented.shown =
      (m.display.drawSprite (m.getV x).toNat (m.getV y).toNat (m.memory.slice m.index n)).2 := by
  have hr : (m.execute (.draw x y n)).2.redraw = true := rfl
  rw [presented_of_clean rfl]
  show ((s.machine.loadOrKeep program).step.2.present size.width size.height).1.getD s.shown = _
  rw [hm, h, Machine.present_of_redraw hr]
  rfl

/-- **When the screen is up to date.** A machine is switched on in front of a dark screen of its
size, and its host makes any calls. Presenting the display then leaves it on the screen exactly
if the screen is not stale, and exactly then a display that is not marked as changed is already
there. -/
theorem shows_display_iff (c : Machine.Config) (entropy : ChaCha.Key) (calls : List Call) :
    let s := (ofConfig c entropy).performAll calls
    (s.presented.shown = s.presented.machine.display ↔ ¬ s.Stale) ∧
      ((s.machine.redraw = false → s.shown = s.machine.display) ↔ ¬ s.Stale) := by
  intro s
  have h : s.Coherent := (coherent_ofConfig c entropy).performAll calls
  cases hr : s.machine.redraw with
  | false =>
      rw [presented_of_clean hr]
      exact ⟨h.shown_eq_iff hr, by simpa using h.shown_eq_iff hr⟩
  | true =>
      obtain ⟨hshown, hstale⟩ := h.presented_of_redraw hr
      exact ⟨iff_of_true hshown hstale, by simpa using hstale⟩

/-- A program draws the top row of the glyph of zero; after a reset, the screen goes on showing
it. -/
theorem stale_after_reset :
    let s := (ofConfig { width := 8, height := 1 } (Vector.replicate 8 0)).performAll
      [.load #[0xD0, 0x01], .step, .present 8 1, .reset]
    s.presented.shown ≠ s.presented.machine.display := by
  intro s
  let m : Machine (.atLeastOne 8 1) :=
    .fresh _ (Memory.withProgram #[0xD0, 0x01]) (.ofSeed? none (Vector.replicate 8 0))
  have hstep : m.step = m.execute (.draw 0 0 1) :=
    Machine.step_fresh #[0xD0, 0x01] _ rfl (by decide)
  have hrow : (Memory.withProgram #[0xD0, 0x01]).slice (Address.ofNat 0) ((1 : Fin 16) : Nat) =
      [0xF0] := by
    show [(Memory.withProgram #[0xD0, 0x01]).read (Address.ofNat 0)] = _
    rw [Memory.read_withProgram]
    rfl
  have hshown := shown_of_draw_of_reset
    (ofConfig { width := 8, height := 1 } (Vector.replicate 8 0))
    (Machine.loadOrKeep_of_le _ (by decide)) hstep
  have hs : s.presented.shown = (Display.dark.drawSprite 0 0
      ((Memory.withProgram #[0xD0, 0x01]).slice (Address.ofNat 0) ((1 : Fin 16) : Nat))).2 := hshown
  rw [hs, hrow]
  show (Display.dark.drawSprite 0 0 [0xF0]).2 ≠ (Display.dark : Display (.atLeastOne 8 1))
  decide

end Watched

end CosmacVip
