import CosmacVip.Machine.Step
import CosmacVip.Machine.Timers
import Mathlib.Tactic.Lemma

/-!
What a host does with a machine, one call after the other.

* `Machine.Call`: the operations of a host, each with its arguments;
* `Machine.perform`, `Machine.performAll`: the machine after a call, and after several in turn;
* `Machine.outcomes`, `Machine.tones`: what the host is told meanwhile;
* `Machine.setKey_frame`, `Machine.tick_machine`, `Machine.tick_tones`: all that a key and a beat of
  the timers change, and what the host is told at a beat.
-/

namespace CosmacVip.Machine

/-- One operation of a host on a machine. -/
inductive Call where
  | load (program : Array UInt8)
  | reset
  | step
  | run (steps : Nat)
  | setKey (k : Key) (down : Bool)
  | clearKeys
  | tick
  /-- Hands the display to a screen of the given size. -/
  | present (width height : Nat)
deriving DecidableEq

variable {size : Display.Size}

/-- The machine with a program; one that is refused leaves it as it was. -/
def loadOrKeep (m : Machine size) (program : Array UInt8) : Machine size :=
  match m.load program with
  | .ok m => m
  | .error _ => m

/-- The machine after a call. -/
def perform (m : Machine size) : Call → Machine size
  | .load program => m.loadOrKeep program
  | .reset => m.reset
  | .step => m.step.2
  | .run steps => (run steps m).2
  | .setKey k down => m.setKey k down
  | .clearKeys => m.clearKeys
  | .tick => m.tick.2
  | .present width height => (m.present width height).2

/-- The machine after calls in turn. -/
def performAll (m : Machine size) (calls : List Call) : Machine size := calls.foldl perform m

@[simp] lemma performAll_cons (m : Machine size) (call : Call) (calls : List Call) :
    m.performAll (call :: calls) = (m.perform call).performAll calls := rfl

lemma performAll_append (m : Machine size) (calls more : List Call) :
    m.performAll (calls ++ more) = (m.performAll calls).performAll more := List.foldl_append

/-- The outcome of a call that takes steps. -/
def outcome? (m : Machine size) : Call → Option (Except Fault Signal)
  | .step => some m.step.1
  | .run steps => some (run steps m).1
  | _ => none

/-- The outcomes of the calls that take steps, in turn. -/
def outcomes (m : Machine size) : List Call → List (Except Fault Signal)
  | [] => []
  | call :: calls => (m.outcome? call).toList ++ (m.perform call).outcomes calls

/-- What the host is told about the tone at a call. -/
def tonesOf (m : Machine size) : Call → List Tone
  | .tick => m.tick.1
  | _ => []

/-- What the host is told about the tone at calls in turn. -/
def tones (m : Machine size) : List Call → List Tone
  | [] => []
  | call :: calls => m.tonesOf call ++ (m.perform call).tones calls

/-! ### Keys -/

lemma setKey_of_running {m : Machine size} (h : m.mode = .running) (k : Key) (down : Bool) :
    m.setKey k down = { m with keys := m.keys.set k down } := by
  obtain ⟨⟩ := m
  obtain rfl : _ = _ := h
  rfl

lemma setKey_false (m : Machine size) (k : Key) :
    m.setKey k false = { m with keys := m.keys.set k false } := by
  obtain ⟨_, _, _, _, _, _, _, mode⟩ := m
  cases mode <;> rfl

/-- A key going down ends a wait. -/
lemma setKey_of_waiting {m : Machine size} {x : Register} (h : m.mode = .waiting x) (k : Key) :
    m.setKey k true =
      { m.setV x (UInt8.ofNat k) with keys := m.keys.set k true, mode := .running } := by
  obtain ⟨⟩ := m
  obtain rfl : _ = _ := h
  rfl

/-- A key changes nothing but the keypad, a register and the mode. -/
lemma setKey_frame (m : Machine size) (k : Key) (down : Bool) :
    ∃ v mode, m.setKey k down = { m with keys := m.keys.set k down, v := v, mode := mode } := by
  cases down with
  | false => exact ⟨_, _, setKey_false m k⟩
  | true =>
      cases h : m.mode with
      | running => exact ⟨_, _, setKey_of_running h k true⟩
      | waiting x => exact ⟨_, _, setKey_of_waiting h k⟩

lemma setKey_keys (m : Machine size) (k : Key) (down : Bool) :
    (m.setKey k down).keys = m.keys.set k down := by
  obtain ⟨v, mode, h⟩ := m.setKey_frame k down
  rw [h]

/-! ### Timers -/

lemma startTone_machine (m : Machine size) :
    m.startTone.2 = { m with toneOn := m.toneOn || m.sound != 0 } := by
  obtain ⟨_, _, _, _, _, sound, toneOn⟩ := m
  by_cases h : sound = 0 <;> cases toneOn <;> simp [startTone, h]

lemma stopTone_machine (m : Machine size) :
    m.stopTone.2 = { m with toneOn := m.toneOn && m.sound != 0 } := by
  obtain ⟨_, _, _, _, _, sound, toneOn⟩ := m
  by_cases h : sound = 0 <;> cases toneOn <;> simp [stopTone, h]

lemma ne_zero_of_countdown {t : UInt8} (h : countdown t ≠ 0) : t ≠ 0 := by
  rintro rfl
  exact h rfl

/-- After a beat the tone is on unless the sound timer has run out. -/
lemma tick_machine (m : Machine size) :
    m.tick.2 =
      { m with
        delay := countdown m.delay
        sound := countdown m.sound
        toneOn := countdown m.sound != 0 } := by
  have h : ((m.toneOn || m.sound != 0) && countdown m.sound != 0) = (countdown m.sound != 0) := by
    by_cases hc : countdown m.sound = 0
    · simp [hc]
    · simp [hc, ne_zero_of_countdown hc]
  simp only [tick, startTone_machine, stopTone_machine, h]

/-- What the host is told at a beat depends only on the sound timer and on whether the tone is on. -/
lemma tick_tones (m : Machine size) :
    m.tick.1 =
      (if m.sound ≠ 0 ∧ m.toneOn = false then [.start] else []) ++
        if countdown m.sound = 0 ∧ (m.toneOn || m.sound != 0) = true then [.stop] else [] := by
  have hstart : m.startTone.1 = if m.sound ≠ 0 ∧ m.toneOn = false then [.start] else [] := by
    rw [startTone]
    split <;> rfl
  have hstop (n : Machine size) :
      n.stopTone.1 = if n.sound = 0 ∧ n.toneOn = true then [.stop] else [] := by
    rw [stopTone]
    split <;> rfl
  simp only [tick, hstart, hstop, startTone_machine]

/-! ### Screens -/

lemma present_of_redraw {m : Machine size} (h : m.redraw = true) :
    m.present size.width size.height = (some m.display, { m with redraw := false }) := by
  simp [present, h]

lemma present_of_clean {m : Machine size} (h : m.redraw = false) (width height : Nat) :
    m.present width height = (none, m) := by
  simp [present, h]

lemma present_of_size_ne (m : Machine size) {width height : Nat}
    (h : ¬ (width = size.width ∧ height = size.height)) : m.present width height = (none, m) := by
  rw [present, if_neg]
  simp only [Bool.and_eq_true, beq_iff_eq]
  rintro ⟨⟨-, hw⟩, hh⟩
  exact h ⟨hw, hh⟩

/-- A screen changes nothing but the mark of a changed display. -/
lemma present_frame (m : Machine size) (width height : Nat) :
    ∃ redraw, (m.present width height).2 = { m with redraw := redraw } := by
  rw [present]
  split
  · exact ⟨false, rfl⟩
  · exact ⟨m.redraw, rfl⟩

end CosmacVip.Machine
