import CosmacVip.Proofs.Words.Agreement

/-!
No run of a machine meets a trap.

* `Words.State.Untrapped`: every call of the host and every view of the display has a result;
* `Words.State.Bounded.untrapped`: the ranges of the fields are all that this needs;
* `Words.State.calls_never_trapped`: a machine of any size that a word can count is switched on,
  and whatever its host then does, and in whatever order, it stays within its ranges and meets
  no trap.

The runs are those of the machine in words, where an access, a sum or a missing case can go
wrong; that they are also runs of `Machine` is part of the statement.
-/

namespace CosmacVip.Words.State

/-- A new machine; `entropy` is the source of its random bytes where no seed is configured. -/
def ofConfig (c : Machine.Config) (entropy : ChaCha.Key) : Checked State :=
  new c.width c.height (.ofSeed? c.seed entropy)

/-- A new machine after the calls of its host. -/
def afterCalls (c : Machine.Config) (entropy : ChaCha.Key) (calls : List Machine.Call) :
    Checked State := do
  (← ofConfig c entropy).performAll calls

/-- Every call and every view has a result, and every call keeps the fields in range. -/
structure Untrapped (w : State) : Prop where
  step : ∃ stepped : Stepped, w.step = pure stepped
  perform : ∀ call, ∃ after : State, w.perform call = pure after ∧ after.Bounded
  pixel : ∀ x y, ∃ b, w.pixel x y = pure b ∧ (b = 0 ∨ b = 1)
  rowTexts : ∃ texts, w.rowTexts = pure texts

/-- In every state whose fields are in range, nothing that a host can do is trapped. -/
theorem Bounded.untrapped {w : State} (h : w.Bounded) : w.Untrapped := by
  obtain ⟨size, m, hfit, rfl⟩ := bounded_iff.1 h
  exact {
    step := ⟨_, step_ofMachine hfit m⟩
    perform := fun call =>
      ⟨_, perform_ofMachine hfit m call, bounded_ofMachine (m.perform call) hfit⟩
    pixel := fun x y => ⟨_, pixel_ofMachine hfit m x y, flagByte_eq _⟩
    rowTexts := ⟨_, rowTexts_ofMachine hfit m⟩ }

/-- **No run meets a trap.** A machine is switched on whenever the number of its cells fits a
word, and after any calls of its host it is within its ranges, nothing further that the host can
do is trapped, and its words are those of the machine after the same calls. -/
theorem calls_never_trapped (c : Machine.Config) (entropy : ChaCha.Key)
    (hfit : max c.width 1 * max c.height 1 < wordLimit) (calls : List Machine.Call) :
    ∃ w : State, afterCalls c entropy calls = pure w ∧ w.Bounded ∧ w.Untrapped ∧
      w = ofMachine ((Machine.ofConfig c entropy).performAll calls) := by
  have hnew : ofConfig c entropy = pure (ofMachine (Machine.ofConfig c entropy)) :=
    new_eq c hfit (.ofSeed? c.seed entropy)
  have hbounded := bounded_ofMachine ((Machine.ofConfig c entropy).performAll calls) hfit
  refine ⟨_, ?_, hbounded, hbounded.untrapped, rfl⟩
  rw [afterCalls, hnew, pure_bind]
  exact performAll_ofMachine hfit _ calls

/-- A display of a single cell, a program that draws over its edges and then returns from
nothing, and a screen of another size. -/
theorem calls_never_trapped_single_cell :
    max 0 1 * max 0 1 < wordLimit ∧
      ∃ w : State, afterCalls { width := 0, height := 0 } (Vector.replicate 8 0)
          [.load #[0xD0, 0x0F, 0x00, 0xEE], .step, .present 64 32, .run 5, .reset] = pure w ∧
        w.Bounded ∧ w.Untrapped ∧
        w = ofMachine ((Machine.ofConfig { width := 0, height := 0 } (Vector.replicate 8 0)).performAll
          [.load #[0xD0, 0x0F, 0x00, 0xEE], .step, .present 64 32, .run 5, .reset]) :=
  ⟨by decide, calls_never_trapped { width := 0, height := 0 } (Vector.replicate 8 0) (by decide) _⟩

end CosmacVip.Words.State
