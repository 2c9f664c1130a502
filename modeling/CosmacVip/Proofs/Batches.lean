import CosmacVip.Proofs.Frame
import Mathlib.Data.Nat.Find
import Mathlib.Logic.Function.Iterate

/-!
Batches of steps.

* `Machine.Ending`: the outcomes after which a batch takes no further step;
* `Machine.afterSteps`: the machine after single steps, whatever they report;
* `Machine.run_of_ending`, `Machine.run_of_not_ending`: a batch up to its first ending, and without one;
* `Machine.run_add`: a batch that is taken in two parts;
* `Machine.batches_compose`: a batch is its steps one at a time, up to the first ending, and it can be
  taken in any two parts.
-/

namespace CosmacVip.Machine

variable {size : Display.Size}

/-- An outcome after which a batch takes no further step: the end of the program, a wait for a key, or a
fault. -/
inductive Ending : Except Fault Signal → Prop
  | halt : Ending (.ok .halt)
  | keyWait : Ending (.ok .keyWait)
  | fault (fault : Fault) : Ending (.error fault)

lemma ends_iff {o : Except Fault Signal} : ends o = true ↔ Ending o := by
  constructor
  · intro h
    cases o with
    | error fault => exact .fault fault
    | ok signal =>
        cases signal with
        | halt => exact .halt
        | keyWait => exact .keyWait
        | next | jump | draw | sound => contradiction
  · rintro (_ | _ | _) <;> rfl

/-- The machine after a number of single steps, whatever they report. -/
def afterSteps (m : Machine size) (n : Nat) : Machine size := (fun m => m.step.2)^[n] m

lemma afterSteps_succ (m : Machine size) (n : Nat) :
    m.afterSteps (n + 1) = m.step.2.afterSteps n := rfl

lemma run_succ_of_ending {m : Machine size} (h : Ending m.step.1) (n : Nat) : run (n + 1) m = m.step := by
  rw [run_succ, if_pos (ends_iff.2 h)]

lemma run_succ_of_not_ending {m : Machine size} (h : ¬ Ending m.step.1) (n : Nat) :
    run (n + 1) m = run n m.step.2 := by
  rw [run_succ, if_neg (ends_iff.not.2 h)]

/-- A batch none of whose steps ends it takes all of them, and reports nothing of note. -/
lemma run_of_not_ending {m : Machine size} {n : Nat}
    (h : ∀ j < n, ¬ Ending (m.afterSteps j).step.1) : run n m = (.ok .next, m.afterSteps n) := by
  induction n generalizing m with
  | zero => rfl
  | succ n ih =>
      have hfirst : ¬ Ending m.step.1 := h 0 (Nat.succ_pos n)
      have hrest : ∀ j < n, ¬ Ending (m.step.2.afterSteps j).step.1 :=
        fun j hj => h (j + 1) (Nat.succ_lt_succ hj)
      rw [run_succ_of_not_ending hfirst, ih hrest, afterSteps_succ]

/-- A batch with an ending among its steps is over with the first of them. -/
lemma run_of_ending {m : Machine size} {n j : Nat} (hj : j < n)
    (hbefore : ∀ i < j, ¬ Ending (m.afterSteps i).step.1) (h : Ending (m.afterSteps j).step.1) :
    run n m = (m.afterSteps j).step := by
  induction j generalizing m n with
  | zero =>
      obtain ⟨n, rfl⟩ := Nat.exists_eq_succ_of_ne_zero (Nat.ne_of_gt hj)
      exact run_succ_of_ending h n
  | succ j ih =>
      obtain ⟨n, rfl⟩ := Nat.exists_eq_succ_of_ne_zero (Nat.ne_of_gt (Nat.zero_lt_of_lt hj))
      have hfirst : ¬ Ending m.step.1 := hbefore 0 (Nat.succ_pos j)
      have hrest : ∀ i < j, ¬ Ending (m.step.2.afterSteps i).step.1 :=
        fun i hi => hbefore (i + 1) (Nat.succ_lt_succ hi)
      rw [run_succ_of_not_ending hfirst, ih (Nat.lt_of_succ_lt_succ hj) hrest h, afterSteps_succ]

/-- Either no step of a batch ends it, or there is a first one that does. -/
lemma exists_first_ending (m : Machine size) (n : Nat) :
    (∀ j < n, ¬ Ending (m.afterSteps j).step.1) ∨
      ∃ j < n, (∀ i < j, ¬ Ending (m.afterSteps i).step.1) ∧ Ending (m.afterSteps j).step.1 := by
  classical
  by_cases h : ∃ j, j < n ∧ Ending (m.afterSteps j).step.1
  · have hfirst := Nat.find_spec h
    refine .inr ⟨Nat.find h, hfirst.1, fun i hi hend => ?_, hfirst.2⟩
    exact Nat.find_min h hi ⟨Nat.lt_trans hi hfirst.1, hend⟩
  · exact .inl fun j hj hend => h ⟨j, hj, hend⟩

/-- What comes of a batch that reports nothing of note and of one more after it; an outcome of another
kind stands. -/
def andThen (k : Nat) : Except Fault Signal × Machine size → Except Fault Signal × Machine size
  | (.ok .next, m) => run k m
  | result => result

lemma andThen_of_ending {result : Except Fault Signal × Machine size} (h : Ending result.1) (k : Nat) :
    andThen k result = result := by
  obtain ⟨o, m⟩ := result
  cases h <;> rfl

/-- A batch can be taken in two parts. -/
lemma run_add (n k : Nat) (m : Machine size) : run (n + k) m = andThen k (run n m) := by
  induction n generalizing m with
  | zero => rw [Nat.zero_add, run, andThen]
  | succ n ih =>
      rw [Nat.succ_add]
      by_cases h : Ending m.step.1
      · rw [run_succ_of_ending h, run_succ_of_ending h, andThen_of_ending h]
      · rw [run_succ_of_not_ending h, run_succ_of_not_ending h, ih]

/-- **Batches compose.** A batch of steps is the steps one at a time: if none of them halts, waits for a
key or fails, it takes all of them and reports nothing of note, and else it is over with the first that
does, and reports what that one reports. So a jump, a drawing or a sound neither ends a batch nor is
reported by one. A batch that is taken in two parts comes to the same: the second part is taken just when
the first reports nothing of note, and else the first is all of it. -/
theorem batches_compose (m : Machine size) (n k : Nat) :
    (((∀ j < n, ¬ Ending (m.afterSteps j).step.1) ∧ run n m = (.ok .next, m.afterSteps n)) ∨
      ∃ j < n, (∀ i < j, ¬ Ending (m.afterSteps i).step.1) ∧ Ending (m.afterSteps j).step.1 ∧
        run n m = (m.afterSteps j).step) ∧
      (∀ signal ∈ [Signal.jump, .draw, .sound], ¬ Ending (.ok signal) ∧ (run n m).1 ≠ .ok signal) ∧
      run (n + k) m = andThen k (run n m) := by
  have hpassed : ∀ signal ∈ [Signal.jump, .draw, .sound], ¬ Ending (.ok signal) := by
    rintro signal hs (_ | _ | _) <;> simp at hs
  rcases m.exists_first_ending n with hnone | ⟨j, hj, hbefore, hend⟩
  · have hrun := run_of_not_ending hnone
    refine ⟨.inl ⟨hnone, hrun⟩, fun signal hs => ⟨hpassed signal hs, ?_⟩, run_add n k m⟩
    rw [hrun]
    rintro ⟨⟩
    simp at hs
  · have hrun := run_of_ending hj hbefore hend
    refine ⟨.inr ⟨j, hj, hbefore, hend, hrun⟩, fun signal hs => ⟨hpassed signal hs, ?_⟩, run_add n k m⟩
    rw [hrun]
    exact fun h => hpassed signal hs (h ▸ hend)

end CosmacVip.Machine
