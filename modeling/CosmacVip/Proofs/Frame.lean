import CosmacVip.Machine.Step
import Mathlib.Tactic.Lemma

/-!
What instructions leave to the host.

* `Machine.step_cases`: a step stays where it is or executes an instruction;
* `Machine.run_induction`: what every step preserves, every run preserves;
* `Machine.SameHost`, `Machine.run_sameHost`: the keypad, the tone and the source of random bytes
  belong to the host.
-/

namespace CosmacVip.Machine

variable {size : Display.Size}

/-! ### From instructions to runs -/

/-- A step stays where it is, waiting or at the end of the program, or executes an instruction. -/
lemma step_cases (m : Machine size) :
    m.step = (.ok .keyWait, m) ∨ m.step = (.ok .halt, m) ∨ ∃ i, m.step = m.execute i := by
  unfold step
  split
  · exact .inl rfl
  · split
    · exact .inr (.inl rfl)
    · exact .inr (.inr ⟨_, rfl⟩)

lemma run_succ (n : Nat) (m : Machine size) :
    run (n + 1) m = if ends m.step.1 then m.step else run n m.step.2 := rfl

/-- A relation that can be chained holds of every run if it holds of every step. -/
lemma run_induction {R : Machine size → Machine size → Prop} (refl : ∀ m, R m m)
    (trans : ∀ {a b c}, R a b → R b c → R a c) (step : ∀ m, R m m.step.2) (n : Nat)
    (m : Machine size) : R m (run n m).2 := by
  induction n generalizing m with
  | zero => exact refl m
  | succ n ih =>
      rw [run_succ]
      split
      · exact step m
      · exact trans (step m) (ih _)

/-! ### The host's part -/

/-- The keypad, the note of the tone and the stream that random bytes come from are the same. -/
structure SameHost (m n : Machine size) : Prop where
  keys : n.keys = m.keys
  toneOn : n.toneOn = m.toneOn
  randomKey : n.random.key = m.random.key

lemma SameHost.refl (m : Machine size) : m.SameHost m := ⟨rfl, rfl, rfl⟩

lemma SameHost.trans {a b c : Machine size} (h : a.SameHost b) (g : b.SameHost c) :
    a.SameHost c :=
  ⟨g.keys.trans h.keys, g.toneOn.trans h.toneOn, g.randomKey.trans h.randomKey⟩

lemma execute_sameHost (m : Machine size) (i : Instruction) : m.SameHost (m.execute i).2 := by
  cases i with
  | ret => simp only [execute]; split <;> exact ⟨rfl, rfl, rfl⟩
  | call target => simp only [execute]; split <;> exact ⟨rfl, rfl, rfl⟩
  | arith op x y => cases op <;> exact ⟨rfl, rfl, rfl⟩
  | _ => exact ⟨rfl, rfl, rfl⟩

lemma step_sameHost (m : Machine size) : m.SameHost m.step.2 := by
  rcases m.step_cases with h | h | ⟨i, h⟩ <;> rw [h]
  case inr.inr => exact execute_sameHost m i
  all_goals exact .refl m

/-- Instructions neither press nor release a key, neither start nor stop the tone, and take random
bytes from the stream that there is. -/
theorem run_sameHost (n : Nat) (m : Machine size) : m.SameHost (run n m).2 :=
  run_induction SameHost.refl SameHost.trans step_sameHost n m

end CosmacVip.Machine
